import CloudDirector.Calendar.Iso
import CloudDirector.Json.Basic

/-!
# Values

The tree that payloads are decoded into and encoded from.  A record is a value of a registered
type; a field that is not set is not among its fields, while a field set to null is there with
null.
-/

namespace CloudDirector

/-- A constant of an enumeration: one that is mapped, or a text that is not. -/
inductive EnumConstant where
  | known (name : String)
  | unknown (text : String)
  deriving DecidableEq

namespace EnumConstant

/-- The name of a mapped constant, or the text that is not mapped. -/
def text : EnumConstant → String
  | known name => name
  | unknown text => text

/-- Whether the constant is a text that is not mapped. -/
def isUnknown : EnumConstant → Bool
  | known _ => false
  | unknown _ => true

end EnumConstant

/-- A constant with the enumeration that it belongs to. -/
structure EnumValue where
  typeName : String
  constant : EnumConstant
  deriving DecidableEq

/-- A value. -/
inductive Value where
  | null
  | int (i : Int64)
  | float (x : Binary64)
  | bool (b : Bool)
  | string (s : String)
  | bytes (bytes : List UInt8)
  | date (d : Date)
  | dateTime (t : DateTime)
  /-- JSON passed through as it is. -/
  | json (j : Json)
  | enum (e : EnumValue)
  | list (items : List Value)
  | map (entries : List (String × Value))
  | record (typeName : String) (fields : List (String × Value))

/-- A record: the name of its type and the fields that are set. -/
structure Record where
  typeName : String
  fields : List (String × Value) := []

namespace Value

instance : Inhabited Value := ⟨null⟩

/-- A record as a value. -/
def ofRecord (r : Record) : Value := record r.typeName r.fields

/-- The name of the kind of a value. -/
def kindName : Value → String
  | null => "null"
  | int _ => "int"
  | float _ => "float"
  | bool _ => "bool"
  | string _ => "string"
  | bytes _ => "bytes"
  | date _ => "date"
  | dateTime _ => "datetime"
  | json _ => "opaque"
  | enum _ => "enum"
  | list _ => "list"
  | map _ => "map"
  | record _ _ => "record"

/-- Whether a value is null. -/
def isNull : Value → Bool
  | null => true
  | _ => false

/-- The text of a string. -/
def string? : Value → Option String
  | string s => some s
  | _ => none

/-- The integer. -/
def int64? : Value → Option Int64
  | int i => some i
  | _ => none

/-- The number, integers widened. -/
def binary64? : Value → Option Binary64
  | float x => some x
  | int i => some (.ofInt i.toInt)
  | _ => none

/-- The truth value. -/
def bool? : Value → Option Bool
  | bool b => some b
  | _ => none

/-- The items of a list. -/
def items? : Value → Option (List Value)
  | list items => some items
  | _ => none

/-- The entries of a map. -/
def entries? : Value → Option (List (String × Value))
  | map entries => some entries
  | _ => none

/-- The constant of an enumeration. -/
def enum? : Value → Option EnumValue
  | enum e => some e
  | _ => none

/-- The record. -/
def record? : Value → Option Record
  | record typeName fields => some ⟨typeName, fields⟩
  | _ => none

@[simp] theorem record?_ofRecord (r : Record) : (ofRecord r).record? = some r := rfl

/-! ## Equality

Two values are the same when they differ in the order of members only.  Dates with times are the
same at the same instant, and numbers when they compare equal. -/

mutual

/-- Whether two values are the same up to the order of members. -/
def same : Value → Value → Bool
  | null, null => true
  | int i, int j => i == j
  | float x, float y => x.sameValue y
  | bool b, bool c => b == c
  | string s, string t => s == t
  | bytes bs, bytes cs => bs == cs
  | date d, date e => d == e
  | dateTime t, dateTime u => t.sameInstant u
  | json j, json k => j.same k
  | enum e, enum f => e == f
  | list xs, list ys => sameItems xs ys
  | map xs, map ys => xs.length == ys.length && sameMembers xs ys
  | record s xs, record t ys => s == t && xs.length == ys.length && sameMembers xs ys
  | _, _ => false

/-- Whether two lists have the same items. -/
def sameItems : List Value → List Value → Bool
  | [], [] => true
  | x :: xs, y :: ys => same x y && sameItems xs ys
  | _, _ => false

/-- Whether each member of the first list is in the second. -/
def sameMembers : List (String × Value) → List (String × Value) → Bool
  | [], _ => true
  | (key, x) :: xs, ys =>
    (match Members.get? ys key with
      | some y => same x y
      | none => false) && sameMembers xs ys

end

/-! ## Plain JSON as a value -/

mutual

/-- The value of JSON that no shape is declared for.  Integers above the signed range become
floating point numbers. -/
def ofJson : Json → Value
  | .null => null
  | .bool b => bool b
  | .number (.integer i) =>
    match i.toInt64? with
    | some n => int n
    | none => float (.ofInt i.val)
  | .number (.float negative m) => float (.finite negative m)
  | .string s => string s
  | .array items => list (ofItems items)
  | .object members => map (ofMembers members)

/-- The values of the items of an array. -/
def ofItems : List Json → List Value
  | [] => []
  | item :: rest => ofJson item :: ofItems rest

/-- The values of the members of an object. -/
def ofMembers : List (String × Json) → List (String × Value)
  | [] => []
  | (key, j) :: rest => (key, ofJson j) :: ofMembers rest

end

end Value

namespace Record

/-- The value of a field that is set. -/
def get? (r : Record) (field : String) : Option Value := Members.get? r.fields field

/-- Whether a field is set; null counts as set. -/
def isSet (r : Record) (field : String) : Bool := Members.contains r.fields field

/-- Sets a field. -/
def set (r : Record) (field : String) (value : Value) : Record :=
  { r with fields := Members.insert r.fields field value }

/-- Sets a field if there is a value for it. -/
def setMaybe (r : Record) (field : String) : Option Value → Record
  | some value => r.set field value
  | none => r

/-- Takes a field out. -/
def unset (r : Record) (field : String) : Record :=
  { r with fields := Members.erase r.fields field }

/-- The text of a field that holds a string. -/
def string? (r : Record) (field : String) : Option String := (r.get? field).bind Value.string?

/-- The truth value of a field that holds one. -/
def bool? (r : Record) (field : String) : Option Bool := (r.get? field).bind Value.bool?

/-- The integer of a field that holds one. -/
def int64? (r : Record) (field : String) : Option Int64 := (r.get? field).bind Value.int64?

/-- The record in a field that holds one. -/
def record? (r : Record) (field : String) : Option Record := (r.get? field).bind Value.record?

/-- The items of a field that holds a list. -/
def items? (r : Record) (field : String) : Option (List Value) := (r.get? field).bind Value.items?

@[simp] theorem get?_set_self (r : Record) (field : String) (value : Value) :
    (r.set field value).get? field = some value := Members.get?_insert_self ..

theorem get?_set_of_ne (r : Record) {field other : String} (h : other ≠ field) (value : Value) :
    (r.set field value).get? other = r.get? other := Members.get?_insert_of_ne h ..

end Record

end CloudDirector
