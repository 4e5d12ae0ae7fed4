import CloudDirector.Failure
import CloudDirector.Typed.Model
import CloudDirector.Value.Basic

/-!
# Typed values

A typed value is a value of a declared type.  Reading takes a record apart by the members of a
model, in their order, and refuses a field of another type and a missing field that has no value
of its own.  Writing sets the fields of the inherited model first and leaves out the fields whose
value means that they are not set.
-/

namespace CloudDirector

/-- A value of a declared type. -/
inductive Typed where
  | text (s : String)
  | flag (b : Bool)
  | int64 (i : Int64)
  | int32 (i : Int32)
  | float (x : Binary64)
  | date (d : Date)
  | dateTime (t : DateTime)
  | json (j : Json)
  | binary (bytes : List UInt8)
  | record (r : Record)
  | any (v : Value)
  | none
  | some (t : Typed)
  | list (items : List Typed)
  | map (entries : List (String × Typed))
  | constant (value : EnumValue)
  /-- The members of a model by their identifiers. -/
  | model (name : String) (members : List (String × Typed))
  /-- What is inherited from a model, as a member. -/
  | inherited (members : List (String × Typed))
  /-- A member that does not belong to the record. -/
  | skipped

namespace Typed

instance : Inhabited Typed := ⟨none⟩

/-! ## Writing -/

/-- Whether a value leaves its field unset. -/
def isAbsent : Typed → Bool
  | none => true
  | list [] => true
  | map [] => true
  | _ => false

mutual

/-- The value of a typed value. -/
def toValue : Typed → Value
  | text s => .string s
  | flag b => .bool b
  | int64 i => .int i
  | int32 i => .int i.toInt64
  | float x => .float x
  | date d => .date d
  | dateTime t => .dateTime t
  | json j => .json j
  | binary bytes => .bytes bytes
  | record r => .ofRecord r
  | any v => v
  | none => .null
  | some t => toValue t
  | list items => .list (toItems items)
  | map entries => .map (toEntries entries)
  | constant e => .enum e
  | model name members =>
    .record name (Members.ofPairs (inheritedFields members ++ ownFields members))
  | inherited _ => .null
  | skipped => .null

/-- The values of the items of a list. -/
def toItems : List Typed → List Value
  | [] => []
  | t :: rest => toValue t :: toItems rest

/-- The values of the entries of a map. -/
def toEntries : List (String × Typed) → List (String × Value)
  | [] => []
  | (key, t) :: rest => (key, toValue t) :: toEntries rest

/-- The fields that the inherited members set. -/
def inheritedFields : List (String × Typed) → List (String × Value)
  | [] => []
  | (_, inherited members) :: rest =>
    inheritedFields members ++ ownFields members ++ inheritedFields rest
  | _ :: rest => inheritedFields rest

/-- The fields that the members set which are not inherited. -/
def ownFields : List (String × Typed) → List (String × Value)
  | [] => []
  | (_, inherited _) :: rest => ownFields rest
  | (_, skipped) :: rest => ownFields rest
  | (name, t) :: rest => if t.isAbsent then ownFields rest else (name, toValue t) :: ownFields rest

end

end Typed

/-! ## Reading -/

namespace FieldType

/-- The value of a field of the type that is not set, if there is one. -/
def absent? : FieldType → Option Typed
  | optional _ => some .none
  | list _ => some (.list [])
  | map _ => some (.map [])
  | _ => none

/-- Reads a value that may be null where the type is optional. -/
def orNull (v : Value) (read : FieldType → Result Typed) : FieldType → Result Typed
  | optional type => if v.isNull then .ok .none else (orNull v read type).map .some
  | type => read type

end FieldType

/-- The constant of a declared enumeration. -/
def EnumDecl.read (e : EnumDecl) (value : EnumValue) : Result Typed :=
  match value.constant with
  | .known name =>
    if e.variants.any fun v => v.identifier == name then
      .ok (.constant ⟨e.name, .known name⟩)
    else .failValue (.noVariant e.name name)
  | .unknown text =>
    if e.unknown.isSome then .ok (.constant ⟨e.name, .unknown text⟩)
    else .failValue (.noVariant e.name text)

namespace Model

/-- Members of a model read one after another.  `read` reads a field of the model of a name. -/
def readMembers (owner : String) (read : String → FieldDecl FieldType → Result Typed) :
    List (Member FieldType Model) → Result (List (String × Typed))
  | [] => .ok []
  | .field f :: rest =>
    match read owner f with
    | .error r => .error r
    | .ok t => (readMembers owner read rest).map fun ts => (f.identifier, t) :: ts
  | .parent identifier (.mk header members) :: rest =>
    match readMembers header.name read members with
    | .error r => .error r
    | .ok ms => (readMembers owner read rest).map fun ts => (identifier, .inherited ms) :: ts
  | .skipped identifier :: rest =>
    (readMembers owner read rest).map fun ts => (identifier, .skipped) :: ts

/-- The members of a model, read through what reads its fields. -/
def readWith (m : Model) (read : String → FieldDecl FieldType → Result Typed) :
    Result (List (String × Typed)) :=
  readMembers m.name read m.members

end Model

namespace Typed

/-- The 32 bit integer of a 64 bit one. -/
def readInt32 (i : Int64) : Result Typed :=
  if 2147483648 ≤ i.toInt then .failValue .tooLarge
  else if i.toInt < -2147483648 then .failValue .tooSmall
  else .ok (.int32 (.ofInt i.toInt))

mutual

/-- Reads a value as one of a declared type. -/
def ofValue (ms : Models) (v : Value) (type : FieldType) : Result Typed :=
  type.orNull v fun type =>
    let mismatch (expected : String) : Result Typed :=
      .failValue (.wrongVariant expected v.kindName)
    match type with
    | .text => match v with
      | .string s => .ok (.text s)
      | _ => mismatch "string"
    | .flag => match v with
      | .bool b => .ok (.flag b)
      | _ => mismatch "bool"
    | .int64 => match v with
      | .int i => .ok (.int64 i)
      | _ => mismatch "int"
    | .int32 => match v with
      | .int i => readInt32 i
      | _ => mismatch "int"
    | .float => match v.binary64? with
      | .some x => .ok (.float x)
      | .none => mismatch "float"
    | .date => match v with
      | .date d => .ok (.date d)
      | _ => mismatch "date"
    | .dateTime => match v with
      | .dateTime t => .ok (.dateTime t)
      | _ => mismatch "datetime"
    | .json => match v with
      | .json j => .ok (.json j)
      | .null => .ok (.json .null)
      | _ => mismatch "opaque"
    | .binary => match v with
      | .bytes bytes => .ok (.binary bytes)
      | _ => mismatch "bytes"
    | .record => match v with
      | .record typeName fields => .ok (.record ⟨typeName, fields⟩)
      | _ => mismatch "record"
    | .any => .ok (.any v)
    | .optional _ => .ok .none
    | .list element => match v with
      | .list items => (ofItems ms element 0 items).map .list
      | _ => mismatch "list"
    | .map element => match v with
      | .map entries => (ofEntries ms element entries).map .map
      | _ => mismatch "map"
    | .enum name => match v with
      | .enum e => match ms.enum? name with
        | .some decl => decl.read e
        | .none => .fail (.notRegistered name)
      | _ => mismatch name
    | .model name => match v with
      | .record typeName fields => match ms.model? name with
        | .some m =>
          ((m.readWith fun owner f => ofField ms owner f fields).passing (.record typeName)).map
            (.model name)
        | .none => .fail (.notRegistered name)
      | _ => mismatch name

/-- Reads the items of a list, those after the first `i`, as values of a type. -/
def ofItems (ms : Models) (element : FieldType) (i : Nat) : List Value → Result (List Typed)
  | [] => .ok []
  | v :: rest =>
    match (ofValue ms v element).passing (.listIndex i) with
    | .error r => .error r
    | .ok t => (ofItems ms element (i + 1) rest).map fun ts => t :: ts

/-- Reads the entries of a map as values of a type. -/
def ofEntries (ms : Models) (element : FieldType) :
    List (String × Value) → Result (List (String × Typed))
  | [] => .ok []
  | (key, v) :: rest =>
    match (ofValue ms v element).passing (.mapKey key) with
    | .error r => .error r
    | .ok t => (ofEntries ms element rest).map fun ts => (key, t) :: ts

/-- Reads a declared field among the fields of a record. -/
def ofField (ms : Models) (owner : String) (f : FieldDecl FieldType) :
    List (String × Value) → Result Typed
  | [] =>
    match f.type.absent? with
    | .some t => .ok t
    | .none => .failValue (.missingField owner f.identifier)
  | (name, v) :: rest =>
    if name = f.identifier then (ofValue ms v f.type).passing (.field owner f.identifier)
    else ofField ms owner f rest

end

end Typed

namespace Model

/-- Reads a record of a model's type or of one derived from it. -/
def ofRecord (ms : Models) (m : Model) (r : Record) : Result Typed :=
  ((m.readWith fun owner f => Typed.ofField ms owner f r.fields).passing (.record r.typeName)).map
    (.model m.name)

end Model

/-- The record of a typed value of a model. -/
def Typed.toRecord? (t : Typed) : Option Record := t.toValue.record?

end CloudDirector
