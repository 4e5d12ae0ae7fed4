import CloudDirector.Members
import CloudDirector.Number.Binary64

/-!
# JSON values

A value as it travels: numbers keep apart integers, which fit the signed or the unsigned 64 bit
range, and finite floating point numbers; the members of an object are kept in order.
-/

namespace CloudDirector

/-- An integer of the wire: one that fits 64 bits with or without a sign. -/
structure WireInteger where
  val : Int
  lower : -9223372036854775808 ≤ val
  upper : val < 18446744073709551616
  deriving DecidableEq

namespace WireInteger

/-- The integer, if it fits. -/
def ofInt? (i : Int) : Option WireInteger :=
  if h : -9223372036854775808 ≤ i ∧ i < 18446744073709551616 then some ⟨i, h.1, h.2⟩ else none

/-- An integer of 64 bits with a sign. -/
def ofInt64 (i : Int64) : WireInteger where
  val := i.toInt
  lower := Int64.le_toInt i
  upper := by have := Int64.toInt_lt i; omega

/-- The integer as one of 64 bits with a sign, if it is not too large for that. -/
def toInt64? (i : WireInteger) : Option Int64 :=
  if i.val < 9223372036854775808 then some (Int64.ofInt i.val) else none

@[simp] theorem toInt64?_ofInt64 (i : Int64) : (ofInt64 i).toInt64? = some i := by
  have h : i.toInt < 9223372036854775808 := Int64.toInt_lt i
  simp only [ofInt64, toInt64?, h, if_true, Int64.ofInt_toInt]

end WireInteger

namespace Json

/-- A number. -/
inductive Number where
  | integer (i : WireInteger)
  | float (negative : Bool) (magnitude : Magnitude)
  deriving DecidableEq

/-- The number nearest to it among those of floating point. -/
def Number.toBinary64 : Number → Binary64
  | integer i => .ofInt i.val
  | float negative m => .finite negative m

/-- A floating point number, if it is finite. -/
def Number.ofBinary64? : Binary64 → Option Number
  | .finite negative m => some (float negative m)
  | _ => none

/-- Whether two numbers compare equal; an integer never equals a floating point number. -/
def Number.same : Number → Number → Bool
  | integer i, integer j => i == j
  | float s m, float t n => (Binary64.finite s m).sameValue (.finite t n)
  | _, _ => false

end Json

/-- A JSON value. -/
inductive Json where
  | null
  | bool (b : Bool)
  | number (n : Json.Number)
  | string (s : String)
  | array (items : List Json)
  | object (members : List (String × Json))

namespace Json

instance : Inhabited Json := ⟨null⟩

/-- An integer of 64 bits. -/
def int (i : Int64) : Json := number (.integer (.ofInt64 i))

/-- An integer, null if it does not fit. -/
def ofInt (i : Int) : Json :=
  match WireInteger.ofInt? i with
  | some i => number (.integer i)
  | none => null

/-- What there may be, null if there is nothing. -/
def ofOption {α : Type} (f : α → Json) : Option α → Json
  | some a => f a
  | none => null

/-- The name of the kind of a value. -/
def kindName : Json → String
  | null => "null"
  | bool _ => "bool"
  | number _ => "number"
  | string _ => "string"
  | array _ => "array"
  | object _ => "object"

/-- Whether a value is null. -/
def isNull : Json → Bool
  | null => true
  | _ => false

/-- The text of a string. -/
def string? : Json → Option String
  | string s => some s
  | _ => none

/-- The truth value. -/
def bool? : Json → Option Bool
  | bool b => some b
  | _ => none

/-- The integer of 64 bits. -/
def int64? : Json → Option Int64
  | number (.integer i) => i.toInt64?
  | _ => none

/-- The integer. -/
def int? : Json → Option Int
  | number (.integer i) => some i.val
  | _ => none

/-- The integer, if it is not negative. -/
def nat? (j : Json) : Option Nat := j.int?.bind fun i => if i < 0 then none else some i.toNat

/-- The number as one of floating point. -/
def binary64? : Json → Option Binary64
  | number n => some n.toBinary64
  | _ => none

/-- The items of an array. -/
def items? : Json → Option (List Json)
  | array items => some items
  | _ => none

/-- The members of an object. -/
def members? : Json → Option (List (String × Json))
  | object members => some members
  | _ => none

/-- A member of an object. -/
def member? (j : Json) (key : String) : Option Json :=
  j.members?.bind fun members => Members.get? members key

/-! ## Equality

Two values are the same when they differ in the order of members only. -/

mutual

/-- Whether two values are the same up to the order of members. -/
def same : Json → Json → Bool
  | null, null => true
  | bool b, bool c => b == c
  | number m, number n => m.same n
  | string s, string t => s == t
  | array xs, array ys => sameItems xs ys
  | object xs, object ys => xs.length == ys.length && sameMembers xs ys
  | _, _ => false

/-- Whether two arrays have the same items. -/
def sameItems : List Json → List Json → Bool
  | [], [] => true
  | x :: xs, y :: ys => same x y && sameItems xs ys
  | _, _ => false

/-- Whether each member of the first list is in the second. -/
def sameMembers : List (String × Json) → List (String × Json) → Bool
  | [], _ => true
  | (key, x) :: xs, ys =>
    (match Members.get? ys key with
      | some y => same x y
      | none => false) && sameMembers xs ys

end

end Json

end CloudDirector
