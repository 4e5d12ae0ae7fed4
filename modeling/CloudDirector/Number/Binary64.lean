/-!
# Binary floating point numbers of 64 bits

A finite number is a sign and a magnitude, and a magnitude is an integer significand times a power
of two, counted in units of `2 ^ -1074`.  All arithmetic is exact arithmetic on natural numbers
followed by one rounding, to the nearest number and to the even significand where two are equally
near.
-/

namespace CloudDirector

/-- The size of a finite number: `significand * 2 ^ exponent` units of `2 ^ -1074`.  A significand
below `2 ^ 52` comes with the least exponent, so that every size has one form. -/
structure Magnitude where
  significand : Nat
  exponent : Nat
  significand_lt : significand < Nat.pow 2 53
  exponent_le : exponent ≤ 2045
  normal : Nat.pow 2 52 ≤ significand ∨ exponent = 0
  deriving DecidableEq

namespace Magnitude

/-- One, in units of `2 ^ -1074`. -/
def unit : Nat := Nat.pow 2 1074

/-- The size in units of `2 ^ -1074`. -/
def scaled (m : Magnitude) : Nat := m.significand * Nat.pow 2 m.exponent

/-- The magnitude of the given parts, if they are the parts of one. -/
def ofParts? (significand exponent : Nat) : Option Magnitude :=
  if h : significand < Nat.pow 2 53 ∧ exponent ≤ 2045 ∧
      (Nat.pow 2 52 ≤ significand ∨ exponent = 0) then
    some ⟨significand, exponent, h.1, h.2.1, h.2.2⟩
  else none

/-- The size zero. -/
def zero : Magnitude := ⟨0, 0, by decide, by decide, by decide⟩

/-- A magnitude is given back by its parts. -/
theorem ofParts?_self (m : Magnitude) : ofParts? m.significand m.exponent = some m := by
  rw [ofParts?, dif_pos ⟨m.significand_lt, m.exponent_le, m.normal⟩]

end Magnitude

/-- The integer nearest to `a / b`, the even one of two. -/
def divNearest (a b : Nat) : Nat :=
  if 2 * (a % b) < b ∨ (2 * (a % b) = b ∧ a / b % 2 = 0) then a / b else a / b + 1

/-- The magnitude nearest to `a / b` units of `2 ^ -1074`; none where that is beyond the largest. -/
def Magnitude.nearest? (a b : Nat) : Option Magnitude :=
  let shift := (a / b).log2 + 1 - 53
  let significand := divNearest a (b * Nat.pow 2 shift)
  if significand = Nat.pow 2 53 then ofParts? (Nat.pow 2 52) (shift + 1)
  else ofParts? significand shift

/-- A floating point number. -/
inductive Binary64 where
  | finite (negative : Bool) (magnitude : Magnitude)
  | infinite (negative : Bool)
  | nan
  deriving DecidableEq

namespace Binary64

/-- Whether a number is a zero of either sign. -/
def isZero : Binary64 → Bool
  | finite _ m => m.significand == 0
  | _ => false

/-- The number nearest to `a / b` units of `2 ^ -1074` with the given sign. -/
def ofUnits (negative : Bool) (a b : Nat) : Binary64 :=
  match Magnitude.nearest? a b with
  | some m => finite negative m
  | none => infinite negative

/-- The number nearest to the ratio `a / b` with the given sign. -/
def ofRatio (negative : Bool) (a b : Nat) : Binary64 := ofUnits negative (a * Magnitude.unit) b

/-- The number nearest to an integer. -/
def ofInt (i : Int) : Binary64 := ofRatio (i < 0) i.natAbs 1

/-- The product, rounded. -/
def mul : Binary64 → Binary64 → Binary64
  | finite s m, finite t n => ofUnits (s ^^ t) (m.scaled * n.scaled) Magnitude.unit
  | finite s m, infinite t => if m.significand = 0 then nan else infinite (s ^^ t)
  | infinite s, finite t n => if n.significand = 0 then nan else infinite (s ^^ t)
  | infinite s, infinite t => infinite (s ^^ t)
  | _, _ => nan

/-- The quotient, rounded. -/
def div : Binary64 → Binary64 → Binary64
  | finite s m, finite t n =>
    if n.significand = 0 then if m.significand = 0 then nan else infinite (s ^^ t)
    else ofUnits (s ^^ t) (m.scaled * Magnitude.unit) n.scaled
  | finite s _, infinite t => finite (s ^^ t) .zero
  | infinite s, finite t _ => infinite (s ^^ t)
  | _, _ => nan

/-- Whether two numbers compare equal: the zeros do, and an undefined number equals nothing. -/
def sameValue : Binary64 → Binary64 → Bool
  | nan, _ => false
  | _, nan => false
  | x, y => x == y || (x.isZero && y.isZero)

end Binary64

end CloudDirector
