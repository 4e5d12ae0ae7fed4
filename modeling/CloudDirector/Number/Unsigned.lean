/-!
# Numbers without a sign

A count in decimal: an optional plus sign and digits of ASCII, at least one, with a value below a
limit.
-/

namespace CloudDirector.Unsigned

/-- The limit of what 32 bits hold. -/
def limit32 : Nat := 4294967296

/-- The limit of what 64 bits hold. -/
def limit64 : Nat := 18446744073709551616

/-- The value of digits after a number. -/
def addDigits? : Nat → List Char → Option Nat
  | n, [] => some n
  | n, c :: rest => if c.isDigit then addDigits? (n * 10 + (c.toNat - 48)) rest else none

/-- The number that digits spell, if there is at least one. -/
def ofDigits? (cs : List Char) : Option Nat := if cs.isEmpty then none else addDigits? 0 cs

/-- The number below the limit that a text spells. -/
def ofChars? (limit : Nat) (cs : List Char) : Option Nat :=
  let digits := match cs with
    | '+' :: rest => rest
    | cs => cs
  match ofDigits? digits with
  | some n => if n < limit then some n else none
  | none => none

/-- What is read is below the limit. -/
theorem lt_of_ofChars? {limit n : Nat} {cs : List Char} (h : ofChars? limit cs = some n) :
    n < limit := by
  simp only [ofChars?] at h
  split at h
  · split at h
    · cases h
      assumption
    · simp at h
  · simp at h

end CloudDirector.Unsigned
