import CloudDirector.Json.Basic
import CloudDirector.Number.Unsigned

/-!
# Reading JSON numbers

A numeral without point and exponent is an integer when that fits 64 bits.  Any other numeral is a
floating point number, read in two roundings: as many digits as fit 64 bits without a sign make
the significand, which is rounded first, and a power of ten scales it.  A numeral beyond the
largest number is refused.  A minus sign before a zero makes it the floating point zero of that
sign.
-/

namespace CloudDirector.Json

/-- A numeral taken apart; `fraction` and `exponent` are there if the numeral has them. -/
structure Numeral where
  negative : Bool
  whole : List Nat
  fraction : Option (List Nat)
  exponent : Option (Bool × List Nat)

/-- The value of a decimal digit. -/
def digit? (c : Char) : Option Nat := if c.isDigit then some (c.toNat - 48) else none

/-- The digits in front, and what follows them. -/
def takeDigits : List Char → List Nat × List Char
  | [] => ([], [])
  | c :: rest =>
    match digit? c with
    | some d => let (ds, after) := takeDigits rest; (d :: ds, after)
    | none => ([], c :: rest)

/-- The exponent of a numeral, with nothing after it. -/
def Numeral.exponent? : List Char → Option (Option (Bool × List Nat))
  | [] => some none
  | c :: rest =>
    if c = 'e' ∨ c = 'E' then
      let (negative, rest) := match rest with
        | '-' :: r => (true, r)
        | '+' :: r => (false, r)
        | r => (false, r)
      match takeDigits rest with
      | (d :: ds, []) => some (some (negative, d :: ds))
      | _ => none
    else none

/-- Takes a numeral apart, if it is one. -/
def Numeral.ofChars? (cs : List Char) : Option Numeral := do
  let (negative, cs) := match cs with
    | '-' :: r => (true, r)
    | r => (false, r)
  let (whole, rest) := takeDigits cs
  match whole with
  | [] => none
  | 0 :: _ :: _ => none
  | _ => pure ()
  match rest with
  | '.' :: rest =>
    let (fraction, rest) := takeDigits rest
    if fraction.isEmpty then none
    return ⟨negative, whole, some fraction, ← exponent? rest⟩
  | rest => return ⟨negative, whole, none, ← exponent? rest⟩

/-- The digits appended to a significand as long as the result fits 64 bits, and how many are
left. -/
def appendDigits (significand : Nat) : List Nat → Nat × Nat
  | [] => (significand, 0)
  | d :: ds =>
    if significand * 10 + d < Unsigned.limit64 then appendDigits (significand * 10 + d) ds
    else (significand, ds.length + 1)

/-- The power `10 ^ k`, rounded. -/
def tenPower (k : Nat) : Binary64 := .ofRatio false (Nat.pow 10 k) 1

/-- A number divided by `10 ^ k`, in steps of at most `10 ^ 308`. -/
def scaleDown (x : Binary64) (k : Nat) : Binary64 :=
  if _h : k ≤ 308 then x.div (tenPower k)
  else if x.isZero then x
  else scaleDown (x.div (tenPower 308)) (k - 308)
termination_by k

/-- The number `significand * 10 ^ exponent` in two roundings, if it is not too large. -/
def scale? (negative : Bool) (significand : Nat) (exponent : Int) : Option Number :=
  let x := Binary64.ofRatio false significand 1
  let y :=
    if exponent < 0 then scaleDown x exponent.natAbs
    else if exponent ≤ 308 then x.mul (tenPower exponent.toNat)
    else if x.isZero then x
    else .infinite false
  match y with
  | .finite _ m => some (.float negative m)
  | _ => none

/-- The value of decimal digits. -/
def ofDigits (ds : List Nat) : Nat := ds.foldl (fun n d => n * 10 + d) 0

/-- The number of a numeral, if it is not too large. -/
def Numeral.value? (n : Numeral) : Option Number :=
  let (significand, left) := appendDigits 0 n.whole
  let float (exponent : Int) (significand : Nat) : Option Number :=
    match n.exponent with
    | none => scale? n.negative significand exponent
    | some (negative, digits) =>
      let e : Int := ofDigits digits
      if 2147483648 ≤ e then
        if significand ≠ 0 ∧ !negative then none else some (.float n.negative .zero)
      else scale? n.negative significand (if negative then exponent - e else exponent + e)
  match n.fraction with
  | some fraction =>
    let (all, dropped) := appendDigits significand fraction
    float (left - (fraction.length - dropped : Nat)) all
  | none =>
    if n.exponent.isSome ∨ 0 < left then float left significand
    else
      let i : Int := if n.negative then -significand else significand
      if n.negative ∧ significand = 0 then some (.float true .zero)
      else match WireInteger.ofInt? i with
        | some i => some (.integer i)
        | none => scale? n.negative significand 0

/-- The number that some characters spell, if they spell one. -/
def Number.ofChars? (cs : List Char) : Option Number := (Numeral.ofChars? cs).bind Numeral.value?

end CloudDirector.Json
