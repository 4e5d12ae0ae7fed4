import CloudDirector.Number.Binary64

/-!
# Decimal numerals of floating point numbers

The digits written are the fewest that read back as the number, and of those the nearest to it.  For
one digit, two, and so on, the two neighbours of the number on that decimal grid are tested against
the interval of reals that round to it; the interval has its ends exactly where the significand is
even.  Where the point goes and when an exponent is written is a matter of style.
-/

namespace CloudDirector

/-- The decimal number `digits * 10 ^ exponent`. -/
structure Decimal where
  digits : Nat
  exponent : Int
  deriving DecidableEq, Repr

/-- How many decimal digits a number has, zero having one. -/
def decimalLength (n : Nat) : Nat := (Nat.toDigits 10 n).length

/-- The powers of ten that make `10 ^ e` a ratio. -/
def tenRatio (e : Int) : Nat × Nat := (Nat.pow 10 e.toNat, Nat.pow 10 (-e).toNat)

/-- A decimal number whose last digit is not zero, of the same value. -/
def Decimal.stripZeros (d : Decimal) : Nat → Decimal
  | 0 => d
  | fuel + 1 =>
    if d.digits ≠ 0 ∧ d.digits % 10 = 0 then
      Decimal.stripZeros ⟨d.digits / 10, d.exponent + 1⟩ fuel
    else d

namespace Magnitude

/-- The place of the first decimal digit: the size is at least `10 ^ (p - 1)` and below `10 ^ p`. -/
def decimalPlace (m : Magnitude) : Int :=
  let p : Int := (decimalLength m.scaled : Int) - decimalLength unit
  let (up, down) := tenRatio p
  if unit * up ≤ m.scaled * down then p + 1 else p

/-- Whether `n * 10 ^ e` rounds to the magnitude. -/
def holds (m : Magnitude) (n : Nat) (e : Int) : Bool :=
  let (up, down) := tenRatio e
  let x := 4 * (n * up * unit)
  let below := if m.significand = Nat.pow 2 52 ∧ 0 < m.exponent then 1 else 2
  let low := (4 * m.significand - below) * Nat.pow 2 m.exponent * down
  let high := (4 * m.significand + 2) * Nat.pow 2 m.exponent * down
  if m.significand % 2 = 0 then low ≤ x && x ≤ high else low < x && x < high

/-- Of the two neighbours of the magnitude on the grid of `10 ^ e` the nearest that rounds to it. -/
def onGrid? (m : Magnitude) (e : Int) : Option Decimal :=
  let (up, down) := tenRatio e
  let a := m.scaled * down
  let b := up * unit
  let n := a / b
  let nearest := divNearest a b
  let other := if nearest = n then n + 1 else n
  if m.holds nearest e then some ⟨nearest, e⟩
  else if m.holds other e then some ⟨other, e⟩
  else none

/-- The shortest decimal number that rounds to the magnitude. -/
def shortest (m : Magnitude) : Decimal :=
  if m.significand = 0 then ⟨0, 0⟩ else
    let p := m.decimalPlace
    match (List.range 17).findSome? fun i => m.onGrid? (p - (i + 1 : Nat)) with
    | some d => d.stripZeros 18
    | none => ⟨m.scaled / unit, 0⟩

end Magnitude

/-- How a decimal number is written. -/
structure NumeralStyle where
  /-- The least place of the first digit for which no exponent is written, if there is one. -/
  least : Option Int
  /-- The greatest place of the first digit for which no exponent is written, if there is one. -/
  greatest : Option Int

/-- Numerals of the wire: no exponent from `1e-5` up to `1e16`. -/
def NumeralStyle.wire : NumeralStyle := ⟨some (-4), some 16⟩

/-- Numerals of messages: never an exponent. -/
def NumeralStyle.plain : NumeralStyle := ⟨none, none⟩

/-- Whether a style writes a number without an exponent when its first digit stands at `place`. -/
def NumeralStyle.isPositional (style : NumeralStyle) (place : Int) : Bool :=
  style.least.all (· ≤ place) && style.greatest.all (place ≤ ·)

/-- A decimal number in a style.  There is a digit on both sides of a point, and without an exponent
there is always a point. -/
def Decimal.render (style : NumeralStyle) (d : Decimal) : List Char :=
  let digits := Nat.toDigits 10 d.digits
  let place : Int := digits.length + d.exponent
  if d.digits = 0 then ['0', '.', '0']
  else if style.isPositional place then
    if 0 ≤ d.exponent then digits ++ List.replicate d.exponent.toNat '0' ++ ['.', '0']
    else if 0 < place then digits.take place.toNat ++ '.' :: digits.drop place.toNat
    else '0' :: '.' :: List.replicate (-place).toNat '0' ++ digits
  else
    let e := place - 1
    let point := match digits with
      | [] => []
      | [c] => [c]
      | c :: rest => c :: '.' :: rest
    point ++ 'e' :: (if e < 0 then '-' else '+') :: Nat.toDigits 10 e.natAbs

/-- The text of a floating point number in a style. -/
def Binary64.render (style : NumeralStyle) : Binary64 → String
  | finite negative m =>
    .ofList ((if negative then ['-'] else []) ++ m.shortest.render style)
  | infinite negative => if negative then "-inf" else "inf"
  | nan => "NaN"

end CloudDirector
