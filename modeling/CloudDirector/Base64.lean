/-!
# Base 64

Bytes travel as text in the standard alphabet of base 64 with padding.  Decoding is strict: the
padding must be there, stand at the end only, and the bits that the last symbol does not need must
be zero.  Every other text is refused with the place of the first thing wrong with it.
-/

namespace CloudDirector.Base64

/-- The symbols, by the six bits that they stand for. -/
def alphabet : List Char :=
  "ABCDEFGHIJKLMNOPQRSTUVWXYZabcdefghijklmnopqrstuvwxyz0123456789+/".toList

/-- The symbol of a number of six bits. -/
def symbol (n : Nat) : Char := alphabet.getD n '='

/-- The six bits that a byte of the text stands for. -/
def sixBits? (b : UInt8) : Option Nat := alphabet.findIdx? fun c => c.toNat == b.toNat

/-- The text of some bytes. -/
def encode : List UInt8 → List Char
  | [] => []
  | [a] => [symbol (a.toNat / 4), symbol (a.toNat % 4 * 16), '=', '=']
  | [a, b] =>
    [symbol (a.toNat / 4), symbol (a.toNat % 4 * 16 + b.toNat / 16), symbol (b.toNat % 16 * 4), '=']
  | a :: b :: c :: rest =>
    symbol (a.toNat / 4) :: symbol (a.toNat % 4 * 16 + b.toNat / 16) ::
      symbol (b.toNat % 16 * 4 + c.toNat / 64) :: symbol (c.toNat % 64) :: encode rest

/-- Why a text is not the encoding of any bytes. -/
inductive Fault where
  /-- The byte at an offset is not allowed there. -/
  | symbol (byte : UInt8) (offset : Nat)
  /-- The text has one symbol too many. -/
  | length (n : Nat)
  /-- The last symbol has bits that belong to no byte. -/
  | lastSymbol (byte : UInt8) (offset : Nat)
  /-- The padding does not fill the last group. -/
  | padding
  deriving DecidableEq, Repr

/-- The wording of a fault. -/
def Fault.message : Fault → String
  | .symbol byte offset => s!"Invalid symbol {byte}, offset {offset}."
  | .length n => s!"Invalid input length: {n}"
  | .lastSymbol byte offset => s!"Invalid last symbol {byte}, offset {offset}."
  | .padding => "Invalid padding"

/-- The padding symbol as a byte. -/
def pad : UInt8 := 61

/-- The three bytes of a whole group at `offset`. -/
def decodeGroup (offset : Nat) (a b c d : UInt8) : Except Fault (List UInt8) := do
  let six (i : Nat) (x : UInt8) : Except Fault Nat :=
    match sixBits? x with
    | some n => .ok n
    | none => .error (.symbol x (offset + i))
  let p ← six 0 a
  let q ← six 1 b
  let r ← six 2 c
  let s ← six 3 d
  return [.ofNat (p * 4 + q / 16), .ofNat (q % 16 * 16 + r / 4), .ofNat (r % 4 * 64 + s)]

/-- The symbols in front of the padding of the last group, which starts at `offset`, and the
number of padding symbols.  `values` holds the symbols read so far and `pads` counts the padding
read. -/
def readLast (offset : Nat) (values : List (UInt8 × Nat)) (pads : Nat) :
    List UInt8 → Except Fault (List (UInt8 × Nat) × Nat)
  | [] => .ok (values, pads)
  | x :: rest =>
    if x = pad then
      if values.length + pads < 2 then .error (.symbol x (offset + values.length + pads))
      else readLast offset values (pads + 1) rest
    else if 0 < pads then .error (.symbol pad (offset + values.length))
    else match sixBits? x with
      | some n => readLast offset (values ++ [(x, n)]) pads rest
      | none => .error (.symbol x (offset + values.length))

/-- The bytes of the last group, which has at most four symbols and starts at `offset`. -/
def decodeLast (offset : Nat) (group : List UInt8) : Except Fault (List UInt8) := do
  let (values, pads) ← readLast offset [] 0 group
  if values.length < 2 then throw (.length (offset + values.length))
  if (values.length + pads) % 4 ≠ 0 then throw .padding
  match values with
  | [(_, p), (y, q)] =>
    if q % 16 ≠ 0 then throw (.lastSymbol y (offset + 1))
    return [.ofNat (p * 4 + q / 16)]
  | [(_, p), (_, q), (z, r)] =>
    if r % 4 ≠ 0 then throw (.lastSymbol z (offset + 2))
    return [.ofNat (p * 4 + q / 16), .ofNat (q % 16 * 16 + r / 4)]
  | [(_, p), (_, q), (_, r), (_, s)] =>
    return [.ofNat (p * 4 + q / 16), .ofNat (q % 16 * 16 + r / 4), .ofNat (r % 4 * 64 + s)]
  | _ => return []

/-- The bytes of the groups from `offset` on. -/
def decodeFrom (offset : Nat) : List UInt8 → Except Fault (List UInt8)
  | a :: b :: c :: d :: e :: rest => do
    let bytes ← decodeGroup offset a b c d
    return bytes ++ (← decodeFrom (offset + 4) (e :: rest))
  | [] => .ok []
  | group => decodeLast offset group

/-- The bytes of a text.  A single symbol after the last whole group is looked at before all
others. -/
def decode (text : List UInt8) : Except Fault (List UInt8) :=
  match text.getLast? with
  | some x =>
    if text.length % 4 = 1 ∧ x ≠ pad ∧ sixBits? x = none then
      .error (.symbol x (text.length - 1))
    else decodeFrom 0 text
  | none => .ok []

end CloudDirector.Base64
