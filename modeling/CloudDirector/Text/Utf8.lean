/-!
# Bytes as text

Bytes that are meant as UTF-8 become text.  Where they are no UTF-8, the longest run of bytes that
could have started a character, or one byte if there is none, becomes the replacement character.
-/

namespace CloudDirector.Text

/-- The character that stands for bytes that are no text. -/
def replacement : Char := '\uFFFD'

/-- How many bytes follow the first byte of a character, and which values the first of them may
have. -/
def continuations? (b : UInt8) : Option (Nat × UInt8 × UInt8) :=
  if 0xC2 ≤ b && b ≤ 0xDF then some (1, 0x80, 0xBF)
  else if b == 0xE0 then some (2, 0xA0, 0xBF)
  else if b == 0xED then some (2, 0x80, 0x9F)
  else if 0xE1 ≤ b && b ≤ 0xEF then some (2, 0x80, 0xBF)
  else if b == 0xF0 then some (3, 0x90, 0xBF)
  else if b == 0xF4 then some (3, 0x80, 0x8F)
  else if 0xF1 ≤ b && b ≤ 0xF3 then some (3, 0x80, 0xBF)
  else none

/-- What the bits of a continuation add to a number. -/
def addBits (n : Nat) (b : UInt8) : Nat := n * 64 + b.toNat % 64

/-- The text of bytes, replacements standing for those that are no text.  The number before the
bytes holds the bits of a character that has begun; `missing` counts its bytes that are still to
come, the next of which has a value from `low` to `high`. -/
def decodeLossy (bits missing : Nat) (low high : UInt8) : List UInt8 → List Char
  | [] => if missing = 0 then [] else [replacement]
  | b :: rest =>
    if missing ≠ 0 ∧ low ≤ b ∧ b ≤ high then
      let bits := addBits bits b
      if missing = 1 then Char.ofNat bits :: decodeLossy 0 0 0x80 0xBF rest
      else decodeLossy bits (missing - 1) 0x80 0xBF rest
    else
      let broken := if missing = 0 then [] else [replacement]
      if b < 0x80 then broken ++ Char.ofNat b.toNat :: decodeLossy 0 0 0x80 0xBF rest
      else match continuations? b with
        | some (count, low, high) =>
          broken ++ decodeLossy (b.toNat % Nat.pow 2 (6 - count)) count low high rest
        | none => broken ++ replacement :: decodeLossy 0 0 0x80 0xBF rest

/-- The text of bytes, with replacements for those that are no text. -/
def ofBytesLossy (bytes : List UInt8) : String := .ofList (decodeLossy 0 0 0x80 0xBF bytes)

/-- The text of bytes, if they are text. -/
def ofBytes? (bytes : List UInt8) : Option String := String.fromUTF8? ⟨bytes.toArray⟩

end CloudDirector.Text
