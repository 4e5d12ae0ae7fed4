import CloudDirector.Text.Case
import CloudDirector.Text.Split
import CloudDirector.Web.Percent

/-!
# Hosts of addresses

A host is a number of IP version 4 or 6, or a name.  Names of the common schemes are written in
lower case, with labels outside ASCII in Punycode; a name whose last label is a number must be an
address of version 4.
-/

namespace CloudDirector.Web

open Text (pieces)

/-- Why a text is not an address. -/
inductive AddressFault where
  | emptyHost | badName | badPort | badIpv4 | badIpv6 | badCharacter | relative
  deriving DecidableEq, Repr

/-- The wording of a fault. -/
def AddressFault.message : AddressFault → String
  | emptyHost => "empty host"
  | badName => "invalid international domain name"
  | badPort => "invalid port number"
  | badIpv4 => "invalid IPv4 address"
  | badIpv6 => "invalid IPv6 address"
  | badCharacter => "invalid domain character"
  | relative => "relative URL without a base"

/-! ## Version 4 -/

/-- The digits of a number to a base, if all are digits of that base. -/
def ofDigits? (base : Nat) (cs : List Char) : Option Nat :=
  cs.foldlM (fun n c => do
    let d ← Text.hexDigit? c
    if d < base then some (n * base + d) else none) 0

/-- A part of an address of version 4: decimal, octal after a zero, or hexadecimal after `0x`. -/
def ipv4Part? : List Char → Option Nat
  | [] => none
  | '0' :: 'x' :: rest => ofDigits? 16 rest
  | '0' :: 'X' :: rest => ofDigits? 16 rest
  | '0' :: c :: rest => ofDigits? 8 (c :: rest)
  | cs => ofDigits? 10 cs

/-- The parts of a name without an empty one at the end. -/
def ipv4Parts (name : List Char) : List (List Char) :=
  let parts := pieces (· == '.') name
  if parts.getLast? = some [] then parts.dropLast else parts

/-- Whether the last label of a name is a number. -/
def endsInNumber (name : List Char) : Bool :=
  match (ipv4Parts name).getLast? with
  | none => false
  | some [] => false
  | some label => label.all Char.isDigit || (ipv4Part? label).isSome

/-- The number of an address of version 4, whose last part fills the bytes that are left. -/
def ipv4? (name : List Char) : Option Nat := do
  let parts ← (ipv4Parts name).mapM ipv4Part?
  if 4 < parts.length then none
  let last ← parts.getLast?
  let front := parts.dropLast
  if Nat.pow 256 (4 - front.length) ≤ last ∨ front.any (255 < ·) then none
  return front.foldl (fun n p => n * 256 + p) 0 * Nat.pow 256 (4 - front.length) + last

/-- An address of version 4 as four numbers with points. -/
def renderIpv4 (n : Nat) : String :=
  ".".intercalate ([3, 2, 1, 0].map fun i => toString (n / Nat.pow 256 i % 256))

/-! ## Version 6 -/

/-- A group of at most four hexadecimal digits. -/
def ipv6Group? (cs : List Char) : Option Nat :=
  if cs.isEmpty ∨ 4 < cs.length then none else ofDigits? 16 cs

/-- A decimal byte of the version 4 part of an address, without a zero in front. -/
def ipv4Byte? (cs : List Char) : Option Nat := do
  if cs.isEmpty ∨ (cs.head? = some '0' ∧ 1 < cs.length) then none
  let n ← ofDigits? 10 cs
  if n ≤ 255 then some n else none

/-- The groups of a text of groups with colons; the last may be an address of version 4. -/
def ipv6Groups? : List (List Char) → Option (List Nat)
  | [] => some []
  | [last] =>
    if last.contains '.' then do
      match ← (pieces (· == '.') last).mapM ipv4Byte? with
      | [a, b, c, d] => some [a * 256 + b, c * 256 + d]
      | _ => none
    else do return [← ipv6Group? last]
  | group :: rest => do return (← ipv6Group? group) :: (← ipv6Groups? rest)

/-- The text before and after the first `::`. -/
def splitDoubleColon : List Char → Option (List Char × List Char)
  | [] => none
  | ':' :: ':' :: rest => some ([], rest)
  | c :: rest => (splitDoubleColon rest).map fun (before, after) => (c :: before, after)

/-- The groups of a text that may be empty. -/
def ipv6Side? (cs : List Char) : Option (List Nat) :=
  if cs.isEmpty then some [] else ipv6Groups? (pieces (· == ':') cs)

/-- The eight groups of an address of version 6. -/
def ipv6? (cs : List Char) : Option (List Nat) := do
  match splitDoubleColon cs with
  | none =>
    let groups ← ipv6Groups? (pieces (· == ':') cs)
    if groups.length = 8 then some groups else none
  | some (before, after) =>
    if before.contains '.' then none
    let front ← ipv6Side? before
    let back ← ipv6Side? after
    if front.length + back.length < 8 then
      some (front ++ List.replicate (8 - front.length - back.length) 0 ++ back)
    else none

/-- The lengths of the runs of zeros that start at each group. -/
def zeroRuns : List Nat → List Nat
  | [] => []
  | g :: rest =>
    let runs := zeroRuns rest
    (if g = 0 then runs.headD 0 + 1 else 0) :: runs

/-- Groups with colons. -/
def renderGroups (groups : List Nat) : String :=
  ":".intercalate (groups.map fun g => .ofList (Nat.toDigits 16 g))

/-- An address of version 6 in brackets, the first of the longest runs of at least two zeros left
out. -/
def renderIpv6 (groups : List Nat) : String :=
  let runs := zeroRuns groups
  let longest := runs.foldl max 0
  if longest < 2 then s!"[{renderGroups groups}]"
  else
    let start := runs.findIdx (· == longest)
    s!"[{renderGroups (groups.take start)}::{renderGroups (groups.drop (start + longest))}]"

/-! ## Names -/

namespace Punycode

/-- A digit to the base 36. -/
def digit (n : Nat) : Char := if n < 26 then Char.ofNat (97 + n) else Char.ofNat (22 + n)

/-- The threshold of the digit at a place. -/
def threshold (place bias : Nat) : Nat := min 26 (max 1 (place - bias))

/-- The digits of a number of variable length. -/
def digits (bias place n : Nat) : (fuel : Nat) → List Char
  | 0 => []
  | fuel + 1 =>
    let t := threshold place bias
    if n < t then [digit n]
    else digit (t + (n - t) % (36 - t)) :: digits bias (place + 36) ((n - t) / (36 - t)) fuel

/-- Halves a distance until it is small, counting the digits that it saves. -/
def shrink (delta k : Nat) : (fuel : Nat) → Nat
  | 0 => k
  | fuel + 1 =>
    if 455 < delta then shrink (delta / 35) (k + 36) fuel else k + 36 * delta / (delta + 38)

/-- The bias after a distance. -/
def adapt (delta count : Nat) (first : Bool) : Nat :=
  let d := if first then delta / 700 else delta / 2
  shrink (d + d / count) 0 64

/-- The digits of all characters from `n` on.  `delta` is the distance so far, `handled` counts the
characters written, and `basic` those of ASCII. -/
def encodeFrom (cs : List Nat) (basic : Nat) :
    (rounds : Nat) → (n delta bias handled : Nat) → List Char
  | 0, _, _, _, _ => []
  | rounds + 1, n, delta, bias, handled =>
    match (cs.filter (n ≤ ·)).min? with
    | none => []
    | some m =>
      let (out, delta, bias, handled) := cs.foldl
        (fun (out, delta, bias, handled) c =>
          if c < m then (out, delta + 1, bias, handled)
          else if c = m then
            (out ++ digits bias 36 delta 64, 0, adapt delta (handled + 1) (handled == basic),
              handled + 1)
          else (out, delta, bias, handled))
        (([] : List Char), delta + (m - n) * (handled + 1), bias, handled)
      out ++ encodeFrom cs basic rounds (m + 1) (delta + 1) bias handled

/-- A label in Punycode. -/
def encode (label : List Char) : List Char :=
  let basic := label.filter fun c => c.toNat < 0x80
  (if basic.isEmpty then [] else basic ++ ['-']) ++
    encodeFrom (label.map Char.toNat) basic.length (label.length + 1) 128 0 72 basic.length

end Punycode

/-- Whether a character may not stand in the name of a host. -/
def isForbiddenInName (c : Char) : Bool :=
  c.toNat ≤ 0x20 || c.toNat == 0x7F || "#/:<>?@[\\]^\x60\x7b|\x7d%".toList.contains c

/-- A label in lower case, in Punycode unless it is ASCII. -/
def asciiLabel (label : List Char) : List Char :=
  let lower := label.flatMap Text.lowerOf
  if lower.all fun c => c.toNat < 0x80 then lower else "xn--".toList ++ Punycode.encode lower

/-- The name of a host, percent-encoded bytes being taken for what they stand for. -/
def hostName? (cs : List Char) : Option (List Char) := do
  let decoded ← String.fromUTF8? ⟨(percentDecode cs).toArray⟩
  let name := ['.'].intercalate ((pieces (· == '.') decoded.toList).map asciiLabel)
  if name.any isForbiddenInName then none else some name

/-- The host of an address with a common scheme. -/
def parseHost (cs : List Char) : Except AddressFault String :=
  if cs.isEmpty then .error .emptyHost
  else if cs.head? = some '[' then
    if cs.getLast? = some ']' then
      match ipv6? (cs.drop 1).dropLast with
      | some groups => .ok (renderIpv6 groups)
      | none => .error .badIpv6
    else .error .badIpv6
  else match hostName? cs with
    | none => .error .badName
    | some [] => .error .emptyHost
    | some name =>
      if endsInNumber name then
        match ipv4? name with
        | some n => .ok (renderIpv4 n)
        | none => .error .badIpv4
      else .ok (.ofList name)

/-- Whether a character may not stand in a host that is kept as it is written. -/
def isForbiddenInOpaque (c : Char) : Bool := c == '\x00' || " #/:<>?@[\\]^|".toList.contains c

/-- The host of an address with another scheme, which is kept as it is written. -/
def parseOpaqueHost (cs : List Char) : Except AddressFault String :=
  if cs.head? = some '[' then
    if cs.getLast? = some ']' then
      match ipv6? (cs.drop 1).dropLast with
      | some groups => .ok (renderIpv6 groups)
      | none => .error .badIpv6
    else .error .badIpv6
  else if cs.any isForbiddenInOpaque then .error .badCharacter
  else .ok (.ofList (percentEncode isControl cs))

end CloudDirector.Web
