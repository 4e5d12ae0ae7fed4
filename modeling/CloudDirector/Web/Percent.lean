import CloudDirector.Text.Hex

/-!
# Percent encoding

The parts of an address are kept as texts in which some characters are replaced by the
percent-encoded bytes of their UTF-8 form.  Which characters depends on the part; the set is given
as a predicate on the ASCII ones, all others being replaced everywhere.
-/

namespace CloudDirector.Web

/-- A hexadecimal digit in upper case. -/
def upperHexDigit (n : Nat) : Char := (Nat.digitChar n).toUpper

/-- A byte after a percent sign. -/
def percentByte (b : UInt8) : List Char :=
  ['%', upperHexDigit (b.toNat / 16), upperHexDigit (b.toNat % 16)]

/-- A character as percent-encoded bytes. -/
def percentChar (c : Char) : List Char := (String.singleton c).toUTF8.toList.flatMap percentByte

/-- A text with the characters of a set replaced. -/
def percentEncode (isReplaced : Char → Bool) (cs : List Char) : List Char :=
  cs.flatMap fun c => if isReplaced c || 0x7F ≤ c.toNat then percentChar c else [c]

/-- The bytes of a text in which percent-encoded bytes are taken for what they stand for. -/
def percentDecode : List Char → List UInt8
  | [] => []
  | '%' :: a :: b :: rest =>
    match Text.hexDigit? a, Text.hexDigit? b with
    | some m, some n => .ofNat (m * 16 + n) :: percentDecode rest
    | _, _ => 37 :: percentDecode (a :: b :: rest)
  | c :: rest => (String.singleton c).toUTF8.toList ++ percentDecode rest

/-! ## The sets of the parts of an address -/

/-- Control characters. -/
def isControl (c : Char) : Bool := c.toNat < 0x20 || c.toNat == 0x7F

/-- What a fragment replaces. -/
def inFragmentSet (c : Char) : Bool :=
  isControl c || c == ' ' || c == '"' || c == '<' || c == '>' || c == '\x60'

/-- What a path replaces. -/
def inPathSet (c : Char) : Bool :=
  inFragmentSet c || c == '#' || c == '?' || c == '\x7b' || c == '\x7d'

/-- What the name and the password of a user replace. -/
def inUserSet (c : Char) : Bool :=
  inPathSet c || c == '/' || c == ':' || c == ';' || c == '=' || c == '@' || c == '[' ||
  c == '\\' || c == ']' || c == '^' || c == '|'

/-- What a query replaces. -/
def inQuerySet (c : Char) : Bool :=
  isControl c || c == ' ' || c == '"' || c == '#' || c == '<' || c == '>'

/-! ## Forms

In a pair of a query a space becomes a plus sign, and only letters, digits and four marks are left
as they are. -/

/-- A key or a value of a query. -/
def formEncode (cs : List Char) : List Char :=
  cs.flatMap fun c =>
    if c.isAlphanum || c == '*' || c == '-' || c == '.' || c == '_' then [c]
    else if c == ' ' then ['+']
    else percentChar c

end CloudDirector.Web
