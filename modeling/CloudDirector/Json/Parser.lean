import CloudDirector.Json.Numeral
import CloudDirector.Text.Hex

/-!
# Reading JSON text

The text is cut into tokens, and the tokens are read with a stack of the arrays and objects that
are open.  At most 127 of them may be open at a time.  Repeated keys of an object leave one
member, in the first place and with the last value.
-/

namespace CloudDirector.Json

open Text (hexDigit?)

/-- A token of JSON text. -/
inductive Token where
  | leftBracket | rightBracket | leftBrace | rightBrace | colon | comma
  | null | bool (b : Bool) | number (n : Number) | string (s : String)

/-! ## Tokens -/

/-- The value of four hexadecimal digits. -/
def hex4? (a b c d : Char) : Option Nat := do
  return (((← hexDigit? a) * 16 + (← hexDigit? b)) * 16 + (← hexDigit? c)) * 16 + (← hexDigit? d)

/-- The characters that stand for themselves after a backslash, or have a short escape. -/
def shortEscape? : Char → Option Char
  | '"' => some '"'
  | '\\' => some '\\'
  | '/' => some '/'
  | 'b' => some '\x08'
  | 'f' => some '\x0c'
  | 'n' => some '\n'
  | 'r' => some '\r'
  | 't' => some '\t'
  | _ => none

/-- The rest of a string after its opening quote: its characters, those read so far being `read` in
reverse order, and what follows the closing quote.  Characters beyond the first 65536 may be escaped
as two halves; a half alone is refused, and so is a control character that is not escaped. -/
def scanString (read : List Char) : List Char → Option (String × List Char)
  | [] => none
  | '"' :: rest => some (.ofList read.reverse, rest)
  | '\\' :: 'u' :: a :: b :: c :: d :: rest =>
    match hex4? a b c d with
    | none => none
    | some n =>
      if 0xDC00 ≤ n ∧ n ≤ 0xDFFF then none
      else if 0xD800 ≤ n ∧ n ≤ 0xDBFF then
        match rest with
        | '\\' :: 'u' :: e :: f :: g :: h :: after =>
          match hex4? e f g h with
          | some m =>
            if 0xDC00 ≤ m ∧ m ≤ 0xDFFF then
              scanString (Char.ofNat (0x10000 + (n - 0xD800) * 0x400 + (m - 0xDC00)) :: read) after
            else none
          | none => none
        | _ => none
      else scanString (Char.ofNat n :: read) rest
  | '\\' :: c :: rest =>
    match shortEscape? c with
    | some e => scanString (e :: read) rest
    | none => none
  | c :: rest => if c.toNat < 0x20 ∨ c = '\\' then none else scanString (c :: read) rest

/-- What follows a string is shorter than the string with it. -/
theorem scanString_length {read cs : List Char} {s : String} {rest : List Char}
    (h : scanString read cs = some (s, rest)) : rest.length < cs.length := by
  fun_induction scanString read cs generalizing s rest with
  | case1 => simp at h
  | case2 =>
    cases h
    simp
  | case5 | case9 | case10 | case13 =>
    rename_i ih
    have := ih h
    simp only [List.length_cons]
    omega
  | _ => simp at h

/-- Whether a character may stand in a numeral. -/
def isNumeralChar (c : Char) : Bool :=
  c.isDigit || c == '-' || c == '+' || c == '.' || c == 'e' || c == 'E'

/-- The token that starts with a character, and what follows it. -/
def token? (c : Char) (rest : List Char) : Option (Token × List Char) :=
  match c, rest with
  | '[', rest => some (.leftBracket, rest)
  | ']', rest => some (.rightBracket, rest)
  | '\x7b', rest => some (.leftBrace, rest)
  | '\x7d', rest => some (.rightBrace, rest)
  | ':', rest => some (.colon, rest)
  | ',', rest => some (.comma, rest)
  | 'n', 'u' :: 'l' :: 'l' :: after => some (.null, after)
  | 't', 'r' :: 'u' :: 'e' :: after => some (.bool true, after)
  | 'f', 'a' :: 'l' :: 's' :: 'e' :: after => some (.bool false, after)
  | '"', rest => (scanString [] rest).map fun (s, after) => (.string s, after)
  | c, rest =>
    if isNumeralChar c then
      (Number.ofChars? (c :: rest.takeWhile isNumeralChar)).map fun n =>
        (.number n, rest.dropWhile isNumeralChar)
    else none

/-- What follows a token is no longer than what follows its first character. -/
theorem token?_length {c : Char} {rest after : List Char} {token : Token}
    (h : token? c rest = some (token, after)) : after.length ≤ rest.length := by
  unfold token? at h
  split at h
  case h_10 =>
    obtain ⟨⟨s, a⟩, hs, he⟩ := Option.map_eq_some_iff.1 h
    cases he
    exact Nat.le_of_lt (scanString_length hs)
  case h_11 =>
    split at h
    · obtain ⟨n, _, he⟩ := Option.map_eq_some_iff.1 h
      cases he
      exact (List.dropWhile_sublist _).length_le
    · simp at h
  all_goals
    cases h
    try simp only [List.length_cons]
    omega

/-- The tokens of a text. -/
def tokens? (cs : List Char) : Option (List Token) :=
  match cs with
  | [] => some []
  | c :: rest =>
    if c = ' ' ∨ c = '\n' ∨ c = '\t' ∨ c = '\r' then tokens? rest
    else match h : token? c rest with
      | some (token, after) =>
        have := token?_length h
        (tokens? after).map (token :: ·)
      | none => none
termination_by cs.length

/-! ## Values -/

/-- An array or object that is open, with the items in reverse order, or the members and the key
whose value is being read. -/
inductive Open where
  | array (items : List Json)
  | object (members : List (String × Json)) (key : String)

/-- What may come next. -/
inductive Expect where
  | value
  | itemOrEnd
  | keyOrEnd
  | key
  | colon
  | commaOrEnd
  | nothing

/-- A value being read: what is open, innermost first, the members of an object whose next key has
not been read, what may come next, and the value when it is complete. -/
structure Reading where
  stack : List Open
  expect : Expect
  result : Json

namespace Reading

/-- The start, where one value is expected. -/
def start : Reading := ⟨[], .value, .null⟩

/-- How many arrays and objects may be open. -/
def depthLimit : Nat := 127

/-- A value is complete: it becomes an item, a member or the result. -/
def complete (stack : List Open) (j : Json) : Reading :=
  match stack with
  | [] => ⟨[], .nothing, j⟩
  | .array items :: outer => ⟨.array (j :: items) :: outer, .commaOrEnd, .null⟩
  | .object members key :: outer =>
    ⟨.object (Members.insert members key j) key :: outer, .commaOrEnd, .null⟩

/-- One more array or object is open, if the limit allows it. -/
def enter (stack : List Open) (inner : Open) (expect : Expect) : Option Reading :=
  if stack.length < depthLimit then some ⟨inner :: stack, expect, .null⟩ else none

/-- A token that starts or is a value. -/
def beginValue (stack : List Open) : Token → Option Reading
  | .null => some (complete stack .null)
  | .bool b => some (complete stack (.bool b))
  | .number n => some (complete stack (.number n))
  | .string s => some (complete stack (.string s))
  | .leftBracket => enter stack (.array []) .itemOrEnd
  | .leftBrace => enter stack (.object [] "") .keyOrEnd
  | _ => none

/-- The innermost array or object ends with a token of its kind. -/
def close : List Open → Token → Option Reading
  | .array items :: outer, .rightBracket => some (complete outer (.array items.reverse))
  | .object members _ :: outer, .rightBrace => some (complete outer (.object members))
  | _, _ => none

/-- A key of the innermost object. -/
def setKey : List Open → String → Option Reading
  | .object members _ :: outer, key => some ⟨.object members key :: outer, .colon, .null⟩
  | _, _ => none

/-- One token further. -/
def step (r : Reading) (token : Token) : Option Reading :=
  match r.expect, token with
  | .value, _ => beginValue r.stack token
  | .itemOrEnd, .rightBracket => close r.stack token
  | .itemOrEnd, _ => beginValue r.stack token
  | .keyOrEnd, .rightBrace => close r.stack token
  | .keyOrEnd, .string s => setKey r.stack s
  | .key, .string s => setKey r.stack s
  | .colon, .colon => some { r with expect := .value }
  | .commaOrEnd, .comma =>
    match r.stack with
    | .array _ :: _ => some { r with expect := .value }
    | .object _ _ :: _ => some { r with expect := .key }
    | [] => none
  | .commaOrEnd, _ => close r.stack token
  | _, _ => none

/-- The value, once nothing more is expected. -/
def result? (r : Reading) : Option Json :=
  match r.expect with
  | .nothing => some r.result
  | _ => none

end Reading

/-- The value that a text spells, if it spells one. -/
def ofString? (s : String) : Option Json := do
  let tokens ← tokens? s.toList
  (← tokens.foldlM Reading.step Reading.start).result?

end CloudDirector.Json
