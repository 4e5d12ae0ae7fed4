import CloudDirector.Text.Quoted

/-!
# Tokens of code

Declarations are read from code and implementations are written as code.  Both are lists of
tokens: a word, a literal, a single punctuation character, or a group of tokens between two
brackets.
-/

namespace CloudDirector.Derive

/-- A pair of brackets. -/
inductive Bracket where
  | round
  | square
  | curly
  deriving DecidableEq, Repr

/-- The opening bracket. -/
def Bracket.opening : Bracket → String
  | round => "("
  | square => "["
  | curly => "\x7b"

/-- The closing bracket. -/
def Bracket.closing : Bracket → String
  | round => ")"
  | square => "]"
  | curly => "\x7d"

/-- A token of code. -/
inductive Token where
  /-- An identifier or a keyword; an identifier that is spelled like a keyword keeps its `r#`. -/
  | word (name : String)
  /-- A literal, as it is spelled. -/
  | literal (spelling : String)
  /-- A punctuation character.  Operators of several characters are several tokens. -/
  | mark (c : Char)
  /-- The tokens between two brackets. -/
  | group (bracket : Bracket) (inside : List Token)
  deriving Repr

namespace Token

mutual

/-- The parts of a token, each bracket being one. -/
def parts : Token → List String
  | word name => [name]
  | literal spelling => [spelling]
  | mark c => [String.singleton c]
  | group bracket inside => bracket.opening :: (partsOf inside ++ [bracket.closing])

/-- The parts of a list of tokens. -/
def partsOf : List Token → List String
  | [] => []
  | token :: rest => parts token ++ partsOf rest

end

/-- The parts of one list after another are those of the one, then those of the other. -/
theorem partsOf_append (xs ys : List Token) : partsOf (xs ++ ys) = partsOf xs ++ partsOf ys := by
  induction xs with
  | nil => rfl
  | cons x xs ih => simp [partsOf, ih]

/-- Code with one space between parts. -/
def spaced (tokens : List Token) : String := " ".intercalate (partsOf tokens)

/-- The characters of a text inside a string literal.  A NUL before an octal digit has the longer
escape, so that the digit is not read as a part of it. -/
def literalChars : List Char → List Char
  | [] => []
  | '\x00' :: d :: rest =>
    (if '0' ≤ d ∧ d ≤ '7' then ['\\', 'x', '0', '0'] else ['\\', '0']) ++ literalChars (d :: rest)
  | c :: rest => Text.quotedChar c ++ literalChars rest

/-- The string literal of a text. -/
def string (s : String) : Token := literal (.ofList ('"' :: literalChars s.toList ++ ['"']))

/-- Tokens between parentheses. -/
abbrev parens (inside : List Token) : Token := group .round inside

/-- Tokens between braces. -/
abbrev braces (inside : List Token) : Token := group .curly inside

end Token

end CloudDirector.Derive
