import CloudDirector.Derive.Lexer
import CloudDirector.Text.Hex

/-!
# The text of a string literal

A string literal is spelled with escapes, or raw between hashes.  What follows its closing quote
is a suffix and says nothing about the text.
-/

namespace CloudDirector.Derive

open Text (hexDigit? isBlank)

/-- The value of hexadecimal digits, other characters being passed over. -/
def hexValue (digits : List Char) : Nat :=
  digits.foldl (fun n c => (hexDigit? c).elim n (n * 16 + ·)) 0

/-- The characters after the opening quote of a literal up to its closing quote, escapes resolved.
A backslash at the end of a line takes the blanks after it away. -/
def unescape : List Char → List Char
  | '\\' :: 'x' :: a :: b :: rest => Char.ofNat (hexValue [a, b]) :: unescape rest
  | '\\' :: 'u' :: '\x7b' :: rest =>
    have := Lexeme.dropWhile_length_le (· != '\x7d') rest
    Char.ofNat (hexValue (rest.takeWhile (· != '\x7d'))) ::
      unescape ((rest.dropWhile (· != '\x7d')).drop 1)
  | '\\' :: 'n' :: rest => '\n' :: unescape rest
  | '\\' :: 'r' :: rest => '\r' :: unescape rest
  | '\\' :: 't' :: rest => '\t' :: unescape rest
  | '\\' :: '0' :: rest => '\x00' :: unescape rest
  | '\\' :: c :: rest =>
    if c = '\n' ∨ c = '\r' then
      have := Lexeme.dropWhile_length_le isBlank rest
      unescape (rest.dropWhile isBlank)
    else c :: unescape rest
  | '\r' :: '\n' :: rest => '\n' :: unescape rest
  | '"' :: _ => []
  | c :: rest => c :: unescape rest
  | [] => []
termination_by cs => cs.length

/-- The characters after the opening quote of a raw literal up to its closing quote, which the given
number of hashes follows. -/
def rawText (hashes : Nat) : List Char → List Char
  | [] => []
  | c :: rest =>
    if c = '"' ∧ rest.take hashes = List.replicate hashes '#' then [] else c :: rawText hashes rest

/-- The text that a literal spells, if it is a string literal. -/
def textOfLiteral? (spelling : String) : Option String :=
  match spelling.toList with
  | '"' :: rest => some (.ofList (unescape rest))
  | 'r' :: rest =>
    match rest.dropWhile (· == '#') with
    | '"' :: inside => some (.ofList (rawText (rest.takeWhile (· == '#')).length inside))
    | _ => none
  | _ => none

end CloudDirector.Derive
