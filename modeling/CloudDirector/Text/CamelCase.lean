import CloudDirector.Text.Alphanumeric
import CloudDirector.Text.Case
import CloudDirector.Text.Split

/-!
# Lower camel case

The wire name of a member whose declaration gives none: the words of its identifier joined, the
first in lower case and each later one with its first letter raised.  Words are separated by
characters that are neither letters nor digits; inside such a piece a word also ends between a
lower case letter and an upper case one (`fooBar`), and before the last letter of a run of
capitals that a lower case letter follows (`HTTPServer` is `HTTP`, `Server`).
-/

namespace CloudDirector.Text

/-- The case of the letters read last, digits leaving it as it was. -/
inductive WordCase where
  | fresh
  | lower
  | upper
  deriving DecidableEq, Repr

/-- The case after one more character. -/
def WordCase.next (mode : WordCase) (c : Char) : WordCase :=
  if isLower c then .lower else if isUpper c then .upper else mode

/-- The words of a piece without separators.  `word` holds the characters of the current word in
reverse order, and `mode` the case of those read before it in that word. -/
def splitWords (word : List Char) (mode : WordCase) : List Char → List (List Char)
  | [] => if word.isEmpty then [] else [word.reverse]
  | [c] => [(c :: word).reverse]
  | c :: d :: rest =>
    if mode.next c = .lower ∧ isUpper d then
      (c :: word).reverse :: splitWords [] .fresh (d :: rest)
    else if mode = .upper ∧ isUpper c ∧ isLower d then
      word.reverse :: splitWords [c] .fresh (d :: rest)
    else
      splitWords (c :: word) (mode.next c) (d :: rest)

/-- The words of an identifier. -/
def identifierWords (cs : List Char) : List (List Char) :=
  (pieces (fun c => !isAlphanumeric c) cs).flatMap (splitWords [] .fresh)

/-- A word in lower case; a capital sigma that ends it takes its final form. -/
def lowerWord : List Char → List Char
  | [] => []
  | [c] => if c.toNat = 0x3A3 then [Char.ofNat 0x3C2] else lowerOf c
  | c :: rest => lowerOf c ++ lowerWord rest

/-- A word with its first letter raised and the rest in lower case. -/
def capitalWord : List Char → List Char
  | [] => []
  | c :: rest => upperOf c ++ lowerWord rest

/-- The lower camel case form of an identifier. -/
def lowerCamel (s : String) : String :=
  match identifierWords s.toList with
  | [] => ""
  | first :: rest => .ofList (lowerWord first ++ rest.flatMap capitalWord)

end CloudDirector.Text
