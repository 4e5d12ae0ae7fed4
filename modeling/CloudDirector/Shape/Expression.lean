import CloudDirector.Failure
import CloudDirector.Text.Alphanumeric
import CloudDirector.Text.Blank

/-!
# Type expressions

The shape that a caller expects is named in a small language: a scalar kind, the name of a
registered type, `list[T]`, or `map(string, T)`, which may also be spelled `dict`.  The words
`list`, `map` and `dict` are read without regard to case, and only where the bracket follows;
elsewhere they are names.  Blanks may surround every part.  The word `file` alone asks for the
body as a file.
-/

namespace CloudDirector

/-- What a response is to become. -/
inductive Target where
  | decode (descriptor : Descriptor)
  | file
  deriving DecidableEq, Repr

namespace Target

/-- The descriptor of a response that is decoded. -/
def descriptor? : Target → Option Descriptor
  | decode descriptor => some descriptor
  | file => none

end Target

namespace Expression

open Text

/-- Whether a character may stand in a type name. -/
def isNameChar (c : Char) : Bool :=
  isAlphanumeric c || c == '_' || c == ':' || c == '.' || c == '-'

/-- Takes away the gaps in front. -/
def skipGaps (cs : List Char) : List Char := cs.dropWhile isGap

/-- Takes away a word, given in lower case, without regard to the case of letters. -/
def skipWord : List Char → List Char → Option (List Char)
  | [], cs => some cs
  | w :: word, c :: cs => if c.toLower = w then skipWord word cs else none
  | _ :: _, [] => none

/-- Takes away a character. -/
def skipChar (m : Char) : List Char → Option (List Char)
  | c :: rest => if c = m then some rest else none
  | [] => none

/-- The descriptor of a name. -/
def ofName (name : String) : Descriptor :=
  match Kind.ofString? name with
  | some kind => .scalar kind
  | none => .named name

/-- Reads a name. -/
def readName (cs : List Char) : Option (Descriptor × List Char) :=
  match cs.takeWhile isNameChar with
  | [] => none
  | name => some (ofName (.ofList name), cs.dropWhile isNameChar)

/-- What reads something from the start of a text. -/
abbrev Reader := List Char → Option (Descriptor × List Char)

/-- Reads `list[T]`, given what reads `T`. -/
def readList (inner : Reader) : Reader := fun cs => do
  let rest ← skipChar '[' (skipGaps (← skipWord "list".toList cs))
  let (element, rest) ← inner rest
  return (.list element, ← skipChar ']' rest)

/-- Reads `map(string, T)`, given what reads `string` and `T`. -/
def readMap (inner : Reader) : Reader := fun cs => do
  let rest ← skipWord "map".toList cs <|> skipWord "dict".toList cs
  let (key, rest) ← inner (← skipChar '(' (skipGaps rest))
  if key ≠ .scalar .string then none
  let (element, rest) ← inner (← skipChar ',' rest)
  return (.map element, ← skipChar ')' rest)

/-- Reads a descriptor with gaps around it, brackets nested less deep than the number. -/
def readDescriptor : Nat → Reader
  | 0, _ => none
  | depth + 1, cs => do
    let start := skipGaps cs
    let inner := readDescriptor depth
    let (descriptor, rest) ← readList inner start <|> readMap inner start <|> readName start
    return (descriptor, skipGaps rest)

/-- Reads a descriptor from the start of a text of any length. -/
def read (cs : List Char) : Option (Descriptor × List Char) := readDescriptor (cs.length + 1) cs

/-- The target that an expression names. -/
def parse (expression : String) : Result Target :=
  let text := trimmed expression
  if sameLetters text "file" then .ok .file
  else match read text.toList with
    | some (descriptor, []) => .ok (.decode descriptor)
    | some (_, rest) => .failSetup (.expressionRest text (.ofList rest))
    | none => .failSetup (.badExpression text)

end Expression

end CloudDirector
