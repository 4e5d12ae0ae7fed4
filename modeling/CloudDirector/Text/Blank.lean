/-!
# Blank characters

Two notions of blank: the white space of Unicode, which trimming and splitting go by, and the four
characters that formats of the wire allow between tokens.
-/

namespace CloudDirector.Text

/-- The white space of Unicode. -/
def isBlank (c : Char) : Bool :=
  let n := c.toNat
  n == 0x20 || (0x09 ≤ n && n ≤ 0x0D) || n == 0x85 || n == 0xA0 || n == 0x1680 ||
  (0x2000 ≤ n && n ≤ 0x200A) || n == 0x2028 || n == 0x2029 || n == 0x202F || n == 0x205F ||
  n == 0x3000

/-- Space, tab, line feed and carriage return. -/
def isGap (c : Char) : Bool :=
  c == ' ' || c == '\t' || c == '\n' || c == '\r'

/-- A gap is blank. -/
theorem isBlank_of_isGap {c : Char} (h : isGap c = true) : isBlank c = true := by
  simp only [isGap, Bool.or_eq_true, beq_iff_eq] at h
  rcases h with ((rfl | rfl) | rfl) | rfl <;> rfl

/-- The characters without the blanks in front. -/
def trimLeft (cs : List Char) : List Char := cs.dropWhile isBlank

/-- The characters without the blanks at the end. -/
def trimRight (cs : List Char) : List Char := (cs.reverse.dropWhile isBlank).reverse

/-- The characters without the blanks at either end. -/
def trim (cs : List Char) : List Char := trimRight (trimLeft cs)

/-- A text without the blanks at either end. -/
def trimmed (s : String) : String := .ofList (trim s.toList)

/-- The maximal runs of characters outside `isSeparator`, the empty ones left out. -/
def runsWithout (isSeparator : Char → Bool) : List Char → List (List Char)
  | [] => []
  | c :: rest =>
    if isSeparator c then runsWithout isSeparator rest
    else match rest, runsWithout isSeparator rest with
      | d :: _, word :: words =>
        if isSeparator d then [c] :: word :: words else (c :: word) :: words
      | _, words => [c] :: words

/-- The words of a text, which blanks separate. -/
def words (s : String) : List String := (runsWithout isBlank s.toList).map .ofList

/-- A text in lower case as far as ASCII letters go. -/
def asciiLower (s : String) : String := .ofList (s.toList.map Char.toLower)

/-- Whether two texts agree up to the case of ASCII letters. -/
def sameLetters (s t : String) : Bool := asciiLower s == asciiLower t

end CloudDirector.Text
