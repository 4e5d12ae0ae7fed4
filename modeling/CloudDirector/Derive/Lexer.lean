import CloudDirector.Derive.Token
import CloudDirector.Text.Alphanumeric
import CloudDirector.Text.Blank

/-!
# Cutting code into tokens

The text is cut into lexemes, which are tokens or single brackets, and the brackets are then
paired with a stack of those that are open.  Blanks and comments separate lexemes and leave none,
except that a documentation comment stands for the attribute `#[doc = "..."]`.
-/

namespace CloudDirector.Derive

open Text (isBlank isAlphanumeric)

/-- A piece of code: a token without brackets, or a bracket. -/
inductive Lexeme where
  | token (t : Token)
  | opening (bracket : Bracket)
  | closing (bracket : Bracket)

namespace Lexeme

/-! ## Characters -/

/-- Whether a character may stand in a word. -/
def isWordChar (c : Char) : Bool := isAlphanumeric c || c == '_'

/-- Whether a character may start a word. -/
def isWordStart (c : Char) : Bool := isWordChar c && !c.isDigit

/-- Whether a character is a token by itself. -/
def isMark (c : Char) : Bool := "~!@#$%^&*-=+|;:,<.>/?'".toList.contains c

/-- Whether a character only separates tokens; the two marks of writing direction do as well. -/
def isSeparator (c : Char) : Bool := isBlank c || c.toNat == 0x200E || c.toNat == 0x200F

/-! ## Literals -/

/-- The rest of a literal up to its closing quote, which is included; `read` holds what comes
before in reverse order.  A backslash takes the next character with it. -/
def scanQuoted (quote : Char) (read : List Char) : List Char → Option (List Char × List Char)
  | [] => none
  | '\\' :: c :: rest => scanQuoted quote (c :: '\\' :: read) rest
  | c :: rest =>
    if c = quote then some ((c :: read).reverse, rest) else scanQuoted quote (c :: read) rest

/-- The rest of a raw string literal up to the quote that the given number of hashes follows, all of
them included. -/
def scanRaw (hashes : Nat) (read : List Char) : List Char → Option (List Char × List Char)
  | [] => none
  | c :: rest =>
    if c = '"' ∧ rest.take hashes = List.replicate hashes '#' then
      some ((c :: read).reverse ++ List.replicate hashes '#', rest.drop hashes)
    else scanRaw hashes (c :: read) rest

/-- A literal with the word that follows it without a gap. -/
def withSuffix : List Char × List Char → List Lexeme × List Char
  | (text, c :: after) =>
    if isWordStart c then
      ([token (.literal (.ofList (text ++ c :: after.takeWhile isWordChar)))],
        after.dropWhile isWordChar)
    else ([token (.literal (.ofList text))], c :: after)
  | (text, []) => ([token (.literal (.ofList text))], [])

/-- The point of a number with the digits behind it.  A second point, or a word, makes the point
no part of the number. -/
def fraction : List Char → List Char × List Char
  | '.' :: c :: rest =>
    if c = '.' ∨ isWordStart c then ([], '.' :: c :: rest)
    else ('.' :: (c :: rest).takeWhile isWordChar, (c :: rest).dropWhile isWordChar)
  | ['.'] => (['.'], [])
  | rest => ([], rest)

/-- The sign of an exponent with the digits behind it, given the number up to there. -/
def exponent (number : List Char) : List Char → List Char × List Char
  | c :: rest =>
    if (c = '+' ∨ c = '-') ∧ number.getLast?.any (fun e => e == 'e' || e == 'E') ∧
        ¬ number.contains 'x' then
      (c :: rest.takeWhile isWordChar, rest.dropWhile isWordChar)
    else ([], c :: rest)
  | [] => ([], [])

/-! ## Comments -/

/-- The rest of a block comment after what ends it, and the text before that; blocks nest. -/
def scanBlock (depth : Nat) (read : List Char) : List Char → Option (List Char × List Char)
  | [] => none
  | '*' :: '/' :: rest =>
    if depth = 0 then some (read.reverse, rest) else scanBlock (depth - 1) ('/' :: '*' :: read) rest
  | '/' :: '*' :: rest => scanBlock (depth + 1) ('*' :: '/' :: read) rest
  | c :: rest => scanBlock depth (c :: read) rest

/-- The attribute that a documentation comment stands for. -/
def documentation (text : List Char) : List Lexeme :=
  [token (.mark '#'),
    token (.group .square [.word "doc", .mark '=', .string (.ofList text)])]

/-- The rest of a line. -/
def lineText (cs : List Char) : List Char :=
  let line := cs.takeWhile (· != '\n')
  if line.getLast? = some '\r' then line.dropLast else line

/-- What a line comment stands for, given what follows its two slashes.  Exactly three slashes
document what comes next. -/
def ofLine : List Char → List Lexeme
  | '/' :: text => if text.head? = some '/' then [] else documentation (lineText text)
  | _ => []

/-- What a block comment stands for, given the text inside.  Exactly two stars at its start
document what comes next. -/
def ofBlock : List Char → List Lexeme
  | '*' :: c :: text => if c = '*' then [] else documentation (c :: text)
  | _ => []

/-! ## Lexemes -/

/-- A number, given its first run of letters and digits and what follows. -/
def ofNumber (run rest : List Char) : List Lexeme × List Char :=
  let (behindPoint, rest) := fraction rest
  let (behindSign, rest) := exponent (run ++ behindPoint) rest
  ([token (.literal (.ofList (run ++ behindPoint ++ behindSign)))], rest)

/-- What a word starts, given its characters and what follows it. -/
def ofWord (name rest : List Char) : Option (List Lexeme × List Char) :=
  let hashes := rest.takeWhile (· == '#')
  match name, rest, rest.dropWhile (· == '#') with
  | ['r'], _, '"' :: after | ['b', 'r'], _, '"' :: after | ['c', 'r'], _, '"' :: after =>
    (scanRaw hashes.length ('"' :: hashes ++ name.reverse) after).map withSuffix
  | ['b'], '"' :: after, _ | ['c'], '"' :: after, _ =>
    (scanQuoted '"' ('"' :: name.reverse) after).map withSuffix
  | ['b'], '\'' :: after, _ => (scanQuoted '\'' ['\'', 'b'] after).map withSuffix
  | ['r'], '#' :: d :: after, _ =>
    if isWordStart d then
      some ([token (.word (.ofList ('r' :: '#' :: d :: after.takeWhile isWordChar)))],
        after.dropWhile isWordChar)
    else some ([token (.word "r")], rest)
  | _, _, _ => some ([token (.word (.ofList name))], rest)

/-- The lexemes that start with a character, and what follows them. -/
def next? (c : Char) (rest : List Char) : Option (List Lexeme × List Char) :=
  match c, rest with
  | '(', rest => some ([opening .round], rest)
  | ')', rest => some ([closing .round], rest)
  | '[', rest => some ([opening .square], rest)
  | ']', rest => some ([closing .square], rest)
  | '\x7b', rest => some ([opening .curly], rest)
  | '\x7d', rest => some ([closing .curly], rest)
  | '"', rest => (scanQuoted '"' ['"'] rest).map withSuffix
  | '\'', '\\' :: d :: rest => (scanQuoted '\'' [d, '\\', '\''] rest).map withSuffix
  | '\'', d :: '\'' :: rest => some (withSuffix (['\'', d, '\''], rest))
  | '/', '/' :: rest => some (ofLine rest, rest.dropWhile (· != '\n'))
  | '/', '*' :: rest => (scanBlock 0 [] rest).map fun (text, after) => (ofBlock text, after)
  | c, rest =>
    if c.isDigit then some (ofNumber (c :: rest.takeWhile isWordChar) (rest.dropWhile isWordChar))
    else if isWordStart c then ofWord (c :: rest.takeWhile isWordChar) (rest.dropWhile isWordChar)
    else if isMark c then some ([token (.mark c)], rest)
    else none

/-! ## What follows is shorter -/

theorem scanQuoted_length {quote : Char} {read cs text after : List Char}
    (h : scanQuoted quote read cs = some (text, after)) : after.length < cs.length := by
  fun_induction scanQuoted quote read cs with
  | case1 => simp at h
  | case2 read c rest ih =>
    have := ih h
    simp only [List.length_cons]
    omega
  | case3 read rest =>
    cases h
    simp
  | case4 read c rest _ _ ih =>
    have := ih h
    simp only [List.length_cons]
    omega

theorem scanRaw_length {hashes : Nat} {read cs text after : List Char}
    (h : scanRaw hashes read cs = some (text, after)) : after.length < cs.length := by
  fun_induction scanRaw hashes read cs with
  | case1 => simp at h
  | case2 read c rest =>
    cases h
    simp only [List.length_drop, List.length_cons]
    omega
  | case3 read c rest _ ih =>
    have := ih h
    simp only [List.length_cons]
    omega

theorem scanBlock_length {depth : Nat} {read cs text after : List Char}
    (h : scanBlock depth read cs = some (text, after)) : after.length < cs.length := by
  fun_induction scanBlock depth read cs with
  | case1 => simp at h
  | case2 read rest =>
    cases h
    simp only [List.length_cons]
    omega
  | case3 _ read rest _ ih | case4 _ read rest ih | case5 _ read c rest _ _ ih =>
    have := ih h
    simp only [List.length_cons]
    omega

theorem dropWhile_length_le (p : Char → Bool) (cs : List Char) :
    (cs.dropWhile p).length ≤ cs.length :=
  (List.dropWhile_sublist p).length_le

theorem withSuffix_length (text rest : List Char) :
    (withSuffix (text, rest)).2.length ≤ rest.length := by
  unfold withSuffix
  split
  · rename_i heq
    cases heq
    split
    · exact Nat.le_succ_of_le (dropWhile_length_le _ _)
    · exact Nat.le_refl _
  · rename_i heq
    cases heq
    exact Nat.le_refl _

/-- A literal whose scan leaves less than it was given leaves no more with its suffix. -/
theorem map_withSuffix_length {scanned : Option (List Char × List Char)} {n : Nat}
    {lexemes : List Lexeme} {after : List Char}
    (bound : ∀ text rest, scanned = some (text, rest) → rest.length ≤ n)
    (h : scanned.map withSuffix = some (lexemes, after)) : after.length ≤ n := by
  obtain ⟨⟨text, rest⟩, hs, he⟩ := Option.map_eq_some_iff.1 h
  have := withSuffix_length text rest
  rw [he] at this
  exact Nat.le_trans this (bound text rest hs)

theorem fraction_length (rest : List Char) : (fraction rest).2.length ≤ rest.length := by
  unfold fraction
  split
  · split
    · exact Nat.le_refl _
    · exact Nat.le_succ_of_le (dropWhile_length_le _ _)
  · simp
  · exact Nat.le_refl _

theorem exponent_length (number rest : List Char) :
    (exponent number rest).2.length ≤ rest.length := by
  unfold exponent
  split
  · split
    · exact Nat.le_succ_of_le (dropWhile_length_le _ _)
    · exact Nat.le_refl _
  · exact Nat.le_refl _

theorem ofNumber_length (run rest : List Char) : (ofNumber run rest).2.length ≤ rest.length :=
  Nat.le_trans (exponent_length _ _) (fraction_length rest)

theorem ofWord_length {name rest after : List Char} {lexemes : List Lexeme}
    (h : ofWord name rest = some (lexemes, after)) : after.length ≤ rest.length := by
  have raw {hashes : Nat} {read inside : List Char} (hd : rest.dropWhile (· == '#') = '"' :: inside)
      (h : (scanRaw hashes read inside).map withSuffix = some (lexemes, after)) :
      after.length ≤ rest.length := by
    have := dropWhile_length_le (· == '#') rest
    rw [hd, List.length_cons] at this
    exact map_withSuffix_length (fun _ _ hs => by have := scanRaw_length hs; omega) h
  have quoted {quote : Char} {read inside : List Char} (hr : inside.length ≤ rest.length)
      (h : (scanQuoted quote read inside).map withSuffix = some (lexemes, after)) :
      after.length ≤ rest.length :=
    map_withSuffix_length (fun _ _ hs => by have := scanQuoted_length hs; omega) h
  unfold ofWord at h
  dsimp only at h
  split at h
  · exact raw (by assumption) h
  · exact raw (by assumption) h
  · exact raw (by assumption) h
  · exact quoted (by simp) h
  · exact quoted (by simp) h
  · exact quoted (by simp) h
  · split at h
    · cases h
      refine Nat.le_trans (dropWhile_length_le _ _) ?_
      simp only [List.length_cons]
      omega
    · cases h
      exact Nat.le_refl _
  · cases h
    exact Nat.le_refl _

/-- What follows the lexemes that start with a character is no longer than what follows the
character. -/
theorem next?_length {c : Char} {rest after : List Char} {lexemes : List Lexeme}
    (h : next? c rest = some (lexemes, after)) : after.length ≤ rest.length := by
  have quoted {quote : Char} {read inside : List Char} (hr : inside.length ≤ rest.length)
      (h : (scanQuoted quote read inside).map withSuffix = some (lexemes, after)) :
      after.length ≤ rest.length :=
    map_withSuffix_length (fun _ _ hs => by have := scanQuoted_length hs; omega) h
  unfold next? at h
  split at h
  case h_7 => exact quoted (Nat.le_refl _) h
  case h_8 =>
    refine quoted ?_ h
    simp only [List.length_cons]
    omega
  case h_9 d inside _ =>
    have hw := withSuffix_length ['\'', d, '\''] inside
    rw [Option.some.inj h] at hw
    change after.length ≤ inside.length at hw
    simp only [List.length_cons]
    omega
  case h_10 =>
    cases h
    exact Nat.le_succ_of_le (dropWhile_length_le _ _)
  case h_11 =>
    obtain ⟨⟨text, b⟩, hs, he⟩ := Option.map_eq_some_iff.1 h
    cases he
    have := scanBlock_length hs
    simp only [List.length_cons]
    omega
  case h_12 =>
    have short := dropWhile_length_le isWordChar
    split at h
    · have hn := ofNumber_length (c :: rest.takeWhile isWordChar) (rest.dropWhile isWordChar)
      rw [Option.some.inj h] at hn
      exact Nat.le_trans hn (short rest)
    · split at h
      · exact Nat.le_trans (ofWord_length h) (short rest)
      · split at h
        · cases h
          exact Nat.le_refl _
        · simp at h
  all_goals
    cases h
    exact Nat.le_refl _

/-! ## Code -/

/-- The lexemes of a text. -/
def ofChars? (cs : List Char) : Option (List Lexeme) :=
  match cs with
  | [] => some []
  | c :: rest =>
    if isSeparator c then ofChars? rest
    else match h : next? c rest with
      | some (lexemes, after) =>
        have := next?_length h
        (ofChars? after).map (lexemes ++ ·)
      | none => none
termination_by cs.length

/-- The tokens of a list of lexemes.  `read` holds the tokens of the innermost open bracket in
reverse order, and `outer` the brackets that are open with the tokens before each, likewise. -/
def pair (outer : List (Bracket × List Token)) (read : List Token) :
    List Lexeme → Option (List Token)
  | [] => if outer.isEmpty then some read.reverse else none
  | token t :: rest => pair outer (t :: read) rest
  | opening bracket :: rest => pair ((bracket, read) :: outer) [] rest
  | closing bracket :: rest =>
    match outer with
    | (opened, before) :: outer =>
      if opened = bracket then pair outer (.group bracket read.reverse :: before) rest else none
    | [] => none

mutual

/-- The lexemes of a token. -/
def ofToken : Token → List Lexeme
  | .group bracket inside => opening bracket :: (ofTokens inside ++ [closing bracket])
  | .word name => [token (.word name)]
  | .literal spelling => [token (.literal spelling)]
  | .mark c => [token (.mark c)]

/-- The lexemes of a list of tokens. -/
def ofTokens : List Token → List Lexeme
  | [] => []
  | t :: rest => ofToken t ++ ofTokens rest

end

mutual

/-- The lexemes of a token are paired to that token. -/
theorem pair_ofToken (outer : List (Bracket × List Token)) (read : List Token) (t : Token)
    (rest : List Lexeme) : pair outer read (ofToken t ++ rest) = pair outer (t :: read) rest := by
  cases t with
  | word => rfl
  | literal => rfl
  | mark => rfl
  | group bracket inside =>
    rw [ofToken, List.cons_append, List.append_assoc, pair, pair_ofTokens, List.singleton_append,
      pair, if_pos rfl, List.append_nil, List.reverse_reverse]

/-- The lexemes of tokens are paired to those tokens. -/
theorem pair_ofTokens (outer : List (Bracket × List Token)) (read tokens : List Token)
    (rest : List Lexeme) :
    pair outer read (ofTokens tokens ++ rest) = pair outer (tokens.reverse ++ read) rest := by
  cases tokens with
  | nil => rfl
  | cons t tokens =>
    rw [ofTokens, List.append_assoc, pair_ofToken, pair_ofTokens, List.reverse_cons,
      List.append_assoc, List.singleton_append]

end

/-- Pairing gives back the tokens whose lexemes are paired. -/
theorem pair_ofTokens_self (tokens : List Token) : pair [] [] (ofTokens tokens) = some tokens := by
  have := pair_ofTokens [] [] tokens []
  rwa [List.append_nil, List.append_nil, pair, List.isEmpty_nil, if_pos rfl,
    List.reverse_reverse] at this

end Lexeme

/-- The tokens of a text, if it is code. -/
def Token.ofString? (text : String) : Option (List Token) :=
  (Lexeme.ofChars? text.toList).bind (Lexeme.pair [] [])

end CloudDirector.Derive
