import CloudDirector.Navigation.Link

/-!
# Link headers

The value of a link header lists targets in angle brackets with parameters after them:

    <target>; key=value; key="value", <target>

Commas, semicolons and equality signs inside brackets and quotes belong to the target or value
that they stand in.  A value without quotes ends at the next comma or semicolon; a quote that is
not closed counts as the start of such a value.  Nothing may be left over.
-/

namespace CloudDirector.LinkHeader

open Text (isBlank isGap trim)

/-- An item of a header: a target with its parameters. -/
structure Item where
  target : List Char
  parameters : List (List Char × List Char)
  deriving DecidableEq

/-- Whether a character may stand in the key of a parameter. -/
def isKeyChar (c : Char) : Bool :=
  !(isBlank c || c == ';' || c == ',' || c == '=' || c == '"' || c == '<' || c == '>')

/-- Whether a character belongs to a value without quotes. -/
def isBareChar (c : Char) : Bool := !(c == ';' || c == ',')

/-- Takes away the gaps in front. -/
def skipGaps (cs : List Char) : List Char := cs.dropWhile isGap

/-- Takes away a character with the gaps around it. -/
def skipMark? (m : Char) (cs : List Char) : Option (List Char) :=
  match skipGaps cs with
  | [] => none
  | c :: rest => if c = m then some (skipGaps rest) else none

/-- The text up to a closing mark, and what follows the mark. -/
def upTo? (close : Char) : List Char → Option (List Char × List Char)
  | [] => none
  | c :: rest =>
    if c = close then some ([], rest)
    else (upTo? close rest).map fun (inside, after) => (c :: inside, after)

/-- A value without quotes, and what follows it. -/
def bareValue (cs : List Char) : List Char × List Char :=
  (trim (cs.takeWhile isBareChar), cs.dropWhile isBareChar)

/-- A value, and what follows it. -/
def value : List Char → List Char × List Char
  | '"' :: rest =>
    match upTo? '"' rest with
    | some found => found
    | none => bareValue ('"' :: rest)
  | cs => bareValue cs

/-- The value after a key, empty if it is left out, and what follows it. -/
def valueAfterKey (cs : List Char) : List Char × List Char :=
  match skipMark? '=' cs with
  | some rest => value rest
  | none => ([], cs)

/-- A parameter with the semicolon in front of it, and what follows it. -/
def parameter? (cs : List Char) : Option ((List Char × List Char) × List Char) :=
  match skipMark? ';' cs with
  | none => none
  | some rest =>
    match rest.takeWhile isKeyChar with
    | [] => none
    | key =>
      let (value, after) := valueAfterKey (rest.dropWhile isKeyChar)
      some ((key, value), after)

theorem length_skipGaps_le (cs : List Char) : (skipGaps cs).length ≤ cs.length :=
  (List.dropWhile_sublist _).length_le

/-- A mark is taken away. -/
theorem length_lt_of_skipMark? {m : Char} {cs rest : List Char} (h : skipMark? m cs = some rest) :
    rest.length < cs.length := by
  have hg := length_skipGaps_le cs
  unfold skipMark? at h
  split at h
  · simp at h
  · rename_i c r hc
    split at h
    · cases h
      have := length_skipGaps_le r
      simp only [hc, List.length_cons] at hg
      omega
    · simp at h

theorem length_lt_of_upTo? {close : Char} {cs inside after : List Char}
    (h : upTo? close cs = some (inside, after)) : after.length < cs.length := by
  induction cs generalizing inside with
  | nil => simp [upTo?] at h
  | cons c rest ih =>
    simp only [upTo?] at h
    split at h
    · cases h
      simp
    · obtain ⟨⟨i, a⟩, hf, he⟩ := Option.map_eq_some_iff.1 h
      cases he
      have := ih hf
      simp only [List.length_cons]
      exact Nat.lt_succ_of_lt this

theorem length_value_le (cs : List Char) : (value cs).2.length ≤ cs.length := by
  unfold value
  split
  · rename_i rest
    split
    · rename_i found h
      obtain ⟨inside, after⟩ := found
      have := length_lt_of_upTo? h
      simp only [List.length_cons]
      omega
    · exact (List.dropWhile_sublist _).length_le
  · exact (List.dropWhile_sublist _).length_le

theorem length_valueAfterKey_le (cs : List Char) : (valueAfterKey cs).2.length ≤ cs.length := by
  unfold valueAfterKey
  split
  · rename_i rest h
    have := length_lt_of_skipMark? h
    have := length_value_le rest
    omega
  · exact Nat.le_refl _

/-- What follows a parameter is shorter than the text with it. -/
theorem length_lt_of_parameter? {cs after : List Char} {p : List Char × List Char}
    (h : parameter? cs = some (p, after)) : after.length < cs.length := by
  unfold parameter? at h
  split at h
  · simp at h
  · rename_i rest hm
    split at h
    · simp at h
    · simp only [Option.some.injEq, Prod.mk.injEq] at h
      obtain ⟨_, rfl⟩ := h
      have := length_lt_of_skipMark? hm
      have := length_valueAfterKey_le (rest.dropWhile isKeyChar)
      have := (List.dropWhile_sublist isKeyChar (l := rest)).length_le
      omega

/-- The parameters at the start of a text, and what follows them. -/
def parameters (cs : List Char) : List (List Char × List Char) × List Char :=
  match h : parameter? cs with
  | none => ([], cs)
  | some (p, rest) =>
    have := length_lt_of_parameter? h
    let (ps, after) := parameters rest
    (p :: ps, after)
termination_by cs.length

/-- An item, and what follows it. -/
def item? : List Char → Option (Item × List Char)
  | '<' :: rest =>
    match upTo? '>' rest with
    | some (target, rest) =>
      let (ps, after) := parameters rest
      some (⟨target, ps⟩, after)
    | none => none
  | _ => none

theorem length_parameters_le (cs : List Char) : (parameters cs).2.length ≤ cs.length := by
  fun_induction parameters cs with
  | case1 => exact Nat.le_refl _
  | case2 cs p rest h hlt ps after heq ih =>
    simp only [heq] at ih
    have := length_lt_of_parameter? h
    simp only
    omega

/-- What follows an item is shorter than the text with it. -/
theorem length_lt_of_item? {cs after : List Char} {i : Item} (h : item? cs = some (i, after)) :
    after.length < cs.length := by
  unfold item? at h
  split at h
  · split at h
    · rename_i rest _ target rest' hu
      cases h
      have := length_lt_of_upTo? hu
      have := length_parameters_le rest'
      simp only [List.length_cons]
      omega
    · simp at h
  · simp at h

/-- The items that follow, each after a comma, and what follows them. -/
def moreItems (cs : List Char) : List Item × List Char :=
  match hc : skipMark? ',' cs with
  | none => ([], cs)
  | some rest =>
    match hi : item? rest with
    | none => ([], cs)
    | some (i, rest') =>
      have := length_lt_of_skipMark? hc
      have := length_lt_of_item? hi
      let (is, after) := moreItems rest'
      (i :: is, after)
termination_by cs.length

/-- The items of a header, and what is left over. -/
def items (cs : List Char) : List Item × List Char :=
  let start := skipGaps cs
  match item? start with
  | none => ([], skipGaps start)
  | some (i, rest) =>
    let (is, after) := moreItems rest
    (i :: is, skipGaps after)

/-- The link of an item.  A parameter sets the attribute that its key names in lower case. -/
def Item.link (i : Item) : Link :=
  Link.setAttributes { href := .ofList (trim i.target) } <| i.parameters.map fun (key, value) =>
    (Text.asciiLower (.ofList key), .ofList value)

/-- The links of a header. -/
def parse (header : String) : Result (List Link) :=
  match items header.toList with
  | (is, []) => .ok (is.map Item.link)
  | (_, rest) => .failValue (.badLinkHeader (.ofList rest))

end CloudDirector.LinkHeader
