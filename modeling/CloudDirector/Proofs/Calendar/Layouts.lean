import CloudDirector.Proofs.Calendar.Parts

/-!
# Layouts have no text in common

Two layouts start with the same parts, which read the same.  Where they part, the next character of
the text tells which of them it follows: one of them needs the end of the text or a mark there, and
the other cannot start with it.  So no text follows two of the layouts of dates, of local dates and
times, and of those with a distance from UTC, however leniently their numbers are read; and the order
in which layouts are tried does not matter.
-/

namespace CloudDirector.Calendar

open Text

variable {cs rest : List Char} {part : Part} {parts parts' layout layout' : List Part}
  {fields fields' g : Fields}

/-! ## How a text starts -/

/-- Whether the character is the sign of a distance from UTC. -/
def isSign (c : Char) : Bool := c == '+' || c == '-' || c == '−'

/-- Whether a text may start with a character, or be empty, if the parts read it. -/
def canStart : List Part → Option Char → Bool
  | [], c => c.isNone
  | .mark m :: _, c => c == some m
  | .year :: _, c => c.any fun c => c.isDigit || isSign c || isBlank c
  | .offset :: _, c => c.any fun c => isSign c || isBlank c
  | .fraction :: parts, c => c == some '.' || canStart parts c
  | .gap :: parts, c => c.any isBlank || canStart parts c
  | .month :: _, c | .day :: _, c | .hour :: _, c | .minute :: _, c | .second :: _, c =>
    c.any fun c => c.isDigit || isBlank c

/-- The one way in which a text starts that the parts read, if they start with a mark or are none. -/
def onlyStart? : List Part → Option (Option Char)
  | [] => some none
  | .mark m :: _ => some (some m)
  | _ => none

lemma eq_of_onlyStart? {c c' : Option Char} (h : onlyStart? parts = some c)
    (hc' : canStart parts c' = true) : c' = c := by
  rw [onlyStart?.eq_def] at h
  split at h
  · cases h
    simpa [canStart] using hc'
  · cases h
    simpa [canStart] using hc'
  · cases h

/-- A text starts with what follows the blanks in front, or with a blank. -/
lemma any_head?_of_trimLeft {p : Char → Bool} (h : (trimLeft cs).head?.any p = true) :
    cs.head?.any (fun c => p c || isBlank c) = true := by
  cases cs with
  | nil => cases h
  | cons c cs =>
    cases hc : isBlank c with
    | true => simp [hc]
    | false =>
      rw [show trimLeft (c :: cs) = c :: cs from dropWhile_of_stops (stops_cons hc)] at h
      simpa [hc] using h

lemma any_head?_of_readNumber {limit n : Nat} (h : readNumber limit cs = some (n, rest)) :
    cs.head?.any Char.isDigit = true := by
  obtain ⟨digits, rfl, hne, htaken, -⟩ := readNumber_eq_some_iff.1 h
  obtain ⟨c, digits, rfl⟩ := List.exists_cons_of_ne_nil hne
  exact htaken.isDigit c List.mem_cons_self

lemma any_head?_of_readYear {n : Int} (h : readYear cs = some (n, rest)) :
    cs.head?.any (fun c => c.isDigit || isSign c) = true := by
  rw [readYear.eq_def] at h
  split at h
  · rfl
  · rfl
  · obtain ⟨_, hread, -⟩ := Option.map_eq_some_iff.1 h
    obtain ⟨c, hc, hdigit⟩ := (Option.any_eq_true ..).1 (any_head?_of_readNumber hread)
    exact (Option.any_eq_true ..).2 ⟨c, hc, by simp [hdigit]⟩

lemma any_head?_of_readOffset {separator : List Char → Option (List Char)} {n : Int}
    (h : readOffset separator cs = some (n, rest)) : cs.head?.any isSign = true := by
  cases cs with
  | nil => cases h
  | cons c cs =>
    cases hc : isSign c with
    | true => simp [hc]
    | false =>
      have hsign : c ≠ '+' ∧ ¬(c = '-' ∨ c = '−') := by
        simpa [isSign, and_assoc] using hc
      rw [readOffset, if_neg hsign.1, if_neg hsign.2] at h
      cases h

lemma canStart_of_readParts (h : readParts parts fields cs = some (fields', [])) :
    canStart parts cs.head? = true := by
  induction parts generalizing fields cs with
  | nil =>
    cases h
    rfl
  | cons part parts ih =>
    obtain ⟨⟨next, rest⟩, hpart, hrest⟩ := Option.bind_eq_some_iff.1 h
    cases part with
    | year =>
      obtain ⟨_, hread, -⟩ := Option.map_eq_some_iff.1 hpart
      exact any_head?_of_trimLeft (any_head?_of_readYear hread)
    | month | day | hour | minute | second =>
      obtain ⟨_, hread, -⟩ := Option.map_eq_some_iff.1 hpart
      exact any_head?_of_trimLeft (any_head?_of_readNumber hread)
    | offset =>
      obtain ⟨_, hread, -⟩ := Option.map_eq_some_iff.1 hpart
      exact any_head?_of_trimLeft (any_head?_of_readOffset hread)
    | mark m =>
      obtain ⟨-, rfl⟩ := read_mark_eq_some_iff.1 hpart
      simp [canStart]
    | fraction =>
      by_cases hpoint : cs.head? = some '.'
      · simp [canStart, hpoint]
      · rw [read_fraction_of_ne hpoint] at hpart
        cases hpart
        simp [canStart, ih hrest]
    | gap =>
      cases hpart
      cases hblank : cs.head?.any isBlank with
      | true => simp [canStart, hblank]
      | false =>
        have htrim : trimLeft cs = cs := dropWhile_of_stops fun c hc => by
          rwa [Option.mem_def.1 hc] at hblank
        rw [htrim] at hrest
        simp [canStart, ih hrest]

/-! ## Where layouts part -/

/-- No text starts in both ways.  One of them has to be the only one of its layout. -/
def startApart (parts parts' : List Part) : Bool :=
  match onlyStart? parts, onlyStart? parts' with
  | some c, _ => !canStart parts' c
  | _, some c => !canStart parts c
  | none, none => false

/-- After the parts that two layouts have in common no text starts in both ways. -/
def diverge : List Part → List Part → Bool
  | part :: parts, part' :: parts' =>
    if part = part' then diverge parts parts' else startApart (part :: parts) (part' :: parts')
  | parts, parts' => startApart parts parts'

lemma not_canStart_of_startApart {c : Option Char} (h : startApart parts parts' = true)
    (hc : canStart parts c = true) : canStart parts' c = false := by
  rw [startApart.eq_def] at h
  split at h
  · next heq =>
    obtain rfl := eq_of_onlyStart? heq hc
    simpa using h
  · next heq _ =>
    by_contra hc'
    obtain rfl := eq_of_onlyStart? heq (Bool.eq_true_of_not_eq_false hc')
    simp [hc] at h
  · cases h

lemma not_readParts_of_startApart (h : startApart parts parts' = true)
    (hparts : readParts parts fields cs = some (fields', [])) :
    readParts parts' fields cs ≠ some (g, []) := by
  intro hparts'
  have hnot := not_canStart_of_startApart h (canStart_of_readParts hparts)
  rw [canStart_of_readParts hparts'] at hnot
  cases hnot

lemma not_readParts_of_diverge (h : diverge parts parts' = true)
    (hparts : readParts parts fields cs = some (fields', [])) :
    readParts parts' fields cs ≠ some (g, []) := by
  induction parts, parts' using diverge.induct generalizing fields cs with
  | case1 parts part parts' ih =>
    rw [diverge, if_pos rfl] at h
    obtain ⟨⟨next, rest⟩, hpart, hrest⟩ := Option.bind_eq_some_iff.1 hparts
    rw [readParts, hpart]
    exact ih h hrest
  | case2 part parts part' parts' hne =>
    rw [diverge, if_neg hne] at h
    exact not_readParts_of_startApart h hparts
  | case3 parts parts' hcons =>
    rw [diverge.eq_2 _ _ hcons] at h
    exact not_readParts_of_startApart h hparts

lemma readLayout_eq_some_iff {layout : List Part} :
    readLayout layout cs = some fields ↔ readParts layout {} cs = some (fields, []) := by
  rw [readLayout]
  split
  · next h =>
    rw [h]
    simp
  · next h =>
    refine ⟨fun heq => ?_, fun heq => absurd heq (h _)⟩
    cases heq

/-! ## The layouts -/

/-- The layouts that the internet format is a case of, by what may stand between date and time. -/
def internetLayouts : List (List Part) :=
  [.mark 'T', .mark 't', .gap].map fun between =>
    dashedDate ++ [between] ++ colonSeconds ++ [.offset]

/-- The layouts of a date alone, of a local date and time, and of one with a distance from UTC. -/
def layouts : List (List Part) :=
  dateLayouts ++ localLayouts ++ localLayouts.map (· ++ [.offset]) ++ internetLayouts

lemma diverge_of_mem_layouts :
    ∀ layout ∈ layouts, ∀ layout' ∈ layouts, layout = layout' ∨ diverge layout layout' = true := by
  decide

/-- No text follows two layouts. -/
lemma eq_of_readLayout {layout layout' : List Part} (hmem : layout ∈ layouts)
    (hmem' : layout' ∈ layouts) (h : readLayout layout cs = some fields)
    (h' : readLayout layout' cs = some fields') : layout = layout' := by
  rw [readLayout_eq_some_iff] at h h'
  refine (diverge_of_mem_layouts layout hmem layout' hmem').resolve_right fun hdiverge => ?_
  exact not_readParts_of_diverge hdiverge h h'

end CloudDirector.Calendar
