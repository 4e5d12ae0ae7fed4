/-!
# Splitting texts

Texts are cut at separators: at every one, at the first or at the last.
-/

namespace CloudDirector.Text

/-- Pieces between separators, the empty ones kept. -/
def pieces (isSeparator : Char → Bool) : List Char → List (List Char)
  | [] => [[]]
  | c :: rest =>
    if isSeparator c then [] :: pieces isSeparator rest
    else match pieces isSeparator rest with
      | piece :: more => (c :: piece) :: more
      | [] => [[c]]

/-- What is in front of the first separator, and what follows it if there is one. -/
def splitFirst (separator : Char) : List Char → List Char × Option (List Char)
  | [] => ([], none)
  | c :: rest =>
    if c = separator then ([], some rest)
    else
      let (front, after) := splitFirst separator rest
      (c :: front, after)

/-- What is in front of the last separator and what follows it. -/
def splitLast? (separator : Char) : List Char → Option (List Char × List Char)
  | [] => none
  | c :: rest =>
    match splitLast? separator rest with
    | some (front, after) => some (c :: front, after)
    | none => if c = separator then some ([], rest) else none

/-- Whether a part stands somewhere in a text. -/
def hasPart (part : List Char) : List Char → Bool
  | [] => part.isEmpty
  | c :: rest => part.isPrefixOf (c :: rest) || hasPart part rest

/-- The two sides of the first separator make up the text. -/
theorem splitFirst_some {separator : Char} {cs front after : List Char}
    (h : splitFirst separator cs = (front, some after)) : cs = front ++ separator :: after := by
  induction cs generalizing front with
  | nil => simp [splitFirst] at h
  | cons c rest ih =>
    by_cases hc : c = separator
    · simp [splitFirst, hc] at h
      obtain ⟨rfl, rfl⟩ := h
      simp [hc]
    · simp [splitFirst, hc] at h
      obtain ⟨rfl, h2⟩ := h
      simpa using ih (Prod.ext rfl h2)

/-- A text without the separator is all in front. -/
theorem splitFirst_none {separator : Char} {cs front : List Char}
    (h : splitFirst separator cs = (front, none)) : front = cs := by
  induction cs generalizing front with
  | nil => simpa [splitFirst] using h.symm
  | cons c rest ih =>
    by_cases hc : c = separator
    · simp [splitFirst, hc] at h
    · simp [splitFirst, hc] at h
      obtain ⟨rfl, h2⟩ := h
      simp [ih (Prod.ext rfl h2)]

/-- What has no separator in front of the first one is in front. -/
theorem splitFirst_append {separator : Char} {front : List Char} (h : separator ∉ front)
    (after : List Char) : splitFirst separator (front ++ separator :: after) = (front, some after) := by
  induction front with
  | nil => simp [splitFirst]
  | cons c front ih =>
    rw [List.mem_cons, not_or] at h
    rw [List.cons_append, splitFirst, if_neg (Ne.symm h.1), ih h.2]

/-- A text that has no separator is not cut. -/
theorem splitFirst_of_not_mem {separator : Char} {cs : List Char} (h : separator ∉ cs) :
    splitFirst separator cs = (cs, none) := by
  induction cs with
  | nil => rfl
  | cons c cs ih =>
    rw [List.mem_cons, not_or] at h
    rw [splitFirst, if_neg (Ne.symm h.1), ih h.2]

end CloudDirector.Text
