import CloudDirector.Text.Blank
import Mathlib.Data.List.TakeWhile

/-!
# Runs of characters

Readers take as many characters of a class as there are.  Where such a run ends, it can be told from
what follows it.  Trimming is the same with blanks at either end: it changes a text only if a blank
is there, and does not see how many there are.
-/

namespace CloudDirector.Text

variable {p : Char → Bool} {m : Char} {cs run rest : List Char}

/-- What comes next is not in the class of characters. -/
def Stops (p : Char → Bool) (rest : List Char) : Prop := ∀ c ∈ rest.head?, p c = false

lemma stops_cons (h : p m = false) : Stops p (m :: rest) := by
  rintro c ⟨⟩
  exact h

lemma stops_dropWhile (p : Char → Bool) (cs : List Char) : Stops p (cs.dropWhile p) := by
  intro c hc
  have hhead := List.head?_dropWhile_not p cs
  rwa [hc] at hhead

lemma dropWhile_of_stops (h : Stops p cs) : cs.dropWhile p = cs := by
  cases cs with
  | nil => rfl
  | cons c cs => rw [List.dropWhile_cons_of_neg (by simp [h c rfl])]

lemma takeWhile_append_of_stops (hrun : ∀ c ∈ run, p c = true) (hrest : Stops p rest) :
    (run ++ rest).takeWhile p = run ∧ (run ++ rest).dropWhile p = rest := by
  rw [List.takeWhile_append_of_pos hrun, List.dropWhile_append_of_pos hrun]
  cases rest with
  | nil => simp
  | cons c rest => simp [hrest c rfl]

/-- Where runs of one class of characters end, they can be told from what follows. -/
lemma eq_of_append_eq_append {run' rest' : List Char} (hrun : ∀ c ∈ run, p c = true)
    (hrest : Stops p rest) (hrun' : ∀ c ∈ run', p c = true) (hrest' : Stops p rest')
    (h : run ++ rest = run' ++ rest') : run = run' ∧ rest = rest' := by
  obtain ⟨htake, hdrop⟩ := takeWhile_append_of_stops hrun hrest
  obtain ⟨htake', hdrop'⟩ := takeWhile_append_of_stops hrun' hrest'
  rw [h] at htake hdrop
  exact ⟨htake.symm.trans htake', hdrop.symm.trans hdrop'⟩

/-! ## Trimming -/

lemma isBlank_of_isDigit {c : Char} (h : c.isDigit = true) : isBlank c = false := by
  rw [Char.isDigit, Bool.and_eq_true, decide_eq_true_iff, decide_eq_true_iff] at h
  have hlow : 48 ≤ c.toNat := h.1
  have hhigh : c.toNat ≤ 57 := h.2
  simp only [isBlank, Bool.or_eq_false_iff, Bool.and_eq_false_iff, beq_eq_false_iff_ne,
    decide_eq_false_iff_not]
  omega

lemma trim_eq_self (hstart : Stops isBlank cs) (hend : Stops isBlank cs.reverse) :
    trim cs = cs := by
  rw [trim, trimLeft, dropWhile_of_stops hstart, trimRight, dropWhile_of_stops hend,
    List.reverse_reverse]

lemma trim_eq_self_of_forall (h : ∀ c ∈ cs, isBlank c = false) : trim cs = cs :=
  trim_eq_self (fun c hc => h c (List.mem_of_mem_head? hc))
    fun c hc => h c (List.mem_reverse.1 (List.mem_of_mem_head? hc))

lemma trimRight_append (h : ∀ c ∈ rest, isBlank c = true) (cs : List Char) :
    trimRight (cs ++ rest) = trimRight cs := by
  rw [trimRight, List.reverse_append, List.dropWhile_append_of_pos (by simpa using h), trimRight]

lemma trim_append (h : ∀ c ∈ rest, isBlank c = true) (cs : List Char) :
    trim (cs ++ rest) = trim cs := by
  rw [trim, trim, trimLeft, trimLeft, List.dropWhile_append]
  split
  · next hblank =>
    rw [List.isEmpty_iff.1 hblank, List.dropWhile_eq_nil_iff.2 h]
  · exact trimRight_append h _

/-- Blanks in front are trimmed, however many there are. -/
lemma trim_blanks_append (h : ∀ c ∈ run, isBlank c = true) (cs : List Char) :
    trim (run ++ cs) = trim cs := by
  rw [trim, trim, trimLeft, trimLeft, List.dropWhile_append_of_pos h]

lemma exists_blanks_trimRight (cs : List Char) :
    ∃ blanks, (∀ c ∈ blanks, isBlank c = true) ∧ cs = trimRight cs ++ blanks := by
  refine ⟨(cs.reverse.takeWhile isBlank).reverse, fun c hc => ?_, ?_⟩
  · exact List.mem_takeWhile_imp (List.mem_reverse.1 hc)
  · rw [trimRight, ← List.reverse_append, List.takeWhile_append_dropWhile, List.reverse_reverse]

/-- What is trimmed are blanks at either end. -/
lemma exists_blanks_trim (cs : List Char) :
    ∃ before after, (∀ c ∈ before, isBlank c = true) ∧ (∀ c ∈ after, isBlank c = true) ∧
      cs = before ++ trim cs ++ after := by
  obtain ⟨after, hafter, htrim⟩ := exists_blanks_trimRight (trimLeft cs)
  refine ⟨cs.takeWhile isBlank, after, fun c hc => List.mem_takeWhile_imp hc, hafter, ?_⟩
  rw [List.append_assoc, trim, ← htrim]
  exact List.takeWhile_append_dropWhile.symm

/-- After one more character that is no blank, the blanks before it stay. -/
lemma exists_blanks_trim_concat (hm : isBlank m = false) (hne : trim cs ≠ []) :
    ∃ blanks, (∀ c ∈ blanks, isBlank c = true) ∧ trim (cs ++ [m]) = trim cs ++ blanks ++ [m] := by
  obtain ⟨blanks, hblanks, hcs⟩ := exists_blanks_trimRight (trimLeft cs)
  refine ⟨blanks, hblanks, ?_⟩
  have hleft : trimLeft (cs ++ [m]) = trimLeft cs ++ [m] := by
    rw [trimLeft, List.dropWhile_append, if_neg]
    · rfl
    · intro hempty
      rw [trim, show trimLeft cs = [] from List.isEmpty_iff.1 hempty] at hne
      exact hne rfl
  have hright (cs : List Char) : trimRight (cs ++ [m]) = cs ++ [m] := by
    rw [trimRight, List.reverse_concat, List.dropWhile_cons_of_neg (by simp [hm]),
      List.reverse_cons, List.reverse_reverse]
  rw [trim, hleft, hright]
  exact congrArg (· ++ [m]) hcs

/-- A text that trimming keeps starts with no blank. -/
lemma stops_isBlank_of_trim_eq_self (h : trim cs = cs) : Stops isBlank cs := by
  have hlength : (trimRight (trimLeft cs)).length ≤ (trimLeft cs).length := by
    have hle := (List.dropWhile_sublist isBlank (l := (trimLeft cs).reverse)).length_le
    rwa [List.length_reverse, ← List.length_reverse] at hle
  have hsublist : (trimLeft cs).Sublist cs := List.dropWhile_sublist isBlank
  rw [trim] at h
  rw [h] at hlength
  rw [← hsublist.eq_of_length_le hlength]
  exact stops_dropWhile isBlank cs

end CloudDirector.Text
