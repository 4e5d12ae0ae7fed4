import CloudDirector.Proofs.Calendar.Clock

/-!
# What a part of a layout takes

A reader takes characters off the front of a text.  What comes after them matters to it only in so
far as it could have gone on: a number ends where its digits end, and there is a fraction only where
there is a point.  So what was read stays the same when something else comes after it, as long as
that does not start with a digit or a point.
-/

namespace CloudDirector.Calendar

open Text

variable {α β : Type} {cs rest rest' digits : List Char} {limit n : Nat}

/-! ## Digits -/

/-- Every text starts with the digits that are taken. -/
lemma exists_areTaken (limit : Nat) (cs : List Char) :
    ∃ digits rest, cs = digits ++ rest ∧ AreTaken limit digits rest := by
  induction limit generalizing cs with
  | zero => exact ⟨[], cs, rfl, by simp, Nat.le_refl 0, Or.inl rfl⟩
  | succ limit ih =>
    have hnone (h : EndsDigits cs) : ∃ digits rest, cs = digits ++ rest ∧
        AreTaken (limit + 1) digits rest := ⟨[], cs, rfl, by simp, Nat.zero_le _, Or.inr h⟩
    cases cs with
    | nil => exact hnone (by rintro c ⟨⟩)
    | cons c cs =>
      cases hc : c.isDigit with
      | false => exact hnone (by rintro _ ⟨⟩; exact hc)
      | true =>
        obtain ⟨digits, rest, rfl, h⟩ := ih cs
        refine ⟨c :: digits, rest, rfl, ?_, Nat.succ_le_succ h.length_le, ?_⟩
        · simpa [hc] using h.isDigit
        · exact h.ends.imp_left fun hlength => congrArg (· + 1) hlength

lemma readNumber_eq_some_iff : readNumber limit cs = some (n, rest) ↔
    ∃ digits, cs = digits ++ rest ∧ digits ≠ [] ∧ AreTaken limit digits rest ∧
      n = Nat.ofDigitChars 10 digits 0 := by
  constructor
  · intro h
    obtain ⟨digits, rest', rfl, htaken⟩ := exists_areTaken limit cs
    have hne : digits ≠ [] := by
      rintro rfl
      rw [readNumber, readDigits_of_areTaken htaken] at h
      cases h
    rw [readNumber_of_areTaken hne htaken] at h
    cases h
    exact ⟨digits, rfl, hne, htaken, rfl⟩
  · rintro ⟨digits, rfl, hne, htaken, rfl⟩
    exact readNumber_of_areTaken hne htaken

/-! ## What comes after -/

/-- `rest'` goes on like `rest`, or with something that no number and no fraction goes on with. -/
def GoesOnLike (rest rest' : List Char) : Prop :=
  rest'.head? = rest.head? ∨ ∀ c ∈ rest'.head?, c.isDigit = false ∧ c ≠ '.'

lemma GoesOnLike.endsDigits (h : GoesOnLike rest rest') (hrest : EndsDigits rest) :
    EndsDigits rest' := by
  rcases h with hhead | hhead
  · rwa [EndsDigits, hhead]
  · exact fun c hc => (hhead c hc).1

lemma GoesOnLike.areTaken (h : GoesOnLike rest rest') (htaken : AreTaken limit digits rest) :
    AreTaken limit digits rest' :=
  ⟨htaken.isDigit, htaken.length_le, htaken.ends.imp_right h.endsDigits⟩

/-- After more of the text the two go on alike too. -/
lemma GoesOnLike.append (h : GoesOnLike rest rest') (used : List Char) :
    GoesOnLike (used ++ rest) (used ++ rest') := by
  cases used with
  | nil => exact h
  | cons c used => exact Or.inl rfl

/-- The letters that stand for UTC. -/
def isZulu (c : Char) : Bool := c == 'Z' || c == 'z'

/-- The reader takes some characters, none of them a `Z`, and reads them in the same way when
something else comes after them. -/
def TakesFront (read : List Char → Option (α × List Char)) : Prop :=
  ∀ cs a rest, read cs = some (a, rest) → ∃ used, cs = used ++ rest ∧ used ≠ [] ∧
    (∀ c ∈ used, isZulu c = false) ∧
    ∀ rest', GoesOnLike rest rest' → read (used ++ rest') = some (a, rest')

lemma TakesFront.map {read : List Char → Option (α × List Char)} (h : TakesFront read)
    (f : α → β) : TakesFront fun cs => (read cs).map fun (a, rest) => (f a, rest) := by
  intro cs b rest hread
  obtain ⟨⟨a, _⟩, ha, heq⟩ := Option.map_eq_some_iff.1 hread
  cases heq
  obtain ⟨used, hcs, hne, hplain, hused⟩ := h cs a rest ha
  exact ⟨used, hcs, hne, hplain, fun rest' hrest' =>
    Option.map_eq_some_iff.2 ⟨_, hused rest' hrest', rfl⟩⟩

lemma isZulu_eq_true_iff {c : Char} : isZulu c = true ↔ c = 'Z' ∨ c = 'z' := by
  simp [isZulu]

lemma isZulu_of_isBlank {c : Char} (h : isBlank c = true) : isZulu c = false := by
  rw [Bool.eq_false_iff]
  intro hc
  rcases isZulu_eq_true_iff.1 hc with rfl | rfl <;> cases h

lemma isZulu_of_isDigit {c : Char} (h : c.isDigit = true) : isZulu c = false := by
  rw [Bool.eq_false_iff]
  intro hc
  rcases isZulu_eq_true_iff.1 hc with rfl | rfl <;> cases h

/-- Blanks that are skipped first are taken too. -/
lemma TakesFront.trimLeft {read : List Char → Option (α × List Char)} (h : TakesFront read) :
    TakesFront fun cs => read (trimLeft cs) := by
  intro cs a rest hread
  obtain ⟨used, htrim, hne, hplain, hused⟩ := h (Text.trimLeft cs) a rest hread
  have hblank : ∀ c ∈ cs.takeWhile isBlank, isBlank c = true := fun c hc =>
    List.mem_takeWhile_imp hc
  have hstops (after : List Char) : Stops isBlank (used ++ after) := by
    have hstart := stops_dropWhile isBlank cs
    rw [show cs.dropWhile isBlank = used ++ rest from htrim] at hstart
    cases used with
    | nil => exact absurd rfl hne
    | cons c used => exact hstart
  refine ⟨cs.takeWhile isBlank ++ used, ?_, by simp [hne], ?_, fun rest' hrest' => ?_⟩
  · rw [List.append_assoc, ← htrim, Text.trimLeft, List.takeWhile_append_dropWhile]
  · intro c hc
    exact (List.mem_append.1 hc).elim (fun hc => isZulu_of_isBlank (hblank c hc)) (hplain c)
  · have htrim' : Text.trimLeft (cs.takeWhile isBlank ++ (used ++ rest')) = used ++ rest' :=
      (takeWhile_append_of_stops hblank (hstops rest')).2
    change read (Text.trimLeft (cs.takeWhile isBlank ++ used ++ rest')) = _
    rw [List.append_assoc, htrim', hused rest' hrest']

/-! ## Readers -/

lemma takesFront_readNumber (limit : Nat) : TakesFront (readNumber limit) := by
  intro cs n rest h
  obtain ⟨digits, rfl, hne, htaken, rfl⟩ := readNumber_eq_some_iff.1 h
  exact ⟨digits, rfl, hne, fun c hc => isZulu_of_isDigit (htaken.isDigit c hc),
    fun rest' hrest' => readNumber_of_areTaken hne (hrest'.areTaken htaken)⟩

/-- A number may also have as many digits as there are characters. -/
lemma takesFront_readNumber_length : TakesFront fun cs => readNumber cs.length cs := by
  intro cs n rest h
  obtain ⟨digits, rfl, hne, htaken, rfl⟩ := readNumber_eq_some_iff.1 h
  refine ⟨digits, rfl, hne, fun c hc => isZulu_of_isDigit (htaken.isDigit c hc),
    fun rest' hrest' => readNumber_of_areTaken hne ⟨htaken.isDigit, by simp, Or.inr ?_⟩⟩
  refine hrest'.endsDigits (htaken.ends.elim (fun hlength => ?_) id)
  rw [List.eq_nil_of_length_eq_zero (l := rest) (by simpa using hlength)]
  rintro c ⟨⟩

lemma takesFront_readYear : TakesFront readYear := by
  intro cs year rest h
  rw [readYear.eq_def] at h
  split at h
  · next tail =>
    obtain ⟨used, rfl, -, hplain, hused⟩ :=
      (takesFront_readNumber_length.map fun n => -(n : Int)) tail year rest h
    exact ⟨'-' :: used, rfl, by simp, List.forall_mem_cons.2 ⟨rfl, hplain⟩, hused⟩
  · next tail =>
    obtain ⟨used, rfl, -, hplain, hused⟩ :=
      (takesFront_readNumber_length.map fun n => (n : Int)) tail year rest h
    exact ⟨'+' :: used, rfl, by simp, List.forall_mem_cons.2 ⟨rfl, hplain⟩, hused⟩
  · obtain ⟨⟨n, _⟩, hread, heq⟩ := Option.map_eq_some_iff.1 h
    cases heq
    obtain ⟨digits, rfl, hne, htaken, rfl⟩ := readNumber_eq_some_iff.1 hread
    refine ⟨digits, rfl, hne, fun c hc => isZulu_of_isDigit (htaken.isDigit c hc),
      fun rest' hrest' => ?_⟩
    have hread' := readNumber_of_areTaken hne (hrest'.areTaken htaken)
    obtain ⟨c, ds, rfl⟩ := List.exists_cons_of_ne_nil hne
    rw [List.cons_append] at hread' ⊢
    rw [readYear_of_isDigit (htaken.isDigit c List.mem_cons_self), hread']
    rfl

lemma takesFront_readNanos : TakesFront readNanos := by
  intro cs nanos rest h
  have hdigits : ∀ c ∈ cs.takeWhile Char.isDigit, c.isDigit = true := fun c hc =>
    List.mem_takeWhile_imp hc
  have hends : EndsDigits (cs.dropWhile Char.isDigit) := stops_dropWhile Char.isDigit cs
  have hcs : cs.takeWhile Char.isDigit ++ cs.dropWhile Char.isDigit = cs :=
    List.takeWhile_append_dropWhile
  have hne : cs.takeWhile Char.isDigit ≠ [] := by
    intro hnil
    rw [hnil, List.nil_append] at hcs
    rw [readNanos, readDigits_of_endsDigits (hcs ▸ hends)] at h
    cases h
  rw [← hcs, readNanos_append hne hdigits hends] at h
  cases h
  exact ⟨_, hcs.symm, hne, fun c hc => isZulu_of_isDigit (hdigits c hc),
    fun rest' hrest' => readNanos_append hne hdigits (hrest'.endsDigits hends)⟩

/-! ## Parts -/

/-- The part is a number, in front of which blanks are skipped. -/
def Part.isNumber : Part → Bool
  | .year | .month | .day | .hour | .minute | .second => true
  | _ => false

section Parts

variable {part : Part} {parts : List Part} {fields fields' : Fields}

lemma takesFront_read (h : part.isNumber = true) (fields : Fields) :
    TakesFront (part.read fields) := by
  cases part with
  | year => exact takesFront_readYear.trimLeft.map fun n => { fields with year := n }
  | month => exact (takesFront_readNumber 2).trimLeft.map fun n => { fields with month := n }
  | day => exact (takesFront_readNumber 2).trimLeft.map fun n => { fields with day := n }
  | hour => exact (takesFront_readNumber 2).trimLeft.map fun n => { fields with hour := n }
  | minute => exact (takesFront_readNumber 2).trimLeft.map fun n => { fields with minute := n }
  | second => exact (takesFront_readNumber 2).trimLeft.map fun n => { fields with second := n }
  | fraction | offset | mark _ | gap => cases h

lemma read_trimLeft (h : part.isNumber = true) (fields : Fields) (cs : List Char) :
    part.read fields (trimLeft cs) = part.read fields cs := by
  have hidem : trimLeft (trimLeft cs) = trimLeft cs := dropWhile_of_stops (stops_dropWhile _ cs)
  cases part with
  | year | month | day | hour | minute | second => simp only [Part.read, hidem]
  | fraction | offset | mark _ | gap => cases h

lemma read_fraction_of_ne (h : cs.head? ≠ some '.') :
    Part.fraction.read fields cs = some (fields, cs) := by
  simp only [Part.read]
  split
  · exact absurd rfl h
  · rfl

lemma exists_used_of_read_fraction (h : Part.fraction.read fields cs = some (fields', rest)) :
    ∃ used, cs = used ++ rest ∧ (∀ c ∈ used, isZulu c = false) ∧ ∀ rest', GoesOnLike rest rest' →
      Part.fraction.read fields (used ++ rest') = some (fields', rest') := by
  by_cases hpoint : cs.head? = some '.'
  · obtain ⟨tail, rfl⟩ := List.head?_eq_some_iff.1 hpoint
    obtain ⟨used, rfl, -, hplain, hused⟩ :=
      (takesFront_readNanos.map fun n => ({ fields with nanos := n } : Fields)) tail fields' rest h
    exact ⟨'.' :: used, rfl, List.forall_mem_cons.2 ⟨rfl, hplain⟩, hused⟩
  · rw [read_fraction_of_ne hpoint] at h
    cases h
    refine ⟨[], rfl, by simp, fun rest' hrest' => read_fraction_of_ne ?_⟩
    rcases hrest' with hhead | hhead
    · rwa [List.nil_append, hhead]
    · exact fun hpoint' => (hhead '.' hpoint').2 rfl

lemma read_mark_eq_some_iff {m : Char} : (Part.mark m).read fields cs = some (fields', rest) ↔
    fields = fields' ∧ cs = m :: rest := by
  cases cs with
  | nil => simp [Part.read]
  | cons c cs =>
    simp only [Part.read, Option.ite_none_right_eq_some, Option.some.injEq, Prod.mk.injEq,
      List.cons.injEq]
    exact and_left_comm

/-- No part reads an offset, and a gap stands only before a number, which skips blanks anyway. -/
def isLocal : List Part → Bool
  | [] => true
  | .gap :: part :: parts => part.isNumber && isLocal (part :: parts)
  | part :: parts => part != .gap && part != .offset && isLocal parts

lemma readParts_gap (h : part.isNumber = true) (parts : List Part) (fields : Fields)
    (cs : List Char) :
    readParts (.gap :: part :: parts) fields cs = readParts (part :: parts) fields cs := by
  change (part.read fields (trimLeft cs)).bind _ = (part.read fields cs).bind _
  rw [read_trimLeft h]

lemma readParts_append (before after : List Part) (fields : Fields) (cs : List Char) :
    readParts (before ++ after) fields cs =
      (readParts before fields cs).bind fun (fields, rest) => readParts after fields rest := by
  induction before generalizing fields cs with
  | nil => rfl
  | cons part before ih =>
    simp only [List.cons_append, readParts, Option.bind_eq_bind, Option.bind_assoc, ih]

/-- A part takes some characters, with a `Z` among them only if that is the mark, and takes the same
when something else comes after them. -/
lemma exists_used_of_read (hgap : part ≠ .gap) (hoffset : part ≠ .offset)
    (h : part.read fields cs = some (fields', rest)) :
    ∃ used, cs = used ++ rest ∧ (∀ c ∈ used, isZulu c = true → part = .mark c) ∧
      ∀ rest', GoesOnLike rest rest' → part.read fields (used ++ rest') = some (fields', rest') := by
  have hplain {used : List Char} (hused : ∀ c ∈ used, isZulu c = false) :
      ∀ c ∈ used, isZulu c = true → part = .mark c := fun c hc hzulu =>
    absurd hzulu (by simp [hused c hc])
  cases part with
  | year | month | day | hour | minute | second =>
    obtain ⟨used, hcs, -, hused, hread⟩ := takesFront_read rfl fields cs fields' rest h
    exact ⟨used, hcs, hplain hused, hread⟩
  | fraction =>
    obtain ⟨used, hcs, hused, hread⟩ := exists_used_of_read_fraction h
    exact ⟨used, hcs, hplain hused, hread⟩
  | mark m =>
    obtain ⟨rfl, rfl⟩ := read_mark_eq_some_iff.1 h
    exact ⟨[m], rfl, by simp, fun _ _ => read_mark_eq_some_iff.2 ⟨rfl, rfl⟩⟩
  | gap => exact absurd rfl hgap
  | offset => exact absurd rfl hoffset

/-- Parts of a layout take some characters, with a `Z` among them only if that is a mark, and take the
same when something else comes after them. -/
lemma exists_used_of_readParts (hparts : isLocal parts = true)
    (h : readParts parts fields cs = some (fields', rest)) :
    ∃ used, cs = used ++ rest ∧ (∀ c ∈ used, isZulu c = true → Part.mark c ∈ parts) ∧
      ∀ rest', GoesOnLike rest rest' →
        readParts parts fields (used ++ rest') = some (fields', rest') := by
  induction parts using isLocal.induct generalizing fields cs with
  | case1 =>
    cases h
    exact ⟨[], rfl, by simp, fun _ _ => rfl⟩
  | case2 part parts ih =>
    rw [isLocal, Bool.and_eq_true] at hparts
    rw [readParts_gap hparts.1] at h
    obtain ⟨used, hcs, hplain, hread⟩ := ih hparts.2 h
    refine ⟨used, hcs, fun c hc hzulu => List.mem_cons_of_mem _ (hplain c hc hzulu),
      fun rest' hrest' => ?_⟩
    rw [readParts_gap hparts.1, hread rest' hrest']
  | case3 part parts hgap ih =>
    rw [isLocal.eq_3 part parts hgap] at hparts
    simp only [Bool.and_eq_true, bne_iff_ne] at hparts
    obtain ⟨⟨fields₁, rest₁⟩, hpart, hrest⟩ := Option.bind_eq_some_iff.1 h
    obtain ⟨used₁, rfl, hplain₁, hread₁⟩ := exists_used_of_read hparts.1.1 hparts.1.2 hpart
    obtain ⟨used₂, rfl, hplain₂, hread₂⟩ := ih hparts.2 hrest
    refine ⟨used₁ ++ used₂, (List.append_assoc ..).symm, fun c hc hzulu => ?_,
      fun rest' hrest' => ?_⟩
    · rcases List.mem_append.1 hc with hc | hc
      · exact hplain₁ c hc hzulu ▸ List.mem_cons_self
      · exact List.mem_cons_of_mem _ (hplain₂ c hc hzulu)
    · rw [List.append_assoc, readParts, hread₁ _ (hrest'.append used₂)]
      exact hread₂ rest' hrest'

lemma offset_notMem_of_isLocal (h : isLocal parts = true) : Part.offset ∉ parts := by
  induction parts using isLocal.induct with
  | case1 => simp
  | case2 part parts ih =>
    rw [isLocal, Bool.and_eq_true] at h
    simpa using ih h.2
  | case3 part parts hgap ih =>
    rw [isLocal.eq_3 part parts hgap] at h
    simp only [Bool.and_eq_true, bne_iff_ne] at h
    exact List.not_mem_cons_of_ne_of_not_mem (Ne.symm h.1.2) (ih h.2)

/-! ## A distance of zero -/

/-- A distance of zero, as a final `Z` is spelled. -/
def zeroOffset : List Char := "+00:00".toList

lemma read_zeroOffset {blanks : List Char} (hblanks : ∀ c ∈ blanks, isBlank c = true)
    (fields : Fields) : Part.offset.read fields (blanks ++ zeroOffset) =
      some ({ fields with offset := 0 }, []) := by
  have htrim : trimLeft (blanks ++ zeroOffset) = zeroOffset :=
    (takeWhile_append_of_stops hblanks (stops_cons rfl)).2
  rw [Part.read, htrim]
  rfl

/-- What local parts read is read with a distance of zero too, if blanks and that distance come
after it. -/
lemma exists_used_zeroOffset (hparts : isLocal parts = true)
    (h : readParts parts {} cs = some (fields, rest)) :
    ∃ used, cs = used ++ rest ∧ ∀ blanks, (∀ c ∈ blanks, isBlank c = true) →
      readLayout (parts ++ [.offset]) (used ++ (blanks ++ zeroOffset)) = some fields := by
  obtain ⟨used, rfl, -, hread⟩ := exists_used_of_readParts hparts h
  refine ⟨used, rfl, fun blanks hblanks => ?_⟩
  have hafter : GoesOnLike rest (blanks ++ zeroOffset) := by
    refine Or.inr fun c hc => ?_
    cases blanks with
    | nil =>
      cases hc
      decide
    | cons b blanks =>
      cases hc
      have hblank : isBlank c = true := hblanks c List.mem_cons_self
      refine ⟨Bool.eq_false_iff.2 fun hdigit => ?_, ?_⟩
      · rw [isBlank_of_isDigit hdigit] at hblank
        cases hblank
      · rintro rfl
        cases hblank
  have hoffset : fields.offset = 0 := offset_eq_of_readParts (offset_notMem_of_isLocal hparts) h
  rw [readLayout, readParts_append, hread _ hafter]
  simp only [Option.bind_some, readParts, read_zeroOffset hblanks, Option.bind_eq_bind]
  rw [← hoffset]

end Parts

end CloudDirector.Calendar
