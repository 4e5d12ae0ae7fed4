import CloudDirector.Proofs.Calendar.Layouts

/-!
# A final `Z`

A final `Z` is spelled as a distance of zero before the layouts with a distance from UTC are tried,
and then a layout reads what the internet format reads.  A local layout that reads a text up to the
`Z` reads the spelled text with an offset after its parts.
-/

namespace CloudDirector

namespace Calendar

open Text

variable {cs rest : List Char} {fields fields' : Fields} {layout : List Part} {width n : Nat}

/-! ## The internet format is a case of layouts -/

lemma readNumber_of_readFixed (hwidth : 0 < width) (h : readFixed width cs = some (n, rest)) :
    readNumber width cs = some (n, rest) := by
  obtain ⟨digits, after, rfl, htaken⟩ := exists_areTaken width cs
  rw [readFixed, readDigits_of_areTaken htaken] at h
  simp only [Option.ite_none_right_eq_some, Option.some.injEq, Prod.mk.injEq] at h
  obtain ⟨hlength, rfl, rfl⟩ := h
  have hne : digits ≠ [] := by
    rintro rfl
    rw [← hlength, List.length_nil] at hwidth
    exact Nat.lt_irrefl 0 hwidth
  exact readNumber_of_areTaken hne htaken

lemma exists_cons_of_readNumber (h : readNumber width cs = some (n, rest)) :
    ∃ c tail, cs = c :: tail ∧ c.isDigit = true := by
  cases cs with
  | nil => cases any_head?_of_readNumber h
  | cons c tail => exact ⟨c, tail, rfl, any_head?_of_readNumber h⟩

lemma trimLeft_of_readNumber (h : readNumber width cs = some (n, rest)) : trimLeft cs = cs := by
  obtain ⟨c, tail, rfl, hc⟩ := exists_cons_of_readNumber h
  exact dropWhile_of_stops (stops_cons (isBlank_of_isDigit hc))

lemma readYear_of_readFixed (h : readFixed 4 cs = some (n, rest)) :
    readYear (trimLeft cs) = some ((n : Int), rest) := by
  have hread := readNumber_of_readFixed (by decide) h
  obtain ⟨c, tail, rfl, hc⟩ := exists_cons_of_readNumber hread
  rw [trimLeft_of_readNumber hread, readYear_of_isDigit hc, hread]
  rfl

/-- Two digits with nothing in front of them are read as a number. -/
lemma readNumber_trimLeft (h : readFixed 2 cs = some (n, rest)) :
    readNumber 2 (trimLeft cs) = some (n, rest) := by
  have hread := readNumber_of_readFixed (by decide) h
  rw [trimLeft_of_readNumber hread, hread]

lemma skip_eq_some_iff {m : Char} : skip m cs = some rest ↔ cs = m :: rest := by
  cases cs with
  | nil => simp [skip]
  | cons c cs => simp [skip]

lemma readTriple_eq_some {m : Char} {triple : Nat × Nat × Nat}
    (h : readTriple width m cs = some (triple, rest)) : ∃ after after',
      readFixed width cs = some (triple.1, m :: after) ∧
      readFixed 2 after = some (triple.2.1, m :: after') ∧
      readFixed 2 after' = some (triple.2.2, rest) := by
  simp only [readTriple, Option.bind_eq_bind, Option.bind_eq_some_iff, Option.pure_def] at h
  obtain ⟨⟨a, rest₁⟩, ha, after, hafter, ⟨b, rest₂⟩, hb, after', hafter', ⟨c, rest₃⟩, hc, heq⟩ := h
  rw [skip_eq_some_iff] at hafter hafter'
  cases heq
  exact ⟨after, after', hafter ▸ ha, hafter' ▸ hb, hc⟩

lemma readParts_dashedDate (fields : Fields) {date : Nat × Nat × Nat}
    (h : readTriple 4 '-' cs = some (date, rest)) :
    readParts dashedDate fields cs =
      some ({ fields with year := date.1, month := date.2.1, day := date.2.2 }, rest) := by
  obtain ⟨after, after', hyear, hmonth, hday⟩ := readTriple_eq_some h
  simp only [dashedDate, readParts, Part.read, readYear_of_readFixed hyear,
    readNumber_trimLeft hmonth, readNumber_trimLeft hday, Option.map_some, Option.bind_eq_bind,
    Option.bind_some, if_true]

lemma read_fraction_of_readFraction {nanos : Nat} (hnanos : fields.nanos = 0)
    (h : readFraction cs = some (nanos, rest)) :
    Part.fraction.read fields cs = some ({ fields with nanos }, rest) := by
  rw [readFraction.eq_def] at h
  split at h
  · rw [Part.read, h]
    rfl
  · next hpoint =>
    cases h
    rw [read_fraction_of_ne]
    · rw [← hnanos]
    · intro hhead
      obtain ⟨tail, rfl⟩ := List.head?_eq_some_iff.1 hhead
      exact hpoint tail rfl

lemma readParts_colonSeconds {fields : Fields} (hnanos : fields.nanos = 0)
    {time : Nat × Nat × Nat} {nanos : Nat} {after : List Char}
    (h : readTriple 2 ':' cs = some (time, after)) (hfraction : readFraction after = some (nanos, rest)) :
    readParts colonSeconds fields cs = some
      ({ fields with hour := time.1, minute := time.2.1, second := time.2.2, nanos }, rest) := by
  obtain ⟨_, _, hhour, hminute, hsecond⟩ := readTriple_eq_some h
  have htime : readParts [.hour, .mark ':', .minute, .mark ':', .second] fields cs = some
      ({ fields with hour := time.1, minute := time.2.1, second := time.2.2 }, after) := by
    simp only [readParts, Part.read, readNumber_trimLeft hhour, readNumber_trimLeft hminute,
      readNumber_trimLeft hsecond, Option.map_some, Option.bind_eq_bind, Option.bind_some, if_true]
  have hlast : Part.fraction.read
      { fields with hour := time.1, minute := time.2.1, second := time.2.2 } after = some
        ({ fields with hour := time.1, minute := time.2.1, second := time.2.2, nanos }, rest) :=
    read_fraction_of_readFraction hnanos hfraction
  change readParts ([.hour, .mark ':', .minute, .mark ':', .second] ++ [.fraction]) fields cs = _
  rw [readParts_append, htime]
  simp only [Option.bind_some, readParts, hlast, Option.bind_eq_bind]

/-- The character between date and time is a mark, or a gap of one blank. -/
lemma exists_between_of_skipBetween (h : skipBetween cs = some rest)
    (htrim : trimLeft rest = rest) : ∃ between ∈ [Part.mark 'T', .mark 't', .gap],
      ∀ fields, between.read fields cs = some (fields, rest) := by
  cases cs with
  | nil => cases h
  | cons c cs =>
    simp only [skipBetween, Option.ite_none_right_eq_some, Option.some.injEq] at h
    obtain ⟨rfl | rfl | rfl, rfl⟩ := h
    · exact ⟨.mark 'T', by decide, fun _ => rfl⟩
    · exact ⟨.mark 't', by decide, fun _ => rfl⟩
    · exact ⟨.gap, by decide, fun fields => congrArg (fun rest => some (fields, rest)) htrim⟩

/-- What the internet format reads up to the distance from UTC, a layout reads too. -/
lemma exists_between_of_readInternet (h : readInternet cs = some fields) :
    ∃ between ∈ [Part.mark 'T', .mark 't', .gap], ∃ zone,
      readParts (dashedDate ++ [between] ++ colonSeconds) {} cs =
        some ({ fields with offset := 0 }, zone) ∧ readZone zone = some (fields.offset, []) := by
  simp only [readInternet, Option.bind_eq_bind, Option.bind_eq_some_iff] at h
  obtain ⟨⟨date, rest₁⟩, hdate, rest₂, hskip, ⟨time, rest₃⟩, htime, ⟨nanos, zone⟩, hfraction,
    ⟨offset, rest₄⟩, hzone, h⟩ := h
  cases rest₄ with
  | cons c rest₄ => cases h
  | nil =>
    cases h
    obtain ⟨_, _, hhour, -⟩ := readTriple_eq_some htime
    obtain ⟨between, hmem, hbetween⟩ := exists_between_of_skipBetween hskip
      (trimLeft_of_readNumber (readNumber_of_readFixed (by decide) hhour))
    refine ⟨between, hmem, zone, ?_, hzone⟩
    have hdate' := readParts_dashedDate {} hdate
    have hnanos : ({ year := date.1, month := date.2.1, day := date.2.2 } : Fields).nanos = 0 := rfl
    have htime' := readParts_colonSeconds hnanos htime hfraction
    simp only [readParts_append, hdate', Option.bind_some, readParts, hbetween, htime',
      Option.bind_eq_bind]

lemma isDigit_of_digit? {c : Char} (h : digit? c = some n) : c.isDigit = true := by
  rw [digit?] at h
  split at h
  · assumption
  · cases h

lemma readTwo_eq_some (h : readTwo cs = some (n, rest)) :
    ∃ a b, cs = a :: b :: rest ∧ a.isDigit = true ∧ b.isDigit = true := by
  match cs with
  | [] | [_] => cases h
  | a :: b :: cs =>
    simp only [readTwo, Option.bind_eq_bind, Option.bind_eq_some_iff, Option.pure_def] at h
    obtain ⟨_, ha, _, hb, heq⟩ := h
    cases heq
    exact ⟨a, b, rfl, isDigit_of_digit? ha, isDigit_of_digit? hb⟩

/-- With a colon between hours and minutes, a distance from UTC is read the same loosely; a digit
ends it. -/
lemma readOffset_colon {offset : Int} (h : readOffset colonSeparator cs = some (offset, rest)) :
    readOffset looseSeparator (trimLeft cs) = some (offset, rest) ∧
      ∃ start c, cs = start ++ c :: rest ∧ c.isDigit = true := by
  have hsign := any_head?_of_readOffset h
  obtain ⟨c, tail, hours, after, after', minutes, rfl, hhours, hafter, hminutes, -⟩ :=
    readOffset_eq_some h
  obtain ⟨d, e, rfl, hd, he⟩ := readTwo_eq_some hminutes
  have hcolon : after = ':' :: d :: e :: rest := by
    rw [colonSeparator.eq_def] at hafter
    split at hafter
    · cases hafter
      rfl
    · cases hafter
  obtain ⟨a, b, rfl, -⟩ := readTwo_eq_some hhours
  subst hcolon
  have hblank : isBlank c = false := by
    simp only [List.head?_cons, Option.any_some, isSign, Bool.or_eq_true, beq_iff_eq] at hsign
    rcases hsign with (rfl | rfl) | rfl <;> rfl
  have hloose : looseSeparator (':' :: d :: e :: rest) = colonSeparator (':' :: d :: e :: rest) := by
    have hstops : Stops (fun c => c == ':' || isBlank c) (d :: e :: rest) := by
      refine stops_cons ?_
      rw [isBlank_of_isDigit hd, Bool.or_false, beq_eq_false_iff_ne]
      rintro rfl
      cases hd
    rw [looseSeparator, List.dropWhile_cons_of_pos rfl, dropWhile_of_stops hstops]
    rfl
  have htrim : trimLeft (c :: a :: b :: ':' :: d :: e :: rest) =
      c :: a :: b :: ':' :: d :: e :: rest := dropWhile_of_stops (stops_cons hblank)
  refine ⟨?_, [c, a, b, ':', d], e, rfl, he⟩
  rw [htrim, ← h]
  simp only [readOffset, hhours, Option.bind_eq_bind, Option.bind_some, hloose]

/-! ## Spelling a final `Z` -/

lemma spellZulu_concat {z : Char} (hz : isZulu z = true) (cs : List Char) :
    spellZulu (cs ++ [z]) = cs ++ zeroOffset := by
  simp only [spellZulu, List.getLast?_concat, if_pos (isZulu_eq_true_iff.1 hz), List.dropLast_concat]
  rfl

lemma spellZulu_concat_of_not {c : Char} (hc : isZulu c = false) (cs : List Char) :
    spellZulu (cs ++ [c]) = cs ++ [c] := by
  have hne : ¬(c = 'Z' ∨ c = 'z') := by
    rw [← isZulu_eq_true_iff, hc]
    exact Bool.false_ne_true
  simp only [spellZulu, List.getLast?_concat, if_neg hne]

/-- What the internet format reads is read by a layout after a final `Z` is spelled. -/
lemma exists_layout_of_readInternet (h : readInternet cs = some fields) :
    ∃ layout ∈ internetLayouts, readLayout layout (spellZulu cs) = some fields := by
  obtain ⟨between, hmem, zone, hparts, hzone⟩ := exists_between_of_readInternet h
  refine ⟨_, List.mem_map.2 ⟨between, hmem, rfl⟩, ?_⟩
  have hlocal : isLocal (dashedDate ++ [between] ++ colonSeconds) = true := by
    simp only [List.mem_cons, List.not_mem_nil, or_false] at hmem
    rcases hmem with rfl | rfl | rfl <;> rfl
  obtain ⟨used, rfl, hused⟩ := exists_used_zeroOffset hlocal hparts
  have hzulu {z : Char} (hz : isZulu z = true) (hoffset : fields.offset = 0) :
      readLayout (dashedDate ++ [between] ++ colonSeconds ++ [.offset])
        (spellZulu (used ++ [z])) = some fields := by
    rw [spellZulu_concat hz]
    have hread := hused [] (by simp)
    rw [List.nil_append, ← hoffset] at hread
    exact hread
  rw [readZone.eq_def] at hzone
  split at hzone
  · obtain ⟨hoffset, rfl⟩ := Prod.mk.inj (Option.some.inj hzone)
    exact hzulu rfl hoffset.symm
  · obtain ⟨hoffset, rfl⟩ := Prod.mk.inj (Option.some.inj hzone)
    exact hzulu rfl hoffset.symm
  · obtain ⟨hoffset, start, c, rfl, hc⟩ := readOffset_colon hzone
    have hspell : spellZulu (used ++ (start ++ [c])) = used ++ (start ++ [c]) := by
      rw [← List.append_assoc, spellZulu_concat_of_not (isZulu_of_isDigit hc)]
    rw [hspell, readLayout_eq_some_iff, readParts_append, hparts]
    simp only [Option.bind_some, readParts, Part.read, hoffset, Option.map_some,
      Option.bind_eq_bind]

/-! ## Local texts -/

lemma isLocal_of_mem : ∀ layout ∈ dateLayouts ++ localLayouts, isLocal layout = true := by
  decide

/-- Layouts without a distance from UTC read no text that ends in `Z`. -/
lemma readLayout_concat_zulu {z : Char} (hz : isZulu z = true)
    (hmem : layout ∈ dateLayouts ++ localLayouts) (cs : List Char) :
    readLayout layout (cs ++ [z]) = none := by
  rw [Option.eq_none_iff_forall_ne_some]
  intro fields h
  obtain ⟨used, hcs, hplain, -⟩ :=
    exists_used_of_readParts (isLocal_of_mem layout hmem) (readLayout_eq_some_iff.1 h)
  rw [List.append_nil] at hcs
  have hmark := hplain z (hcs ▸ List.mem_append_right cs List.mem_cons_self) hz
  have hnone : ∀ layout ∈ dateLayouts ++ localLayouts,
      Part.mark 'Z' ∉ layout ∧ Part.mark 'z' ∉ layout := by decide
  rcases isZulu_eq_true_iff.1 hz with rfl | rfl
  · exact (hnone layout hmem).1 hmark
  · exact (hnone layout hmem).2 hmark

lemma spellZulu_of_readLayout (hmem : layout ∈ dateLayouts ++ localLayouts)
    (h : readLayout layout cs = some fields) : spellZulu cs = cs := by
  rcases List.eq_nil_or_concat cs with rfl | ⟨start, c, rfl⟩
  · rfl
  · rw [List.concat_eq_append] at h ⊢
    refine spellZulu_concat_of_not (Bool.eq_false_iff.2 fun hc => ?_) start
    rw [readLayout_concat_zulu hc hmem] at h
    cases h

lemma readLayout_eq_none {layout' : List Part} (hmem : layout ∈ layouts) (hmem' : layout' ∈ layouts)
    (hne : layout' ≠ layout) (h : readLayout layout cs = some fields) :
    readLayout layout' cs = none := by
  rw [Option.eq_none_iff_forall_ne_some]
  exact fun fields' h' => hne (eq_of_readLayout hmem' hmem h' h)

lemma mem_layouts_of_local (h : layout ∈ dateLayouts ++ localLayouts) : layout ∈ layouts :=
  List.mem_append_left _ (List.mem_append_left _ h)

lemma mem_layouts_of_internet (h : layout ∈ internetLayouts) : layout ∈ layouts :=
  List.mem_append_right _ h

lemma mem_layouts_of_offset : ∀ layout ∈ offsetLayouts, layout ∈ layouts := by
  decide

/-- Where a layout reads the spelled text, the internet format reads nothing else. -/
lemma eq_of_readInternet (hmem : layout ∈ layouts)
    (h : readLayout layout (spellZulu cs) = some fields) (h' : readInternet cs = some fields') :
    layout ∈ internetLayouts ∧ fields' = fields := by
  obtain ⟨layout', hmem', hread'⟩ := exists_layout_of_readInternet h'
  obtain rfl := eq_of_readLayout (mem_layouts_of_internet hmem') hmem hread' h
  exact ⟨hmem', Option.some.inj (hread'.symm.trans h)⟩

lemma readInternet_eq_none (hmem : layout ∈ layouts) (hnot : layout ∉ internetLayouts)
    (h : readLayout layout (spellZulu cs) = some fields) : readInternet cs = none :=
  Option.eq_none_iff_forall_ne_some.2 fun _ h' => hnot (eq_of_readInternet hmem h h').1

/-- A text that a layout without a distance from UTC reads is read neither by the internet format nor
by a layout with such a distance. -/
lemma readsNoOffset (hmem : layout ∈ dateLayouts ++ localLayouts)
    (h : readLayout layout cs = some fields) :
    readInternet cs = none ∧ ∀ layout' ∈ offsetLayouts, readLayout layout' (spellZulu cs) = none := by
  have hnot : ∀ layout ∈ dateLayouts ++ localLayouts,
      layout ∉ internetLayouts ∧ layout ∉ offsetLayouts := by decide
  have hlayouts := mem_layouts_of_local hmem
  have hspelled : readLayout layout (spellZulu cs) = some fields := by
    rw [spellZulu_of_readLayout hmem h, h]
  refine ⟨readInternet_eq_none hlayouts (hnot layout hmem).1 hspelled, fun layout' hmem' => ?_⟩
  refine readLayout_eq_none hlayouts (mem_layouts_of_offset layout' hmem') ?_ hspelled
  rintro rfl
  exact (hnot layout' hmem).2 hmem'

/-- Where at most one member of a list gives something, that is what is found. -/
lemma findSome?_eq_of_forall_ne {α β : Type} {l : List α} {f : α → Option β} {a : α} (ha : a ∈ l)
    (h : ∀ b ∈ l, b ≠ a → f b = none) : l.findSome? f = f a := by
  cases hfound : l.findSome? f with
  | none => exact (List.findSome?_eq_none_iff.1 hfound a ha).symm
  | some v =>
    obtain ⟨b, hb, hv⟩ := List.exists_of_findSome?_eq_some hfound
    by_cases hba : b = a
    · rw [← hba, hv]
    · rw [h b hb hba] at hv
      cases hv

lemma readDateTime_eq (cs : List Char) : readDateTime cs =
    ((readInternet cs).bind Fields.dateTime?).or
      ((offsetLayouts.findSome? fun layout =>
          (readLayout layout (spellZulu cs)).bind Fields.dateTime?).or
        ((localLayouts.findSome? fun layout => (readLayout layout cs).bind Fields.dateTime?).or
          ((readDateOnly cs).map atMidnight))) := by
  simp only [readDateTime, Option.orElse_eq_orElse, Option.orElse_eq_or]

lemma findSome?_readLayout_eq_none {α : Type} {make : Fields → Option α} {found : List (List Part)}
    (h : ∀ layout ∈ found, readLayout layout cs = none) :
    (found.findSome? fun layout => (readLayout layout cs).bind make) = none := by
  rw [List.findSome?_eq_none_iff]
  intro layout hmem
  rw [h layout hmem]
  rfl

lemma not_mem_dateLayouts : ∀ layout ∈ localLayouts, ∀ layout' ∈ dateLayouts, layout' ≠ layout := by
  decide

/-- A text that a local layout reads is read as what the layout reads. -/
lemma readDateTime_of_local (hmem : layout ∈ localLayouts)
    (h : readLayout layout cs = some fields) : readDateTime cs = fields.dateTime? := by
  have hlocal := List.mem_append_right dateLayouts hmem
  have hother {layout' : List Part} (hmem' : layout' ∈ dateLayouts ++ localLayouts)
      (hne : layout' ≠ layout) : readLayout layout' cs = none :=
    readLayout_eq_none (mem_layouts_of_local hlocal) (mem_layouts_of_local hmem') hne h
  obtain ⟨hinternet, hoffset⟩ := readsNoOffset hlocal h
  have hfound : (localLayouts.findSome? fun layout =>
      (readLayout layout cs).bind Fields.dateTime?) = fields.dateTime? := by
    rw [findSome?_eq_of_forall_ne hmem, h]
    · rfl
    · intro layout' hmem' hne
      rw [hother (List.mem_append_right _ hmem') hne]
      rfl
  have hdate : readDateOnly cs = none := findSome?_readLayout_eq_none fun layout' hmem' =>
    hother (List.mem_append_left _ hmem') (not_mem_dateLayouts layout hmem layout' hmem')
  rw [readDateTime_eq, hinternet, findSome?_readLayout_eq_none hoffset, hfound, hdate]
  simp

/-- No reader of dates with times reads the text. -/
structure HasNoTime (cs : List Char) : Prop where
  internet : readInternet cs = none
  offset : ∀ layout ∈ offsetLayouts, readLayout layout (spellZulu cs) = none
  locally : ∀ layout ∈ localLayouts, readLayout layout cs = none

/-- A text that spells a date alone is read by no other reader. -/
lemma hasNoTime_of_readDateOnly {d : Date} (h : readDateOnly cs = some d) : HasNoTime cs := by
  obtain ⟨layout, hmem, hlayout⟩ := List.exists_of_findSome?_eq_some h
  obtain ⟨fields, hread, -⟩ := Option.bind_eq_some_iff.1 hlayout
  have hlocal := List.mem_append_left localLayouts hmem
  obtain ⟨hinternet, hoffset⟩ := readsNoOffset hlocal hread
  exact ⟨hinternet, hoffset, fun layout' hmem' =>
    readLayout_eq_none (mem_layouts_of_local hlocal)
      (mem_layouts_of_local (List.mem_append_right _ hmem'))
      (not_mem_dateLayouts layout' hmem' layout hmem).symm hread⟩

lemma readDateTime_of_readDateOnly {d : Date} (h : readDateOnly cs = some d) :
    readDateTime cs = some (atMidnight d) := by
  obtain ⟨hinternet, hoffset, hlocal⟩ := hasNoTime_of_readDateOnly h
  rw [readDateTime_eq, hinternet, findSome?_readLayout_eq_none hoffset,
    findSome?_readLayout_eq_none hlocal, h]
  rfl

/-! ## Local texts and a final `Z` -/

/-- Date, blanks, hours and minutes: the one local layout that has no counterpart among the layouts
with a distance from UTC. -/
def spacedMinutes : List Part := dashedDate ++ [.gap] ++ colonMinutes

lemma mem_offsetLayouts : ∀ layout ∈ localLayouts,
    layout ≠ spacedMinutes → layout ++ [.offset] ∈ offsetLayouts := by
  decide

lemma ne_spacedMinutes : ∀ layout ∈ offsetLayouts, layout ≠ spacedMinutes ++ [.offset] := by
  decide

lemma findSome?_concat_zulu {α : Type} {make : Fields → Option α} {found : List (List Part)}
    (h : found ⊆ dateLayouts ++ localLayouts) (cs : List Char) :
    (found.findSome? fun layout => (readLayout layout (cs ++ ['Z'])).bind make) = none :=
  findSome?_readLayout_eq_none fun _ hmem => readLayout_concat_zulu rfl (h hmem) cs

/-- With a final `Z` that is spelled, the text follows the layout with an offset. -/
lemma readLayout_spellZulu {blanks : List Char} (hmem : layout ∈ localLayouts)
    (hblanks : ∀ c ∈ blanks, isBlank c = true) (h : readLayout layout cs = some fields) :
    readLayout (layout ++ [.offset]) (spellZulu (cs ++ blanks ++ ['Z'])) = some fields := by
  obtain ⟨used, hcs, hused⟩ := exists_used_zeroOffset
    (isLocal_of_mem layout (List.mem_append_right _ hmem)) (readLayout_eq_some_iff.1 h)
  rw [spellZulu_concat rfl, List.append_assoc, hcs, List.append_nil]
  exact hused blanks hblanks

/-- A local text with a final `Z` is read as what its layout reads, or not at all. -/
lemma readDateTime_zulu {blanks : List Char} (hmem : layout ∈ localLayouts)
    (hblanks : ∀ c ∈ blanks, isBlank c = true) (h : readLayout layout cs = some fields) :
    readDateTime (cs ++ blanks ++ ['Z']) =
      if layout = spacedMinutes then none else fields.dateTime? := by
  have hread := readLayout_spellZulu hmem hblanks h
  have hlayouts : layout ++ [.offset] ∈ layouts :=
    List.mem_append_left _ (List.mem_append_right _ (List.mem_map_of_mem hmem))
  -- the spelled text follows that layout, so it follows no other
  have hother {layout' : List Part} (hmem' : layout' ∈ offsetLayouts)
      (hne : layout' ≠ layout ++ [.offset]) :
      readLayout layout' (spellZulu (cs ++ blanks ++ ['Z'])) = none :=
    readLayout_eq_none hlayouts (mem_layouts_of_offset layout' hmem') hne hread
  have hdate : readDateOnly (cs ++ blanks ++ ['Z']) = none :=
    findSome?_concat_zulu (List.subset_append_left ..) _
  rw [readDateTime_eq, findSome?_concat_zulu (List.subset_append_right ..), hdate]
  by_cases hspaced : layout = spacedMinutes
  · subst hspaced
    rw [if_pos rfl, readInternet_eq_none hlayouts (by decide) hread,
      findSome?_readLayout_eq_none fun layout' hmem' =>
        hother hmem' (ne_spacedMinutes layout' hmem')]
    rfl
  · have hfound : (offsetLayouts.findSome? fun layout =>
        (readLayout layout (spellZulu (cs ++ blanks ++ ['Z']))).bind Fields.dateTime?) =
          fields.dateTime? := by
      rw [findSome?_eq_of_forall_ne (mem_offsetLayouts layout hmem hspaced), hread]
      · rfl
      · intro layout' hmem' hne
        rw [hother hmem' hne]
        rfl
    rw [if_neg hspaced, hfound]
    -- the internet format may read the text too, but then it reads the same
    cases hinternet : readInternet (cs ++ blanks ++ ['Z']) with
    | none => simp
    | some fields' =>
      rw [(eq_of_readInternet hlayouts hread hinternet).2]
      simp

end Calendar

open Calendar Text

/-- The date that a text spells is the one of the date and time that it spells. -/
lemma Date.ofString?_eq_map (text : String) :
    Date.ofString? text = (DateTime.ofString? text).map DateTime.date := by
  rw [Date.ofString?, DateTime.ofString?]
  cases h : readDateOnly (trim text.toList) with
  | none => rfl
  | some d =>
    rw [readDateTime_of_readDateOnly h]
    rfl

end CloudDirector
