import CloudDirector.Navigation.LinkHeader
import CloudDirector.Proofs.Text.Runs

/-!
# The grammar of link headers

The values of link headers as a grammar, apart from what reads them.  A separator may have gaps on
both sides, and a quote that is never closed is a character like others; so a part is described
together with what comes after it in the header.  Reading takes the gaps behind a value without
quotes as part of it and leaves them out again by trimming.  Hence it leaves the same text as the
grammar up to gaps, which the next separator does not see, and in the end it finds exactly the
derivations.  A header has therefore at most one list of items.
-/

namespace CloudDirector.LinkHeader

open Text

/-! ## The grammar -/

/-- The characters are gaps. -/
def AreGaps (cs : List Char) : Prop := ∀ c ∈ cs, isGap c = true

-- decided by going through the text, never through all characters
instance : DecidablePred AreGaps := fun cs => List.decidableBAll (fun c => isGap c = true) cs

/-- The characters are a mark with gaps around it. -/
def Separates (m : Char) (cs : List Char) : Prop :=
  ∃ before after, AreGaps before ∧ AreGaps after ∧ cs = before ++ m :: after

/-- The characters between a key and `after` give the parameter its value.  A value without quotes
holds neither a semicolon nor a comma, and starts with a quote only if that is the last one in the
header. -/
inductive IsValue (after : List Char) : List Char → List Char → Prop
  | leftOut : IsValue after [] []
  | quoted {sep text : List Char} (hsep : Separates '=' sep) (htext : '"' ∉ text) :
      IsValue after (sep ++ '"' :: text ++ ['"']) text
  | bare {sep text : List Char} (hsep : Separates '=' sep) (hstart : Stops isGap text)
      (htext : ∀ c ∈ text, isBareChar c = true)
      (hquote : text.head? = some '"' → '"' ∉ text.tail ++ after) :
      IsValue after (sep ++ text) (trim text)

/-- The characters in front of `after` are a parameter. -/
inductive IsParameter (after : List Char) : List Char → List Char × List Char → Prop
  | intro {sep key cs v : List Char} (hsep : Separates ';' sep) (hne : key ≠ [])
      (hkey : ∀ c ∈ key, isKeyChar c = true) (hvalue : IsValue after cs v) :
      IsParameter after (sep ++ key ++ cs) (key, v)

/-- The characters in front of `after` are parameters. -/
inductive AreParameters (after : List Char) : List Char → List (List Char × List Char) → Prop
  | nil : AreParameters after [] []
  | cons {cs rest : List Char} {p : List Char × List Char} {ps : List (List Char × List Char)}
      (h : IsParameter (rest ++ after) cs p) (hrest : AreParameters after rest ps) :
      AreParameters after (cs ++ rest) (p :: ps)

/-- The characters in front of `after` are a target in brackets with its parameters. -/
inductive IsItem (after : List Char) : List Char → Item → Prop
  | intro {target cs : List Char} {ps : List (List Char × List Char)} (htarget : '>' ∉ target)
      (h : AreParameters after cs ps) : IsItem after ('<' :: target ++ '>' :: cs) ⟨target, ps⟩

/-- The characters in front of `after` are items, each of them behind a comma. -/
inductive AreItems (after : List Char) : List Char → List Item → Prop
  | nil : AreItems after [] []
  | cons {sep cs rest : List Char} {i : Item} {is : List Item} (hsep : Separates ',' sep)
      (h : IsItem (rest ++ after) cs i) (hrest : AreItems after rest is) :
      AreItems after (sep ++ cs ++ rest) (i :: is)

/-- The characters are a header of the items, with commas between them and gaps around the whole. -/
inductive Derives : List Char → List Item → Prop
  | nil {gaps : List Char} (hgaps : AreGaps gaps) : Derives gaps []
  | cons {before cs rest after : List Char} {i : Item} {is : List Item} (hbefore : AreGaps before)
      (h : IsItem (rest ++ after) cs i) (hrest : AreItems after rest is) (hafter : AreGaps after) :
      Derives (before ++ cs ++ rest ++ after) (i :: is)

variable {m close : Char} {cs rest after left gaps sep key v text inside : List Char} {i : Item}
  {is : List Item} {p : List Char × List Char} {ps : List (List Char × List Char)}

/-! ## Gaps and marks -/

lemma skipGaps_append (hgaps : AreGaps gaps) (rest : List Char) :
    skipGaps (gaps ++ rest) = skipGaps rest :=
  List.dropWhile_append_of_pos hgaps

lemma skipGaps_of_stops (h : Stops isGap cs) : skipGaps cs = cs := dropWhile_of_stops h

lemma skipGaps_of_areGaps (h : AreGaps cs) : skipGaps cs = [] := by
  have hskip := skipGaps_append h []
  rwa [List.append_nil] at hskip

lemma stops_skipGaps (cs : List Char) : Stops isGap (skipGaps cs) := stops_dropWhile isGap cs

lemma exists_gaps (cs : List Char) : ∃ gaps, AreGaps gaps ∧ cs = gaps ++ skipGaps cs :=
  ⟨cs.takeWhile isGap, fun _ hc => List.mem_takeWhile_imp hc, List.takeWhile_append_dropWhile.symm⟩

lemma skipMark?_congr {cs' : List Char} (h : skipGaps cs = skipGaps cs') (m : Char) :
    skipMark? m cs = skipMark? m cs' := by
  rw [skipMark?, skipMark?, h]

lemma skipMark?_of_separates (hm : isGap m = false) (hsep : Separates m sep) (rest : List Char) :
    skipMark? m (sep ++ rest) = some (skipGaps rest) := by
  obtain ⟨before, after, hbefore, hafter, rfl⟩ := hsep
  rw [skipMark?, List.append_assoc, skipGaps_append hbefore, List.cons_append,
    skipGaps_of_stops (stops_cons hm)]
  simp only [if_true, skipGaps_append hafter]

lemma exists_separates (h : skipMark? m cs = some rest) :
    ∃ sep, Separates m sep ∧ cs = sep ++ rest ∧ Stops isGap rest := by
  obtain ⟨before, hbefore, hcs⟩ := exists_gaps cs
  rw [skipMark?] at h
  split at h
  · cases h
  · next c found hfound =>
    split at h
    · next hc =>
      cases h
      obtain ⟨after, hafter, hrest⟩ := exists_gaps found
      refine ⟨before ++ m :: after, ⟨before, after, hbefore, hafter, rfl⟩, ?_, stops_skipGaps found⟩
      rw [hcs, hfound, hc, List.append_assoc, List.cons_append, ← hrest]
    · cases h

/-- The text ends, or goes on behind gaps with one of the marks. -/
def Follows (marks : List Char) (cs : List Char) : Prop := ∀ c ∈ (skipGaps cs).head?, c ∈ marks

lemma Follows.mono {marks marks' : List Char} (h : Follows marks cs) (hsub : marks ⊆ marks') :
    Follows marks' cs := fun c hc => hsub (h c hc)

lemma follows_of_separates {marks : List Char} (hm : isGap m = false) (hsep : Separates m sep)
    (hmem : m ∈ marks) (rest : List Char) : Follows marks (sep ++ rest) := by
  obtain ⟨before, after, hbefore, -, rfl⟩ := hsep
  rw [Follows, List.append_assoc, skipGaps_append hbefore, List.cons_append,
    skipGaps_of_stops (stops_cons hm)]
  rintro c ⟨⟩
  exact hmem

lemma skipMark?_eq_none {marks : List Char} (h : Follows marks cs) (hm : m ∉ marks) :
    skipMark? m cs = none := by
  rw [skipMark?]
  split
  · rfl
  · next c rest hcs =>
    rw [if_neg]
    rintro rfl
    exact hm (h c (by rw [hcs]; rfl))

lemma upTo?_append (h : close ∉ inside) (after : List Char) :
    upTo? close (inside ++ close :: after) = some (inside, after) := by
  induction inside with
  | nil => simp [upTo?]
  | cons c inside ih =>
    have hne : c ≠ close := by
      rintro rfl
      exact h List.mem_cons_self
    rw [List.cons_append, upTo?, if_neg hne, ih fun hmem => h (List.mem_cons_of_mem c hmem)]
    rfl

lemma upTo?_eq_some (h : upTo? close cs = some (inside, after)) :
    close ∉ inside ∧ cs = inside ++ close :: after := by
  induction cs generalizing inside with
  | nil => cases h
  | cons c cs ih =>
    rw [upTo?] at h
    split at h
    · next hc =>
      cases h
      exact ⟨List.not_mem_nil, by rw [hc, List.nil_append]⟩
    · next hne =>
      obtain ⟨⟨inside', after'⟩, hfound, heq⟩ := Option.map_eq_some_iff.1 h
      cases heq
      obtain ⟨hmem, rfl⟩ := ih hfound
      exact ⟨List.not_mem_cons_of_ne_of_not_mem (Ne.symm hne) hmem, rfl⟩

lemma upTo?_eq_none_iff : upTo? close cs = none ↔ close ∉ cs := by
  induction cs with
  | nil => simp [upTo?]
  | cons c cs ih =>
    rw [upTo?]
    by_cases hc : c = close
    · simp [hc]
    · simp [hc, ih, Ne.symm hc]

/-! ## Values -/

lemma isBareChar_of_isGap {c : Char} (h : isGap c = true) : isBareChar c = true := by
  simp only [isGap, Bool.or_eq_true, beq_iff_eq] at h
  rcases h with ((rfl | rfl) | rfl) | rfl <;> rfl

/-- A quote in front that is not closed is a character like others. -/
lemma value_eq_bareValue (h : cs.head? = some '"' → '"' ∉ cs.tail) : value cs = bareValue cs := by
  rw [value.eq_def]
  split
  · next rest =>
    have hopen : '"' ∉ rest := h rfl
    rw [upTo?_eq_none_iff.2 hopen]
  · rfl

/-- Gaps behind a value without quotes are no part of it. -/
lemma bareValue_append (htext : ∀ c ∈ text, isBareChar c = true)
    (hafter : Follows [';', ','] after) :
    bareValue (text ++ after) = (trim text, skipGaps after) := by
  obtain ⟨gaps, hgaps, hsplit⟩ := exists_gaps after
  have hrun : ∀ c ∈ text ++ gaps, isBareChar c = true := by
    intro c hc
    rcases List.mem_append.1 hc with hc | hc
    · exact htext c hc
    · exact isBareChar_of_isGap (hgaps c hc)
  have hend : Stops isBareChar (skipGaps after) := by
    intro c hc
    rcases List.mem_cons.1 (hafter c hc) with rfl | hcomma
    · rfl
    · rw [List.mem_singleton.1 hcomma]
      rfl
  obtain ⟨htake, hdrop⟩ := takeWhile_append_of_stops hrun hend
  rw [List.append_assoc, ← hsplit] at htake hdrop
  rw [bareValue, htake, hdrop, trim_append fun c hc => isBlank_of_isGap (hgaps c hc)]

/-- What the grammar gives to a key is read as its value, up to gaps in what is left. -/
lemma exists_valueAfterKey (h : IsValue after cs v) (hafter : Follows [';', ','] after) :
    ∃ left, valueAfterKey (cs ++ after) = (v, left) ∧ skipGaps left = skipGaps after := by
  cases h with
  | leftOut =>
    refine ⟨after, ?_, rfl⟩
    rw [List.nil_append, valueAfterKey, skipMark?_eq_none hafter (by decide)]
  | @quoted sep _ hsep htext =>
    refine ⟨after, ?_, rfl⟩
    have hrest : sep ++ '"' :: v ++ ['"'] ++ after = sep ++ '"' :: (v ++ '"' :: after) := by simp
    rw [valueAfterKey, hrest, skipMark?_of_separates (by decide) hsep,
      skipGaps_of_stops (stops_cons (by decide))]
    simp only [value, upTo?_append htext]
  | @bare sep text hsep hstart htext hquote =>
    refine ⟨skipGaps after, ?_, skipGaps_of_stops (stops_skipGaps after)⟩
    rw [List.append_assoc, valueAfterKey, skipMark?_of_separates (by decide) hsep]
    cases text with
    | nil =>
      -- without a value the gaps behind the equality sign are skipped with it
      have hopen : (skipGaps after).head? = some '"' → '"' ∉ (skipGaps after).tail := by
        intro hhead
        exact absurd (hafter _ hhead) (by decide)
      have hskipped : Follows [';', ','] (skipGaps after) := by
        rwa [Follows, skipGaps_of_stops (stops_skipGaps after)]
      have hbare : bareValue ([] ++ skipGaps after) = (trim [], skipGaps (skipGaps after)) :=
        bareValue_append nofun hskipped
      rw [List.nil_append, skipGaps_of_stops (stops_skipGaps after)] at hbare
      simp only [List.nil_append, value_eq_bareValue hopen, hbare]
    | cons c text =>
      have hstops : Stops isGap (c :: text ++ after) := stops_cons (hstart c rfl)
      have hopen : (c :: text ++ after).head? = some '"' → '"' ∉ (c :: text ++ after).tail := hquote
      simp only [skipGaps_of_stops hstops, value_eq_bareValue hopen,
        bareValue_append htext hafter]

/-- A value in quotes is read up to the quote that closes it, and any other one up to a mark. -/
lemma value_cases (cs : List Char) :
    (∃ inside after, '"' ∉ inside ∧ cs = '"' :: inside ++ '"' :: after ∧
      value cs = (inside, after)) ∨
    ∃ text after, (∀ c ∈ text, isBareChar c = true) ∧ cs = text ++ after ∧
      (text.head? = some '"' → '"' ∉ text.tail ++ after) ∧ value cs = (trim text, after) := by
  by_cases hopen : cs.head? = some '"' → '"' ∉ cs.tail
  · right
    have hsplit : cs = cs.takeWhile isBareChar ++ cs.dropWhile isBareChar :=
      List.takeWhile_append_dropWhile.symm
    refine ⟨cs.takeWhile isBareChar, cs.dropWhile isBareChar,
      fun c hc => List.mem_takeWhile_imp hc, hsplit, ?_, value_eq_bareValue hopen⟩
    -- a quote in front belongs to the run, so it is not closed behind the run either
    intro hhead
    cases hrun : cs.takeWhile isBareChar with
    | nil => simp [hrun] at hhead
    | cons c text =>
      rw [hrun] at hhead hsplit
      rw [hsplit] at hopen
      exact hopen hhead
  · left
    rw [Classical.not_imp, not_not] at hopen
    obtain ⟨hhead, hmem⟩ := hopen
    obtain ⟨rest, rfl⟩ := List.head?_eq_some_iff.1 hhead
    rw [value]
    split
    · next found hfound =>
      obtain ⟨inside, after⟩ := found
      obtain ⟨hinside, rfl⟩ := upTo?_eq_some hfound
      exact ⟨inside, after, hinside, rfl, rfl⟩
    · next hnone => exact absurd hmem (upTo?_eq_none_iff.1 hnone)

/-- What is read as the value of a key is one by the grammar. -/
lemma isValue_of_valueAfterKey (h : valueAfterKey cs = (v, after)) :
    ∃ text, cs = text ++ after ∧ IsValue after text v := by
  rw [valueAfterKey] at h
  split at h
  · next rest hmark =>
    obtain ⟨sep, hsep, rfl, hstops⟩ := exists_separates hmark
    rcases value_cases rest with ⟨inside, after', hinside, rfl, hvalue⟩ |
      ⟨text, after', htext, rfl, hquote, hvalue⟩
    · rw [hvalue] at h
      cases h
      exact ⟨sep ++ '"' :: v ++ ['"'], by simp, .quoted hsep hinside⟩
    · rw [hvalue] at h
      cases h
      refine ⟨sep ++ text, (List.append_assoc ..).symm, .bare hsep ?_ htext hquote⟩
      intro c hc
      exact hstops c (by rw [List.head?_append, hc]; rfl)
  · cases h
    exact ⟨[], rfl, .leftOut⟩

/-! ## Parameters -/

lemma isKeyChar_of_isGap {c : Char} (h : isGap c = true) : isKeyChar c = false := by
  simp [isKeyChar, isBlank_of_isGap h]

/-- A key ends at gaps and at the marks that may follow it. -/
lemma stops_isKeyChar (h : Follows ['=', ';', ','] cs) : Stops isKeyChar cs := by
  intro c hc
  by_cases hgap : isGap c = true
  · exact isKeyChar_of_isGap hgap
  · have hstops : Stops isGap cs := by
      intro c' hc'
      rw [Option.mem_unique hc' hc]
      simpa using hgap
    have hmem := h c (by rwa [skipGaps_of_stops hstops])
    simp only [List.mem_cons, List.not_mem_nil, or_false] at hmem
    rcases hmem with rfl | rfl | rfl <;> rfl

lemma stops_isGap_of_key (hne : key ≠ []) (hkey : ∀ c ∈ key, isKeyChar c = true)
    (rest : List Char) : Stops isGap (key ++ rest) := by
  cases key with
  | nil => exact absurd rfl hne
  | cons c key =>
    refine stops_cons ?_
    by_contra hgap
    rw [Bool.not_eq_false] at hgap
    have hc := hkey c List.mem_cons_self
    rw [isKeyChar_of_isGap hgap] at hc
    cases hc

lemma follows_of_isValue (h : IsValue after cs v) (hafter : Follows [';', ','] after) :
    Follows ['=', ';', ','] (cs ++ after) := by
  cases h with
  | leftOut => exact hafter.mono (by simp)
  | quoted hsep _ =>
    simp only [List.append_assoc]
    exact follows_of_separates (by decide) hsep (by decide) _
  | bare hsep _ _ _ =>
    rw [List.append_assoc]
    exact follows_of_separates (by decide) hsep (by decide) _

lemma exists_parameter? (h : IsParameter after cs p) (hafter : Follows [';', ','] after) :
    ∃ left, parameter? (cs ++ after) = some (p, left) ∧ skipGaps left = skipGaps after := by
  cases h with
  | @intro sep key cs v hsep hne hkey hvalue =>
    obtain ⟨left, hleft, hgaps⟩ := exists_valueAfterKey hvalue hafter
    refine ⟨left, ?_, hgaps⟩
    obtain ⟨htake, hdrop⟩ := takeWhile_append_of_stops hkey
      (stops_isKeyChar (follows_of_isValue hvalue hafter))
    have hstops := stops_isGap_of_key hne hkey (cs ++ after)
    rw [List.append_assoc, List.append_assoc, parameter?, skipMark?_of_separates (by decide) hsep,
      skipGaps_of_stops hstops]
    simp only [htake, hdrop, hleft]

lemma isParameter_of_parameter? (h : parameter? cs = some (p, after)) :
    ∃ text, cs = text ++ after ∧ IsParameter after text p := by
  rw [parameter?] at h
  split at h
  · cases h
  · next rest hmark =>
    obtain ⟨sep, hsep, rfl, -⟩ := exists_separates hmark
    have hsplit : rest.takeWhile isKeyChar ++ rest.dropWhile isKeyChar = rest :=
      List.takeWhile_append_dropWhile
    split at h
    · cases h
    · next hne =>
      cases h
      obtain ⟨text, htext, hvalue⟩ := isValue_of_valueAfterKey
        (show valueAfterKey (rest.dropWhile isKeyChar) = (_, _) from rfl)
      refine ⟨sep ++ rest.takeWhile isKeyChar ++ text, ?_,
        .intro hsep hne (fun c hc => List.mem_takeWhile_imp hc) hvalue⟩
      rw [List.append_assoc, List.append_assoc, ← htext, hsplit]

lemma parameters_of_eq_none (h : parameter? cs = none) : parameters cs = ([], cs) := by
  rw [parameters.eq_def]
  split
  · rfl
  · next hsome => rw [h] at hsome; cases hsome

lemma parameters_of_eq_some (h : parameter? cs = some (p, rest)) :
    parameters cs = (p :: (parameters rest).1, (parameters rest).2) := by
  rw [parameters.eq_def]
  split
  · next hnone => rw [h] at hnone; cases hnone
  · next hsome =>
    rw [h] at hsome
    cases hsome
    rfl

lemma parameter?_congr {cs' : List Char} (h : skipGaps cs = skipGaps cs') :
    parameter? cs = parameter? cs' := by
  rw [parameter?, parameter?, skipMark?_congr h]

lemma follows_of_areParameters (h : AreParameters after cs ps) (hafter : Follows [','] after) :
    Follows [';', ','] (cs ++ after) := by
  cases h with
  | nil => exact hafter.mono (by simp)
  | cons h _ =>
    cases h with
    | intro hsep _ _ _ =>
      simp only [List.append_assoc]
      exact follows_of_separates (by decide) hsep (by decide) _

/-- Parameters are read up to the next comma, whatever gaps the text starts with. -/
lemma exists_parameters (h : AreParameters after cs ps) (hafter : Follows [','] after)
    {start : List Char} (hstart : skipGaps start = skipGaps (cs ++ after)) :
    ∃ left, parameters start = (ps, left) ∧ skipGaps left = skipGaps after := by
  induction h generalizing start with
  | nil =>
    have hnone : parameter? start = none := by
      rw [parameter?_congr hstart, List.nil_append, parameter?,
        skipMark?_eq_none hafter (by decide)]
    exact ⟨start, parameters_of_eq_none hnone, hstart⟩
  | @cons cs rest p ps hp hrest ih =>
    -- what the first one leaves starts with other gaps than `rest`, so the rest must not see them
    obtain ⟨left, hleft, hgaps⟩ := exists_parameter? hp (follows_of_areParameters hrest hafter)
    obtain ⟨left', hparameters, hgaps'⟩ := ih hgaps
    refine ⟨left', ?_, hgaps'⟩
    rw [List.append_assoc] at hstart
    rw [parameters_of_eq_some ((parameter?_congr hstart).trans hleft), hparameters]

lemma areParameters_of_parameters (h : parameters cs = (ps, after)) :
    ∃ text, cs = text ++ after ∧ AreParameters after text ps := by
  fun_induction parameters cs generalizing ps after with
  | case1 cs hnone =>
    cases h
    exact ⟨[], rfl, .nil⟩
  | case2 cs p rest hsome hlt ps' after' hrest ih =>
    cases h
    obtain ⟨text, rfl, hp⟩ := isParameter_of_parameter? hsome
    obtain ⟨text', rfl, hps⟩ := ih hrest
    exact ⟨text ++ text', (List.append_assoc ..).symm, .cons hp hps⟩

/-! ## Items -/

lemma exists_item? (h : IsItem after cs i) (hafter : Follows [','] after) :
    ∃ left, item? (cs ++ after) = some (i, left) ∧ skipGaps left = skipGaps after := by
  cases h with
  | @intro target cs ps htarget hps =>
    obtain ⟨left, hleft, hgaps⟩ := exists_parameters hps hafter rfl
    refine ⟨left, ?_, hgaps⟩
    have hsplit :
        '<' :: target ++ '>' :: cs ++ after = '<' :: (target ++ '>' :: (cs ++ after)) := by
      simp
    rw [hsplit, item?, upTo?_append htarget]
    simp only [hleft]

lemma isItem_of_item? (h : item? cs = some (i, after)) :
    ∃ text, cs = text ++ after ∧ IsItem after text i := by
  rw [item?.eq_def] at h
  split at h
  · next rest =>
    split at h
    · next target rest' hfound =>
      obtain ⟨htarget, rfl⟩ := upTo?_eq_some hfound
      cases hread : parameters rest' with
      | mk ps left =>
        rw [hread] at h
        cases h
        obtain ⟨text, rfl, hps⟩ := areParameters_of_parameters hread
        exact ⟨'<' :: target ++ '>' :: text, by simp, .intro htarget hps⟩
    · cases h
  · cases h

lemma stops_isGap_of_isItem (h : IsItem after cs i) (rest : List Char) :
    Stops isGap (cs ++ rest) := by
  cases h with
  | intro _ _ => exact stops_cons (by decide)

lemma moreItems_of_eq_none (h : skipMark? ',' cs = none) : moreItems cs = ([], cs) := by
  rw [moreItems.eq_def]
  split
  · rfl
  · next hsome => rw [h] at hsome; cases hsome

lemma moreItems_of_eq_some (h : skipMark? ',' cs = some rest)
    (hitem : item? rest = some (i, left)) :
    moreItems cs = (i :: (moreItems left).1, (moreItems left).2) := by
  rw [moreItems.eq_def]
  split
  · next hnone => rw [h] at hnone; cases hnone
  · next hsome =>
    rw [h] at hsome
    cases hsome
    split
    · next hnone => rw [hitem] at hnone; cases hnone
    · next hfound =>
      rw [hitem] at hfound
      cases hfound
      rfl

lemma follows_of_areItems (h : AreItems after cs is) (hafter : Follows [] after) :
    Follows [','] (cs ++ after) := by
  cases h with
  | nil => exact hafter.mono (by simp)
  | cons hsep _ _ =>
    simp only [List.append_assoc]
    exact follows_of_separates (by decide) hsep (by decide) _

/-- Items are read up to the end, whatever gaps the text starts with. -/
lemma exists_moreItems (h : AreItems after cs is) (hafter : Follows [] after)
    {start : List Char} (hstart : skipGaps start = skipGaps (cs ++ after)) :
    ∃ left, moreItems start = (is, left) ∧ skipGaps left = skipGaps after := by
  induction h generalizing start with
  | nil =>
    have hnone : skipMark? ',' start = none := by
      rw [skipMark?_congr hstart, List.nil_append, skipMark?_eq_none hafter (by decide)]
    exact ⟨start, moreItems_of_eq_none hnone, hstart⟩
  | @cons sep cs rest i is hsep hi hrest ih =>
    obtain ⟨left, hleft, hgaps⟩ := exists_item? hi (follows_of_areItems hrest hafter)
    obtain ⟨left', hitems, hgaps'⟩ := ih hgaps
    refine ⟨left', ?_, hgaps'⟩
    have hmark : skipMark? ',' start = some (cs ++ (rest ++ after)) := by
      rw [skipMark?_congr hstart, List.append_assoc, List.append_assoc,
        skipMark?_of_separates (by decide) hsep, skipGaps_of_stops (stops_isGap_of_isItem hi _)]
    rw [moreItems_of_eq_some hmark hleft, hitems]

lemma areItems_of_moreItems (h : moreItems cs = (is, after)) :
    ∃ text, cs = text ++ after ∧ AreItems after text is := by
  fun_induction moreItems cs generalizing is after with
  | case1 cs hnone =>
    cases h
    exact ⟨[], rfl, .nil⟩
  | case2 cs rest hmark hnone =>
    cases h
    exact ⟨[], rfl, .nil⟩
  | case3 cs rest hmark i rest' hitem hlt hlt' is' after' hmore ih =>
    cases h
    obtain ⟨sep, hsep, rfl, -⟩ := exists_separates hmark
    obtain ⟨text, rfl, hi⟩ := isItem_of_item? hitem
    obtain ⟨text', rfl, his⟩ := ih hmore
    exact ⟨sep ++ text ++ text', by simp, .cons hsep hi his⟩

/-! ## Headers -/

lemma areGaps_of_skipGaps_eq_nil (h : skipGaps cs = []) : AreGaps cs := by
  obtain ⟨gaps, hgaps, hsplit⟩ := exists_gaps cs
  rw [h, List.append_nil] at hsplit
  rwa [hsplit]

lemma items_of_derives (h : Derives cs is) : items cs = (is, []) := by
  cases h with
  | nil hgaps =>
    rw [items, skipGaps_of_areGaps hgaps]
    rfl
  | @cons before cs rest after i is hbefore hi hrest hafter =>
    have hnothing : skipGaps after = [] := skipGaps_of_areGaps hafter
    -- nothing but the end may follow the last item
    have hend : Follows [] after := by
      rw [Follows, hnothing]
      rintro c ⟨⟩
    obtain ⟨left, hleft, hgaps⟩ := exists_item? hi (follows_of_areItems hrest hend)
    obtain ⟨left', hmore, hgaps'⟩ := exists_moreItems hrest hend hgaps
    have hstart : skipGaps (before ++ cs ++ rest ++ after) = cs ++ (rest ++ after) := by
      rw [List.append_assoc, List.append_assoc, skipGaps_append hbefore,
        skipGaps_of_stops (stops_isGap_of_isItem hi _)]
    rw [items, hstart]
    simp only [hleft, hmore, hgaps', hnothing]

lemma derives_of_items (h : items cs = (is, [])) : Derives cs is := by
  obtain ⟨before, hbefore, hsplit⟩ := exists_gaps cs
  rw [items] at h
  cases hitem : item? (skipGaps cs) with
  | none =>
    simp only [hitem, skipGaps_of_stops (stops_skipGaps cs), Prod.mk.injEq] at h
    obtain ⟨rfl, hnothing⟩ := h
    exact .nil (areGaps_of_skipGaps_eq_nil hnothing)
  | some found =>
    obtain ⟨i, left⟩ := found
    cases hmore : moreItems left with
    | mk is' after =>
      simp only [hitem, hmore, Prod.mk.injEq] at h
      obtain ⟨rfl, hnothing⟩ := h
      obtain ⟨text, htext, hi⟩ := isItem_of_item? hitem
      obtain ⟨rest, rfl, hrest⟩ := areItems_of_moreItems hmore
      have hcs : cs = before ++ text ++ rest ++ after := by
        rw [hsplit, htext]
        simp
      rw [hcs]
      exact .cons hbefore hi hrest (areGaps_of_skipGaps_eq_nil hnothing)

/-- A header is derived from at most one list of items. -/
lemma Derives.unique {is' : List Item} (h : Derives cs is) (h' : Derives cs is') : is = is' :=
  congrArg Prod.fst ((items_of_derives h).symm.trans (items_of_derives h'))

/-- A header is accepted exactly if it is derived from items, and gives their links. -/
lemma parse_eq_ok_iff {header : String} {links : List Link} :
    parse header = .ok links ↔ ∃ is, Derives header.toList is ∧ links = is.map Item.link := by
  rw [parse]
  cases hread : items header.toList with
  | mk is rest =>
    cases rest with
    | nil =>
      have hderives := derives_of_items hread
      simp only [Except.ok.injEq]
      constructor
      · rintro rfl
        exact ⟨is, hderives, rfl⟩
      · rintro ⟨is', hderives', rfl⟩
        rw [hderives.unique hderives']
    | cons c rest =>
      refine iff_of_false nofun ?_
      rintro ⟨is', hderives, -⟩
      rw [items_of_derives hderives] at hread
      cases hread

end CloudDirector.LinkHeader
