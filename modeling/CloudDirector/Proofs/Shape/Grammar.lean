import CloudDirector.Proofs.Text.Runs
import CloudDirector.Shape.Expression

/-!
# The grammar of type expressions

The language of type expressions as a grammar, apart from what reads it.  Reading tries a list
first, then a map and then a name, and never goes back on a choice; a name may itself start with
the word of a list or a map.  It still finds every derivation: a word and a name both end where the
characters of names end, so what follows tells them apart.  Therefore reading accepts exactly the
grammar, and a text derives at most one descriptor.
-/

namespace CloudDirector.Expression

open Text

/-! ## The grammar -/

/-- The characters are gaps. -/
def IsGaps (cs : List Char) : Prop := ∀ c ∈ cs, isGap c = true

/-- The characters may all stand in a name. -/
def IsRun (cs : List Char) : Prop := ∀ c ∈ cs, isNameChar c = true

/-- The characters spell a word without regard to the case of letters. -/
def IsWord (word : String) (cs : List Char) : Prop := cs.map Char.toLower = word.toList

instance : DecidablePred IsRun := fun cs => List.decidableBAll (fun c => isNameChar c = true) cs

mutual

/-- The characters are an expression of the descriptor, gaps around it included. -/
inductive Derives : List Char → Descriptor → Prop
  | padded {before core after : List Char} {d : Descriptor} (hbefore : IsGaps before)
      (h : DerivesCore core d) (hafter : IsGaps after) : Derives (before ++ core ++ after) d

/-- The characters are an expression of the descriptor without gaps around it.  Gaps, brackets and
commas surround a name in an expression, so that it is a maximal run. -/
inductive DerivesCore : List Char → Descriptor → Prop
  | list {word gaps text : List Char} {d : Descriptor} (hword : IsWord "list" word)
      (hgaps : IsGaps gaps) (h : Derives text d) :
      DerivesCore (word ++ gaps ++ '[' :: text ++ [']']) (.list d)
  | map {word gaps key text : List Char} {d : Descriptor}
      (hword : IsWord "map" word ∨ IsWord "dict" word) (hgaps : IsGaps gaps)
      (hkey : Derives key (.scalar .string)) (h : Derives text d) :
      DerivesCore (word ++ gaps ++ '(' :: key ++ ',' :: text ++ [')']) (.map d)
  | name {run : List Char} (hne : run ≠ []) (hrun : IsRun run) :
      DerivesCore run (ofName (.ofList run))

end

variable {cs rest word run gaps mid : List Char} {m : Char} {d : Descriptor} {inner : Reader}

/-- The text is at its end, or at a character that ends an expression inside of another one. -/
def Closes (rest : List Char) : Prop := ∀ c ∈ rest.head?, c = ']' ∨ c = ')' ∨ c = ','

/-! ## Classes of characters -/

lemma isNameChar_of_toLower {c : Char} (h : isNameChar c.toLower = true) : isNameChar c = true := by
  by_cases hupper : c.isUpper = true
  · have hbound : c.toNat < 0x80 := by
      obtain ⟨-, hle⟩ := of_decide_eq_true hupper
      exact Nat.lt_of_le_of_lt (UInt32.le_iff_toNat_le.1 hle) (by decide)
    have halphanum : c.isAlphanum = ((c.isUpper || c.isLower) || c.isDigit) := rfl
    rw [isNameChar, isAlphanumeric_of_ascii hbound, halphanum, hupper]
    rfl
  · have hsame : c.toLower = c := dif_neg fun hbounds => hupper (decide_eq_true hbounds)
    rwa [hsame] at h

/-- A word may be the start of a name. -/
lemma IsWord.isRun {text : String} (hword : IsWord text word) (htext : IsRun text.toList) :
    IsRun word := by
  intro c hc
  refine isNameChar_of_toLower (htext _ ?_)
  rw [← hword]
  exact List.mem_map_of_mem hc

/-- The words with brackets are names as well. -/
lemma isRun_word : ∀ text ∈ ["list", "map", "dict"], IsRun text.toList := by decide +kernel

lemma isNameChar_of_isGap {c : Char} (h : isGap c = true) : isNameChar c = false := by
  simp only [isGap, Bool.or_eq_true, beq_iff_eq] at h
  rcases h with ((rfl | rfl) | rfl) | rfl <;> rfl

lemma isGap_of_isNameChar {c : Char} (h : isNameChar c = true) : isGap c = false := by
  rw [← Bool.not_eq_true]
  intro hgap
  rw [isNameChar_of_isGap hgap] at h
  cases h

lemma Closes.stops_isNameChar (h : Closes rest) : Stops isNameChar rest := by
  intro c hc
  rcases h c hc with rfl | rfl | rfl <;> rfl

lemma Closes.stops_isGap (h : Closes rest) : Stops isGap rest := by
  intro c hc
  rcases h c hc with rfl | rfl | rfl <;> rfl

/-- A run of characters of names ends at gaps, and at what follows them. -/
lemma stops_gaps_append (hgaps : IsGaps gaps) (hrest : Stops isNameChar rest) :
    Stops isNameChar (gaps ++ rest) := by
  cases gaps with
  | nil => exact hrest
  | cons c gaps => exact stops_cons (isNameChar_of_isGap (hgaps c List.mem_cons_self))

/-! ## Parts of the reader -/

lemma skipGaps_append (hgaps : IsGaps gaps) (hrest : Stops isGap rest) :
    skipGaps (gaps ++ rest) = rest :=
  (takeWhile_append_of_stops hgaps hrest).2

lemma exists_gaps (cs : List Char) : ∃ gaps, IsGaps gaps ∧ cs = gaps ++ skipGaps cs :=
  ⟨cs.takeWhile isGap, fun _ hc => List.mem_takeWhile_imp hc, List.takeWhile_append_dropWhile.symm⟩

lemma skipChar_eq_some_iff : skipChar m cs = some rest ↔ cs = m :: rest := by
  cases cs with
  | nil => simp [skipChar]
  | cons c cs => simp [skipChar]

lemma skipWord_eq_some_iff {letters : List Char} :
    skipWord letters cs = some rest ↔
      ∃ word, word.map Char.toLower = letters ∧ cs = word ++ rest := by
  induction letters generalizing cs with
  | nil => simp [skipWord, eq_comm]
  | cons w letters ih =>
    cases cs with
    | nil =>
      refine iff_of_false (by simp [skipWord]) ?_
      rintro ⟨word, hword, heq⟩
      rw [(List.append_eq_nil_iff.1 heq.symm).1] at hword
      cases hword
    | cons c cs =>
      rw [skipWord]
      constructor
      · intro h
        split at h
        · next hc =>
          obtain ⟨word, hword, rfl⟩ := ih.1 h
          exact ⟨c :: word, by rw [List.map_cons, hc, hword], rfl⟩
        · cases h
      · rintro ⟨word, hword, heq⟩
        cases word with
        | nil => cases hword
        | cons c' word =>
          rw [List.map_cons, List.cons.injEq] at hword
          obtain ⟨rfl, rfl⟩ := List.cons.inj heq
          rw [if_pos hword.1]
          exact ih.2 ⟨word, hword.2, rfl⟩

/-- The text goes on with `mid` behind a word, gaps, and a bracket. -/
def Opens (text : String) (m : Char) (cs mid : List Char) : Prop :=
  ∃ word gaps, IsWord text word ∧ IsGaps gaps ∧ cs = word ++ (gaps ++ m :: mid)

lemma opens_iff {text : String} (hm : isGap m = false) :
    Opens text m cs mid ↔
      ∃ rest, skipWord text.toList cs = some rest ∧ skipChar m (skipGaps rest) = some mid := by
  constructor
  · rintro ⟨word, gaps, hword, hgaps, rfl⟩
    refine ⟨gaps ++ m :: mid, skipWord_eq_some_iff.2 ⟨word, hword, rfl⟩, ?_⟩
    rw [skipGaps_append hgaps (stops_cons hm)]
    exact skipChar_eq_some_iff.2 rfl
  · rintro ⟨rest, hword, hchar⟩
    obtain ⟨word, hspelled, rfl⟩ := skipWord_eq_some_iff.1 hword
    obtain ⟨gaps, hgaps, hrest⟩ := exists_gaps rest
    rw [skipChar_eq_some_iff.1 hchar] at hrest
    exact ⟨word, gaps, hspelled, hgaps, by rw [hrest]⟩

lemma readList_eq_some_iff :
    readList inner cs = some (d, rest) ↔
      ∃ mid element, Opens "list" '[' cs mid ∧ inner mid = some (element, ']' :: rest) ∧
        d = .list element := by
  constructor
  · intro h
    obtain ⟨opened, hword, h⟩ := Option.bind_eq_some_iff.1 h
    obtain ⟨mid, hopen, h⟩ := Option.bind_eq_some_iff.1 h
    obtain ⟨⟨element, closed⟩, hinner, h⟩ := Option.bind_eq_some_iff.1 h
    obtain ⟨rest', hclose, h⟩ := Option.bind_eq_some_iff.1 h
    cases h
    rw [skipChar_eq_some_iff.1 hclose] at hinner
    exact ⟨mid, element, (opens_iff rfl).2 ⟨opened, hword, hopen⟩, hinner, rfl⟩
  · rintro ⟨mid, element, hopens, hinner, rfl⟩
    obtain ⟨opened, hword, hopen⟩ := (opens_iff rfl).1 hopens
    refine Option.bind_eq_some_iff.2 ⟨opened, hword, Option.bind_eq_some_iff.2 ⟨mid, hopen, ?_⟩⟩
    refine Option.bind_eq_some_iff.2 ⟨_, hinner, Option.bind_eq_some_iff.2 ⟨rest, ?_, rfl⟩⟩
    exact skipChar_eq_some_iff.2 rfl

/-- A text does not go on behind two different words. -/
lemma Opens.unique {text text' : String} {m' : Char} {mid' : List Char} (htext : IsRun text.toList)
    (htext' : IsRun text'.toList) (hm : isNameChar m = false) (hm' : isNameChar m' = false)
    (h : Opens text m cs mid) (h' : Opens text' m' cs mid') : text = text' := by
  obtain ⟨word, gaps, hword, hgaps, rfl⟩ := h
  obtain ⟨word', gaps', hword', hgaps', heq⟩ := h'
  obtain ⟨rfl, -⟩ := eq_of_append_eq_append (hword.isRun htext)
    (stops_gaps_append hgaps (stops_cons hm)) (hword'.isRun htext')
    (stops_gaps_append hgaps' (stops_cons hm')) heq
  rw [IsWord, hword] at hword'
  exact String.toList_inj.1 hword'

/-- One of the two words of a map is found if either is, because they exclude each other. -/
lemma opens_map_iff :
    (Opens "map" '(' cs mid ∨ Opens "dict" '(' cs mid) ↔
      ∃ rest, (skipWord "map".toList cs <|> skipWord "dict".toList cs) = some rest ∧
        skipChar '(' (skipGaps rest) = some mid := by
  have hexcludes : ∀ mid, Opens "dict" '(' cs mid → skipWord "map".toList cs = none := by
    rintro mid ⟨word, gaps, hword, -, rfl⟩
    cases word with
    | nil => cases hword
    | cons c word =>
      have hc : c.toLower = 'd' := (List.cons.inj hword).1
      rw [List.cons_append, show "map".toList = ['m', 'a', 'p'] from rfl, skipWord, hc]
      rfl
  rw [opens_iff rfl, opens_iff rfl]
  cases hmap : skipWord "map".toList cs with
  | none => simp
  | some opened =>
    refine or_iff_left_of_imp ?_
    rintro ⟨rest, hdict⟩
    rw [hexcludes mid ((opens_iff rfl).2 ⟨rest, hdict⟩)] at hmap
    cases hmap

lemma readMap_eq_some_iff :
    readMap inner cs = some (d, rest) ↔
      ∃ mid mid' element, (Opens "map" '(' cs mid ∨ Opens "dict" '(' cs mid) ∧
        inner mid = some (.scalar .string, ',' :: mid') ∧ inner mid' = some (element, ')' :: rest) ∧
        d = .map element := by
  constructor
  · intro h
    obtain ⟨opened, hword, h⟩ := Option.bind_eq_some_iff.1 h
    obtain ⟨mid, hopen, h⟩ := Option.bind_eq_some_iff.1 h
    obtain ⟨⟨key, afterKey⟩, hkey, h⟩ := Option.bind_eq_some_iff.1 h
    simp only at h
    split at h
    · cases h
    · next hstring =>
      rw [not_not] at hstring
      subst hstring
      obtain ⟨mid', hcomma, h⟩ := Option.bind_eq_some_iff.1 h
      obtain ⟨⟨element, closed⟩, hinner, h⟩ := Option.bind_eq_some_iff.1 h
      obtain ⟨rest', hclose, h⟩ := Option.bind_eq_some_iff.1 h
      obtain rfl := skipChar_eq_some_iff.1 hcomma
      obtain rfl := skipChar_eq_some_iff.1 hclose
      cases h
      exact ⟨mid, mid', element, opens_map_iff.2 ⟨opened, hword, hopen⟩, hkey, hinner, rfl⟩
  · rintro ⟨mid, mid', element, hopens, hkey, hinner, rfl⟩
    obtain ⟨opened, hword, hopen⟩ := opens_map_iff.1 hopens
    refine Option.bind_eq_some_iff.2 ⟨opened, hword, Option.bind_eq_some_iff.2 ⟨mid, hopen, ?_⟩⟩
    refine Option.bind_eq_some_iff.2 ⟨_, hkey, ?_⟩
    simp only [ne_eq, not_true_eq_false, if_false]
    refine Option.bind_eq_some_iff.2 ⟨mid', skipChar_eq_some_iff.2 rfl, ?_⟩
    refine Option.bind_eq_some_iff.2 ⟨_, hinner, Option.bind_eq_some_iff.2 ⟨rest, ?_, rfl⟩⟩
    exact skipChar_eq_some_iff.2 rfl

lemma readName_eq_some_iff :
    readName cs = some (d, rest) ↔
      ∃ run, run ≠ [] ∧ IsRun run ∧ Stops isNameChar rest ∧ cs = run ++ rest ∧
        d = ofName (.ofList run) := by
  constructor
  · intro h
    rw [readName] at h
    split at h
    · cases h
    · next hne =>
      cases h
      exact ⟨cs.takeWhile isNameChar, hne, fun _ hc => List.mem_takeWhile_imp hc,
        stops_dropWhile isNameChar cs, List.takeWhile_append_dropWhile.symm, rfl⟩
  · rintro ⟨run, hne, hrun, hrest, rfl, rfl⟩
    obtain ⟨htake, hdrop⟩ := takeWhile_append_of_stops hrun hrest
    rw [readName, htake, hdrop]
    cases run with
    | nil => exact absurd rfl hne
    | cons c run => rfl

/-- What stands in a text without gaps around it: the first of the three readers that finds
something decides. -/
def readCore (depth : Nat) : Reader := fun cs =>
  readList (readDescriptor depth) cs <|> readMap (readDescriptor depth) cs <|> readName cs

lemma readDescriptor_succ (depth : Nat) (cs : List Char) :
    readDescriptor (depth + 1) cs =
      (readCore depth (skipGaps cs)).map fun found => (found.1, skipGaps found.2) := by
  rw [readDescriptor, readCore]
  cases readList (readDescriptor depth) (skipGaps cs) with
  | some found => rfl
  | none =>
    cases readMap (readDescriptor depth) (skipGaps cs) with
    | some found => rfl
    | none => cases readName (skipGaps cs) <;> rfl

/-! ## Reading finds derivations -/

/-- What is read is a derivation, if it is one inside of brackets. -/
lemma derivesCore_of_readCore {depth : Nat}
    (ih : ∀ {cs d rest}, readDescriptor depth cs = some (d, rest) →
      ∃ text, cs = text ++ rest ∧ Derives text d)
    (h : readCore depth cs = some (d, rest)) : ∃ core, cs = core ++ rest ∧ DerivesCore core d := by
  rw [readCore] at h
  cases hlist : readList (readDescriptor depth) cs with
  | some found =>
    rw [hlist] at h
    cases h
    obtain ⟨mid, element, ⟨word, gaps, hword, hgaps, rfl⟩, hinner, rfl⟩ :=
      readList_eq_some_iff.1 hlist
    obtain ⟨text, rfl, htext⟩ := ih hinner
    exact ⟨_, by simp, .list hword hgaps htext⟩
  | none =>
    rw [hlist] at h
    cases hmap : readMap (readDescriptor depth) cs with
    | some found =>
      rw [hmap] at h
      cases h
      obtain ⟨mid, mid', element, hopens, hstring, hinner, rfl⟩ := readMap_eq_some_iff.1 hmap
      obtain ⟨key, rfl, hkey⟩ := ih hstring
      obtain ⟨text, rfl, htext⟩ := ih hinner
      rcases hopens with ⟨word, gaps, hword, hgaps, rfl⟩ | ⟨word, gaps, hword, hgaps, rfl⟩
      · exact ⟨_, by simp, .map (.inl hword) hgaps hkey htext⟩
      · exact ⟨_, by simp, .map (.inr hword) hgaps hkey htext⟩
    | none =>
      rw [hmap] at h
      obtain ⟨run, hne, hrun, -, rfl, rfl⟩ := readName_eq_some_iff.1 h
      exact ⟨run, rfl, .name hne hrun⟩

lemma derives_of_readDescriptor {depth : Nat} (h : readDescriptor depth cs = some (d, rest)) :
    ∃ text, cs = text ++ rest ∧ Derives text d := by
  induction depth generalizing cs d rest with
  | zero => cases h
  | succ depth ih =>
    rw [readDescriptor_succ] at h
    obtain ⟨⟨d', left⟩, hcore, heq⟩ := Option.map_eq_some_iff.1 h
    cases heq
    obtain ⟨core, hstart, hderives⟩ := derivesCore_of_readCore ih hcore
    obtain ⟨before, hbefore, hcs⟩ := exists_gaps cs
    obtain ⟨after, hafter, hleft⟩ := exists_gaps left
    refine ⟨before ++ core ++ after, ?_, .padded hbefore hderives hafter⟩
    calc cs = before ++ (core ++ left) := hstart ▸ hcs
      _ = before ++ (core ++ (after ++ skipGaps left)) := by rw [← hleft]
      _ = before ++ core ++ after ++ skipGaps left := by simp

/-! ## Every derivation is read -/

/-- An expression without gaps around it starts with a character of names. -/
lemma DerivesCore.stops_isGap {core : List Char} (h : DerivesCore core d) (rest : List Char) :
    Stops isGap (core ++ rest) := by
  have hstart : ∀ {run after : List Char}, run ≠ [] → IsRun run → Stops isGap (run ++ after) := by
    intro run after hne hrun
    cases run with
    | nil => exact absurd rfl hne
    | cons c run => exact stops_cons (isGap_of_isNameChar (hrun c List.mem_cons_self))
  have hword : ∀ {text : String} {word after : List Char}, text.toList ≠ [] → IsRun text.toList →
      IsWord text word → Stops isGap (word ++ after) := by
    intro text word after hne hrun hword
    refine hstart ?_ (hword.isRun hrun)
    rintro rfl
    exact hne hword.symm
  cases h with
  | list hlist _ _ =>
    simp only [List.append_assoc]
    exact hword (by decide) (isRun_word _ (by decide)) hlist
  | map hmap _ _ _ =>
    simp only [List.append_assoc]
    rcases hmap with hmap | hmap <;> exact hword (by decide) (isRun_word _ (by decide)) hmap
  | name hne hrun => exact hstart hne hrun

/-- Nothing is opened behind a name at the end of an expression. -/
lemma not_opens_run {text : String} (htext : IsRun text.toList) (hrun : IsRun run)
    (hgaps : IsGaps gaps) (hrest : Closes rest) (hm : m = '[' ∨ m = '(') :
    ¬ Opens text m (run ++ (gaps ++ rest)) mid := by
  rintro ⟨word, gaps', hword, hgaps', heq⟩
  have hname : isNameChar m = false := by rcases hm with rfl | rfl <;> rfl
  have hgap : isGap m = false := by rcases hm with rfl | rfl <;> rfl
  obtain ⟨-, hafter⟩ := eq_of_append_eq_append hrun
    (stops_gaps_append hgaps hrest.stops_isNameChar) (hword.isRun htext)
    (stops_gaps_append hgaps' (stops_cons hname)) heq
  obtain ⟨-, rfl⟩ := eq_of_append_eq_append hgaps hrest.stops_isGap hgaps' (stops_cons hgap) hafter
  rcases hm with rfl | rfl <;> rcases hrest _ rfl with h | h | h <;> cases h

lemma readList_eq_none (h : ∀ mid, ¬ Opens "list" '[' cs mid) : readList inner cs = none := by
  rw [Option.eq_none_iff_forall_ne_some]
  rintro ⟨d, rest⟩ hlist
  obtain ⟨mid, -, hopens, -⟩ := readList_eq_some_iff.1 hlist
  exact h mid hopens

lemma readMap_eq_none (h : ∀ mid, ¬ Opens "map" '(' cs mid)
    (h' : ∀ mid, ¬ Opens "dict" '(' cs mid) : readMap inner cs = none := by
  rw [Option.eq_none_iff_forall_ne_some]
  rintro ⟨d, rest⟩ hmap
  obtain ⟨mid, -, -, hopens | hopens, -⟩ := readMap_eq_some_iff.1 hmap
  · exact h mid hopens
  · exact h' mid hopens

lemma readCore_of_derivesCore {depth : Nat} {core after : List Char}
    (ih : ∀ {text d rest}, Derives text d → text.length < depth → Closes rest →
      readDescriptor depth (text ++ rest) = some (d, rest))
    (h : DerivesCore core d) (hdepth : core.length ≤ depth) (hafter : IsGaps after)
    (hrest : Closes rest) :
    readCore depth (core ++ (after ++ rest)) = some (d, after ++ rest) := by
  rw [readCore]
  cases h with
  | @list word gaps text d hword hgaps htext =>
    simp only [List.length_append, List.length_cons, List.length_nil] at hdepth
    have hinner : readDescriptor depth (text ++ ']' :: (after ++ rest)) =
        some (d, ']' :: (after ++ rest)) := ih htext (by omega) (by rintro c ⟨⟩; simp)
    rw [readList_eq_some_iff.2 ⟨_, d, ⟨word, gaps, hword, hgaps, by simp⟩, hinner, rfl⟩]
    rfl
  | @map word gaps key text d hword hgaps hkey htext =>
    simp only [List.length_append, List.length_cons, List.length_nil] at hdepth
    have hstring : readDescriptor depth (key ++ ',' :: (text ++ ')' :: (after ++ rest))) =
        some (.scalar .string, ',' :: (text ++ ')' :: (after ++ rest))) :=
      ih hkey (by omega) (by rintro c ⟨⟩; simp)
    have hinner : readDescriptor depth (text ++ ')' :: (after ++ rest)) =
        some (d, ')' :: (after ++ rest)) := ih htext (by omega) (by rintro c ⟨⟩; simp)
    have hopens : ∀ text', IsWord text' word → Opens text' '('
        (word ++ gaps ++ '(' :: key ++ ',' :: text ++ [')'] ++ (after ++ rest))
        (key ++ ',' :: (text ++ ')' :: (after ++ rest))) :=
      fun _ hword => ⟨word, gaps, hword, hgaps, by simp⟩
    rw [readList_eq_none, readMap_eq_some_iff.2 ⟨_, _, d, ?_, hstring, hinner, rfl⟩]
    · rfl
    · exact hword.imp (hopens _) (hopens _)
    · intro mid hlist
      have hrun := isRun_word "list" (by decide)
      rcases hword with hword | hword
      · have hrun' := isRun_word "map" (by decide)
        exact absurd (hlist.unique hrun hrun' rfl rfl (hopens _ hword)) (by decide)
      · have hrun' := isRun_word "dict" (by decide)
        exact absurd (hlist.unique hrun hrun' rfl rfl (hopens _ hword)) (by decide)
  | name hne hrun =>
    rw [readList_eq_none, readMap_eq_none, readName_eq_some_iff.2 ⟨core, hne, hrun, ?_, rfl, rfl⟩]
    · rfl
    · exact stops_gaps_append hafter hrest.stops_isNameChar
    · exact fun mid => not_opens_run (isRun_word _ (by decide)) hrun hafter hrest (.inr rfl)
    · exact fun mid => not_opens_run (isRun_word _ (by decide)) hrun hafter hrest (.inr rfl)
    · exact fun mid => not_opens_run (isRun_word _ (by decide)) hrun hafter hrest (.inl rfl)

lemma readDescriptor_of_derives {depth : Nat} {text : List Char} (h : Derives text d)
    (hdepth : text.length < depth) (hrest : Closes rest) :
    readDescriptor depth (text ++ rest) = some (d, rest) := by
  induction depth generalizing text d rest with
  | zero => omega
  | succ depth ih =>
    cases h with
    | @padded before core after _ hbefore hcore hafter =>
      simp only [List.length_append] at hdepth
      have hread := readCore_of_derivesCore ih hcore (by omega) hafter hrest
      rw [readDescriptor_succ, List.append_assoc, List.append_assoc,
        skipGaps_append hbefore (hcore.stops_isGap _), hread, Option.map_some,
        skipGaps_append hafter hrest.stops_isGap]

/-! ## What is accepted -/

/-- Reading a whole text succeeds exactly on its derivations. -/
lemma read_eq_some_iff : read cs = some (d, []) ↔ Derives cs d := by
  constructor
  · intro h
    obtain ⟨text, rfl, htext⟩ := derives_of_readDescriptor h
    rwa [List.append_nil]
  · intro h
    have hread := readDescriptor_of_derives h (Nat.lt_succ_self _)
      (show Closes [] by rintro c ⟨⟩)
    rwa [List.append_nil] at hread

/-- A text derives at most one descriptor. -/
lemma Derives.unique {d' : Descriptor} (h : Derives cs d) (h' : Derives cs d') : d = d' := by
  have hread := (read_eq_some_iff.2 h).symm.trans (read_eq_some_iff.2 h')
  exact congrArg Prod.fst (Option.some.inj hread)

/-- A trimmed expression that is no derivation is refused as a mistake of the set-up. -/
lemma parse_cases (expression : String) :
    (sameLetters (trimmed expression) "file" = true ∧ parse expression = .ok .file) ∨
    (sameLetters (trimmed expression) "file" = false ∧
      ((∃ d, Derives (trimmed expression).toList d ∧ parse expression = .ok (.decode d)) ∨
        (∀ d, ¬ Derives (trimmed expression).toList d) ∧
          ∃ fault, parse expression = .failSetup fault)) := by
  rw [parse]
  cases hfile : sameLetters (trimmed expression) "file" with
  | true => exact .inl ⟨rfl, rfl⟩
  | false =>
    refine .inr ⟨rfl, ?_⟩
    have hderives : ∀ d, Derives (trimmed expression).toList d →
        read (trimmed expression).toList = some (d, []) := fun _ h => read_eq_some_iff.2 h
    simp only [Bool.false_eq_true, if_false]
    split
    · next d hread => exact .inl ⟨d, read_eq_some_iff.1 hread, rfl⟩
    · next d rest hne hread =>
      refine .inr ⟨fun d' h => ?_, _, rfl⟩
      rw [hderives d' h] at hread
      cases hread
      exact hne rfl
    · next hread =>
      refine .inr ⟨fun d' h => ?_, _, rfl⟩
      rw [hderives d' h] at hread
      cases hread

/-- An expression asks for a file if it is that word, and else for the descriptor that it derives,
of which there is at most one; all other expressions are refused as mistakes of the set-up. -/
theorem parse_iff (expression : String) :
    (parse expression = .ok .file ↔ sameLetters (trimmed expression) "file" = true) ∧
    (∀ d, parse expression = .ok (.decode d) ↔
      sameLetters (trimmed expression) "file" = false ∧
        Derives (trimmed expression).toList d) ∧
    ((∃ fault, parse expression = .failSetup fault) ↔
      sameLetters (trimmed expression) "file" = false ∧
        ∀ d, ¬ Derives (trimmed expression).toList d) ∧
    ∀ cs d d', Derives cs d → Derives cs d' → d = d' := by
  have hunique : ∀ cs d d', Derives cs d → Derives cs d' → d = d' := fun _ _ _ h h' => h.unique h'
  rcases parse_cases expression with ⟨hfile, hparse⟩ |
    ⟨hfile, ⟨d, hd, hparse⟩ | ⟨hnone, fault, hparse⟩⟩
  · rw [hparse, hfile]
    refine ⟨by simp, fun d => by simp, ?_, hunique⟩
    refine iff_of_false ?_ (by simp)
    rintro ⟨fault, ⟨⟩⟩
  · rw [hparse, hfile]
    refine ⟨by simp, fun d' => ?_, ?_, hunique⟩
    · simp only [Except.ok.injEq, Target.decode.injEq, true_and]
      exact ⟨fun heq => heq ▸ hd, fun hd' => hunique _ _ _ hd hd'⟩
    · refine iff_of_false ?_ fun h => h.2 d hd
      rintro ⟨fault, ⟨⟩⟩
  · rw [hparse, hfile]
    refine ⟨iff_of_false nofun (by simp), fun d' => iff_of_false nofun fun h => hnone d' h.2, ?_,
      hunique⟩
    exact iff_of_true ⟨fault, rfl⟩ ⟨rfl, hnone⟩

/-- The word of a list is a name where no bracket follows. -/
example : parse " Dict ( str, LIST[ list ] ) " =
    .ok (.decode (.map (.list (.named "list")))) := by
  decide +kernel

end CloudDirector.Expression
