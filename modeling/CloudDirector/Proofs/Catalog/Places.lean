import CloudDirector.Proofs.Catalog.Overrides

/-!
# The places of inherited fields

The fields of a type are collected into one list: first those of its first parent, then what each
later parent adds to them, and last what the type itself adds.  A name that is in the list already
keeps its place there, whichever declaration it takes.  So the names come in an order that the
parents alone decide: collecting over earlier fields, or along longer chains, changes nothing but
the names that are left out as they are there already.
-/

namespace CloudDirector

namespace Members

variable {α : Type}

/-- The names of the first list, and after them those of the second one that are not among them. -/
def joinNames (earlier later : List String) : List String :=
  earlier ++ later.filter (· ∉ earlier)

@[simp] lemma joinNames_nil (names : List String) : joinNames names [] = names :=
  List.append_nil names

@[simp] lemma nil_joinNames (names : List String) : joinNames [] names = names := by
  simp [joinNames]

lemma mem_joinNames {earlier later : List String} {name : String} :
    name ∈ joinNames earlier later ↔ name ∈ earlier ∨ name ∈ later := by
  rw [joinNames, List.mem_append, List.mem_filter]
  by_cases h : name ∈ earlier <;> simp [h]

lemma joinNames_assoc (xs ys zs : List String) :
    joinNames (joinNames xs ys) zs = joinNames xs (joinNames ys zs) := by
  have hrest : zs.filter (· ∉ joinNames xs ys) = (zs.filter (· ∉ ys)).filter (· ∉ xs) := by
    rw [List.filter_filter]
    refine List.filter_congr fun name _ => ?_
    simp only [mem_joinNames, not_or, Bool.decide_and]
  rw [joinNames, hrest, joinNames, joinNames, joinNames, List.filter_append, List.append_assoc]

lemma prefix_joinNames (earlier later : List String) : earlier <+: joinNames earlier later :=
  List.prefix_append earlier _

/-- Members that are set one after another keep the keys, and new keys come last in their order. -/
lemma keys_update {ms news : List (String × α)} (h : (keys news).Nodup) :
    keys (update ms news) = joinNames (keys ms) (keys news) := by
  induction news generalizing ms with
  | nil => rw [update_nil, keys_nil, joinNames_nil]
  | cons m news ih =>
    rw [keys_cons, List.nodup_cons] at h
    have hinsert : keys (insert ms m.1 m.2) = joinNames (keys ms) [m.1] := by
      rw [keys_insert, joinNames]
      by_cases hm : m.1 ∈ keys ms <;> simp [hm]
    have hcons : joinNames [m.1] (keys news) = keys (m :: news) := by
      have hfresh : (keys news).filter (· ∉ [m.1]) = keys news :=
        List.filter_eq_self.2 fun name hname => by
          have hne : name ≠ m.1 := fun heq => h.1 (heq ▸ hname)
          simpa using hne
      rw [joinNames, hfresh, List.singleton_append, keys_cons]
    rw [update_cons, ih h.2, hinsert, joinNames_assoc, hcons]

end Members

open Members (joinNames)

namespace Registry

variable {reg : Registry} {typeName name : String} {s : Schema} {steps : Nat}
  {fields collected own : List (String × FieldSpec)} {parents : List String}

/-! ## The number of steps and the fields before -/

lemma foldlM_mono {α β : Type} {f g : β → α → Result β} {xs : List α}
    (h : ∀ x ∈ xs, ∀ b c, f b x = .ok c → g b x = .ok c) {b r : β}
    (hf : xs.foldlM f b = .ok r) : xs.foldlM g b = .ok r := by
  induction xs generalizing b with
  | nil => exact hf
  | cons x xs ih =>
    obtain ⟨c, hc, hrest⟩ := foldlM_cons_eq_ok.1 hf
    exact foldlM_cons_eq_ok.2 ⟨c, h x List.mem_cons_self b c hc,
      ih (fun y hy => h y (List.mem_cons_of_mem _ hy)) hrest⟩

/-- What was collected in a number of steps is collected in one step more. -/
lemma collectFields_succ (h : reg.collectFields steps typeName fields = .ok collected) :
    reg.collectFields (steps + 1) typeName fields = .ok collected := by
  induction steps generalizing typeName fields collected with
  | zero => cases h
  | succ steps ih =>
    obtain ⟨s, inherited, hs, hinherited, rfl⟩ := collectFields_succ_eq_ok.1 h
    exact collectFields_succ_eq_ok.2
      ⟨s, inherited, hs, foldlM_mono (fun parent _ acc acc' => ih) hinherited, rfl⟩

/-- What can be collected over some fields can be collected over any. -/
lemma exists_collectFields_of_ok (h : reg.collectFields steps typeName fields = .ok collected)
    (fields' : List (String × FieldSpec)) :
    ∃ collected', reg.collectFields steps typeName fields' = .ok collected' := by
  induction steps generalizing typeName fields collected fields' with
  | zero => cases h
  | succ steps ih =>
    obtain ⟨s, inherited, hs, hinherited, -⟩ := collectFields_succ_eq_ok.1 h
    have hfold : ∀ parent ∈ s.parents, ∀ acc, ∃ acc',
        reg.collectFields steps parent acc = .ok acc' := by
      intro parent hparent acc
      obtain ⟨before, after, hstep⟩ := exists_of_foldlM_eq_ok hinherited hparent
      exact ih hstep acc
    obtain ⟨inherited', hinherited'⟩ := exists_foldlM_eq_ok hfold fields'
    exact ⟨_, collectFields_succ_eq_ok.2 ⟨s, inherited', hs, hinherited', rfl⟩⟩

/-! ## The names that are collected -/

/-- A type has the fields of the types that it inherits from. -/
lemma hasField_of_inherits {ancestor : String} (hinherits : reg.Inherits typeName ancestor)
    (h : reg.HasField ancestor name) : reg.HasField typeName name := by
  obtain ⟨owner, spec, howner, howns⟩ := hasField_iff.1 h
  exact hasField_iff.2 ⟨owner, spec, hinherits.trans howner, howns⟩

/-- A type has the fields that it declares and those of its parents. -/
lemma hasField_iff_of_lookup? (hs : reg.lookup? typeName = some (.schema s)) :
    reg.HasField typeName name ↔
      (∃ parent ∈ s.parents, reg.HasField parent name) ∨ name ∈ Members.keys s.fields := by
  constructor
  · intro h
    by_cases hown : name ∈ Members.keys s.fields
    · exact Or.inr hown
    · obtain ⟨owner, spec, hinherits, howns⟩ := hasField_iff.1 h
      obtain ⟨parent, hparent, hrest⟩ := exists_parent_of_inherits hs hown hinherits howns
      exact Or.inl ⟨parent, hparent, hasField_iff.2 ⟨owner, spec, hrest, howns⟩⟩
  · rintro (⟨parent, hparent, hfield⟩ | hown)
    · exact hasField_of_inherits (.single ⟨s, hs, hparent⟩) hfield
    · obtain ⟨spec, hspec⟩ := Members.mem_keys_iff.1 hown
      exact hasField_iff.2 ⟨typeName, spec, .refl, (owns_iff hs).2 hspec⟩

/-- Where each of the parents adds the names that it has, all of them together do. -/
lemma mem_keys_foldlM (hstep : ∀ parent ∈ parents, ∀ acc acc',
      reg.collectFields steps parent acc = .ok acc' →
      (name ∈ Members.keys acc' ↔ name ∈ Members.keys acc ∨ reg.HasField parent name))
    (h : parents.foldlM (fun acc parent => reg.collectFields steps parent acc) fields =
      .ok collected) :
    name ∈ Members.keys collected ↔
      name ∈ Members.keys fields ∨ ∃ parent ∈ parents, reg.HasField parent name := by
  induction parents generalizing fields with
  | nil =>
    cases h
    simp
  | cons parent parents ih =>
    obtain ⟨next, hnext, hrest⟩ := foldlM_cons_eq_ok.1 h
    rw [ih (fun other hother => hstep other (List.mem_cons_of_mem _ hother)) hrest,
      hstep parent List.mem_cons_self _ _ hnext, List.exists_mem_cons_iff, or_assoc]

/-- Collecting adds the names that the type has. -/
lemma mem_keys_collectFields (hreg : reg.Coherent)
    (h : reg.collectFields steps typeName fields = .ok collected) :
    name ∈ Members.keys collected ↔
      name ∈ Members.keys fields ∨ reg.HasField typeName name := by
  induction steps generalizing typeName fields collected with
  | zero => cases h
  | succ steps ih =>
    obtain ⟨s, inherited, hs, hinherited, rfl⟩ := collectFields_succ_eq_ok.1 h
    rw [Members.keys_update (hreg.keyed hs), Members.mem_joinNames,
      mem_keys_foldlM (fun _ _ _ _ => ih) hinherited, hasField_iff_of_lookup? hs, or_assoc]

lemma mem_keys_resolvedFields (hreg : reg.Coherent)
    (h : reg.resolvedFields typeName = .ok fields) :
    name ∈ Members.keys fields ↔ reg.HasField typeName name := by
  rw [mem_keys_collectFields hreg h, Members.keys_nil]
  simp

/-- Two runs over the same parents, the second of which starts with less, end alike. -/
lemma keys_foldlM {names : List String} {fields' collected' : List (String × FieldSpec)}
    (hstep : ∀ parent ∈ parents, ∀ acc acc' own, reg.collectFields steps parent acc = .ok acc' →
      reg.collectFields steps parent [] = .ok own →
      Members.keys acc' = joinNames (Members.keys acc) (Members.keys own))
    (h : parents.foldlM (fun acc parent => reg.collectFields steps parent acc) fields =
      .ok collected)
    (h' : parents.foldlM (fun acc parent => reg.collectFields steps parent acc) fields' =
      .ok collected')
    (hfields : Members.keys fields = joinNames names (Members.keys fields')) :
    Members.keys collected = joinNames names (Members.keys collected') := by
  induction parents generalizing fields fields' with
  | nil =>
    cases h
    cases h'
    exact hfields
  | cons parent parents ih =>
    obtain ⟨next, hnext, hrest⟩ := foldlM_cons_eq_ok.1 h
    obtain ⟨next', hnext', hrest'⟩ := foldlM_cons_eq_ok.1 h'
    obtain ⟨own, hown⟩ := exists_collectFields_of_ok hnext []
    refine ih (fun other hother => hstep other (List.mem_cons_of_mem _ hother)) hrest hrest' ?_
    rw [hstep parent List.mem_cons_self _ _ _ hnext hown,
      hstep parent List.mem_cons_self _ _ _ hnext' hown, hfields, Members.joinNames_assoc]

/-- Over earlier fields a type adds its names in its own order, without those that are there. -/
lemma keys_collectFields (hreg : reg.Coherent)
    (h : reg.collectFields steps typeName fields = .ok collected)
    (hown : reg.collectFields steps typeName [] = .ok own) :
    Members.keys collected = joinNames (Members.keys fields) (Members.keys own) := by
  induction steps generalizing typeName fields collected own with
  | zero => cases h
  | succ steps ih =>
    obtain ⟨s, inherited, hs, hinherited, rfl⟩ := collectFields_succ_eq_ok.1 h
    obtain ⟨t, inherited', ht, hinherited', rfl⟩ := collectFields_succ_eq_ok.1 hown
    obtain rfl : s = t := by simpa [hs] using ht
    have hkeyed : (Members.keys s.fields).Nodup := hreg.keyed hs
    -- both runs go over the parents, the one from the fields and the other one from nothing
    have hstart : Members.keys fields =
        joinNames (Members.keys fields) (Members.keys ([] : List (String × FieldSpec))) :=
      (Members.joinNames_nil _).symm
    rw [Members.keys_update hkeyed, Members.keys_update hkeyed,
      keys_foldlM (fun _ _ _ _ _ => ih) hinherited hinherited' hstart, Members.joinNames_assoc]

lemma keys_prefix_of_collectFields (hreg : reg.Coherent)
    (h : reg.collectFields steps typeName fields = .ok collected) :
    Members.keys fields <+: Members.keys collected := by
  obtain ⟨own, hown⟩ := exists_collectFields_of_ok h []
  rw [keys_collectFields hreg h hown]
  exact Members.prefix_joinNames _ _

/-! ## The places -/

/-- The fields of a type stand where its parents have them. -/
structure KeepsPlaces (reg : Registry) (typeName : String) (s : Schema)
    (fields : List (String × FieldSpec)) : Prop where
  nodup : (Members.keys fields).Nodup
  /-- The names are those that the type and the types it inherits from declare. -/
  mem_keys_iff : ∀ name, name ∈ Members.keys fields ↔ reg.HasField typeName name
  own : ∀ field ∈ s.fields, Members.get? fields field.1 = some field.2
  first : ∀ parent after, s.parents = parent :: after →
    ∃ inherited, reg.resolvedFields parent = .ok inherited ∧
      Members.keys inherited <+: Members.keys fields
  /-- Right after the names of the earlier parents come the other names of a parent, in its own
  order. -/
  parents : ∀ before parent after, s.parents = before ++ parent :: after →
    ∃ inherited earlier later, reg.resolvedFields parent = .ok inherited ∧
      (∀ name, name ∈ earlier ↔ ∃ other ∈ before, reg.HasField other name) ∧
      Members.keys fields = earlier ++ (Members.keys inherited).filter (· ∉ earlier) ++ later
  /-- The names that no parent has come last, in the order of their declaration. -/
  last : ∃ inherited, (∀ name, name ∈ inherited ↔ ∃ parent ∈ s.parents, reg.HasField parent name) ∧
    Members.keys fields = inherited ++ (Members.keys s.fields).filter (· ∉ inherited)

/-- The names of a parent's fields are joined to those of the parents before it. -/
lemma exists_places_of_parent (hreg : reg.Coherent) (hs : reg.lookup? typeName = some (.schema s))
    (h : reg.resolvedFields typeName = .ok fields) {before after : List String} {parent : String}
    (hparents : s.parents = before ++ parent :: after) :
    ∃ inherited earlier later, reg.resolvedFields parent = .ok inherited ∧
      (∀ name, name ∈ earlier ↔ ∃ other ∈ before, reg.HasField other name) ∧
      Members.keys fields = joinNames earlier (Members.keys inherited) ++ later := by
  obtain ⟨t, all, ht, hall, rfl⟩ := collectFields_succ_eq_ok.1 h
  obtain rfl : s = t := by simpa [hs] using ht
  rw [hparents] at hall
  obtain ⟨acc, hbefore, hfold⟩ := foldlM_append_eq_ok.1 hall
  obtain ⟨acc', hparent, hafter⟩ := foldlM_cons_eq_ok.1 hfold
  obtain ⟨inherited, hinherited⟩ := exists_collectFields_of_ok hparent []
  -- the later parents and the type itself only add names at the end
  have hprefix : Members.keys acc' <+: Members.keys (Members.update all s.fields) := by
    rw [Members.keys_update (hreg.keyed hs)]
    refine List.IsPrefix.trans ?_ (Members.prefix_joinNames _ _)
    exact foldlM_induction (P := fun b => Members.keys acc' <+: Members.keys b)
      (fun _ _ _ _ hb hstep => hb.trans (keys_prefix_of_collectFields hreg hstep))
      (List.prefix_refl _) hafter
  obtain ⟨later, hlater⟩ := hprefix
  refine ⟨inherited, Members.keys acc, later, collectFields_succ hinherited, fun name => ?_, ?_⟩
  · rw [mem_keys_foldlM (fun _ _ _ _ => mem_keys_collectFields hreg) hbefore, Members.keys_nil]
    simp
  · rw [← hlater, keys_collectFields hreg hparent hinherited]

/-- Wherever fields can be collected, they stand where the parents have them. -/
lemma keepsPlaces_of_coherent (hreg : reg.Coherent) (hs : reg.lookup? typeName = some (.schema s))
    (h : reg.resolvedFields typeName = .ok fields) : reg.KeepsPlaces typeName s fields where
  nodup := nodup_keys_resolvedFields h
  mem_keys_iff _ := mem_keys_resolvedFields hreg h
  own field hfield :=
    Members.get?_eq_some_of_mem (nodup_keys_resolvedFields h)
      (mem_resolvedFields_of_mem hreg hs h hfield)
  first parent after hparents := by
    have hsplit : s.parents = [] ++ parent :: after := hparents
    obtain ⟨inherited, earlier, later, hinherited, hearlier, hkeys⟩ :=
      exists_places_of_parent hreg hs h hsplit
    obtain rfl : earlier = [] := List.eq_nil_iff_forall_not_mem.2 (by simpa using hearlier)
    rw [Members.nil_joinNames] at hkeys
    exact ⟨inherited, hinherited, later, hkeys.symm⟩
  parents before parent after hparents := exists_places_of_parent hreg hs h hparents
  last := by
    obtain ⟨t, inherited, ht, hinherited, rfl⟩ := collectFields_succ_eq_ok.1 h
    obtain rfl : s = t := by simpa [hs] using ht
    refine ⟨Members.keys inherited, fun name => ?_, Members.keys_update (hreg.keyed hs)⟩
    rw [mem_keys_foldlM (fun _ _ _ _ => mem_keys_collectFields hreg) hinherited, Members.keys_nil]
    simp

end Registry

end CloudDirector
