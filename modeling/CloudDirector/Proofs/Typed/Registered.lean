import CloudDirector.Proofs.Catalog.Builtin
import CloudDirector.Proofs.Catalog.Inheritance
import CloudDirector.Proofs.Payload.Stability
import CloudDirector.Proofs.Typed.Values

/-!
# Registered models

The schema of a model lists its own fields only, and names its parents; the registry puts the fields
of all of them together.  Where the identifiers are different, what it puts together are the fields
of the model in the order in which they are written.  So the records that typed values make set
fields of their schemas only; other records are in a typed value only where a type leaves them open.
-/

namespace CloudDirector

namespace Model

/-- A model is registered with its schema, and so are all that it inherits from. -/
inductive IsRegistered (reg : Registry) (ms : Models) : Model → Prop
  | mk {m : Model} (lookup : reg.lookup? m.name = some (.schema (m.schema ms)))
      (parents : ∀ a ∈ m.parents, IsRegistered reg ms a) : IsRegistered reg ms m

/-- All fields of a model as its schema and those of its ancestors declare them. -/
def specs (ms : Models) (m : Model) : List (String × FieldSpec) :=
  m.fields.map fun f => (f.identifier, f.spec ms)

variable {reg : Registry} {ms : Models} {m : Model}

lemma IsRegistered.lookup?_eq (h : m.IsRegistered reg ms) :
    reg.lookup? m.name = some (.schema (m.schema ms)) := by
  obtain ⟨hlookup, -⟩ := h
  exact hlookup

lemma sizeOf_lt_of_mem_parents {a : Model} (h : a ∈ m.parents) : sizeOf a < sizeOf m := by
  obtain ⟨header, members⟩ := m
  obtain ⟨member, hmember, hparent⟩ := List.mem_filterMap.1 h
  have hlt : sizeOf member < sizeOf members := List.sizeOf_lt_of_mem hmember
  cases member with
  | parent identifier model =>
    cases hparent
    rw [Member.parent.sizeOf_spec] at hlt
    rw [mk.sizeOf_spec]
    omega
  | _ => cases hparent

/-- Where each declaration is registered and ancestors are declared as well, the models are
registered with their ancestors. -/
lemma isRegistered_of_forall
    (hlookup : ∀ m ∈ ms.models, reg.lookup? m.name = some (.schema (m.schema ms)))
    (hparents : ∀ m ∈ ms.models, ∀ a ∈ m.parents, a ∈ ms.models) (hm : m ∈ ms.models) :
    m.IsRegistered reg ms := by
  induction hn : sizeOf m using Nat.strong_induction_on generalizing m with
  | _ n ih =>
    subst hn
    exact .mk (hlookup m hm) fun a ha => ih _ (sizeOf_lt_of_mem_parents ha) (hparents m hm a ha) rfl

lemma keys_specs : Members.keys (m.specs ms) = m.fields.map FieldDecl.identifier := by
  rw [Members.keys, specs, List.map_map]
  rfl

lemma inheritedDecls_eq_flatMap (members : List (Member FieldType Model)) :
    inheritedDecls members = (members.filterMap Member.parent?).flatMap fields := by
  induction members with
  | nil => rfl
  | cons member rest ih =>
    rw [inheritedDecls, ih]
    cases member <;> rfl

lemma specs_eq : m.specs ms = m.parents.flatMap (specs ms) ++
    m.ownFields.map fun f => (f.identifier, f.spec ms) := by
  rw [specs, fields_eq, List.map_append, inheritedDecls_eq_flatMap, List.map_flatMap]
  rfl

/-! ## Collecting the fields of a model -/

lemma foldlM_collectFields {steps : Nat} {parents : List Model}
    (hstep : ∀ a ∈ parents, ∀ acc collected, reg.collectFields steps a.name acc = .ok collected →
      (Members.keys (acc ++ a.specs ms)).Nodup → collected = acc ++ a.specs ms)
    {acc collected : List (String × FieldSpec)}
    (h : (parents.map name).foldlM (fun acc parent => reg.collectFields steps parent acc) acc =
      .ok collected)
    (hnodup : (Members.keys (acc ++ parents.flatMap (specs ms))).Nodup) :
    collected = acc ++ parents.flatMap (specs ms) := by
  induction parents generalizing acc with
  | nil =>
    cases h
    exact (List.append_nil _).symm
  | cons a parents ih =>
    rw [List.flatMap_cons, ← List.append_assoc] at hnodup ⊢
    obtain ⟨next, hnext, hrest⟩ := Registry.foldlM_cons_eq_ok.1 h
    obtain rfl := hstep a List.mem_cons_self acc next hnext
      ((List.nodup_append.1 (Members.keys_append .. ▸ hnodup)).1)
    exact ih (fun b hb => hstep b (List.mem_cons_of_mem _ hb)) hrest hnodup

/-- Where identifiers are different, the fields of a registered model are added in their order. -/
lemma collectFields_eq (hm : m.IsRegistered reg ms) {steps : Nat}
    {acc collected : List (String × FieldSpec)}
    (h : reg.collectFields steps m.name acc = .ok collected)
    (hnodup : (Members.keys (acc ++ m.specs ms)).Nodup) : collected = acc ++ m.specs ms := by
  induction steps generalizing m acc collected with
  | zero => cases h
  | succ steps ih =>
    obtain ⟨hlookup, hparents⟩ := hm
    obtain ⟨s, inherited, hs, hinherited, rfl⟩ := Registry.collectFields_succ_eq_ok.1 h
    obtain rfl : m.schema ms = s := by simpa [hlookup] using hs
    rw [specs_eq, ← List.append_assoc] at hnodup ⊢
    -- no identifier is declared twice, so that nothing inherited is replaced by an own field
    obtain ⟨hbefore, hown, -⟩ := List.nodup_append.1 (Members.keys_append .. ▸ hnodup)
    obtain rfl := foldlM_collectFields (fun a ha acc collected => ih (hparents a ha)) hinherited
      hbefore
    rw [schema, Members.ofPairs_eq_self hown, Members.update_eq_append hnodup]

/-- The resolved fields of a registered model are its fields. -/
lemma resolvedFields_eq (hreg : reg.IsValid) (hm : m.IsRegistered reg ms)
    (hdistinct : (m.fields.map FieldDecl.identifier).Nodup) :
    reg.resolvedFields m.name = .ok (m.specs ms) := by
  obtain ⟨collected, hcollected⟩ := hreg.exists_resolvedFields hm.lookup?_eq
  obtain rfl := collectFields_eq hm hcollected (keys_specs ▸ hdistinct)
  exact hcollected

end Model

/-! ## Records in typed values -/

namespace Typed

/-- The first typed value occurs in the second one at some depth. -/
inductive Within : Typed → Typed → Prop
  | self (t : Typed) : Within t t
  | some {t u : Typed} (within : Within t u) : Within t (.some u)
  | item {t u : Typed} {items : List Typed} (mem : u ∈ items) (within : Within t u) :
      Within t (.list items)
  | entry {t : Typed} {m : String × Typed} {entries : List (String × Typed)} (mem : m ∈ entries)
      (within : Within t m.2) : Within t (.map entries)
  | member {t : Typed} {name : String} {m : String × Typed} {members : List (String × Typed)}
      (mem : m ∈ members) (within : Within t m.2) : Within t (.model name members)
  | inherited {t : Typed} {m : String × Typed} {members : List (String × Typed)}
      (mem : m ∈ members) (within : Within t m.2) : Within t (.inherited members)

lemma Within.trans {t u w : Typed} (h : u.Within w) (h' : w.Within t) : u.Within t := by
  induction h' with
  | self => exact h
  | some _ ih => exact .some ih
  | item mem _ ih => exact .item mem ih
  | entry mem _ ih => exact .entry mem ih
  | member mem _ ih => exact .member mem ih
  | inherited mem _ ih => exact .inherited mem ih

/-- A value whose type does not say what it holds. -/
def IsOpen (t : Typed) : Prop := (∃ r, t = .record r) ∨ ∃ v, t = .any v

end Typed

namespace Model.Assigns

variable {members : List (Member FieldType Model)} {ts : List (String × Typed)}
  {inherited own : List (FieldDecl FieldType × Typed)}

lemma exists_member_within (h : Assigns members ts inherited own)
    {p : FieldDecl FieldType × Typed} (hp : p ∈ inherited ++ own) {u : Typed}
    (hu : u.Within p.2) : ∃ q ∈ ts, u.Within q.2 := by
  induction h with
  | nil => cases hp
  | field f t _ ih =>
    rcases List.mem_cons.1 (List.perm_middle.mem_iff.1 hp) with rfl | hp
    · exact ⟨_, List.mem_cons_self, hu⟩
    · obtain ⟨q, hq, hwithin⟩ := ih hp
      exact ⟨q, List.mem_cons_of_mem _ hq, hwithin⟩
  | parent identifier header _ _ ihinner ih =>
    rw [List.append_assoc, List.mem_append] at hp
    rcases hp with hp | hp
    · obtain ⟨q, hq, hwithin⟩ := ihinner hp
      exact ⟨_, List.mem_cons_self, .inherited hq hwithin⟩
    · obtain ⟨q, hq, hwithin⟩ := ih hp
      exact ⟨q, List.mem_cons_of_mem _ hq, hwithin⟩
  | skipped identifier _ ih =>
    obtain ⟨q, hq, hwithin⟩ := ih hp
    exact ⟨q, List.mem_cons_of_mem _ hq, hwithin⟩

/-- What occurs in the value of a field occurs in the value of the model. -/
lemma within (h : Assigns members ts inherited own) {p : FieldDecl FieldType × Typed}
    (hp : p ∈ inherited ++ own) {u : Typed} (hu : u.Within p.2) (name : String) :
    u.Within (.model name ts) := by
  obtain ⟨q, hq, hwithin⟩ := h.exists_member_within hp hu
  exact .member hq hwithin

end Model.Assigns

namespace Typed

variable {ms : Models} {type : FieldType} {t : Typed} {typeName : String}
  {fields : List (String × Value)}

/-- A record within the one that a model's value makes is that record, or in a field of it. -/
lemma eq_or_exists_within {members : List (Member FieldType Model)} {ts : List (String × Typed)}
    {inherited own : List (FieldDecl FieldType × Typed)} {name : String}
    (hassigns : Model.Assigns members ts inherited own)
    (htype : ∀ p ∈ inherited ++ own, HasType ms p.1.type p.2)
    (hdistinct : ((inherited ++ own).map fun p => p.1.identifier).Nodup)
    (h : (Value.record typeName fields).Within (Typed.model name ts).toValue) :
    (Typed.model name ts).toValue = .record typeName fields ∨
      ∃ p ∈ inherited ++ own, (Value.record typeName fields).Within p.2.toValue := by
  have hvalue := hassigns.toValue_model (fun p hp => (htype p hp).isOwn) hdistinct name
  rw [hvalue] at h ⊢
  cases h with
  | self => exact .inl rfl
  | field mem within =>
    obtain ⟨p, hp, -, rfl⟩ := mem_written_iff.1 mem
    exact .inr ⟨p, hp, within⟩

/-- A record within what a typed value is written as is made by the value of a model that the type
leads to, or it is in a value whose type does not say what it holds. -/
lemma exists_of_record_within (h : HasType ms type t)
    (hdistinct : ∀ name m, type.Reaches ms (.model name) → ms.model? name = .some m →
      (m.fields.map FieldDecl.identifier).Nodup)
    (hwithin : (Value.record typeName fields).Within t.toValue) :
    (∃ name m, type.Reaches ms (.model name) ∧ ms.model? name = .some m ∧
        ∃ u, m.HasValue ms u ∧ u.toValue = .record typeName fields) ∨
      ∃ u : Typed, u.Within t ∧ u.IsOpen ∧
        (Value.record typeName fields).Within u.toValue := by
  induction h with
  | record r => exact .inr ⟨_, .self _, .inl ⟨r, rfl⟩, hwithin⟩
  | any v => exact .inr ⟨_, .self _, .inr ⟨v, rfl⟩, hwithin⟩
  | some inner ih =>
    rw [toValue] at hwithin
    refine (ih (fun name m hreach => hdistinct name m (.optional hreach)) hwithin).imp ?_ ?_
    · rintro ⟨name, m, hreach, hrest⟩
      exact ⟨name, m, .optional hreach, hrest⟩
    · rintro ⟨u, hu, hrest⟩
      exact ⟨u, .some hu, hrest⟩
  | list parts ih =>
    rw [toValue, toItems_eq_map] at hwithin
    cases hwithin with
    | item mem within =>
      obtain ⟨t, ht, rfl⟩ := List.mem_map.1 mem
      refine (ih t ht (fun name m hreach => hdistinct name m (.list hreach)) within).imp ?_ ?_
      · rintro ⟨name, m, hreach, hrest⟩
        exact ⟨name, m, .list hreach, hrest⟩
      · rintro ⟨u, hu, hrest⟩
        exact ⟨u, .item ht hu, hrest⟩
  | map parts ih =>
    rw [toValue, toEntries_eq_map] at hwithin
    cases hwithin with
    | entry mem within =>
      obtain ⟨n, hn, rfl⟩ := List.mem_map.1 mem
      refine (ih n hn (fun name m hreach => hdistinct name m (.map hreach)) within).imp ?_ ?_
      · rintro ⟨name, m, hreach, hrest⟩
        exact ⟨name, m, .map hreach, hrest⟩
      · rintro ⟨u, hu, hrest⟩
        exact ⟨u, .entry hn hu, hrest⟩
  | @model name m members inherited own lookup assigns parts ih =>
    have hname : m.name = name := by simpa using List.find?_some lookup
    -- the record is the one of this model's value, or inside one of its fields
    rcases eq_or_exists_within assigns parts (assigns.nodup (hdistinct _ _ (.self _) lookup))
      hwithin with heq | ⟨p, hp, hpart⟩
    · exact .inl ⟨name, m, .self _, lookup, _,
        ⟨members, inherited, own, by rw [hname], assigns, parts⟩, heq⟩
    · have hfield : ∀ {part : FieldType}, p.1.type.Reaches ms part →
          FieldType.Reaches ms (.model name) part := .field lookup (assigns.mem_fields hp)
      refine (ih p hp (fun name m hreach => hdistinct name m (hfield hreach)) hpart).imp ?_ ?_
      · rintro ⟨name, m, hreach, hrest⟩
        exact ⟨name, m, hfield hreach, hrest⟩
      · rintro ⟨u, hu, hrest⟩
        exact ⟨u, assigns.within hp hu name, hrest⟩
  | _ =>
    rw [toValue] at hwithin
    cases hwithin

end Typed

namespace Model

variable {ms : Models} {m : Model} {t : Typed}

/-- The record of a value sets fields of the model only, in their order. -/
lemma exists_record_of_hasValue (hdistinct : (m.fields.map FieldDecl.identifier).Nodup)
    (h : m.HasValue ms t) :
    ∃ fields, t.toValue = .record m.name fields ∧
      (Members.keys fields).Sublist (m.fields.map FieldDecl.identifier) := by
  obtain ⟨members, inherited, own, rfl, hassigns, htype⟩ := h
  refine ⟨_, hassigns.toValue_model (fun p hp => (htype p hp).isOwn) (hassigns.nodup hdistinct) _,
    ?_⟩
  rw [← hassigns.map_fst_eq_fields, List.map_map]
  exact Members.keys_filterMap_sublist fun p _ m hm => Typed.fst_of_writtenField hm

/-- A record within the record of a model's value is that record, it is made by the value of a model
that the fields lead to, or it is in a value whose type does not say what it holds. -/
lemma exists_of_record_within (hdistinct : (m.fields.map FieldDecl.identifier).Nodup)
    (hreached : ∀ a, m.Reaches ms a → (a.fields.map FieldDecl.identifier).Nodup)
    (h : m.HasValue ms t) {typeName : String} {fields : List (String × Value)}
    (hwithin : (Value.record typeName fields).Within t.toValue) :
    (∃ a, (a = m ∨ m.Reaches ms a) ∧ ∃ u, a.HasValue ms u ∧ u.toValue = .record typeName fields) ∨
      ∃ u : Typed, u.Within t ∧ u.IsOpen ∧
        (Value.record typeName fields).Within u.toValue := by
  obtain ⟨members, inherited, own, rfl, hassigns, htype⟩ := h
  rcases Typed.eq_or_exists_within hassigns htype (hassigns.nodup hdistinct) hwithin with
    heq | ⟨p, hp, hpart⟩
  · exact .inl ⟨m, .inl rfl, _, ⟨members, inherited, own, rfl, hassigns, htype⟩, heq⟩
  · have hfield : ∀ {name a}, p.1.type.Reaches ms (.model name) → ms.model? name = some a →
        m.Reaches ms a := fun hreach hlookup => ⟨p.1, hassigns.mem_fields hp, _, hreach, hlookup⟩
    refine (Typed.exists_of_record_within (htype p hp)
      (fun name a hreach hlookup => hreached a (hfield hreach hlookup)) hpart).imp ?_ ?_
    · rintro ⟨name, a, hreach, hlookup, hmade⟩
      exact ⟨a, .inr (hfield hreach hlookup), hmade⟩
    · rintro ⟨u, hu, hrest⟩
      exact ⟨u, hassigns.within hp hu m.name, hrest⟩

end Model

/-! ## The built-in models -/

namespace Builtin

lemma isRegistered_models : ∀ m ∈ models.models, m.IsRegistered registry models := by
  have hparents : models.models.flatMap Model.parents = [resource, entity, org, entity, resource] :=
    rfl
  refine fun m hm => Model.isRegistered_of_forall lookup?_schema (fun m hm a ha => ?_) hm
  have hmem : a ∈ models.models.flatMap Model.parents := List.mem_flatMap.2 ⟨m, hm, ha⟩
  rw [hparents] at hmem
  simp only [List.mem_cons, List.not_mem_nil, or_false] at hmem
  rcases hmem with rfl | rfl | rfl | rfl | rfl <;> simp [models]

end Builtin

end CloudDirector
