import CloudDirector.Proofs.Payload.Undeclared
import CloudDirector.Proofs.Typed.Inhabited
import CloudDirector.Proofs.Typed.Registered

/-!
# Schemas agree with conversions

The schema of a model, the writing of its values and the reading of its records are made from one
declaration, each in its own way: the schema names the parents and leaves it to the registry to put
fields together, writing sets the inherited fields first, and reading follows the members.  All
three come to the same fields in the same order, if identifiers are different.  That a field is
written and read at all is seen from a value that sets all fields; there is one if the models that
field types name have different identifiers as well.  So the record of a value sets declared fields
only; a field that may be any record can still hold one that does not, and then the whole is
refused.
-/

namespace CloudDirector

/-! ## What conversions do with an identifier -/

namespace Model

mutual

/-- The identifiers of the members that are no fields, along the chain of inherited models. -/
def otherIdentifiers : Model → List String
  | .mk _ members => othersAmong members

/-- The identifiers of those among members that are no fields, with those that they bring in. -/
def othersAmong : List (Member FieldType Model) → List String
  | [] => []
  | member :: rest => othersThrough member ++ othersAmong rest

/-- The identifier of a member that is no field, with those that it brings in. -/
def othersThrough : Member FieldType Model → List String
  | .field _ => []
  | .parent identifier m => identifier :: m.otherIdentifiers
  | .skipped identifier => [identifier]

end

/-- Some value of the model is written with the identifier set. -/
def Sets (ms : Models) (m : Model) (identifier : String) : Prop :=
  ∃ t r, m.HasValue ms t ∧ t.toRecord? = some r ∧ identifier ∈ Members.keys r.fields

/-- Reading depends on the identifier: two records differ there alone, and are not read in one
way. -/
def LooksUp (ms : Models) (m : Model) (identifier : String) : Prop :=
  ∃ r r' : Record, r.typeName = r'.typeName ∧
    (∀ other ≠ identifier, r.get? other = r'.get? other) ∧ m.ofRecord ms r ≠ m.ofRecord ms r'

/-- The schema of a model, resolved to its fields, agrees with the conversions of its values. -/
structure Agrees (reg : Registry) (ms : Models) (m : Model) (specs : List (String × FieldSpec)) :
    Prop where
  /-- The keys are the identifiers of the fields along the chain. -/
  keys : Members.keys specs = m.fields.map FieldDecl.identifier
  /-- Nothing else is set or looked up. -/
  mem_keys : ∀ identifier, m.Sets ms identifier ∨ m.LooksUp ms identifier →
    identifier ∈ Members.keys specs
  /-- All of them are set and looked up, where values can be made. -/
  used : m.IsInhabited ms → ∀ identifier ∈ Members.keys specs,
    m.Sets ms identifier ∧ m.LooksUp ms identifier
  /-- Members that are no fields do not matter, unless a field has the same identifier. -/
  others : ∀ identifier ∈ m.otherIdentifiers, identifier ∉ m.fields.map FieldDecl.identifier →
    identifier ∉ Members.keys specs ∧ ¬m.Sets ms identifier ∧ ¬m.LooksUp ms identifier
  /-- Every value has a record, whose fields stand in the order of the schema. -/
  order : ∀ t, m.HasValue ms t → ∃ r, t.toRecord? = some r ∧ r.typeName = m.name ∧
    (Members.keys r.fields).Sublist (Members.keys specs)
  /-- No record is refused for an undeclared field of its own. -/
  declared : ∀ t r e typeName identifier, m.HasValue ms t → t.toRecord? = some r →
    Payload.encodeRecord reg r = .error e → Payload.IsUndeclared typeName identifier e →
    e.trail ≠ []
  /-- Where the models that field types lead to are registered and their fields have different
  identifiers, a record is refused for an undeclared field of a record in it only if that one is in
  a value whose type leaves open what it holds. -/
  inner : (∀ a, m.Reaches ms a →
      a.IsRegistered reg ms ∧ (a.fields.map FieldDecl.identifier).Nodup) →
    ∀ t r e typeName identifier, m.HasValue ms t → t.toRecord? = some r →
    Payload.encodeRecord reg r = .error e → Payload.IsUndeclared typeName identifier e →
    ∃ u : Typed, u.Within t ∧ u.IsOpen ∧ ∃ fields,
      (Value.record typeName fields).Within u.toValue ∧ identifier ∈ Members.keys fields
  /-- A record without a required field is not read. -/
  rejected : ∀ field ∈ specs, field.2.required = true →
    ∀ r : Record, r.get? field.1 = none → ∀ t, m.ofRecord ms r ≠ .ok t
  /-- A field without which no record is read is required, where values can be made. -/
  required : m.IsInhabited ms → ∀ field ∈ specs,
    (∀ r : Record, r.get? field.1 = none → ∀ t, m.ofRecord ms r ≠ .ok t) →
    field.2.required = true
  unset : ∀ field ∈ specs, field.2.required = false → ∀ r : Record,
    (Members.keys r.fields).Nodup → (∃ t, m.ofRecord ms r = .ok t) →
    ∃ t, m.ofRecord ms (r.unset field.1) = .ok t

variable {reg : Registry} {ms : Models} {m : Model} {t : Typed}

/-! ## Fields that are set and looked up -/

/-- What is written of a value was set in the record that it was read from. -/
lemma isSet_of_ofRecord (hdistinct : (m.fields.map FieldDecl.identifier).Nodup) {r r' : Record}
    (h : m.ofRecord ms r = .ok t) (hwritten : t.toRecord? = some r') {identifier : String}
    (hset : identifier ∈ Members.keys r'.fields) : r.get? identifier ≠ none := by
  obtain ⟨members, inherited, own, rfl, hassigns, hread⟩ := ofRecord_eq_ok_iff.1 h
  have hvalue := hassigns.toValue_model (fun p hp => (hread p hp).hasType.isOwn)
    (hassigns.nodup hdistinct) m.name
  rw [Typed.toRecord?, hvalue, Value.record?, Option.some.injEq] at hwritten
  subst hwritten
  obtain ⟨v, hv⟩ := Members.mem_keys_iff.1 hset
  obtain ⟨p, hp, hpresent, hfield⟩ := Typed.mem_written_iff.1 hv
  intro hnone
  obtain ⟨rfl, rfl⟩ := Prod.mk.inj hfield
  have habsent := (Typed.isRead_of_get?_eq_none hnone).1 (hread p hp)
  rw [Typed.isAbsent_of_absent? habsent] at hpresent
  cases hpresent

/-- A record that is read is still read without a field that need not be set. -/
lemma exists_ofRecord_unset (hdistinct : (m.fields.map FieldDecl.identifier).Nodup)
    {f : FieldDecl FieldType} (hf : f ∈ m.fields) (hoptional : f.type.mayBeAbsent = true)
    {r : Record} (hr : (Members.keys r.fields).Nodup) (h : ∃ t, m.ofRecord ms r = .ok t) :
    ∃ t, m.ofRecord ms (r.unset f.identifier) = .ok t := by
  rw [exists_ofRecord_iff] at h ⊢
  intro g hg
  by_cases hgf : g.identifier = f.identifier
  · obtain rfl := List.inj_on_of_nodup_map hdistinct hg hf hgf
    rw [← Typed.isSome_absent?] at hoptional
    obtain ⟨t, ht⟩ := Option.isSome_iff_exists.1 hoptional
    exact ⟨t, (Typed.isRead_of_get?_eq_none (Members.get?_erase_self hr _)).2 ht⟩
  · obtain ⟨t, ht⟩ := h g hg
    refine ⟨t, ?_⟩
    rwa [Typed.IsRead, Record.unset, Members.get?_erase_of_ne hgf]

/-- What values set and what reading depends on are fields of the model. -/
lemma mem_of_sets (hdistinct : (m.fields.map FieldDecl.identifier).Nodup) {identifier : String}
    (h : m.Sets ms identifier) : identifier ∈ m.fields.map FieldDecl.identifier := by
  obtain ⟨t, r, ht, hr, hmem⟩ := h
  obtain ⟨fields, hfields, hsublist⟩ := exists_record_of_hasValue hdistinct ht
  rw [Typed.toRecord?, hfields, Value.record?, Option.some.injEq] at hr
  subst hr
  exact hsublist.subset hmem

lemma mem_of_looksUp {identifier : String} (h : m.LooksUp ms identifier) :
    identifier ∈ m.fields.map FieldDecl.identifier := by
  obtain ⟨r, r', htype, hagree, hne⟩ := h
  by_contra hmem
  refine hne (ofRecord_congr htype fun f hf => hagree _ ?_)
  rintro rfl
  exact hmem (List.mem_map_of_mem hf)

/-- The value that sets all fields sets each of them, and is not read without it. -/
lemma sets_and_looksUp (h : m.IsInhabited ms) {identifier : String}
    (hmem : identifier ∈ m.fields.map FieldDecl.identifier) :
    m.Sets ms identifier ∧ m.LooksUp ms identifier := by
  obtain ⟨t, r, ht, hr, hread, hkeys⟩ := exists_full h
  refine ⟨⟨t, r, ht, hr, hkeys ▸ hmem⟩, r, r.unset identifier, rfl, fun other hother =>
    (Members.get?_erase_of_ne hother r.fields).symm, fun heq => ?_⟩
  have hset := isSet_of_ofRecord h.own.distinct (heq ▸ hread) hr (hkeys ▸ hmem)
  refine hset (Members.get?_erase_self ?_ identifier)
  rw [hkeys]
  exact h.own.distinct

/-! ## The schema of a model -/

lemma required_spec (f : FieldDecl FieldType) :
    (f.spec ms).required = !f.type.mayBeAbsent := rfl

/-- No record without a required field is read. -/
lemma ofRecord_ne_ok_of_required {f : FieldDecl FieldType} (hf : f ∈ m.fields)
    (hrequired : (f.spec ms).required = true) {r : Record} (hnone : r.get? f.identifier = none)
    (t : Typed) : m.ofRecord ms r ≠ .ok t := by
  intro ht
  rw [required_spec, Bool.not_eq_true'] at hrequired
  obtain ⟨u, hu⟩ := exists_ofRecord_iff.1 ⟨t, ht⟩ f hf
  have habsent := (Typed.isRead_of_get?_eq_none hnone).1 hu
  rw [← Typed.isSome_absent?, habsent] at hrequired
  cases hrequired

/-- A field without which no record is read is required. -/
lemma required_of_forall_ne (h : m.IsInhabited ms) {f : FieldDecl FieldType} (hf : f ∈ m.fields)
    (hrejected : ∀ r : Record, r.get? f.identifier = none → ∀ t, m.ofRecord ms r ≠ .ok t) :
    (f.spec ms).required = true := by
  by_contra hoptional
  rw [required_spec, Bool.not_eq_true', Bool.not_eq_false] at hoptional
  -- the record that sets all fields is read without this one, too
  obtain ⟨t, r, -, -, hread, hkeys⟩ := exists_full h
  have hnodup : (Members.keys r.fields).Nodup := hkeys ▸ h.own.distinct
  obtain ⟨u, hu⟩ := exists_ofRecord_unset h.own.distinct hf hoptional hnodup ⟨t, hread⟩
  exact hrejected (r.unset f.identifier) (Members.get?_erase_self hnodup f.identifier) u hu

/-- The record of a value sets declared fields only. -/
lemma keys_subset_of_hasValue (hreg : reg.IsValid) (hchain : m.IsRegistered reg ms)
    (hdistinct : (m.fields.map FieldDecl.identifier).Nodup) (ht : m.HasValue ms t)
    {typeName : String} {fields : List (String × Value)}
    (hvalue : t.toValue = .record typeName fields) {specs : List (String × FieldSpec)}
    (hspecs : reg.resolvedFields typeName = .ok specs) :
    Members.keys fields ⊆ Members.keys specs := by
  obtain ⟨fields', hfields', hsublist⟩ := exists_record_of_hasValue hdistinct ht
  obtain ⟨rfl, rfl⟩ := Value.record.inj (hvalue.symm.trans hfields')
  obtain rfl := Except.ok.inj ((resolvedFields_eq hreg hchain hdistinct).symm.trans hspecs)
  rw [keys_specs]
  exact hsublist.subset

lemma toValue_of_toRecord? (hdistinct : (m.fields.map FieldDecl.identifier).Nodup)
    (ht : m.HasValue ms t) {r : Record} (hr : t.toRecord? = some r) :
    t.toValue = .record r.typeName r.fields := by
  obtain ⟨fields, hfields, -⟩ := exists_record_of_hasValue hdistinct ht
  rw [Typed.toRecord?, hfields, Value.record?, Option.some.injEq] at hr
  rw [hfields, ← hr]

/-- An undeclared field that keeps the record of a value from being written is none of its own. -/
lemma trail_ne_nil_of_isUndeclared (hreg : reg.IsValid) (hchain : m.IsRegistered reg ms)
    (hdistinct : (m.fields.map FieldDecl.identifier).Nodup) (ht : m.HasValue ms t) {r : Record}
    (hr : t.toRecord? = some r) {e : Report} {typeName identifier : String}
    (h : Payload.encodeRecord reg r = .error e)
    (he : Payload.IsUndeclared typeName identifier e) : e.trail ≠ [] := by
  intro htrail
  rcases Payload.encode_eq_error_cases h he with ⟨_, _, _, hlist, -⟩ | ⟨_, _, hmap, -⟩ |
    ⟨name, fields, heq, hmembers⟩
  · cases hlist
  · cases hmap
  · obtain ⟨rfl, rfl⟩ := Value.record.inj heq
    rcases Payload.recordMembers_eq_error_cases hmembers he with
      ⟨specs, hspecs, -, hset, hundeclared⟩ | ⟨spec, part, -, inner, -, rfl⟩
    · have hvalue := toValue_of_toRecord? hdistinct ht hr
      exact hundeclared (keys_subset_of_hasValue hreg hchain hdistinct ht hvalue hspecs hset)
    · cases htrail

/-- An undeclared field that keeps the record of a value from being written is in a value whose type
does not say what it holds, if the models that field types lead to are registered. -/
lemma exists_open_of_isUndeclared (hreg : reg.IsValid) (hchain : m.IsRegistered reg ms)
    (hdistinct : (m.fields.map FieldDecl.identifier).Nodup)
    (hreached : ∀ a, m.Reaches ms a →
      a.IsRegistered reg ms ∧ (a.fields.map FieldDecl.identifier).Nodup)
    (ht : m.HasValue ms t) {r : Record} (hr : t.toRecord? = some r) {e : Report}
    {typeName identifier : String} (h : Payload.encodeRecord reg r = .error e)
    (he : Payload.IsUndeclared typeName identifier e) :
    ∃ u : Typed, u.Within t ∧ u.IsOpen ∧ ∃ fields,
      (Value.record typeName fields).Within u.toValue ∧ identifier ∈ Members.keys fields := by
  obtain ⟨fields, specs, hwithin, hspecs, hset, hundeclared⟩ :=
    Payload.exists_record_of_encode_eq_error h he
  rw [Value.ofRecord, ← toValue_of_toRecord? hdistinct ht hr] at hwithin
  rcases exists_of_record_within hdistinct (fun a ha => (hreached a ha).2) ht hwithin with
    ⟨a, ha, u, hu, hmade⟩ | ⟨u, hu, hopen, hinner⟩
  · -- a record that a value of a model makes has no undeclared field
    obtain ⟨hregistered, hown⟩ :
        a.IsRegistered reg ms ∧ (a.fields.map FieldDecl.identifier).Nodup := by
      rcases ha with rfl | ha
      · exact ⟨hchain, hdistinct⟩
      · exact hreached a ha
    exact absurd (keys_subset_of_hasValue hreg hregistered hown hu hmade hspecs hset) hundeclared
  · exact ⟨u, hu, hopen, fields, hinner, hset⟩

/-- The schema of a registered model resolves to fields that agree with the conversions of its
values. -/
theorem exists_agrees (hreg : reg.IsValid) (hchain : m.IsRegistered reg ms)
    (hdistinct : (m.fields.map FieldDecl.identifier).Nodup) :
    ∃ specs, reg.resolvedFields m.name = .ok specs ∧ m.Agrees reg ms specs := by
  have hfield : ∀ field ∈ m.specs ms, ∃ f ∈ m.fields, field = (f.identifier, f.spec ms) := by
    intro field hfield
    obtain ⟨f, hf, rfl⟩ := List.mem_map.1 hfield
    exact ⟨f, hf, rfl⟩
  refine ⟨m.specs ms, resolvedFields_eq hreg hchain hdistinct, ?_⟩
  constructor
  case keys => exact keys_specs
  case mem_keys =>
    rw [keys_specs]
    rintro identifier (hsets | hlooksUp)
    · exact mem_of_sets hdistinct hsets
    · exact mem_of_looksUp hlooksUp
  case used =>
    intro h identifier hmem
    rw [keys_specs] at hmem
    exact sets_and_looksUp h hmem
  case others =>
    intro identifier _ hother
    rw [keys_specs]
    exact ⟨hother, fun h => hother (mem_of_sets hdistinct h), fun h => hother (mem_of_looksUp h)⟩
  case order =>
    intro t ht
    obtain ⟨fields, hfields, hsublist⟩ := exists_record_of_hasValue hdistinct ht
    exact ⟨⟨m.name, fields⟩, by rw [Typed.toRecord?, hfields, Value.record?], rfl,
      keys_specs ▸ hsublist⟩
  case declared =>
    exact fun t r e typeName identifier ht hr =>
      trail_ne_nil_of_isUndeclared hreg hchain hdistinct ht hr
  case inner =>
    exact fun hreached t r e typeName identifier ht hr =>
      exists_open_of_isUndeclared hreg hchain hdistinct hreached ht hr
  case rejected =>
    intro field hmem hrequired r hnone
    obtain ⟨f, hf, rfl⟩ := hfield field hmem
    exact ofRecord_ne_ok_of_required hf hrequired hnone
  case required =>
    intro h field hmem hrejected
    obtain ⟨f, hf, rfl⟩ := hfield field hmem
    exact required_of_forall_ne h hf hrejected
  case unset =>
    intro field hmem hoptional r hr h
    obtain ⟨f, hf, rfl⟩ := hfield field hmem
    rw [required_spec, Bool.not_eq_false'] at hoptional
    exact exists_ofRecord_unset hdistinct hf hoptional hr h

/-- No record of a value is refused for an undeclared field, whatever the value holds. -/
def WritesDeclared (reg : Registry) (ms : Models) (m : Model) : Prop :=
  ∀ t r e typeName identifier, m.HasValue ms t → t.toRecord? = some r →
    Payload.encodeRecord reg r = .error e → ¬Payload.IsUndeclared typeName identifier e

namespace Untyped

/-- A model with a field that may be any record, and travels as a reference. -/
def holder : Model := .mk { name := "Holder" } [
  .field { identifier := "target", type := .optional .record, leaf := "Reference" }]

/-- The model of the field's shape, and the one with the field. -/
def models : Models where
  models := [Builtin.reference, holder]

/-- The registry of the two. -/
def registry : Registry :=
  match Registry.registerAll {} (models.models.map fun m => .schema (m.schema models)) with
  | .ok reg => reg
  | .error _ => {}

/-- A value with a reference that has a note. -/
def noted : Typed := .model "Holder" [
  ("target", .some (.record ⟨"Reference", [
    ("href", .string "https://vcd/api/ref/1"), ("note", .string "x")]⟩))]

/-- The record of the value. -/
def notedRecord : Record where
  typeName := "Holder"
  fields := [("target", .record "Reference" [
    ("href", .string "https://vcd/api/ref/1"), ("note", .string "x")])]

lemma isInhabited_holder : holder.IsInhabited models :=
  isInhabited_of_forall (by decide) (by decide) (by simp [models])

lemma lookup?_schema : ∀ m ∈ models.models,
    registry.lookup? m.name = some (.schema (m.schema models)) := by
  decide +kernel

lemma isValid_registry : registry.IsValid where
  built := by
    have hall : Registry.registerAll {} (models.models.map fun m => .schema (m.schema models)) =
        .ok registry := rfl
    exact Registry.Built.empty.registerAll (by decide +kernel) hall
  validated := by
    rw [Registry.validate_eq_ok_iff, show registry.schemas =
      [Builtin.reference.schema models, holder.schema models] from rfl]
    simp only [List.forall_mem_cons, List.not_mem_nil, false_implies, implies_true, and_true]
    exact ⟨⟨rfl, _, rfl⟩, rfl, _, rfl⟩

lemma isRegistered_models : ∀ m ∈ models.models, m.IsRegistered registry models := by
  refine fun m hm => Model.isRegistered_of_forall lookup?_schema (fun m hm a ha => ?_) hm
  have hparents : models.models.flatMap Model.parents = [] := rfl
  have hmem : a ∈ models.models.flatMap Model.parents := List.mem_flatMap.2 ⟨m, hm, ha⟩
  rw [hparents] at hmem
  cases hmem

lemma hasValue_noted : holder.HasValue models noted := by
  refine ⟨_, _, _, rfl, .field _ _ .nil, fun p hp => ?_⟩
  obtain rfl := List.mem_singleton.1 hp
  exact .some (.record _)

/-- The record of the value is refused for the field that references do not have. -/
theorem not_writesDeclared_holder :
    holder.IsInhabited models ∧ registry.IsValid ∧
      (∀ m ∈ models.models, m.IsRegistered registry models) ∧ holder ∈ models.models ∧
      holder.HasValue models noted ∧
      noted.toRecord? = some notedRecord ∧
      (∃ e, Payload.encodeRecord registry notedRecord = .error e ∧
        Payload.IsUndeclared "Reference" "note" e) ∧
      ¬holder.WritesDeclared registry models := by
  have hrecord : noted.toRecord? = some notedRecord := by cbv
  have hrefused : ∃ e, Payload.encodeRecord registry notedRecord = .error e ∧
      Payload.IsUndeclared "Reference" "note" e := ⟨_, rfl, rfl⟩
  refine ⟨isInhabited_holder, isValid_registry, isRegistered_models, by simp [models],
    hasValue_noted, hrecord, hrefused, fun hdeclared => ?_⟩
  obtain ⟨e, hrefused, hundeclared⟩ := hrefused
  exact hdeclared _ _ e _ _ hasValue_noted hrecord hrefused hundeclared

end Untyped

namespace Conflict

/-- A model with a name. -/
def named : Model := .mk { name := "Named" } [.field { identifier := "name", type := .text }]

/-- A model that inherits a name and has a number under the same identifier. -/
def numbered : Model := .mk { name := "Numbered" } [
  .parent "named" named, .field { identifier := "name", type := .int64 }]

/-- A model that needs a value of the one with two fields of one identifier, beside an optional
field. -/
def holder : Model := .mk { name := "Holder" } [
  .field { identifier := "item", type := .model "Numbered" },
  .field { identifier := "note", type := .optional .text }]

/-- The three models. -/
def models : Models where
  models := [named, numbered, holder]

/-- A name cannot be a number. -/
lemma not_readAs {v : Value} {t : Typed} : ¬Typed.ReadAs models v (.model "Numbered") t := by
  intro h
  cases h with
  | @model name typeName fields m members inherited own lookup assigns parts =>
    obtain rfl : numbered = m := Option.some.inj lookup
    have hfields : numbered.fields =
        [{ identifier := "name", type := .text }, { identifier := "name", type := .int64 }] := rfl
    obtain ⟨t, ht⟩ := assigns.exists_of_mem_fields (hfields ▸ List.mem_cons_self)
    obtain ⟨u, hu⟩ := assigns.exists_of_mem_fields
      (hfields ▸ List.mem_cons_of_mem _ List.mem_cons_self)
    rcases Typed.isRead_iff.1 (parts _ ht) with ⟨w, hw, htext⟩ | ⟨-, ⟨⟩⟩
    rcases Typed.isRead_iff.1 (parts _ hu) with ⟨w', hw', hnumber⟩ | ⟨-, ⟨⟩⟩
    cases Typed.readAs_of_ofValue htext
    cases Typed.readAs_of_ofValue hnumber
    cases hw.symm.trans hw'

/-- Where a needed value cannot be made, no record is read, with the optional field or without. -/
theorem not_required_note :
    (holder.fields.map FieldDecl.identifier).Nodup ∧
      (∃ f ∈ holder.fields, f.identifier = "note" ∧ (f.spec models).required = false) ∧
      ∀ r t, holder.ofRecord models r ≠ .ok t := by
  refine ⟨by decide, by decide, fun r t ht => ?_⟩
  obtain ⟨u, hu⟩ := exists_ofRecord_iff.1 ⟨t, ht⟩
    { identifier := "item", type := .model "Numbered" } List.mem_cons_self
  rcases Typed.isRead_iff.1 hu with ⟨v, -, hread⟩ | ⟨-, ⟨⟩⟩
  exact not_readAs (Typed.readAs_of_ofValue hread)

end Conflict

end Model

/-! ## The built-in models -/

namespace Builtin

/-- The schema of a task, with the fields that it inherits, agrees with its conversions, and values
can be made of it and of all that its fields name. -/
theorem exists_agrees_task :
    task.IsInhabited models ∧ registry.IsValid ∧ task.IsRegistered registry models ∧
      (task.fields.map FieldDecl.identifier).Nodup ∧
      ∃ specs, registry.resolvedFields "Task" = .ok specs ∧ task.Agrees registry models specs := by
  have hmem : task ∈ models.models := by simp [models]
  have hinhabited : task.IsInhabited models :=
    Model.isInhabited_of_forall (by decide) (by decide) hmem
  have hchain := isRegistered_models task hmem
  exact ⟨hinhabited, isValid_registry, hchain, hinhabited.own.distinct,
    Model.exists_agrees isValid_registry hchain hinhabited.own.distinct⟩

end Builtin

end CloudDirector
