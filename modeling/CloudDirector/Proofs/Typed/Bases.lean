import CloudDirector.Proofs.Catalog.Places
import CloudDirector.Proofs.Payload.Edits
import CloudDirector.Proofs.Typed.Registered

/-!
# Reading through a base

An object that is read as a record of a derived type can be read as one of a base as well, where the
derived type does not have a field of the base with another declaration.  The record of the base
holds what the other record holds under the names of the base: a field is read from its own member,
whatever the type of the record.  A model of the base looks at these names only, and so it reads
both records alike.
-/

namespace CloudDirector

/-- The derived type has no field of the base with another declaration. -/
def Registry.KeepsSpecs (reg : Registry) (derived base : String) : Prop :=
  ∀ derivedSpecs baseSpecs, reg.resolvedFields derived = .ok derivedSpecs →
    reg.resolvedFields base = .ok baseSpecs →
    ∀ field ∈ baseSpecs, ∀ spec, Members.get? derivedSpecs field.1 = some spec → spec = field.2

/-- The model reads two records as the same value, or refuses both for the same reason: the reports
differ in the record that is told last. -/
def Model.ReadsAlike (ms : Models) (m : Model) (r r' : Record) : Prop :=
  (∃ t, m.ofRecord ms r = .ok t ∧ m.ofRecord ms r' = .ok t) ∨
    ∃ e : Report, m.ofRecord ms r = .error (e.passing (.record r.typeName)) ∧
      m.ofRecord ms r' = .error (e.passing (.record r'.typeName))

namespace Payload

variable {reg : Registry} {s base derived : Schema} {j : Json} {shape : Descriptor}
  {members : List (String × Json)} {r : Record}

/-! ## Records of one schema -/

/-- Where an object is planned as a record of a schema, this is how it is decoded. -/
lemma decode_eq_decodeRecord (hplan : plan reg (.object members) shape = .ok (.record s)) :
    decode reg (.object members) shape =
      (decodeRecord reg (.object members) s).map fun r => some (.ofRecord r) := by
  rw [decode_record hplan, decodeRecord]
  cases reg.resolvedFields s.typeName with
  | error e => rfl
  | ok specs =>
    simp only
    cases gather (fun field => decodeMember reg s.typeName field members) specs <;> rfl

lemma decodeRecord_eq_ok_iff :
    decodeRecord reg (.object members) s = .ok r ↔
      ∃ specs fields, reg.resolvedFields s.typeName = .ok specs ∧
        gather (fun field => decodeMember reg s.typeName field members) specs = .ok fields ∧
        r = ⟨s.typeName, fields⟩ := by
  rw [decodeRecord]
  constructor
  · intro h
    split at h
    · cases h
    · next specs hspecs =>
      obtain ⟨fields, hfields, rfl⟩ := Result.map_eq_ok.1 h
      exact ⟨specs, fields, hspecs, hfields, rfl⟩
  · rintro ⟨specs, fields, hspecs, hfields, rfl⟩
    simp only [hspecs, hfields, Result.map_ok]

/-- What a field is read as does not depend on the type of the record. -/
lemma decodeMember_of_eq_ok {typeName : String} (other : String) {field : String × FieldSpec}
    {found : Option (String × Value)} (h : decodeMember reg typeName field members = .ok found) :
    decodeMember reg other field members = .ok found := by
  cases hget : Members.get? members field.2.wireKey with
  | none =>
    rw [decodeMember_of_get?_eq_none hget] at h ⊢
    exact h
  | some item =>
    rw [decodeMember_of_get?_eq_some hget] at h ⊢
    split at h
    · next hnull => rwa [if_pos hnull]
    · next hnull =>
      obtain ⟨v, hv, rfl⟩ := Result.map_eq_ok.1 h
      rw [if_neg hnull, Result.passing_eq_ok.1 hv]
      rfl

/-! ## The fields of a base -/

/-- A type has the fields of its bases. -/
lemma mem_specs_of_keepsSpecs {derivedSpecs baseSpecs : List (String × FieldSpec)}
    (hreg : reg.Coherent) (hinherits : reg.Inherits derived.typeName base.typeName)
    (hkeeps : reg.KeepsSpecs derived.typeName base.typeName)
    (hderived : reg.resolvedFields derived.typeName = .ok derivedSpecs)
    (hbase : reg.resolvedFields base.typeName = .ok baseSpecs) :
    ∀ field ∈ baseSpecs, field ∈ derivedSpecs := by
  intro field hfield
  have hname : reg.HasField base.typeName field.1 :=
    (Registry.mem_keys_resolvedFields hreg hbase).1 (Members.mem_keys_of_mem hfield)
  have hinherited := Registry.hasField_of_inherits hinherits hname
  have hkey := (Registry.mem_keys_resolvedFields hreg hderived).2 hinherited
  obtain ⟨spec, hspec⟩ := Members.mem_keys_iff.1 hkey
  have hget := Members.get?_eq_some_of_mem (Registry.nodup_keys_resolvedFields hderived) hspec
  rwa [hkeeps _ _ hderived hbase field hfield spec hget] at hspec

/-- What some of the fields are read as is the part of the record that they select. -/
lemma gather_eq_restrict {typeName : String} (other : String)
    {specs part : List (String × FieldSpec)} {fields : List (String × Value)}
    (hspecs : (Members.keys specs).Nodup) (hpart : ∀ field ∈ part, field ∈ specs)
    (h : gather (fun field => decodeMember reg typeName field members) specs = .ok fields) :
    gather (fun field => decodeMember reg other field members) part =
      .ok (Members.restrict fields part) := by
  obtain ⟨found, hfound, rfl⟩ := exists_of_gather_eq_ok h
  have hfst : ∀ field ∈ specs, ∀ m, found field = some m → m.1 = field.1 := fun field hfield m hm =>
    fst_of_decodeMember (by rw [hfound field hfield, hm])
  rw [gather_eq_filterMap fun field hfield =>
    decodeMember_of_eq_ok other (hfound field (hpart field hfield)), Members.restrict]
  refine congrArg Except.ok (List.filterMap_congr fun field hfield => ?_)
  rw [Members.get?_filterMap hfst hspecs (hpart field hfield)]
  cases hm : found field with
  | none => rfl
  | some m =>
    obtain ⟨name, v⟩ := m
    obtain rfl : name = field.1 := hfst field (hpart field hfield) _ hm
    rfl

end Payload

/-! ## Models of a base -/

namespace Model

variable {reg : Registry} {ms : Models} {m : Model}

/-- A registered model declares fields of its type only. -/
lemma IsRegistered.hasField (h : m.IsRegistered reg ms) {f : FieldDecl FieldType}
    (hf : f ∈ m.fields) : reg.HasField m.name f.identifier := by
  induction h with
  | @mk m hlookup _ ih =>
    rw [Registry.hasField_iff_of_lookup? hlookup]
    rw [fields_eq, inheritedDecls_eq_flatMap, List.mem_append, List.mem_flatMap] at hf
    rcases hf with ⟨a, ha, hf⟩ | hf
    · exact .inl ⟨a.name, List.mem_map_of_mem ha, ih a ha hf⟩
    · refine .inr (Members.mem_keys_ofPairs.2 ?_)
      rw [Members.keys, List.map_map]
      exact List.mem_map_of_mem hf

/-- Records that agree on the fields of the model are read alike. -/
lemma readsAlike_of_agree {r r' : Record}
    (h : ∀ f ∈ m.fields, r.get? f.identifier = r'.get? f.identifier) : m.ReadsAlike ms r r' := by
  have hread : (m.readWith fun owner f => Typed.ofField ms owner f r.fields) =
      m.readWith fun owner f => Typed.ofField ms owner f r'.fields := readWith_congr h
  rw [ReadsAlike, ofRecord, ofRecord, ← hread]
  cases m.readWith fun owner f => Typed.ofField ms owner f r.fields with
  | error e => exact .inr ⟨e, rfl, rfl⟩
  | ok ts => exact .inl ⟨_, rfl, rfl⟩

end Model

namespace Payload

variable {reg : Registry} {base derived : Schema} {members : List (String × Json)} {r : Record}

/-- An object that is read as a record of a derived type is read as one of the base, which holds
exactly what the other one holds under the names of the base.  A model of the base reads both
alike. -/
theorem exists_decodeRecord_base (hreg : reg.IsValid)
    (hbase : reg.lookup? base.typeName = some (.schema base))
    (hinherits : reg.Inherits derived.typeName base.typeName)
    (hkeeps : reg.KeepsSpecs derived.typeName base.typeName)
    (h : decodeRecord reg (.object members) derived = .ok r) :
    ∃ specs r', reg.resolvedFields base.typeName = .ok specs ∧
      decodeRecord reg (.object members) base = .ok r' ∧ r'.typeName = base.typeName ∧
      r'.fields = Members.restrict r.fields specs ∧
      (∀ name, r'.get? name = if name ∈ Members.keys specs then r.get? name else none) ∧
      (∀ shape, plan reg (.object members) shape = .ok (.record base) →
        decode reg (.object members) shape = .ok (some (.ofRecord r'))) ∧
      ∀ (ms : Models) (m : Model), m.IsRegistered reg ms → m.name = base.typeName →
        m.ReadsAlike ms r r' := by
  obtain ⟨derivedSpecs, fields, hderived, hfields, rfl⟩ := decodeRecord_eq_ok_iff.1 h
  obtain ⟨specs, hspecs⟩ := hreg.exists_resolvedFields hbase
  have hmem := mem_specs_of_keepsSpecs hreg.coherent hinherits hkeeps hderived hspecs
  have hread := decodeRecord_eq_ok_iff.2 ⟨specs, _, hspecs, gather_eq_restrict base.typeName
    (Registry.nodup_keys_resolvedFields hderived) hmem hfields, rfl⟩
  have hget : ∀ name, Members.get? (Members.restrict fields specs) name =
      if name ∈ Members.keys specs then Members.get? fields name else none :=
    Members.get?_restrict_eq (Registry.nodup_keys_resolvedFields hspecs)
  refine ⟨specs, _, hspecs, hread, rfl, rfl, hget, fun shape hplan => ?_, fun ms m hm hname => ?_⟩
  · rw [decode_eq_decodeRecord hplan, hread, Result.map_ok]
  · -- the names that the model looks up are names of the base, under which the records agree
    refine Model.readsAlike_of_agree fun f hf => ?_
    have hfield : f.identifier ∈ Members.keys specs :=
      (Registry.mem_keys_resolvedFields hreg.coherent hspecs).2 (hname ▸ hm.hasField hf)
    rw [Record.get?, Record.get?, hget, if_pos hfield]

end Payload

/-! ### An organization as an entity -/

namespace Builtin

/-- An organization with a member that entities do not have. -/
def acmeMembers : List (String × Json) :=
  [("name", .string "acme"), ("fullName", .string "Acme Inc."), ("href", .string "/org/1")]

/-- The record of the organization. -/
def acmeOrg : Record :=
  ⟨"Org", [("href", .string "/org/1"), ("name", .string "acme"),
    ("full_name", .string "Acme Inc.")]⟩

lemma keepsSpecs_org : registry.KeepsSpecs "Org" "Entity" := by
  have hcheck : (registry.resolvedFields "Org").toOption.all (fun orgSpecs =>
      (registry.resolvedFields "Entity").toOption.all fun specs =>
        decide (∀ field ∈ specs, Members.get? orgSpecs field.1 = some field.2)) = true := by
    decide +kernel
  intro orgSpecs specs horg hentity field hfield spec hspec
  rw [horg, hentity] at hcheck
  have hget := of_decide_eq_true hcheck field hfield
  rw [hspec] at hget
  exact Option.some.inj hget

/-- The record of the entity that the organization is. -/
def acmeEntity : Record := ⟨"Entity", [("href", .string "/org/1"), ("name", .string "acme")]⟩

/-- As an entity the organization has no full name, and the model of entities does not miss it. -/
theorem readsAlike_acme :
    registry.IsValid ∧ registry.lookup? "Entity" = some (.schema (entity.schema models)) ∧
      registry.Inherits "Org" "Entity" ∧ registry.KeepsSpecs "Org" "Entity" ∧
      Payload.decodeRecord registry (.object acmeMembers) (org.schema models) = .ok acmeOrg ∧
      Payload.decodeRecord registry (.object acmeMembers) (entity.schema models) =
        .ok acmeEntity ∧
      entity.IsRegistered registry models ∧ entity.ReadsAlike models acmeOrg acmeEntity := by
  have hmem : entity ∈ models.models := by simp [models]
  have hregistered := isRegistered_models entity hmem
  have hinherits : registry.Inherits "Org" "Entity" := isValid_registry.isDescendant_iff.1 rfl
  have horg : Payload.decodeRecord registry (.object acmeMembers) (org.schema models) =
      .ok acmeOrg := rfl
  have hentity : Payload.decodeRecord registry (.object acmeMembers) (entity.schema models) =
      .ok acmeEntity := rfl
  obtain ⟨specs, r', hspecs, hread, -, -, -, -, halike⟩ := Payload.exists_decodeRecord_base
    isValid_registry (lookup?_schema entity hmem) hinherits keepsSpecs_org horg
  obtain rfl := Except.ok.inj (hentity.symm.trans hread)
  exact ⟨isValid_registry, lookup?_schema entity hmem, hinherits, keepsSpecs_org, horg, hentity,
    hregistered, halike models entity hregistered rfl⟩

end Builtin

end CloudDirector
