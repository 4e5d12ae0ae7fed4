import CloudDirector.Proofs.Payload.Stability

/-!
# Derived types in the place of their bases

Encoding writes the discriminator of every record that stands in the place of a base of its type.
Decoding reads it only where the base is dispatched on.  So a record of a derived type comes back
as one exactly there; elsewhere it is read as a record of the base, and the fields that only the
derived type has are dropped.
-/

namespace CloudDirector.Payload

variable {reg : Registry} {specs : List (String × FieldSpec)} {fields : List (String × Value)}

/-- Each field that is set is declared, is not null, and is restored by decoding what it is encoded
as against its own descriptor. -/
def SelfRestoring (reg : Registry) (specs : List (String × FieldSpec))
    (fields : List (String × Value)) : Prop :=
  ∀ m ∈ fields, ∃ spec, (m.1, spec) ∈ specs ∧ m.2.isNull = false ∧
    ∃ j, encode reg m.2 spec.shape = .ok j ∧ decode reg j spec.shape = .ok (some m.2)

lemma SelfRestoring.declared (h : SelfRestoring reg specs fields) :
    ∀ m ∈ fields, m.1 ∈ Members.keys specs := by
  intro m hm
  obtain ⟨spec, hspec, -⟩ := h m hm
  exact Members.mem_keys_of_mem hspec

lemma SelfRestoring.restoresField (h : SelfRestoring reg specs fields)
    (hspecs : (Members.keys specs).Nodup) (typeName : String) {field : String × FieldSpec}
    (hfield : field ∈ specs) :
    RestoresField reg typeName fields field
      ((Members.get? fields field.1).map fun v => (field.1, v)) := by
  cases hget : Members.get? fields field.1 with
  | none => exact restoresField_of_unset hget
  | some v =>
    obtain ⟨spec, hspec, hnull, j, hencode, hdecode⟩ := h _ (Members.mem_of_get?_eq_some hget)
    obtain rfl : spec = field.2 := by
      have hfirst := Members.get?_eq_some_of_mem hspecs hspec
      rw [Members.get?_eq_some_of_mem hspecs hfield, Option.some.injEq] at hfirst
      exact hfirst.symm
    exact restoresField_of_value hget hnull hencode (json_nonnull_of_decode hdecode) hdecode

/-- A shape expects records of one schema only. -/
lemma expects_unique {shape : Descriptor} {s t : Schema} {d e : Bool} (hs : reg.Expects shape s d)
    (ht : reg.Expects shape t e) : s = t ∧ d = e := by
  cases hs with
  | named hs =>
    cases ht with
    | named ht =>
      obtain rfl : _ = _ := by simpa [hs] using ht
      exact ⟨rfl, rfl⟩
  | polymorphic hs =>
    cases ht with
    | polymorphic ht =>
      obtain rfl : _ = _ := by simpa [hs] using ht
      exact ⟨rfl, rfl⟩

/-! ## Writing -/

section Slot

variable {shape : Descriptor} {s : Schema} {dispatched : Bool} {typeName : String}

/-- A record of the base or of a derived type is written in the place of the base. -/
lemma exists_encode_of_inherits (hreg : reg.IsValid) (hkeys : reg.DistinctWireKeys)
    (hexpects : reg.Expects shape s dispatched) (hinherits : reg.Inherits typeName s.typeName)
    (hspecs : reg.resolvedFields typeName = .ok specs) (hself : SelfRestoring reg specs fields) :
    ∃ j, encode reg (.record typeName fields) shape = .ok j := by
  have hnodup := Registry.nodup_keys_resolvedFields hspecs
  obtain ⟨members, hmembers, -, -⟩ := exists_recordMembers hreg hkeys hspecs hself.declared
    fun field hfield => hself.restoresField hnodup typeName hfield
  rw [encode_record hreg hexpects hinherits hmembers]
  by_cases hname : typeName = s.typeName
  · exact ⟨_, if_pos hname⟩
  · obtain ⟨t, ht⟩ := Registry.exists_schema_of_resolvedFields hspecs
    exact ⟨_, withDiscriminator_of_ne hname ht⟩

/-- A record is restored in the place of its own type, and in the place of a base that is dispatched
on. -/
lemma exists_decode_of_admitted (hreg : reg.IsValid) (hkeys : reg.DistinctWireKeys)
    (hexpects : reg.Expects shape s dispatched)
    (hadmitted : typeName = s.typeName ∨ (dispatched = true ∧ reg.Inherits typeName s.typeName))
    (hspecs : reg.resolvedFields typeName = .ok specs) (hself : SelfRestoring reg specs fields) :
    ∃ j, encode reg (.record typeName fields) shape = .ok j ∧ j.isNull = false ∧
      decode reg j shape = .ok (some (.record typeName (Members.restrict fields specs))) :=
  exists_encode_record hreg hkeys hexpects hadmitted hspecs hself.declared fun _ hfield =>
    hself.restoresField (Registry.nodup_keys_resolvedFields hspecs) typeName hfield

/-- Where a schema is not dispatched on, only records of its own type are read. -/
lemma typeName_of_reads {j : Json} (hexpects : reg.Expects shape s false)
    (h : Reads reg shape j (.record typeName fields)) : typeName = s.typeName := by
  cases h with
  | scalar hkind => cases hkind
  | record hexpects' _ _ hexactly =>
    obtain ⟨rfl, rfl⟩ := expects_unique hexpects hexpects'
    exact hexactly rfl

/-- A field with a base that is not dispatched on is never read as a record of a derived type. -/
lemma typeName_of_decode (hreg : reg.Coherent) {requested holder : String}
    {held : List (String × Value)} {field : String × FieldSpec} {j : Json}
    (hspecs : reg.resolvedFields holder = .ok specs) (hfield : field ∈ specs)
    (hexpects : reg.Expects field.2.shape s false)
    (h : decode reg j (.named requested) = .ok (some (.record holder held)))
    (hget : Members.get? held field.1 = some (.record typeName fields)) :
    typeName = s.typeName := by
  cases reads_of_decode hreg h with
  | record _ _ _ _ hspecs' _ hset hisNull _ hdeep =>
    obtain rfl := Except.ok.inj (hspecs.symm.trans hspecs')
    obtain ⟨k, hk, hknull⟩ :=
      exists_member_of_isSet (hset field hfield) (hisNull field hfield) hget rfl
    exact typeName_of_reads hexpects (hdeep field hfield k _ hk hknull hget)

end Slot

/-! ## A field with a base -/

section Holder

variable {holder typeName : String} {field : String × FieldSpec} {base : Schema}
  {dispatched : Bool} {typeSpecs : List (String × FieldSpec)}

/-- The field that the record is set to is the only one of its name. -/
lemma get?_singleton_of_ne {other : String × FieldSpec} (v : Value) (h : other.1 ≠ field.1) :
    Members.get? [(field.1, v)] other.1 = none := by
  rw [Members.get?_cons_of_ne h.symm, Members.get?_nil]

/-- A record of a type that derives from the type of a field is written in that field; it comes back
as one of its own type, with the same fields, exactly if it is of the declared type or the declared
type is dispatched on. -/
theorem decode_derived_iff (hreg : reg.IsValid) (hkeys : reg.DistinctWireKeys)
    (hspecs : reg.resolvedFields holder = .ok specs) (hfield : field ∈ specs)
    (hexpects : reg.Expects field.2.shape base dispatched)
    (hinherits : reg.Inherits typeName base.typeName)
    (htype : reg.resolvedFields typeName = .ok typeSpecs)
    (hself : SelfRestoring reg typeSpecs fields) :
    ∃ j, encodeRecord reg ⟨holder, [(field.1, .record typeName fields)]⟩ = .ok j ∧
      ((∃ fields', decode reg j (.named holder) =
            .ok (some (.record holder [(field.1, .record typeName fields')])) ∧
          ∀ name, Members.get? fields' name = Members.get? fields name) ↔
        typeName = base.typeName ∨ dispatched = true) := by
  have hnodup := Registry.nodup_keys_resolvedFields hspecs
  have hdeclared : ∀ m ∈ [(field.1, Value.record typeName fields)], m.1 ∈ Members.keys specs := by
    intro m hm
    obtain rfl := List.mem_singleton.1 hm
    exact Members.mem_keys_of_mem hfield
  have heq_of_fst : ∀ other ∈ specs, other.1 = field.1 → other = field := fun other hother h =>
    List.inj_on_of_nodup_map hnodup hother hfield h
  by_cases hcond : typeName = base.typeName ∨ dispatched = true
  · -- the record is restored, and the field with it
    have hadmitted : typeName = base.typeName ∨
        (dispatched = true ∧ reg.Inherits typeName base.typeName) :=
      hcond.imp_right fun h => ⟨h, hinherits⟩
    obtain ⟨k, hencode, hk, hdecode⟩ :=
      exists_decode_of_admitted hreg hkeys hexpects hadmitted htype hself
    have hback : ∀ other ∈ specs,
        RestoresField reg holder [(field.1, .record typeName fields)] other
          ((Members.get? [(field.1, Value.record typeName (Members.restrict fields typeSpecs))]
            other.1).map fun v => (other.1, v)) := by
      intro other hother
      by_cases hname : other.1 = field.1
      · obtain rfl := heq_of_fst other hother hname
        rw [Members.get?_cons_self]
        exact restoresField_of_value (Members.get?_cons_self ..) rfl hencode hk hdecode
      · rw [get?_singleton_of_ne _ hname]
        exact restoresField_of_unset (get?_singleton_of_ne _ hname)
    obtain ⟨j, hj, hread⟩ := exists_encodeRecord hreg hkeys hspecs hdeclared hback
    have hheld : Members.restrict
        [(field.1, Value.record typeName (Members.restrict fields typeSpecs))] specs =
        [(field.1, .record typeName (Members.restrict fields typeSpecs))] :=
      Members.restrict_eq_self (List.singleton_sublist.2 (Members.mem_keys_of_mem hfield)) hnodup
    refine ⟨j, hj, iff_of_true ⟨_, by rw [hread, ← Members.restrict, hheld], ?_⟩ hcond⟩
    exact Members.get?_restrict (Registry.nodup_keys_resolvedFields htype) hself.declared
  · -- the record is written, and its discriminator is never looked at
    obtain ⟨k, hencode⟩ := exists_encode_of_inherits hreg hkeys hexpects hinherits htype hself
    have hwritten : ∀ other ∈ specs, ∃ found,
        encodeMember reg holder other [(field.1, .record typeName fields)] = .ok found := by
      intro other hother
      by_cases hname : other.1 = field.1
      · obtain rfl := heq_of_fst other hother hname
        refine ⟨some (other.2.wireKey, k), ?_⟩
        rw [encodeMember_of_get?_eq_some (Members.get?_cons_self ..), hencode]
        rfl
      · exact ⟨none, encodeMember_of_get?_eq_none (get?_singleton_of_ne _ hname)⟩
    choose! member hmember using hwritten
    refine ⟨_, encodeRecord_eq_ok (recordMembers_eq_ok hspecs hdeclared hmember),
      iff_of_false ?_ hcond⟩
    rintro ⟨fields', hdecode, -⟩
    obtain ⟨hname, hflag⟩ := not_or.1 hcond
    rw [Bool.not_eq_true] at hflag
    rw [hflag] at hexpects
    exact hname (typeName_of_decode hreg.coherent hspecs hfield hexpects hdecode
      (Members.get?_cons_self ..))

end Holder

/-! ### In the place of a polymorphic base -/

namespace Sample

lemma selfRestoring_orgFields : SelfRestoring registry (entity.fields ++ org.fields) orgFields := by
  simp only [SelfRestoring, orgFields, List.forall_mem_cons, List.not_mem_nil, false_implies,
    implies_true, and_true]
  exact ⟨⟨_, List.mem_cons_self, rfl, _, rfl, rfl⟩,
    _, List.mem_cons_of_mem _ List.mem_cons_self, rfl, _, rfl, rfl⟩

/-- The subject of an event is dispatched on, so an organization there is restored. -/
theorem decode_derived_subject :
    SelfRestoring registry (entity.fields ++ org.fields) orgFields ∧
    ∃ j, encodeRecord registry ⟨"Event", [("subject", .record "Org" orgFields)]⟩ = .ok j ∧
      ∃ fields', decode registry j (.named "Event") =
          .ok (some (.record "Event" [("subject", .record "Org" fields')])) ∧
        ∀ name, Members.get? fields' name = Members.get? orgFields name := by
  have hinherits : registry.Inherits "Org" "Entity" := .single ⟨org, rfl, by decide⟩
  have hfield : ("subject", { wireKey := "subject", shape := .named "Entity" }) ∈ event.fields :=
    List.mem_cons_of_mem _ List.mem_cons_self
  obtain ⟨j, hj, hiff⟩ := decode_derived_iff isValid_registry distinctWireKeys_registry
    resolvedFields_event hfield (.named (s := entity) rfl) hinherits resolvedFields_org
    selfRestoring_orgFields
  exact ⟨selfRestoring_orgFields, j, hj, hiff.2 (Or.inr rfl)⟩

end Sample

/-! ### In the place of a plain base -/

namespace PlainSample

/-- A base that is not polymorphic. -/
def base : Schema where
  typeName := "Base"
  fields := [("name", { wireKey := "name", shape := .scalar .string })]

/-- A type derived from it. -/
def derived : Schema where
  typeName := "Derived"
  parents := ["Base"]
  fields := [("extra", { wireKey := "extra", shape := .scalar .int })]

/-- A type with a field of the base. -/
def holder : Schema where
  typeName := "Holder"
  fields := [("item", { wireKey := "item", shape := .named "Base" })]

/-- The registry of these types. -/
def registry : Registry where
  entries := [("Base", .schema base), ("Derived", .schema derived), ("Holder", .schema holder)]
  discriminators := [("Base", "Base"), ("Derived", "Derived"), ("Holder", "Holder")]

lemma isValid_registry : registry.IsValid where
  built := by
    have hall : Registry.registerAll {} [.schema base, .schema derived, .schema holder] =
        .ok registry := rfl
    exact Registry.Built.empty.registerAll (by decide) hall
  validated := by
    rw [Registry.validate_eq_ok_iff, show registry.schemas = [base, derived, holder] from rfl]
    simp only [List.forall_mem_cons, List.not_mem_nil, false_implies, implies_true, and_true]
    exact ⟨⟨rfl, _, rfl⟩, ⟨rfl, _, rfl⟩, rfl, _, rfl⟩

lemma distinctWireKeys_registry : registry.DistinctWireKeys := by
  rw [Registry.DistinctWireKeys, show registry.schemas = [base, derived, holder] from rfl]
  simp only [List.forall_mem_cons, List.not_mem_nil, false_implies, implies_true, and_true]
  refine ⟨?_, ?_, ?_⟩ <;> rintro specs ⟨⟩ <;> decide

/-- The fields of a record of the derived type. -/
def derivedFields : List (String × Value) := [("name", .string "a"), ("extra", .int 1)]

lemma selfRestoring_derivedFields :
    SelfRestoring registry (base.fields ++ derived.fields) derivedFields := by
  simp only [SelfRestoring, derivedFields, List.forall_mem_cons, List.not_mem_nil, false_implies,
    implies_true, and_true]
  exact ⟨⟨_, List.mem_cons_self, rfl, _, rfl, rfl⟩,
    _, List.mem_cons_of_mem _ List.mem_cons_self, rfl, _, rfl, rfl⟩

/-- What a holder of that record is written as. -/
def written : Json := .object [
  ("item", .object [("name", .string "a"), ("extra", .int 1), ("_type", .string "Derived")])]

/-- A record of the derived type is written with its discriminator in the place of its plain base,
and read back as a record of the base, without its own field. -/
theorem decode_derived_plain :
    registry.IsValid ∧ registry.DistinctWireKeys ∧ registry.Inherits "Derived" "Base" ∧
    registry.resolvedFields "Holder" = .ok holder.fields ∧
    registry.resolvedFields "Derived" = .ok (base.fields ++ derived.fields) ∧
    SelfRestoring registry (base.fields ++ derived.fields) derivedFields ∧
    encodeRecord registry ⟨"Holder", [("item", .record "Derived" derivedFields)]⟩ = .ok written ∧
    decode registry written (.named "Holder") =
      .ok (some (.record "Holder" [("item", .record "Base" [("name", .string "a")])])) :=
  ⟨isValid_registry, distinctWireKeys_registry, .single ⟨derived, rfl, by decide⟩, rfl, rfl,
    selfRestoring_derivedFields, rfl, rfl⟩

end PlainSample

end CloudDirector.Payload
