import CloudDirector.Proofs.Payload.Records
import CloudDirector.Proofs.Payload.Scalar

/-!
# What is written is read back

A value conforms to a shape when it holds at every depth what the shape declares.  Every such value
is written, and reading what was written gives the value back in its normal form: the fields of
records in the order of their schemas, and null only where it means something.
-/

namespace CloudDirector

/-! ## Conforming values -/

/-- A value holds what a shape declares.  Null may stand for every item of a list, every entry of a
map and every field of a record; a record may be one of a derived type where the payload can say
so. -/
inductive Registry.Conforms (reg : Registry) : Descriptor → Value → Prop
  | scalar {kind : Kind} {v : Value} (holds : kind.Holds v) : Conforms reg (.scalar kind) v
  | list {element : Descriptor} {items : List Value}
      (parts : ∀ v ∈ items, v.isNull = false → Conforms reg element v) :
      Conforms reg (.list element) (.list items)
  | map {element : Descriptor} {entries : List (String × Value)}
      (parts : ∀ m ∈ entries, m.2.isNull = false → Conforms reg element m.2) :
      Conforms reg (.map element) (.map entries)
  | enum {entry : EnumEntry} {e : EnumValue}
      (lookup : reg.lookup? e.typeName = some (.enum entry)) (holds : entry.Holds e.constant) :
      Conforms reg (.named e.typeName) (.enum e)
  | record {shape : Descriptor} {s : Schema} {dispatched : Bool} {typeName : String}
      {fields : List (String × Value)} {specs : List (String × FieldSpec)}
      (expects : reg.Expects shape s dispatched)
      (admitted : typeName = s.typeName ∨ (dispatched = true ∧ reg.Inherits typeName s.typeName))
      (resolved : reg.resolvedFields typeName = .ok specs)
      (declared : ∀ m ∈ fields, m.1 ∈ Members.keys specs)
      (parts : ∀ m ∈ fields, ∀ spec, (m.1, spec) ∈ specs → m.2.isNull = false →
        Conforms reg spec.shape m.2) :
      Conforms reg shape (.record typeName fields)

/-! ## Normal forms -/

namespace Value

mutual

/-- The normal form of a value: at every depth the fields of a record stand in the order of its
schema, and null is left out where the schema gives it no meaning. -/
def normal (reg : Registry) : Value → Value
  | list items => list (normalItems reg items)
  | map entries => map (normalEntries reg entries)
  | record typeName fields =>
    record typeName <| match reg.resolvedFields typeName with
      | .ok specs => specs.filterMap fun field => normalField reg field fields
      | .error _ => []
  | v => v

/-- The normal forms of the items of a list. -/
def normalItems (reg : Registry) : List Value → List Value
  | [] => []
  | v :: rest => normal reg v :: normalItems reg rest

/-- The normal forms of the entries of a map. -/
def normalEntries (reg : Registry) : List (String × Value) → List (String × Value)
  | [] => []
  | (key, v) :: rest => (key, normal reg v) :: normalEntries reg rest

/-- A field with the normal form of its value, if it is set to a value that means something. -/
def normalField (reg : Registry) (field : String × FieldSpec) :
    List (String × Value) → Option (String × Value)
  | [] => none
  | (name, v) :: rest =>
    if name = field.1 then
      if v.isNull && !field.2.nullable then none else some (field.1, normal reg v)
    else normalField reg field rest

end

variable {reg : Registry}

lemma normalItems_eq_map (items : List Value) : normalItems reg items = items.map (normal reg) := by
  induction items with
  | nil => rfl
  | cons v rest ih => exact congrArg (normal reg v :: ·) ih

lemma normalEntries_eq_map (entries : List (String × Value)) :
    normalEntries reg entries = entries.map fun m => (m.1, normal reg m.2) := by
  induction entries with
  | nil => rfl
  | cons m rest ih => exact congrArg ((m.1, normal reg m.2) :: ·) ih

lemma normalField_eq (field : String × FieldSpec) (fields : List (String × Value)) :
    normalField reg field fields = (Members.get? fields field.1).bind fun v =>
      if v.isNull && !field.2.nullable then none else some (field.1, normal reg v) := by
  induction fields with
  | nil => rfl
  | cons m rest ih =>
    obtain ⟨name, v⟩ := m
    by_cases hname : name = field.1
    · subst hname
      rw [normalField, if_pos rfl, Members.get?_cons_self, Option.bind_some]
    · rw [normalField, if_neg hname, Members.get?_cons_of_ne hname, ih]

lemma normal_record {typeName : String} {specs : List (String × FieldSpec)}
    (h : reg.resolvedFields typeName = .ok specs) (fields : List (String × Value)) :
    normal reg (record typeName fields) =
      record typeName (specs.filterMap fun field => normalField reg field fields) := by
  rw [normal, h]

/-- Scalars have no other normal form. -/
lemma normal_of_holds {kind : Kind} {v : Value} (h : kind.Holds v) : normal reg v = v := by
  cases h <;> rfl

@[simp] lemma normal_null : normal reg null = null := rfl

lemma eq_null_of_isNull {v : Value} (h : v.isNull = true) : v = null := by
  cases v <;> simp_all [isNull]

end Value

namespace Payload

variable {reg : Registry} {shape : Descriptor} {v : Value}

/-! ## The round trip -/

/-- The value is written, and what is written is read as the normal form. -/
def Restores (reg : Registry) (shape : Descriptor) (v : Value) : Prop :=
  ∃ j, encode reg v shape = .ok j ∧ j.isNull = false ∧
    decode reg j shape = .ok (some (v.normal reg))

lemma encode_null : encode reg .null shape = .ok .null := by
  rw [encode.eq_def]
  rfl

/-- A part of a list or of a map is written and read back, null as null. -/
lemma exists_encode_part (h : v.isNull = false → Restores reg shape v) :
    ∃ j, encode reg v shape = .ok j ∧
      ∃ found, decode reg j shape = .ok found ∧ found.getD .null = v.normal reg := by
  by_cases hnull : v.isNull = true
  · obtain rfl := Value.eq_null_of_isNull hnull
    exact ⟨.null, encode_null, none, decode_null, Value.normal_null.symm⟩
  · rw [Bool.not_eq_true] at hnull
    obtain ⟨j, hencode, -, hdecode⟩ := h hnull
    exact ⟨j, hencode, _, hdecode, rfl⟩

lemma restores_list {element : Descriptor} {items : List Value}
    (h : ∀ v ∈ items, v.isNull = false → Restores reg element v) :
    Restores reg (.list element) (.list items) := by
  obtain ⟨js, hjs⟩ := exists_forall₂ fun v hv => exists_encode_part (h v hv)
  refine ⟨.array js, ?_, rfl, decode_of_decoded ?_⟩
  · have hitems : encodeItems reg element 0 items = .ok js :=
      encodeItems_eq_ok_iff.2 (hjs.imp fun _ _ hj => hj.1)
    rw [encode]
    simp only [Value.isNull, hitems]
    rfl
  · rw [Value.normal, Value.normalItems_eq_map]
    refine .list (decodeItems_eq_ok_iff.2 ?_)
    rw [List.forall₂_map_right_iff]
    exact hjs.flip.imp fun _ _ hj => hj.2

lemma restores_map {element : Descriptor} {entries : List (String × Value)}
    (h : ∀ m ∈ entries, m.2.isNull = false → Restores reg element m.2) :
    Restores reg (.map element) (.map entries) := by
  have hparts : ∀ m ∈ entries, ∃ member : String × Json, member.1 = m.1 ∧
      encode reg m.2 element = .ok member.2 ∧
      ∃ found, decode reg member.2 element = .ok found ∧ found.getD .null = m.2.normal reg := by
    intro m hm
    obtain ⟨j, hj⟩ := exists_encode_part (h m hm)
    exact ⟨(m.1, j), rfl, hj⟩
  obtain ⟨members, hmembers⟩ := exists_forall₂ hparts
  refine ⟨.object members, ?_, rfl, decode_of_decoded ?_⟩
  · have hentries : encodeEntries reg element entries = .ok members :=
      encodeEntries_eq_ok_iff.2 (hmembers.imp fun _ _ hm => ⟨hm.1, hm.2.1⟩)
    rw [encode]
    simp only [Value.isNull, hentries]
    rfl
  · rw [Value.normal, Value.normalEntries_eq_map]
    refine .map (decodeEntries_eq_ok_iff.2 ?_)
    rw [List.forall₂_map_right_iff]
    exact hmembers.flip.imp fun _ _ hm => ⟨hm.1.symm, hm.2.2⟩

lemma restores_enum (hreg : reg.IsValid) {entry : EnumEntry} {e : EnumValue}
    (hentry : reg.lookup? e.typeName = some (.enum entry)) (h : entry.Holds e.constant) :
    Restores reg (.named e.typeName) (.enum e) := by
  have htype : entry.typeName = e.typeName := hreg.coherent.named hentry
  obtain ⟨text, hencode, hdecode⟩ := exists_encodeEnum (hreg.coherent.keyed hentry) htype.symm h
  refine ⟨.string text, ?_, rfl, decode_of_decoded ?_⟩
  · rw [encode.eq_def]
    simp only [Value.isNull, hentry, hencode]
    rfl
  · rw [Value.normal.eq_def]
    exact .enum rfl hentry hdecode

/-- Each field of a conforming record is read back in its normal form. -/
lemma restoresField_of_restores {typeName : String} {fields : List (String × Value)}
    {field : String × FieldSpec}
    (h : ∀ v, Members.get? fields field.1 = some v → v.isNull = false →
      Restores reg field.2.shape v) :
    RestoresField reg typeName fields field (Value.normalField reg field fields) := by
  rw [Value.normalField_eq]
  cases hget : Members.get? fields field.1 with
  | none => exact restoresField_of_unset hget
  | some v =>
    by_cases hnull : v.isNull = true
    · obtain rfl := Value.eq_null_of_isNull hnull
      have hfield : RestoresField reg typeName fields field _ := restoresField_of_null hget
      cases hnullable : field.2.nullable <;> simpa [hnullable, Value.isNull] using hfield
    · rw [Bool.not_eq_true] at hnull
      obtain ⟨j, hencode, hj, hdecode⟩ := h v hget hnull
      simpa [hnull] using restoresField_of_value hget hnull hencode hj hdecode

/-- Every conforming value is written, and read back in its normal form. -/
lemma restores_of_conforms (hreg : reg.IsValid) (hkeys : reg.DistinctWireKeys)
    (h : reg.Conforms shape v) : Restores reg shape v := by
  induction h with
  | @scalar kind v hv =>
    obtain ⟨j, hencode, hj, hdecode⟩ := exists_encode_scalar reg hv
    refine ⟨j, hencode, hj, decode_of_decoded ?_⟩
    rw [Value.normal_of_holds hv]
    exact .scalar hj hdecode
  | list _ ih => exact restores_list ih
  | map _ ih => exact restores_map ih
  | enum hentry hconstant => exact restores_enum hreg hentry hconstant
  | record hexpects hadmitted hspecs hdeclared _ ih =>
    -- the induction hypothesis is about the fields that are not null, which are all that is encoded
    rw [Restores, Value.normal_record hspecs]
    refine exists_encode_record hreg hkeys hexpects hadmitted hspecs hdeclared ?_
    intro field hfield
    refine restoresField_of_restores fun v hv hnull => ?_
    exact ih (field.1, v) (Members.mem_of_get?_eq_some hv) field.2 hfield hnull

/-- Each field of a conforming record is restored, wherever the record stands. -/
lemma restoresField_of_conforms (hreg : reg.IsValid) (hkeys : reg.DistinctWireKeys)
    {typeName : String} {fields : List (String × Value)}
    (h : reg.Conforms shape (.record typeName fields)) :
    ∃ specs, reg.resolvedFields typeName = .ok specs ∧
      (∀ m ∈ fields, m.1 ∈ Members.keys specs) ∧
      ∀ field ∈ specs,
        RestoresField reg typeName fields field (Value.normalField reg field fields) := by
  cases h with
  | scalar hscalar => cases hscalar
  | @record _ s _ _ _ specs hexpects hadmitted hspecs hdeclared hparts =>
    refine ⟨specs, hspecs, hdeclared, fun field hfield => ?_⟩
    refine restoresField_of_restores fun v hv hnull => ?_
    exact restores_of_conforms hreg hkeys
      (hparts (field.1, v) (Members.mem_of_get?_eq_some hv) field.2 hfield hnull)

/-- A conforming record is written, and reading it as a record of its type gives back its normal
form. -/
theorem decode_encodeRecord (hreg : reg.IsValid) (hkeys : reg.DistinctWireKeys) {typeName : String}
    {fields : List (String × Value)}
    (h : reg.Conforms (.named typeName) (.record typeName fields)) :
    ∃ j, encodeRecord reg ⟨typeName, fields⟩ = .ok j ∧
      decode reg j (.named typeName) = .ok (some (Value.normal reg (.record typeName fields))) := by
  obtain ⟨specs, hspecs, hdeclared, hback⟩ := restoresField_of_conforms hreg hkeys h
  rw [Value.normal_record hspecs]
  exact exists_encodeRecord hreg hkeys hspecs hdeclared hback

/-- Of a record with one date and time comes back what the written form of that is read as. -/
lemma exists_encodeRecord_dateTime (hreg : reg.IsValid) (hkeys : reg.DistinctWireKeys)
    (typeName name : String) {specs : List (String × FieldSpec)}
    (hspecs : reg.resolvedFields typeName = .ok specs) (hname : name ∈ Members.keys specs)
    (hshape : ∀ field ∈ specs, field.1 = name → field.2.shape = .scalar .dateTime) {t u : DateTime}
    (h : decodeDateTime t.render = .ok u) :
    ∃ j, encodeRecord reg ⟨typeName, [(name, .dateTime t)]⟩ = .ok j ∧
      decode reg j (.named typeName) = .ok (some (.record typeName (specs.filterMap fun field =>
        if field.1 = name then some (field.1, .dateTime u) else none))) := by
  refine exists_encodeRecord hreg hkeys hspecs ?_ fun field hfield => ?_
  · intro m hm
    obtain rfl := List.mem_singleton.1 hm
    exact hname
  · split
    · next heq =>
      subst heq
      have hwritten : encode reg (.dateTime t) field.2.shape = .ok (.string t.render) := by
        rw [hshape field hfield rfl]
        rfl
      have hread : decodeScalar (.string t.render) .dateTime = .ok (.dateTime u) := by
        simp only [decodeScalar, Json.string?, require, bind, Except.bind, h]
        rfl
      refine restoresField_of_value (Members.get?_cons_self ..) rfl hwritten rfl
        (decode_of_decoded ?_)
      rw [hshape field hfield rfl]
      exact .scalar rfl hread
    · next hne => exact restoresField_of_unset (Members.get?_cons_of_ne (Ne.symm hne) _ _)

/-! ### A record of an event -/

namespace Sample

/-- An enumeration with two texts for one constant. -/
def level : EnumEntry where
  typeName := "Level"
  values := [("INFO", "info"), ("info", "info"), ("ERROR", "error")]

/-- A polymorphic base. -/
def entity : Schema where
  typeName := "Entity"
  polymorphic := true
  fields := [("name", { wireKey := "name", shape := .scalar .string })]

/-- A type derived from it, with a discriminator of its own and a field that null is a value of. -/
def org : Schema where
  typeName := "Org"
  parents := ["Entity"]
  discriminator := some "org"
  fields := [("created", { wireKey := "createdAt", shape := .scalar .dateTime, nullable := true })]

/-- A type with fields of several shapes. -/
def event : Schema where
  typeName := "Event"
  fields := [
    ("level", { wireKey := "level", shape := .named "Level" }),
    ("subject", { wireKey := "subject", shape := .named "Entity" }),
    ("ratios", { wireKey := "ratios", shape := .list (.scalar .float) })]

/-- The registry of these types. -/
def registry : Registry where
  entries := [("Level", .enum level), ("Entity", .schema entity), ("Org", .schema org),
    ("Event", .schema event)]
  discriminators := [("Entity", "Entity"), ("org", "Org"), ("Event", "Event")]

lemma isValid_registry : registry.IsValid where
  built := by
    have hall : Registry.registerAll {} [.enum level, .schema entity, .schema org, .schema event] =
        .ok registry := rfl
    exact Registry.Built.empty.registerAll (by decide) hall
  validated := by
    rw [Registry.validate_eq_ok_iff, show registry.schemas = [entity, org, event] from rfl]
    simp only [List.forall_mem_cons, List.not_mem_nil, false_implies, implies_true, and_true]
    exact ⟨⟨rfl, _, rfl⟩, ⟨rfl, _, rfl⟩, rfl, _, rfl⟩

lemma distinctWireKeys_registry : registry.DistinctWireKeys := by
  rw [Registry.DistinctWireKeys, show registry.schemas = [entity, org, event] from rfl]
  simp only [List.forall_mem_cons, List.not_mem_nil, false_implies, implies_true, and_true]
  refine ⟨?_, ?_, ?_⟩ <;> rintro specs ⟨⟩ <;> decide

lemma resolvedFields_org : registry.resolvedFields "Org" = .ok (entity.fields ++ org.fields) := rfl

lemma resolvedFields_event : registry.resolvedFields "Event" = .ok event.fields := rfl

/-- The fields of an event, not in the order of the schema. -/
def fields : List (String × Value) := [
  ("subject", .record "Org" [("created", .null), ("name", .string "acme")]),
  ("ratios", .list [.float (.finite false .zero), .null]),
  ("level", .enum ⟨"Level", .known "info"⟩)]

lemma conforms_subject :
    registry.Conforms (.named "Entity") (.record "Org" [("created", .null), ("name", .string "acme")]) := by
  have hinherits : registry.Inherits "Org" "Entity" := .single ⟨org, rfl, by decide⟩
  refine .record (.named (s := entity) rfl) (Or.inr ⟨rfl, hinherits⟩) resolvedFields_org
    (by decide) ?_
  intro m hm spec hspec hnull
  simp only [List.mem_cons, List.not_mem_nil, or_false] at hm
  rcases hm with rfl | rfl
  · cases hnull
  · obtain rfl : spec = { wireKey := "name", shape := .scalar .string } := by
      simpa [org, entity] using hspec
    exact .scalar (.string "acme")

lemma conforms_fields : registry.Conforms (.named "Event") (.record "Event" fields) := by
  refine .record (.named (s := event) rfl) (Or.inl rfl) resolvedFields_event (by decide) ?_
  intro m hm spec hspec _
  simp only [fields, List.mem_cons, List.not_mem_nil, or_false] at hm
  rcases hm with rfl | rfl | rfl
  · obtain rfl : spec = { wireKey := "subject", shape := .named "Entity" } := by
      simpa [event] using hspec
    exact conforms_subject
  · obtain rfl : spec = { wireKey := "ratios", shape := .list (.scalar .float) } := by
      simpa [event] using hspec
    refine .list fun v hv hnull => ?_
    rcases List.mem_cons.1 hv with rfl | hv
    · exact .scalar (.float ..)
    · obtain rfl := List.mem_singleton.1 hv
      cases hnull
  · obtain rfl : spec = { wireKey := "level", shape := .named "Level" } := by
      simpa [event] using hspec
    have hlookup : registry.lookup? "Level" = some (.enum level) := rfl
    exact .enum (e := ⟨"Level", .known "info"⟩) hlookup (.known rfl)

/-- A record of a derived type, a constant with two texts and nulls come back, in the order of the
schemas. -/
theorem decode_encodeRecord_fields :
    registry.Conforms (.named "Event") (.record "Event" fields) ∧
    ∃ j, encodeRecord registry ⟨"Event", fields⟩ = .ok j ∧
      decode registry j (.named "Event") = .ok (some (.record "Event" [
        ("level", .enum ⟨"Level", .known "info"⟩),
        ("subject", .record "Org" [("name", .string "acme"), ("created", .null)]),
        ("ratios", .list [.float (.finite false .zero), .null])])) := by
  refine ⟨conforms_fields, ?_⟩
  obtain ⟨j, hencode, hdecode⟩ :=
    decode_encodeRecord isValid_registry distinctWireKeys_registry conforms_fields
  exact ⟨j, hencode, hdecode⟩

/-- An organization that was created in a leap second in the middle of a minute is written, and
comes back as one that was created later. -/
theorem decode_encodeRecord_midMinuteLeap :
    registry.IsValid ∧ registry.DistinctWireKeys ∧
    midMinuteLeap.date.HasPlainYear ∧ midMinuteLeap.HasWholeMinutes ∧
    ∃ j, encodeRecord registry ⟨"Org", [("created", .dateTime midMinuteLeap)]⟩ = .ok j ∧
      decode registry j (.named "Org") =
        .ok (some (.record "Org" [("created", .dateTime halfPastNext)])) ∧
      midMinuteLeap.sameInstant halfPastNext = false := by
  refine ⟨isValid_registry, distinctWireKeys_registry, ⟨by decide, by decide⟩, rfl, ?_⟩
  obtain ⟨j, hencode, hdecode⟩ := exists_encodeRecord_dateTime isValid_registry
    distinctWireKeys_registry "Org" "created" resolvedFields_org (by decide) (by decide)
    decodeDateTime_render_midMinuteLeap
  exact ⟨j, hencode, hdecode, rfl⟩

end Sample

end Payload

end CloudDirector
