import CloudDirector.Proofs.Typed.Registered
import CloudDirector.Proofs.Typed.RoundTrip

/-!
# Typed values on the wire

A typed value is written as a record, the record as a payload, and both are read again.  What the
record of a value holds conforms to the shapes that the schemas of the declarations give, and it is
in normal form, so that the payload is decoded into that very record; and from its record the value
comes back.  All that is asked of the value is that its scalars have a written form that keeps them.
-/

namespace CloudDirector

/-- The declarations are registered, and their fields travel in the shapes of their types. -/
structure Models.RegisteredIn (ms : Models) (reg : Registry) : Prop where
  valid : reg.IsValid
  wireKeys : reg.DistinctWireKeys
  models : ∀ m ∈ ms.models, m.IsRegistered reg ms
  enums : ∀ e ∈ ms.enums, reg.lookup? e.name = some (.enum e.entry)
  plain : ∀ m ∈ ms.models, m.IsPlain
  ownShape : ∀ m ∈ ms.models, ∀ f ∈ m.fields, f.leaf = none ∧ f.base = none

namespace Typed

variable {ms : Models} {reg : Registry} {type : FieldType} {t u w : Typed}

/-- What occurs in a typed value has a written form that keeps it. -/
structure Keeps (ms : Models) (t : Typed) : Prop where
  closed : ∀ u : Typed, u.Within t → ¬u.IsOpen
  float : ∀ x, (float x).Within t → ∃ negative m, x = .finite negative m
  date : ∀ d, (date d).Within t → d.HasPlainYear
  dateTime : ∀ d, (dateTime d).Within t →
    d.date.HasPlainYear ∧ d.HasWholeMinutes ∧ d.HasPlainSecond
  json : ∀ j, (json j).Within t → j.isNull = false
  constant : ∀ e ∈ ms.enums, ∀ c, (constant ⟨e.name, c⟩).Within t → e.entry.Holds c

lemma Keeps.of_within (h : t.Keeps ms) (hu : u.Within t) : u.Keeps ms where
  closed w hw := h.closed w (hw.trans hu)
  float x hx := h.float x (hx.trans hu)
  date d hd := h.date d (hd.trans hu)
  dateTime d hd := h.dateTime d (hd.trans hu)
  json j hj := h.json j (hj.trans hu)
  constant e he c hc := h.constant e he c (hc.trans hu)

/-! ## Records that conform -/

/-- A value that does not leave its field unset is not written as null. -/
lemma isNull_of_present (h : HasType ms type t) (hplain : type.isPlain = true) (hopen : ¬t.IsOpen)
    (hpresent : t.isAbsent = false) : t.toValue.isNull = false := by
  cases h with
  | none type => cases hpresent
  | @some type t inner =>
    rw [FieldType.isPlain, Bool.and_eq_true, Bool.not_eq_true'] at hplain
    rw [toValue]
    exact isNull_toValue inner hplain.2
  | any v => exact absurd (.inr ⟨v, rfl⟩) hopen
  | _ =>
    rw [toValue]
    rfl

/-- What a typed value is written as conforms to a shape unless it is null, and is in normal
form. -/
def Conforms (reg : Registry) (shape : Descriptor) (t : Typed) : Prop :=
  (t.toValue.isNull = false → reg.Conforms shape t.toValue) ∧ t.toValue.normal reg = t.toValue

lemma conforms_of_holds {kind : Kind} (h : kind.Holds t.toValue) :
    Conforms reg (.scalar kind) t :=
  ⟨fun _ => .scalar h, Value.normal_of_holds h⟩

lemma shape_spec {f : FieldDecl FieldType} (h : f.leaf = .none ∧ f.base = .none) :
    (f.spec ms).shape = f.type.shape ms := by
  rw [FieldDecl.spec, h.1, h.2]

section Written

variable {m : Model} {members : List (String × Typed)}
  {inherited own : List (FieldDecl FieldType × Typed)}

/-- The fields that a model's value sets conform where their values do. -/
lemma conforms_written (hreg : ms.RegisteredIn reg) (hm : m ∈ ms.models)
    (hassigns : Model.Assigns m.members members inherited own)
    (hparts : ∀ p ∈ inherited ++ own, Conforms reg (p.1.type.shape ms) p.2)
    {shape : Descriptor} {dispatched : Bool}
    (hexpects : reg.Expects shape (m.schema ms) dispatched) :
    reg.Conforms shape (.record m.name ((inherited ++ own).filterMap writtenField)) := by
  have hdistinct := (hreg.plain m hm).distinct
  have hspecs := Model.resolvedFields_eq hreg.valid (hreg.models m hm) hdistinct
  refine .record hexpects (.inl rfl) hspecs ?_ ?_
  · intro n hn
    obtain ⟨p, hp, -, rfl⟩ := mem_written_iff.1 hn
    rw [Model.keys_specs]
    exact List.mem_map_of_mem (hassigns.mem_fields hp)
  · intro n hn spec hspec hnull
    obtain ⟨p, hp, -, rfl⟩ := mem_written_iff.1 hn
    -- the schema has one field of the identifier
    have hown : (p.1.identifier, p.1.spec ms) ∈ m.specs ms :=
      List.mem_map_of_mem (hassigns.mem_fields hp)
    have hkeys : (Members.keys (m.specs ms)).Nodup := Model.keys_specs ▸ hdistinct
    obtain rfl : p.1.spec ms = spec := by
      rw [← Option.some.injEq, ← Members.get?_eq_some_of_mem hkeys hown,
        Members.get?_eq_some_of_mem hkeys hspec]
    rw [shape_spec (hreg.ownShape m hm p.1 (hassigns.mem_fields hp))]
    exact (hparts p hp).1 hnull

/-- The fields that a model's value sets are in the order of the schema and none is null. -/
lemma normal_written (hreg : ms.RegisteredIn reg) (hm : m ∈ ms.models)
    (hassigns : Model.Assigns m.members members inherited own)
    (htype : ∀ p ∈ inherited ++ own, HasType ms p.1.type p.2)
    (hopen : ∀ p ∈ inherited ++ own, ¬p.2.IsOpen)
    (hnormal : ∀ p ∈ inherited ++ own, p.2.toValue.normal reg = p.2.toValue) :
    (Value.record m.name ((inherited ++ own).filterMap writtenField)).normal reg =
      .record m.name ((inherited ++ own).filterMap writtenField) := by
  have hdistinct := (hreg.plain m hm).distinct
  have hspecs := Model.resolvedFields_eq hreg.valid (hreg.models m hm) hdistinct
  rw [Value.normal_record hspecs, Model.specs, ← hassigns.map_fst_eq_fields, List.map_map,
    List.filterMap_map]
  congr 1
  refine List.filterMap_congr fun p hp => ?_
  rw [Function.comp_apply, Function.comp_apply, Value.normalField_eq,
    get?_written (hassigns.nodup hdistinct) hp, writtenField]
  cases hpresent : p.2.isAbsent with
  | true => rfl
  | false =>
    -- a field that is set is not null, so that it is not dropped
    have hplain := (hreg.plain m hm).plain p.1 (hassigns.mem_fields hp)
    have hnull := isNull_of_present (htype p hp) hplain (hopen p hp) hpresent
    simp [hnull, hnormal p hp]

/-- The record of a model's value conforms where the values of its fields do. -/
lemma conforms_model (hreg : ms.RegisteredIn reg) (hm : m ∈ ms.models)
    (hassigns : Model.Assigns m.members members inherited own)
    (htype : ∀ p ∈ inherited ++ own, HasType ms p.1.type p.2)
    (hopen : ∀ p ∈ inherited ++ own, ¬p.2.IsOpen)
    (hparts : ∀ p ∈ inherited ++ own, Conforms reg (p.1.type.shape ms) p.2)
    {shape : Descriptor} {dispatched : Bool}
    (hexpects : reg.Expects shape (m.schema ms) dispatched) :
    Conforms reg shape (.model m.name members) := by
  have hvalue := hassigns.toValue_model (fun p hp => (htype p hp).isOwn)
    (hassigns.nodup (hreg.plain m hm).distinct) m.name
  rw [Conforms, hvalue]
  exact ⟨fun _ => conforms_written hreg hm hassigns hparts hexpects,
    normal_written hreg hm hassigns htype hopen fun p hp => (hparts p hp).2⟩

end Written

/-- What a value of a type is written as conforms to the shape of the type. -/
lemma conforms_of_hasType (hreg : ms.RegisteredIn reg) (h : HasType ms type t)
    (hkeeps : t.Keeps ms) : Conforms reg (type.shape ms) t := by
  induction h with
  | text s => exact conforms_of_holds (by rw [toValue]; exact .string s)
  | flag b => exact conforms_of_holds (by rw [toValue]; exact .bool b)
  | int64 i => exact conforms_of_holds (by rw [toValue]; exact .int i)
  | int32 i => exact conforms_of_holds (by rw [toValue]; exact .int i.toInt64)
  | float x =>
    obtain ⟨negative, m, rfl⟩ := hkeeps.float x (.self _)
    exact conforms_of_holds (by rw [toValue]; exact .float negative m)
  | date d => exact conforms_of_holds (by rw [toValue]; exact .date (hkeeps.date d (.self _)))
  | dateTime d =>
    obtain ⟨hyear, hoffset, hsecond⟩ := hkeeps.dateTime d (.self _)
    exact conforms_of_holds (by rw [toValue]; exact .dateTime hyear hoffset hsecond)
  | json j => exact conforms_of_holds (by rw [toValue]; exact .json (hkeeps.json j (.self _)))
  | binary bytes => exact conforms_of_holds (by rw [toValue]; exact .bytes bytes)
  | record r => exact absurd (.inl ⟨r, rfl⟩) (hkeeps.closed _ (.self _))
  | any v => exact absurd (.inr ⟨v, rfl⟩) (hkeeps.closed _ (.self _))
  | none type =>
    rw [Conforms, toValue]
    exact ⟨Bool.noConfusion, Value.normal_null⟩
  | some inner ih =>
    rw [Conforms, toValue]
    exact ih (hkeeps.of_within (.some (.self _)))
  | list parts ih =>
    have hparts := fun u hu => ih u hu (hkeeps.of_within (.item hu (.self u)))
    rw [Conforms, toValue, toItems_eq_map, Value.normal, Value.normalItems_eq_map, List.map_map]
    have hnormal := List.map_congr_left fun u hu => (hparts u hu).2
    refine ⟨fun _ => .list ?_, congrArg Value.list hnormal⟩
    intro v hv hnull
    obtain ⟨u, hu, rfl⟩ := List.mem_map.1 hv
    exact (hparts u hu).1 hnull
  | map parts ih =>
    have hparts := fun n hn => ih n hn (hkeeps.of_within (.entry hn (.self n.2)))
    rw [Conforms, toValue, toEntries_eq_map, Value.normal, Value.normalEntries_eq_map, List.map_map]
    refine ⟨fun _ => .map ?_, congrArg Value.map (List.map_congr_left fun n hn => ?_)⟩
    · intro v hv hnull
      obtain ⟨n, hn, rfl⟩ := List.mem_map.1 hv
      exact (hparts n hn).1 hnull
    · exact Prod.ext rfl (hparts n hn).2
  | @enum name e c lookup has =>
    have he : e ∈ ms.enums := List.mem_of_find?_eq_some lookup
    obtain rfl : e.name = name := by simpa using List.find?_some lookup
    rw [Conforms, toValue]
    refine ⟨fun _ => .enum (e := ⟨e.name, c⟩) (hreg.enums e he) ?_, by rw [Value.normal.eq_def]⟩
    exact hkeeps.constant e he c (.self _)
  | @model name m members inherited own lookup assigns parts ih =>
    have hm : m ∈ ms.models := List.mem_of_find?_eq_some lookup
    obtain rfl : m.name = name := by simpa using List.find?_some lookup
    have hpart := fun p hp => hkeeps.of_within (assigns.within (p := p) hp (.self p.2) m.name)
    -- the record has the very type that is named, whether or not that type is dispatched on
    have hexpects : ∃ dispatched,
        reg.Expects (FieldType.shape ms (.model m.name)) (m.schema ms) dispatched := by
      have hlookup := (hreg.models m hm).lookup?_eq
      simp only [FieldType.shape, lookup]
      split
      · exact ⟨_, .polymorphic hlookup⟩
      · exact ⟨_, .named hlookup⟩
    obtain ⟨dispatched, hexpects⟩ := hexpects
    exact conforms_model hreg hm assigns parts (fun p hp => (hpart p hp).closed p.2 (.self p.2))
      (fun p hp => ih p hp (hpart p hp)) hexpects

end Typed

/-! ## From typed values to payloads and back -/

/-- A typed value of a registered model is written as a payload and read back from it, by way of one
and the same record. -/
theorem Model.decode_encode_toRecord {ms : Models} {reg : Registry} (hreg : ms.RegisteredIn reg)
    {m : Model} (hm : m ∈ ms.models) {t : Typed} (ht : m.HasValue ms t) (hkeeps : t.Keeps ms) :
    ∃ r j, t.toRecord? = some r ∧ Payload.encodeRecord reg r = .ok j ∧
      Payload.decode reg j (.named m.name) = .ok (some (.ofRecord r)) ∧
      m.ofRecord ms r = .ok t := by
  obtain ⟨r, hr, hread⟩ := ofRecord_of_hasValue (hreg.plain m hm)
    (fun a ha => hreg.plain a ha.mem_models) ht
  obtain ⟨members, inherited, own, rfl, hassigns, htype⟩ := ht
  have hpart := fun p hp => hkeeps.of_within (hassigns.within (p := p) hp (.self p.2) m.name)
  obtain ⟨hconforms, hnormal⟩ := Typed.conforms_model hreg hm hassigns htype
    (fun p hp => (hpart p hp).closed p.2 (.self p.2))
    (fun p hp => Typed.conforms_of_hasType hreg (htype p hp) (hpart p hp))
    (.named (hreg.models m hm).lookup?_eq)
  have hvalue := hassigns.toValue_model (fun p hp => (htype p hp).isOwn)
    (hassigns.nodup (hreg.plain m hm).distinct) m.name
  rw [Typed.toRecord?, hvalue, Value.record?, Option.some.injEq] at hr
  subst hr
  rw [hvalue] at hconforms hnormal
  obtain ⟨specs, hspecs, hdeclared, hback⟩ :=
    Payload.restoresField_of_conforms hreg.valid hreg.wireKeys (hconforms rfl)
  rw [Value.normal_record hspecs] at hnormal
  obtain ⟨j, hencode, hdecode⟩ :=
    Payload.exists_encodeRecord hreg.valid hreg.wireKeys hspecs hdeclared hback
  rw [hnormal] at hdecode
  exact ⟨_, j, by rw [Typed.toRecord?, hvalue, Value.record?], hencode, hdecode, hread⟩

end CloudDirector
