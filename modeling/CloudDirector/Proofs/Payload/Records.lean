import CloudDirector.Proofs.Payload.Dispatch

/-!
# Records on the wire

A record is written field by field, and each field is read by its wire key alone.  So where the
wire keys are different from each other and from the key of the discriminator, a record is read
back as soon as each field is: the other fields and the discriminator do not come in the way.
-/

namespace CloudDirector

/-- The fields of every schema have wire keys that are different from each other and from the key
of the discriminator. -/
def Registry.DistinctWireKeys (reg : Registry) : Prop :=
  ∀ s ∈ reg.schemas, ∀ specs, reg.resolvedFields s.typeName = .ok specs →
    (discriminatorKey :: specs.map fun field => field.2.wireKey).Nodup

namespace Payload

variable {reg : Registry} {typeName : String} {fields : List (String × Value)}
  {specs : List (String × FieldSpec)}

lemma nodup_wireKeys (hreg : reg.IsValid) (hkeys : reg.DistinctWireKeys)
    (hspecs : reg.resolvedFields typeName = .ok specs) :
    (discriminatorKey :: specs.map fun field => field.2.wireKey).Nodup := by
  obtain ⟨s, hs⟩ := Registry.exists_schema_of_resolvedFields hspecs
  refine hkeys s (hreg.coherent.mem_schemas hs) specs ?_
  rwa [hreg.coherent.typeName_eq hs]

/-! ## One field -/

/-- One field of a record is written, as a member or not at all, and is read as `back` from every
object that has the same under its wire key. -/
def RestoresField (reg : Registry) (typeName : String) (fields : List (String × Value))
    (field : String × FieldSpec) (back : Option (String × Value)) : Prop :=
  ∃ written : Option Json,
    encodeMember reg typeName field fields = .ok (written.map fun j => (field.2.wireKey, j)) ∧
    ∀ members, Members.get? members field.2.wireKey = written →
      decodeMember reg typeName field members = .ok back

variable {field : String × FieldSpec}

lemma restoresField_of_unset (h : Members.get? fields field.1 = none) :
    RestoresField reg typeName fields field none :=
  ⟨none, encodeMember_of_get?_eq_none h, fun _ hmembers => decodeMember_of_get?_eq_none hmembers⟩

/-- Null is written and read where it means something. -/
lemma restoresField_of_null (h : Members.get? fields field.1 = some .null) :
    RestoresField reg typeName fields field
      (if field.2.nullable then some (field.1, .null) else none) := by
  rw [RestoresField, encodeMember_of_get?_eq_some h]
  by_cases hnullable : field.2.nullable = true
  · refine ⟨some .null, by simp [Value.isNull, hnullable], fun members hmembers => ?_⟩
    rw [decodeMember_of_get?_eq_some hmembers]
    rfl
  · refine ⟨none, by simp [Value.isNull, hnullable], fun members hmembers => ?_⟩
    rw [decodeMember_of_get?_eq_none hmembers, if_neg hnullable]

lemma restoresField_of_value {v w : Value} (h : Members.get? fields field.1 = some v)
    (hv : v.isNull = false) {j : Json} (hencode : encode reg v field.2.shape = .ok j)
    (hj : j.isNull = false) (hdecode : decode reg j field.2.shape = .ok (some w)) :
    RestoresField reg typeName fields field (some (field.1, w)) := by
  refine ⟨some j, ?_, fun members hmembers => ?_⟩
  · rw [encodeMember_of_get?_eq_some h, hv, hencode]
    rfl
  · rw [decodeMember_of_get?_eq_some hmembers, hj, hdecode]
    rfl

/-! ## All fields -/

/-- The members of a record are those that its fields are written as. -/
lemma recordMembers_eq_ok (hspecs : reg.resolvedFields typeName = .ok specs)
    (hdeclared : ∀ m ∈ fields, m.1 ∈ Members.keys specs)
    {member : String × FieldSpec → Option (String × Json)}
    (hmember : ∀ field ∈ specs, encodeMember reg typeName field fields = .ok (member field)) :
    recordMembers reg typeName fields (fun field => encodeMember reg typeName field fields) =
      .ok (Members.ofPairs (specs.filterMap member)) := by
  have hall : (fields.find? fun m => !Members.contains specs m.1) = none := by
    rw [List.find?_eq_none]
    intro m hm
    simpa using Members.contains_iff.2 (hdeclared m hm)
  rw [recordMembers, hspecs]
  simp only [hall, gather_eq_filterMap hmember, Result.map_ok]

/-- Where every field is restored, the record has members, none of them a discriminator; and from
every object that agrees with them, up to a discriminator, all fields are read back. -/
lemma exists_recordMembers (hreg : reg.IsValid) (hkeys : reg.DistinctWireKeys)
    (hspecs : reg.resolvedFields typeName = .ok specs)
    (hdeclared : ∀ m ∈ fields, m.1 ∈ Members.keys specs)
    {back : String × FieldSpec → Option (String × Value)}
    (hback : ∀ field ∈ specs, RestoresField reg typeName fields field (back field)) :
    ∃ members,
      recordMembers reg typeName fields (fun field => encodeMember reg typeName field fields) =
        .ok members ∧
      Members.get? members discriminatorKey = none ∧
      ∀ members', (∀ key ≠ discriminatorKey,
          Members.get? members' key = Members.get? members key) →
        gather (fun field => decodeMember reg typeName field members') specs =
          .ok (specs.filterMap back) := by
  obtain ⟨hfresh, hnodup⟩ := List.nodup_cons.1 (nodup_wireKeys hreg hkeys hspecs)
  choose! written hencode hdecode using hback
  let member (field : String × FieldSpec) : Option (String × Json) :=
    (written field).map fun j => (field.2.wireKey, j)
  have hkey : ∀ field ∈ specs, ∀ m, member field = some m → m.1 = field.2.wireKey := by
    intro field _ m hm
    obtain ⟨j, -, rfl⟩ := Option.map_eq_some_iff.1 hm
    rfl
  refine ⟨specs.filterMap member, ?_, ?_, ?_⟩
  · rw [recordMembers_eq_ok hspecs hdeclared hencode,
      Members.ofPairs_eq_self (Members.nodup_keys_filterMap hkey hnodup)]
  · rw [Members.get?_eq_none_iff]
    exact fun hmem => hfresh ((Members.keys_filterMap_sublist hkey).subset hmem)
  · intro members' hagree
    refine gather_eq_filterMap fun field hfield => hdecode field hfield members' ?_
    have hne : field.2.wireKey ≠ discriminatorKey := by
      intro heq
      exact hfresh (heq ▸ List.mem_map_of_mem hfield)
    rw [hagree _ hne, Members.get?_filterMap hkey hnodup hfield, Option.map_map]
    exact Option.map_id'

/-! ## The object of a record -/

section Object

variable {shape : Descriptor} {s t : Schema} {dispatched : Bool} {members : List (String × Json)}

lemma encodeRecord_eq_ok
    (h : recordMembers reg typeName fields (fun field => encodeMember reg typeName field fields) =
      .ok members) : encodeRecord reg ⟨typeName, fields⟩ = .ok (.object members) := by
  rw [encodeRecord, encodeValue, Value.ofRecord, encode]
  simp only [Value.isNull, h, Result.map_ok]
  rfl

lemma encode_record (hreg : reg.IsValid) (hexpects : reg.Expects shape s dispatched)
    (hinherits : reg.Inherits typeName s.typeName)
    (h : recordMembers reg typeName fields (fun field => encodeMember reg typeName field fields) =
      .ok members) :
    encode reg (.record typeName fields) shape =
      withDiscriminator reg typeName s.typeName members := by
  have hdescendant := hreg.isDescendant_iff.2 hinherits
  cases hexpects with
  | named hs | polymorphic hs =>
    rw [hreg.coherent.typeName_eq hs] at hdescendant ⊢
    rw [encode]
    simp only [Value.isNull, hs, hdescendant, h, if_true]
    rfl

/-- A record of the declared type is its members. -/
lemma withDiscriminator_self : withDiscriminator reg typeName typeName members = .ok (.object members) :=
  if_pos rfl

/-- A record of a derived type has its discriminator besides. -/
lemma withDiscriminator_of_ne {declared : String} (hne : typeName ≠ declared)
    (ht : reg.lookup? typeName = some (.schema t)) :
    withDiscriminator reg typeName declared members =
      .ok (.object (Members.insert members discriminatorKey (.string t.discriminatorValue))) := by
  rw [withDiscriminator, if_neg hne, Registry.schema_eq_ok_iff.2 ht]

/-- An object without a discriminator is read as a record of the expected type. -/
lemma decode_object_of_get?_eq_none {back : List (String × Value)}
    (hexpects : reg.Expects shape s dispatched)
    (hnone : Members.get? members discriminatorKey = none)
    (hspecs : reg.resolvedFields s.typeName = .ok specs)
    (hread : gather (fun field => decodeMember reg s.typeName field members) specs = .ok back) :
    decode reg (.object members) shape = .ok (some (.record s.typeName back)) := by
  refine decode_of_decoded (.record hexpects ?_ hspecs hread)
  split
  · exact concreteSchema_of_get?_eq_none hnone
  · rfl

/-- A record is written and read back where its own type is expected, or one that it derives from
if the payload can say so. -/
lemma exists_encode_record (hreg : reg.IsValid) (hkeys : reg.DistinctWireKeys)
    (hexpects : reg.Expects shape s dispatched)
    (hadmitted : typeName = s.typeName ∨ (dispatched = true ∧ reg.Inherits typeName s.typeName))
    (hspecs : reg.resolvedFields typeName = .ok specs)
    (hdeclared : ∀ m ∈ fields, m.1 ∈ Members.keys specs)
    {back : String × FieldSpec → Option (String × Value)}
    (hback : ∀ field ∈ specs, RestoresField reg typeName fields field (back field)) :
    ∃ j, encode reg (.record typeName fields) shape = .ok j ∧ j.isNull = false ∧
      decode reg j shape = .ok (some (.record typeName (specs.filterMap back))) := by
  obtain ⟨members, hmembers, hnone, hread⟩ :=
    exists_recordMembers hreg hkeys hspecs hdeclared hback
  have hs := lookup?_of_expects hreg.coherent hexpects
  by_cases hself : typeName = s.typeName
  · subst hself
    refine ⟨.object members, ?_, rfl, ?_⟩
    · rw [encode_record hreg hexpects .refl hmembers, withDiscriminator_self]
    · exact decode_object_of_get?_eq_none hexpects hnone hspecs (hread members fun _ _ => rfl)
  · -- the discriminator is the only member that is not one of a field
    obtain ⟨rfl, hinherits⟩ := hadmitted.resolve_left hself
    obtain ⟨t, ht⟩ := Registry.exists_schema_of_resolvedFields hspecs
    obtain rfl := hreg.coherent.typeName_eq ht
    refine ⟨.object (Members.insert members discriminatorKey (.string t.discriminatorValue)), ?_, rfl,
      decode_of_decoded ?_⟩
    · rw [encode_record hreg hexpects hinherits hmembers, withDiscriminator_of_ne hself ht]
    · refine .record hexpects ?_ hspecs
        (hread _ fun key hkey => Members.get?_insert_of_ne hkey members _)
      rw [if_pos rfl]
      exact concreteSchema_of_discriminator hreg hs ht hinherits (Members.get?_insert_self ..)

/-- A record that is written by itself is read back as one of its own type. -/
lemma exists_encodeRecord (hreg : reg.IsValid) (hkeys : reg.DistinctWireKeys)
    (hspecs : reg.resolvedFields typeName = .ok specs)
    (hdeclared : ∀ m ∈ fields, m.1 ∈ Members.keys specs)
    {back : String × FieldSpec → Option (String × Value)}
    (hback : ∀ field ∈ specs, RestoresField reg typeName fields field (back field)) :
    ∃ j, encodeRecord reg ⟨typeName, fields⟩ = .ok j ∧
      decode reg j (.named typeName) = .ok (some (.record typeName (specs.filterMap back))) := by
  obtain ⟨members, hmembers, hnone, hread⟩ :=
    exists_recordMembers hreg hkeys hspecs hdeclared hback
  obtain ⟨s, hs⟩ := Registry.exists_schema_of_resolvedFields hspecs
  obtain rfl := hreg.coherent.typeName_eq hs
  refine ⟨.object members, encodeRecord_eq_ok hmembers, ?_⟩
  exact decode_object_of_get?_eq_none (.named hs) hnone hspecs (hread members fun _ _ => rfl)

end Object

end Payload

end CloudDirector
