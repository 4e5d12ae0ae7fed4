import CloudDirector.Proofs.Catalog.Acceptance
import CloudDirector.Proofs.Catalog.Places
import CloudDirector.Proofs.Payload.RoundTrip

/-!
# The object of a record

A record is written in the order of its fields, the inherited ones first.  Each field that is set
gives one member under its wire key; only a null that means nothing is left out.  The members are
then set one after another, so where two fields have one wire key the later one takes the member of
the earlier one.  Registering compares the wire keys within one schema, and so a field can meet an
inherited one: a record keeps all that was set in it exactly if the wire keys of the fields that are
written are different from each other.
-/

namespace CloudDirector

namespace Payload

/-- The wire keys of fields in order. -/
def wireKeys (specs : List (String × FieldSpec)) : List String :=
  specs.map fun field => field.2.wireKey

/-- Whether a field of a record is written: it is set, and to null only where null is a value of its
own. -/
def isWritten (fields : List (String × Value)) (field : String × FieldSpec) : Bool :=
  match Members.get? fields field.1 with
  | none => false
  | some v => !v.isNull || field.2.nullable

/-- The fields of a record that are written, in the order of the schema. -/
def writtenFields (fields : List (String × Value)) (specs : List (String × FieldSpec)) :
    List (String × FieldSpec) :=
  specs.filter (isWritten fields)

/-- The member of a field: it stands under the wire key of the field and holds the encoding of what
the field is set to. -/
def IsMemberOf (reg : Registry) (fields : List (String × Value)) (field : String × FieldSpec)
    (member : String × Json) : Prop :=
  member.1 = field.2.wireKey ∧
    ∃ v, Members.get? fields field.1 = some v ∧ encode reg v field.2.shape = .ok member.2

/-- Every written field has a member of its own, in the order of the schema, and there are no other
members. -/
def KeepsFields (reg : Registry) (fields : List (String × Value))
    (specs : List (String × FieldSpec)) (members : List (String × Json)) : Prop :=
  List.Forall₂ (IsMemberOf reg fields) (writtenFields fields specs) members ∧
    (Members.keys members).Nodup

variable {reg : Registry} {typeName : String} {fields : List (String × Value)}
  {specs : List (String × FieldSpec)} {pairs : List (String × Json)}

/-! ## The members before they are set -/

/-- What a field gives: its member if it is written, and nothing if it is not. -/
lemma encodeMember_cases {field : String × FieldSpec} {found : Option (String × Json)}
    (h : encodeMember reg typeName field fields = .ok found) :
    (isWritten fields field = false ∧ found = none) ∨
    (isWritten fields field = true ∧ ∃ member, found = some member ∧
      IsMemberOf reg fields field member) := by
  cases hget : Members.get? fields field.1 with
  | none =>
    rw [encodeMember_of_get?_eq_none hget] at h
    cases h
    exact Or.inl ⟨by rw [isWritten, hget], rfl⟩
  | some v =>
    have hwritten : isWritten fields field = (!v.isNull || field.2.nullable) := by
      rw [isWritten, hget]
    rw [encodeMember_of_get?_eq_some hget] at h
    split at h
    · next hnull =>
      obtain rfl := Value.eq_null_of_isNull hnull
      cases h
      rw [hwritten, Value.isNull, Bool.not_true, Bool.false_or]
      cases hnullable : field.2.nullable with
      | false => exact Or.inl ⟨rfl, rfl⟩
      | true => exact Or.inr ⟨rfl, _, rfl, rfl, .null, hget, encode_null⟩
    · next hnull =>
      obtain ⟨j, hj, rfl⟩ := Result.map_eq_ok.1 h
      rw [Bool.not_eq_true] at hnull
      exact Or.inr ⟨by rw [hwritten, hnull]; rfl, _, rfl, rfl, v, hget, Result.passing_eq_ok.1 hj⟩

/-- The members of a record are those of its written fields, set one after another. -/
lemma exists_pairs_of_recordMembers {members : List (String × Json)}
    (h : recordMembers reg typeName fields (fun field => encodeMember reg typeName field fields) =
      .ok members) :
    ∃ specs pairs, reg.resolvedFields typeName = .ok specs ∧
      (∀ m ∈ fields, m.1 ∈ Members.keys specs) ∧
      List.Forall₂ (IsMemberOf reg fields) (writtenFields fields specs) pairs ∧
      members = Members.ofPairs pairs := by
  rw [recordMembers] at h
  split at h
  · cases h
  · next specs hspecs =>
    split at h
    · cases h
    · next hfind =>
      obtain ⟨pairs, hpairs, rfl⟩ := Result.map_eq_ok.1 h
      obtain ⟨member, hmember, rfl⟩ := exists_of_gather_eq_ok hpairs
      refine ⟨specs, _, hspecs, fun m hm => ?_, ?_, rfl⟩
      · have hdeclared := List.find?_eq_none.1 hfind m hm
        exact Members.contains_iff.1 (by simpa using hdeclared)
      · exact forall₂_filter_filterMap fun field hfield => encodeMember_cases (hmember field hfield)

/-- A record is written as the members of its written fields, set one after another. -/
lemma exists_pairs_of_encodeRecord {r : Record} {j : Json} (h : encodeRecord reg r = .ok j) :
    ∃ specs pairs, reg.resolvedFields r.typeName = .ok specs ∧
      (∀ m ∈ r.fields, m.1 ∈ Members.keys specs) ∧
      List.Forall₂ (IsMemberOf reg r.fields) (writtenFields r.fields specs) pairs ∧
      j = .object (Members.ofPairs pairs) := by
  rw [encodeRecord, encodeValue, Value.ofRecord, encode] at h
  obtain ⟨members, hmembers, rfl⟩ := Result.map_eq_ok.1 h
  obtain ⟨specs, pairs, hspecs, hdeclared, hpairs, rfl⟩ := exists_pairs_of_recordMembers hmembers
  exact ⟨specs, pairs, hspecs, hdeclared, hpairs, rfl⟩

lemma keys_eq_wireKeys {written : List (String × FieldSpec)}
    (h : List.Forall₂ (IsMemberOf reg fields) written pairs) :
    Members.keys pairs = wireKeys written := by
  induction h with
  | nil => rfl
  | cons hhead _ ih => rw [Members.keys_cons, hhead.1, ih, wireKeys, wireKeys, List.map_cons]

/-! ## The order of the members -/

/-- Fields keep the places that they have in the parents of a type: the names of the first parent
come first, then what each other parent adds to them, and last what the type itself adds, whichever
declarations the names take.  The members of a record are set in this order. -/
theorem keepsPlaces_of_resolvedFields (hreg : reg.Built)
    (hspecs : reg.resolvedFields typeName = .ok specs) :
    ∃ s, reg.lookup? typeName = some (.schema s) ∧ reg.KeepsPlaces typeName s specs ∧
      ∀ fields j, encodeRecord reg ⟨typeName, fields⟩ = .ok j →
        ∃ pairs, List.Forall₂ (IsMemberOf reg fields) (writtenFields fields specs) pairs ∧
          j = .object (Members.ofPairs pairs) := by
  obtain ⟨s, -, hs, -, -⟩ := Registry.collectFields_succ_eq_ok.1 hspecs
  refine ⟨s, hs, Registry.keepsPlaces_of_coherent hreg.coherent hs hspecs, fun fields j hj => ?_⟩
  obtain ⟨specs', pairs, hspecs', -, hpairs, rfl⟩ := exists_pairs_of_encodeRecord hj
  obtain rfl := Except.ok.inj (hspecs.symm.trans hspecs')
  exact ⟨pairs, hpairs, rfl⟩

/-! ### A type with two parents that share a base -/

namespace Layered

/-- The base of all other types. -/
def resource : Schema where
  typeName := "Resource"
  fields := [("href", { wireKey := "href", shape := .scalar .string }),
    ("kind", { wireKey := "type", shape := .scalar .string })]

/-- A parent that declares a field of the base again. -/
def named : Schema where
  typeName := "Named"
  parents := ["Resource"]
  fields := [("name", { wireKey := "name", shape := .scalar .string }),
    ("kind", { wireKey := "namedType", shape := .scalar .string })]

/-- A parent that adds a field to the base. -/
def dated : Schema where
  typeName := "Dated"
  parents := ["Resource"]
  fields := [("created", { wireKey := "creationDate", shape := .scalar .dateTime })]

/-- A type with both parents, which declares a field of the base again. -/
def file : Schema where
  typeName := "File"
  parents := ["Named", "Dated"]
  fields := [("size", { wireKey := "size", shape := .scalar .int }),
    ("href", { wireKey := "link", shape := .scalar .string })]

/-- The registry of the four. -/
def registry : Registry where
  entries := [("Resource", .schema resource), ("Named", .schema named), ("Dated", .schema dated),
    ("File", .schema file)]
  discriminators := [("Resource", "Resource"), ("Named", "Named"), ("Dated", "Dated"),
    ("File", "File")]

/-- The fields of the last type.  The second parent declares none of those of the base again, and so
a field of the base that the first parent declares again takes the declaration of the base. -/
def fileFields : List (String × FieldSpec) := [
  ("href", { wireKey := "link", shape := .scalar .string }),
  ("kind", { wireKey := "type", shape := .scalar .string }),
  ("name", { wireKey := "name", shape := .scalar .string }),
  ("created", { wireKey := "creationDate", shape := .scalar .dateTime }),
  ("size", { wireKey := "size", shape := .scalar .int })]

lemma built_registry : registry.Built := by
  have hall : Registry.registerAll {}
      [.schema resource, .schema named, .schema dated, .schema file] = .ok registry := rfl
  exact Registry.Built.empty.registerAll (by decide) hall

/-- The field that the type declares again is written in the place that the base gives it. -/
theorem keepsPlaces_fileFields :
    registry.Built ∧ registry.resolvedFields "File" = .ok fileFields ∧
      registry.KeepsPlaces "File" file fileFields ∧
      encodeRecord registry ⟨"File", [("size", .int 3), ("name", .string "a"),
        ("href", .string "/a")]⟩ =
        .ok (.object [("link", .string "/a"), ("name", .string "a"), ("size", .int 3)]) := by
  have hspecs : registry.resolvedFields "File" = .ok fileFields := rfl
  obtain ⟨s, hs, hplaces, -⟩ := keepsPlaces_of_resolvedFields built_registry hspecs
  obtain rfl : s = file := by
    rw [show registry.lookup? "File" = some (.schema file) from rfl] at hs
    cases hs
    rfl
  exact ⟨built_registry, hspecs, hplaces, rfl⟩

end Layered

/-! ## The members that are left -/

/-- Nothing is lost exactly if the wire keys of the written fields are different. -/
lemma keepsFields_ofPairs_iff
    (h : List.Forall₂ (IsMemberOf reg fields) (writtenFields fields specs) pairs) :
    KeepsFields reg fields specs (Members.ofPairs pairs) ↔
      (wireKeys (writtenFields fields specs)).Nodup := by
  constructor
  · rintro ⟨hmembers, hnodup⟩
    rwa [keys_eq_wireKeys hmembers] at hnodup
  · intro hnodup
    rw [← keys_eq_wireKeys h] at hnodup
    rw [Members.ofPairs_eq_self hnodup]
    exact ⟨h, hnodup⟩

/-- A written field has its member where no later one has its wire key. -/
lemma exists_member_of_ofPairs {before after : List (String × FieldSpec)}
    {field : String × FieldSpec}
    (h : List.Forall₂ (IsMemberOf reg fields) (before ++ field :: after) pairs)
    (hlast : field.2.wireKey ∉ wireKeys after) :
    ∃ j, Members.get? (Members.ofPairs pairs) field.2.wireKey = some j ∧
      IsMemberOf reg fields field (field.2.wireKey, j) := by
  -- the pairs split where the fields do
  have hrest := List.forall₂_drop_append _ _ _ h.flip
  obtain ⟨⟨key, j⟩, pairsAfter, hmember, hafter, hdrop⟩ := List.forall₂_cons_right_iff.1 hrest
  obtain rfl : key = field.2.wireKey := hmember.1
  refine ⟨j, ?_, hmember⟩
  have hfresh : field.2.wireKey ∉ Members.keys pairsAfter := by
    rwa [keys_eq_wireKeys hafter.flip]
  rw [← List.take_append_drop before.length pairs, hdrop]
  exact Members.get?_ofPairs_append hfresh

/-- A record is written as an object with the wire keys of its written fields.  Every written field
has a member of its own there, and the object has no other members, exactly if the wire keys of the
written fields are different from each other; otherwise the last field with a wire key has the
member. -/
theorem encodeRecord_keepsFields_iff {r : Record} {j : Json} (h : encodeRecord reg r = .ok j) :
    ∃ specs members, reg.resolvedFields r.typeName = .ok specs ∧ j = .object members ∧
      (∀ m ∈ r.fields, m.1 ∈ Members.keys specs) ∧
      (KeepsFields reg r.fields specs members ↔ (wireKeys (writtenFields r.fields specs)).Nodup) ∧
      (∀ key, key ∈ Members.keys members ↔ key ∈ wireKeys (writtenFields r.fields specs)) ∧
      ∀ before field after, writtenFields r.fields specs = before ++ field :: after →
        field.2.wireKey ∉ wireKeys after →
        ∃ k, Members.get? members field.2.wireKey = some k ∧
          IsMemberOf reg r.fields field (field.2.wireKey, k) := by
  obtain ⟨specs, pairs, hspecs, hdeclared, hpairs, rfl⟩ := exists_pairs_of_encodeRecord h
  refine ⟨specs, _, hspecs, rfl, hdeclared, keepsFields_ofPairs_iff hpairs, fun key => ?_, ?_⟩
  · rw [Members.mem_keys_ofPairs, keys_eq_wireKeys hpairs]
  · intro before field after hsplit hlast
    rw [hsplit] at hpairs
    exact exists_member_of_ofPairs hpairs hlast

/-! ### A record with inherited fields -/

namespace Sample

/-- The fields of an organization, one of them inherited and one set to null. -/
def acme : List (String × Value) := [("created", .null), ("name", .string "acme")]

/-- Both fields have their members, in the order of the schema. -/
theorem keepsFields_acme :
    encodeRecord registry ⟨"Org", acme⟩ =
      .ok (.object [("name", .string "acme"), ("createdAt", .null)]) ∧
    ∃ specs members, registry.resolvedFields "Org" = .ok specs ∧
      KeepsFields registry acme specs members := by
  have hencode : encodeRecord registry ⟨"Org", acme⟩ =
      .ok (.object [("name", .string "acme"), ("createdAt", .null)]) := rfl
  refine ⟨hencode, ?_⟩
  obtain ⟨specs, members, hspecs, -, -, hkeeps, -⟩ := encodeRecord_keepsFields_iff hencode
  refine ⟨specs, members, hspecs, hkeeps.2 ?_⟩
  obtain rfl := Except.ok.inj (resolvedFields_org.symm.trans hspecs)
  decide

end Sample

/-! ### A field that meets an inherited one -/

namespace ClashSample

/-- A base with one field. -/
def base : Schema where
  typeName := "Base"
  fields := [("name", { wireKey := "name", shape := .scalar .string })]

/-- A type derived from it whose own field has the wire key of the inherited one. -/
def derived : Schema where
  typeName := "Derived"
  parents := ["Base"]
  fields := [("title", { wireKey := "name", shape := .scalar .string })]

/-- The registry of the two. -/
def registry : Registry where
  entries := [("Base", .schema base), ("Derived", .schema derived)]
  discriminators := [("Base", "Base"), ("Derived", "Derived")]

lemma isValid_registry : registry.IsValid where
  built := by
    have hall : Registry.registerAll {} [.schema base, .schema derived] = .ok registry := rfl
    exact Registry.Built.empty.registerAll (by decide) hall
  validated := by
    rw [Registry.validate_eq_ok_iff, show registry.schemas = [base, derived] from rfl]
    simp only [List.forall_mem_cons, List.not_mem_nil, false_implies, implies_true, and_true]
    exact ⟨⟨rfl, _, rfl⟩, rfl, _, rfl⟩

/-- The fields of a record, both set. -/
def titled : List (String × Value) := [("name", .string "a"), ("title", .string "b")]

/-- The registry is valid and the record is written, but the value of the inherited field is lost. -/
theorem not_keepsFields_derived :
    registry.IsValid ∧ registry.resolvedFields "Derived" = .ok (base.fields ++ derived.fields) ∧
      encodeRecord registry ⟨"Derived", titled⟩ = .ok (.object [("name", .string "b")]) ∧
      ¬ KeepsFields registry titled (base.fields ++ derived.fields) [("name", .string "b")] := by
  refine ⟨isValid_registry, rfl, rfl, fun hkeeps => ?_⟩
  have hlength := hkeeps.1.length_eq
  revert hlength
  decide

end ClashSample

/-! ## Registries that lose nothing -/

lemma nonempty_date : Nonempty Date :=
  ⟨{ year := 1970, month := 1, day := 1, day_pos := by decide, day_le := by decide }⟩

lemma nonempty_dateTime : Nonempty DateTime := by
  obtain ⟨d⟩ := nonempty_date
  exact ⟨{ date := d, time := .midnight, offset := 0, offset_lt := by decide }⟩

/-- A type that is registered has something to write: an enumeration a text, and a schema an empty
object. -/
lemma exists_encode_of_lookup? {shape : Descriptor} {name : String} {entry : Entry}
    (hshape : shape = .named name ∨ shape = .polymorphic name)
    (hentry : reg.lookup? name = some entry) :
    ∃ v j, v.isNull = false ∧ encode reg v shape = .ok j := by
  cases entry with
  | enum e =>
    refine ⟨.string "", .string "", rfl, ?_⟩
    rcases hshape with rfl | rfl <;> rw [encode.eq_def] <;> simp only [Value.isNull, hentry] <;> rfl
  | schema s =>
    refine ⟨.map [], .object [], rfl, ?_⟩
    rcases hshape with rfl | rfl <;> rw [encode.eq_def] <;> simp only [Value.isNull, hentry] <;> rfl

/-- Where the types that a shape names are registered, there is a value that is written. -/
lemma exists_encode_of_references {shape : Descriptor}
    (h : ∀ name, shape.Refers name → ∃ entry, reg.lookup? name = some entry) :
    ∃ v j, v.isNull = false ∧ encode reg v shape = .ok j := by
  cases shape with
  | scalar kind =>
    cases kind with
    | int => exact ⟨.int 0, _, rfl, rfl⟩
    | float => exact ⟨.float (.finite false .zero), _, rfl, rfl⟩
    | bool | json => exact ⟨.bool true, _, rfl, rfl⟩
    | string => exact ⟨.string "", _, rfl, rfl⟩
    | bytes => exact ⟨.bytes [], _, rfl, rfl⟩
    | date =>
      obtain ⟨d⟩ := nonempty_date
      exact ⟨.date d, _, rfl, rfl⟩
    | dateTime =>
      obtain ⟨t⟩ := nonempty_dateTime
      exact ⟨.dateTime t, _, rfl, rfl⟩
  | list element => exact ⟨.list [], _, rfl, rfl⟩
  | map element => exact ⟨.map [], _, rfl, rfl⟩
  | named name =>
    obtain ⟨entry, hentry⟩ := h name (.named name)
    exact exists_encode_of_lookup? (.inl rfl) hentry
  | polymorphic base =>
    obtain ⟨entry, hentry⟩ := h base (.polymorphic base)
    exact exists_encode_of_lookup? (.inr rfl) hentry

/-- In a valid registry every type has a record that sets all fields and is written. -/
lemma exists_encodeRecord_of_isValid (hreg : reg.IsValid)
    (hspecs : reg.resolvedFields typeName = .ok specs) :
    ∃ fields members, encodeRecord reg ⟨typeName, fields⟩ = .ok (.object members) ∧
      writtenFields fields specs = specs := by
  have hvalue : ∀ field ∈ specs, ∃ v j, v.isNull = false ∧ encode reg v field.2.shape = .ok j := by
    intro field hfield
    obtain ⟨ancestor, s, -, hs, hown⟩ := Registry.declares_of_mem_resolvedFields hspecs hfield
    exact exists_encode_of_references
      (hreg.resolves.references s (hreg.coherent.mem_schemas hs) field hown)
  choose! value json hnull hjson using hvalue
  let fields : List (String × Value) := specs.map fun field => (field.1, value field)
  have hkeys : Members.keys fields = Members.keys specs := by
    simp only [fields, Members.keys, List.map_map, Function.comp_def]
  have hget : ∀ field ∈ specs, Members.get? fields field.1 = some (value field) := by
    intro field hfield
    refine Members.get?_eq_some_of_mem ?_ (List.mem_map_of_mem hfield)
    rw [hkeys]
    exact Registry.nodup_keys_resolvedFields hspecs
  have hdeclared : ∀ m ∈ fields, m.1 ∈ Members.keys specs := by
    intro m hm
    rw [← hkeys]
    exact Members.mem_keys_of_mem hm
  have hmember : ∀ field ∈ specs, encodeMember reg typeName field fields =
      .ok (some (field.2.wireKey, json field)) := by
    intro field hfield
    rw [encodeMember_of_get?_eq_some (hget field hfield), hnull field hfield, hjson field hfield]
    rfl
  refine ⟨fields, _, encodeRecord_eq_ok (recordMembers_eq_ok hspecs hdeclared hmember), ?_⟩
  refine List.filter_eq_self.2 fun field hfield => ?_
  rw [isWritten, hget field hfield]
  simp only [hnull field hfield, Bool.not_false, Bool.true_or]

/-- A valid registry keeps the fields of all records that it writes exactly if the fields of every
type, inherited ones included, have different wire keys. -/
theorem forall_keepsFields_iff (hreg : reg.IsValid) :
    (∀ r specs members, encodeRecord reg r = .ok (.object members) →
      reg.resolvedFields r.typeName = .ok specs → KeepsFields reg r.fields specs members) ↔
    ∀ typeName specs, reg.resolvedFields typeName = .ok specs → (wireKeys specs).Nodup := by
  constructor
  · intro h typeName specs hspecs
    obtain ⟨fields, members, hencode, hall⟩ := exists_encodeRecord_of_isValid hreg hspecs
    obtain ⟨hmembers, hnodup⟩ : KeepsFields reg fields specs members := h _ _ _ hencode hspecs
    rwa [keys_eq_wireKeys hmembers, hall] at hnodup
  · intro h r specs members hencode hspecs
    obtain ⟨specs', pairs, hspecs', -, hpairs, heq⟩ := exists_pairs_of_encodeRecord hencode
    obtain rfl := Except.ok.inj (hspecs.symm.trans hspecs')
    obtain rfl := Json.object.inj heq
    refine (keepsFields_ofPairs_iff hpairs).2 ((h _ _ hspecs).sublist ?_)
    exact List.filter_sublist.map _

end Payload

end CloudDirector
