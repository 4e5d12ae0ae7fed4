import CloudDirector.Proofs.Payload.Edits
import CloudDirector.Proofs.Payload.Objects

/-!
# Null on the wire

A server takes a member that is null for another thing than one that is missing, and so a field that
is set to null is written only where the schema says that null means something.  The only other
value that is written as null is the null of JSON, which a field may hold like all JSON.  It is
passed on as it is, whatever the schema says of the field.
-/

namespace CloudDirector

namespace Descriptor

/-- The shape of the items of a list where a shape is declared. -/
def itemShape : Descriptor → Descriptor
  | list element => element
  | _ => .scalar .json

/-- The shape of the entries of a map where a shape is declared. -/
def entryShape : Descriptor → Descriptor
  | map element => element
  | _ => .scalar .json

/-- Whether a record of a type is written with its discriminator where a shape is declared. -/
def Tags : Descriptor → String → Prop
  | named declared, typeName | polymorphic declared, typeName => typeName ≠ declared
  | _, _ => False

end Descriptor

namespace Payload

/-! ## One level of writing -/

/-- The members of a record, each as its field is written. -/
abbrev fieldMembers (reg : Registry) (typeName : String) (fields : List (String × Value)) :
    Result (List (String × Json)) :=
  recordMembers reg typeName fields fun field => encodeMember reg typeName field fields

/-- One level of what a value is written as where a shape is declared. -/
inductive WrittenAs (reg : Registry) (shape : Descriptor) : Value → Json → Prop
  | null : WrittenAs reg shape .null .null
  | scalar {kind : Kind} {v : Value} {j : Json} (h : encodeScalar v kind = .ok j) :
      WrittenAs reg shape v j
  | constant {e : EnumValue} {entry : EnumEntry} {j : Json} (h : encodeEnum e entry = .ok j) :
      WrittenAs reg shape (.enum e) j
  | text (s : String) : WrittenAs reg shape (.string s) (.string s)
  | json (j : Json) : WrittenAs reg shape (.json j) j
  | list {items : List Value} {js : List Json}
      (parts : List.Forall₂ (fun v j => encode reg v shape.itemShape = .ok j) items js) :
      WrittenAs reg shape (.list items) (.array js)
  | map {entries : List (String × Value)} {members : List (String × Json)}
      (parts : List.Forall₂ (fun entry member => member.1 = entry.1 ∧
        encode reg entry.2 shape.entryShape = .ok member.2) entries members) :
      WrittenAs reg shape (.map entries) (.object members)
  | record {typeName : String} {fields : List (String × Value)} {members : List (String × Json)}
      (untagged : ¬ shape.Tags typeName) (h : fieldMembers reg typeName fields = .ok members) :
      WrittenAs reg shape (.record typeName fields) (.object members)
  | tagged {typeName : String} {fields : List (String × Value)} {members : List (String × Json)}
      (tagged : shape.Tags typeName) (h : fieldMembers reg typeName fields = .ok members)
      (value : String) :
      WrittenAs reg shape (.record typeName fields)
        (.object (Members.insert members discriminatorKey (.string value)))

variable {reg : Registry} {shape shape' : Descriptor} {v w : Value} {j : Json} {typeName : String}
  {fields : List (String × Value)} {specs : List (String × FieldSpec)}
  {members pairs : List (String × Json)} {field : String × FieldSpec}

lemma writtenAs_of_withDiscriminator {declared : String}
    (hshape : shape = .named declared ∨ shape = .polymorphic declared)
    (hmembers : fieldMembers reg typeName fields = .ok members)
    (h : withDiscriminator reg typeName declared members = .ok j) :
    WrittenAs reg shape (.record typeName fields) j := by
  have htags : shape.Tags typeName ↔ typeName ≠ declared := by
    rcases hshape with rfl | rfl <;> rfl
  rw [withDiscriminator] at h
  split at h
  · next hname =>
    cases h
    exact .record (fun htagged => htags.1 htagged hname) hmembers
  · next hname =>
    split at h
    · cases h
    · cases h
      exact .tagged (htags.2 hname) hmembers _

/-- What a value is written as comes from one of these ways. -/
lemma writtenAs_of_encode (h : encode reg v shape = .ok j) : WrittenAs reg shape v j := by
  rw [encode.eq_def] at h
  split at h
  · next hnull =>
    obtain rfl := Value.eq_null_of_isNull hnull
    cases h
    exact .null
  · split at h
    -- where any JSON is declared, a value is written by its own kind
    · split at h
      · split at h
        · exact .constant h
        · cases h
      · obtain ⟨js, hjs, rfl⟩ := Result.map_eq_ok.1 h
        exact .list (encodeItems_eq_ok_iff.1 hjs)
      · obtain ⟨members, hmembers, rfl⟩ := Result.map_eq_ok.1 h
        exact .map (encodeEntries_eq_ok_iff.1 hmembers)
      · obtain ⟨members, hmembers, rfl⟩ := Result.map_eq_ok.1 h
        exact .record id hmembers
      · exact .scalar h
    · exact .scalar h
    · split at h
      · obtain ⟨js, hjs, rfl⟩ := Result.map_eq_ok.1 h
        exact .list (encodeItems_eq_ok_iff.1 hjs)
      · cases h
    · split at h
      · obtain ⟨members, hmembers, rfl⟩ := Result.map_eq_ok.1 h
        exact .map (encodeEntries_eq_ok_iff.1 hmembers)
      · cases h
    -- a type that is named, and one that is dispatched on
    all_goals
      split at h
      · cases h
      · split at h
        · exact .constant h
        · cases h
          exact .text _
        · cases h
      · split at h
        · split at h
          · split at h
            · cases h
            · next hmembers => exact writtenAs_of_withDiscriminator (by simp) hmembers h
          · cases h
        · obtain ⟨members, hmembers, rfl⟩ := Result.map_eq_ok.1 h
          exact .map (encodeEntries_eq_ok_iff.1 hmembers)
        · cases h
          exact .json j
        · cases h

/-- A value that is written as a scalar has no parts. -/
lemma not_isPart_of_encodeScalar {kind : Kind} (h : encodeScalar v kind = .ok j) :
    ¬ w.IsPart v := by
  intro hpart
  cases hpart <;> cases kind <;> cases h

/-! ## Values that are written as null -/

lemma eq_null_of_encodeScalar {kind : Kind} (h : encodeScalar v kind = .ok .null) :
    v = .null ∨ v = .json .null := by
  have hfloat : ∀ x, encodeFloat x ≠ .ok .null := by
    intro x hx
    rw [encodeFloat] at hx
    split at hx <;> cases hx
  cases v with
  | null => exact .inl rfl
  | json k =>
    cases kind <;> cases h
    exact .inr rfl
  | float x =>
    cases kind with
    | float | json => exact absurd h (hfloat x)
    | _ => cases h
  | string s =>
    cases kind with
    | date | dateTime =>
      obtain ⟨_, -, hs⟩ := Result.map_eq_ok.1 h
      cases hs
    | _ => cases h
  | _ => cases kind <;> cases h

/-- Only null is written as null, and the null of JSON. -/
lemma eq_null_of_encode (h : encode reg v shape = .ok .null) : v = .null ∨ v = .json .null := by
  cases writtenAs_of_encode h with
  | null => exact .inl rfl
  | scalar h => exact eq_null_of_encodeScalar h
  | constant h =>
    rw [encodeEnum] at h
    split at h
    · split at h <;> cases h
    · cases h
  | json => exact .inr rfl

lemma eq_of_encode_json {k : Json} (h : encode reg (.json k) shape = .ok j) : j = k := by
  cases writtenAs_of_encode h with
  | @scalar kind _ _ h =>
    cases kind <;> cases h
    rfl
  | json => rfl

/-- The field is set to null where that means something, or to the null of JSON. -/
def SetsNull (fields : List (String × Value)) (field : String × FieldSpec) : Prop :=
  (Members.get? fields field.1 = some .null ∧ field.2.nullable = true) ∨
    Members.get? fields field.1 = some (.json .null)

/-- The members that are null are those of the fields that are set to null. -/
lemma mem_null_iff_of_forall₂
    (h : List.Forall₂ (IsMemberOf reg fields) (writtenFields fields specs) pairs) (key : String) :
    (key, .null) ∈ pairs ↔ ∃ field ∈ specs, field.2.wireKey = key ∧ SetsNull fields field := by
  constructor
  · intro hmem
    obtain ⟨field, hfield, hkey, v, hget, hencode⟩ := exists_of_forall₂_of_mem h hmem
    obtain ⟨hspec, hwritten⟩ := List.mem_filter.1 hfield
    refine ⟨field, hspec, hkey.symm, ?_⟩
    rw [isWritten, hget] at hwritten
    rcases eq_null_of_encode hencode with rfl | rfl
    · exact .inl ⟨hget, by simpa [Value.isNull] using hwritten⟩
    · exact .inr hget
  · rintro ⟨field, hspec, rfl, hnull⟩
    have hwritten : isWritten fields field = true := by
      rcases hnull with ⟨hget, hnullable⟩ | hget
      · rw [isWritten, hget, hnullable]
        rfl
      · rw [isWritten, hget]
        rfl
    obtain ⟨⟨key, k⟩, hmem, hkey, v, hget, hencode⟩ :=
      exists_of_forall₂_of_mem h.flip (List.mem_filter.2 ⟨hspec, hwritten⟩)
    obtain rfl : key = field.2.wireKey := hkey
    obtain rfl : k = .null := by
      rcases hnull with ⟨hnull, -⟩ | hnull
      · obtain rfl := Option.some.inj (hnull.symm.trans hget)
        exact (Except.ok.inj (encode_null.symm.trans hencode)).symm
      · obtain rfl := Option.some.inj (hnull.symm.trans hget)
        exact eq_of_encode_json hencode
    exact hmem

/-! ## Records within a value -/

/-- To write the first value where the first shape is declared is to write the second value, at some
depth, where the second shape is declared. -/
inductive Writes (reg : Registry) : Descriptor → Value → Descriptor → Value → Prop
  | self (shape : Descriptor) (v : Value) : Writes reg shape v shape v
  | item {shape shape' : Descriptor} {items : List Value} {v w : Value} (mem : v ∈ items)
      (rest : Writes reg shape.itemShape v shape' w) : Writes reg shape (.list items) shape' w
  | entry {shape shape' : Descriptor} {entries : List (String × Value)} {m : String × Value}
      {w : Value} (mem : m ∈ entries) (rest : Writes reg shape.entryShape m.2 shape' w) :
      Writes reg shape (.map entries) shape' w
  | field {shape shape' : Descriptor} {typeName : String} {fields : List (String × Value)}
      {specs : List (String × FieldSpec)} {field : String × FieldSpec} {v w : Value}
      (resolved : reg.resolvedFields typeName = .ok specs) (declared : field ∈ specs)
      (set : Members.get? fields field.1 = some v)
      (rest : Writes reg field.2.shape v shape' w) :
      Writes reg shape (.record typeName fields) shape' w

/-- A field that is set is written as something, if only as null. -/
lemma exists_encode_of_fieldMembers (h : fieldMembers reg typeName fields = .ok members)
    (hspecs : reg.resolvedFields typeName = .ok specs) (hfield : field ∈ specs)
    (hget : Members.get? fields field.1 = some v) : ∃ k, encode reg v field.2.shape = .ok k := by
  obtain ⟨specs', pairs, hspecs', -, hpairs, -⟩ := exists_pairs_of_recordMembers h
  obtain rfl := Except.ok.inj (hspecs.symm.trans hspecs')
  cases hnull : v.isNull with
  | true =>
    obtain rfl := Value.eq_null_of_isNull hnull
    exact ⟨.null, encode_null⟩
  | false =>
    have hwritten : isWritten fields field = true := by
      rw [isWritten, hget]
      simp only [hnull, Bool.not_false, Bool.true_or]
    obtain ⟨member, -, -, v', hget', hencode⟩ :=
      exists_of_forall₂_of_mem hpairs.flip (List.mem_filter.2 ⟨hfield, hwritten⟩)
    obtain rfl := Option.some.inj (hget.symm.trans hget')
    exact ⟨member.2, hencode⟩

/-- A record is written as the object of its members, with its discriminator where it is tagged. -/
lemma exists_fieldMembers_of_encode (h : encode reg (.record typeName fields) shape = .ok j) :
    ∃ members, fieldMembers reg typeName fields = .ok members ∧
      ((¬ shape.Tags typeName ∧ j = .object members) ∨
        (shape.Tags typeName ∧
          ∃ value, j = .object (Members.insert members discriminatorKey (.string value)))) := by
  cases writtenAs_of_encode h with
  | @scalar kind _ _ h => cases kind <;> cases h
  | record untagged hmembers => exact ⟨_, hmembers, .inl ⟨untagged, rfl⟩⟩
  | tagged tagged hmembers value => exact ⟨_, hmembers, .inr ⟨tagged, value, rfl⟩⟩

/-- Where a value is written, what is within it is written. -/
lemma exists_encode_of_writes (hwrites : Writes reg shape v shape' w)
    (h : encode reg v shape = .ok j) : ∃ k, encode reg w shape' = .ok k := by
  induction hwrites generalizing j with
  | self => exact ⟨j, h⟩
  | item mem _ ih =>
    cases writtenAs_of_encode h with
    | scalar h => exact absurd (.item mem) (not_isPart_of_encodeScalar h)
    | list parts =>
      obtain ⟨k, -, hk⟩ := exists_of_forall₂_of_mem parts.flip mem
      exact ih hk
  | entry mem _ ih =>
    cases writtenAs_of_encode h with
    | scalar h => exact absurd (.entry mem) (not_isPart_of_encodeScalar h)
    | map parts =>
      obtain ⟨member, -, -, hk⟩ := exists_of_forall₂_of_mem parts.flip mem
      exact ih hk
  | field resolved declared set _ ih =>
    obtain ⟨members, hmembers, -⟩ := exists_fieldMembers_of_encode h
    obtain ⟨k, hk⟩ := exists_encode_of_fieldMembers hmembers resolved declared set
    exact ih hk

/-! ## What null members mean -/

/-- Every null among the members is that of a field that may be null, and no field that may not be
null has one. -/
structure NullsMean (specs : List (String × FieldSpec)) (members : List (String × Json)) :
    Prop where
  nullable : ∀ key, (key, .null) ∈ members → ∃ field ∈ specs, field.2.wireKey = key ∧
    field.2.nullable = true
  nonnull : ∀ field ∈ specs, field.2.nullable = false → (field.2.wireKey, .null) ∉ members

lemma mem_null_insert_iff {key other text : String} (hnodup : (Members.keys members).Nodup) :
    (key, .null) ∈ Members.insert members other (.string text) ↔
      key ≠ other ∧ (key, .null) ∈ members := by
  rw [← Members.get?_eq_some_iff_mem (Members.nodup_keys_insert hnodup _ _),
    ← Members.get?_eq_some_iff_mem hnodup]
  by_cases hkey : key = other
  · subst hkey
    simp [Members.get?_insert_self]
  · rw [Members.get?_insert_of_ne hkey]
    simp [hkey]

/-- A record is written as an object, in which those members are null whose fields are set to null,
but for the discriminator. -/
lemma exists_nulls_of_encode (hkeys : reg.SeparatesWireKeys)
    (h : encode reg (.record typeName fields) shape = .ok j) :
    ∃ specs members, reg.resolvedFields typeName = .ok specs ∧ j = .object members ∧
      ∀ key, (key, .null) ∈ members ↔ ¬ (shape.Tags typeName ∧ key = discriminatorKey) ∧
        ∃ field ∈ specs, field.2.wireKey = key ∧ SetsNull fields field := by
  obtain ⟨members, hmembers, hj⟩ := exists_fieldMembers_of_encode h
  obtain ⟨specs, pairs, hspecs, -, hpairs, rfl⟩ := exists_pairs_of_recordMembers hmembers
  have hnodup : (Members.keys pairs).Nodup := by
    rw [keys_eq_wireKeys hpairs]
    exact (hkeys _ _ hspecs).sublist (List.filter_sublist.map _)
  rw [Members.ofPairs_eq_self hnodup] at hj
  rcases hj with ⟨huntagged, rfl⟩ | ⟨htagged, value, rfl⟩
  · refine ⟨specs, _, hspecs, rfl, fun key => ?_⟩
    rw [mem_null_iff_of_forall₂ hpairs]
    exact (and_iff_right fun htagged => huntagged htagged.1).symm
  · refine ⟨specs, _, hspecs, rfl, fun key => ?_⟩
    rw [mem_null_insert_iff hnodup, mem_null_iff_of_forall₂ hpairs]
    exact and_congr_left fun _ => not_congr (and_iff_right htagged).symm

/-- Null is written only where it means something, exactly if no field that may not be null is set
to the null of JSON. -/
theorem nullsMean_iff (hkeys : reg.SeparatesWireKeys) {r : Record} (h : encodeRecord reg r = .ok j)
    (hwrites : Writes reg (.scalar .json) (.ofRecord r) shape (.record typeName fields)) :
    ∃ specs members, reg.resolvedFields typeName = .ok specs ∧
      encode reg (.record typeName fields) shape = .ok (.object members) ∧
      (∀ key, (key, .null) ∈ members ↔ ¬ (shape.Tags typeName ∧ key = discriminatorKey) ∧
        ∃ field ∈ specs, field.2.wireKey = key ∧ SetsNull fields field) ∧
      (NullsMean specs members ↔ ∀ field ∈ specs, field.2.nullable = false →
        Members.get? fields field.1 = some (.json .null) →
        shape.Tags typeName ∧ field.2.wireKey = discriminatorKey) := by
  obtain ⟨k, hencode⟩ := exists_encode_of_writes hwrites h
  obtain ⟨specs, members, hspecs, rfl, hnull⟩ := exists_nulls_of_encode hkeys hencode
  refine ⟨specs, members, hspecs, hencode, hnull, fun hmean field hfield hflag hget => ?_,
    fun hraw => ⟨fun key hmem => ?_, fun field hfield hflag hmem => ?_⟩⟩
  · by_contra htagged
    exact hmean.nonnull field hfield hflag ((hnull _).2 ⟨htagged, field, hfield, rfl, .inr hget⟩)
  · obtain ⟨htagged, field, hfield, rfl, hset⟩ := (hnull key).1 hmem
    refine ⟨field, hfield, rfl, ?_⟩
    rcases hset with ⟨-, hflag⟩ | hget
    · exact hflag
    · by_contra hflag
      exact htagged (hraw field hfield (Bool.eq_false_iff.2 hflag) hget)
  · obtain ⟨htagged, other, hother, hkey, hset⟩ := (hnull _).1 hmem
    -- no other field has this wire key
    obtain rfl : other = field := List.inj_on_of_nodup_map (hkeys _ _ hspecs) hother hfield hkey
    rcases hset with ⟨-, hnullable⟩ | hget
    · rw [hflag] at hnullable
      cases hnullable
    · exact htagged (hraw other hother hflag hget)

/-! ### A date that is null -/

namespace Sample

/-- An event of an organization whose date of creation is null. -/
def acmeEvent : Record := ⟨"Event", [("subject", .record "Org" acme)]⟩

/-- What the organization is written as in the place of its base. -/
def acmeWritten : List (String × Json) :=
  [("name", .string "acme"), ("createdAt", .null), ("_type", .string "org")]

/-- The organization within the event is written with its null, which the schema gives a meaning. -/
theorem nullsMean_acme :
    registry.SeparatesWireKeys ∧
      encodeRecord registry acmeEvent = .ok (.object [("subject", .object acmeWritten)]) ∧
      Writes registry (.scalar .json) (.ofRecord acmeEvent) (.named "Entity")
        (.record "Org" acme) ∧
      encode registry (.record "Org" acme) (.named "Entity") = .ok (.object acmeWritten) ∧
      NullsMean (entity.fields ++ org.fields) acmeWritten := by
  have hencode : encodeRecord registry acmeEvent =
      .ok (.object [("subject", .object acmeWritten)]) := rfl
  have hfield : subjectField ∈ event.fields := by decide
  have hwrites : Writes registry (.scalar .json) (.ofRecord acmeEvent) (.named "Entity")
      (.record "Org" acme) :=
    .field resolvedFields_event hfield rfl (.self _ _)
  have hwritten : encode registry (.record "Org" acme) (.named "Entity") =
      .ok (.object acmeWritten) := rfl
  obtain ⟨specs, members, hspecs, hmembers, -, hmean⟩ :=
    nullsMean_iff separatesWireKeys_registry hencode hwrites
  obtain rfl := Except.ok.inj (resolvedFields_org.symm.trans hspecs)
  obtain rfl := Json.object.inj (Except.ok.inj (hwritten.symm.trans hmembers))
  refine ⟨separatesWireKeys_registry, hencode, hwrites, hwritten, hmean.2 fun field hfield => ?_⟩
  simp only [entity, org, List.cons_append, List.nil_append, List.mem_cons, List.not_mem_nil,
    or_false] at hfield
  rcases hfield with rfl | rfl
  · rintro - ⟨⟩
  · rintro ⟨⟩

end Sample

/-! ### A note without a body -/

namespace NoteSample

/-- A type with a field for any JSON, which may not be null. -/
def note : Schema where
  typeName := "Note"
  fields := [("body", { wireKey := "body", shape := .scalar .json })]

/-- The registry of this type. -/
def registry : Registry where
  entries := [("Note", .schema note)]
  discriminators := [("Note", "Note")]

lemma isValid_registry : registry.IsValid where
  built := by
    have hall : Registry.registerAll {} [.schema note] = .ok registry := rfl
    exact Registry.Built.empty.registerAll (by decide) hall
  validated := by
    rw [Registry.validate_eq_ok_iff, show registry.schemas = [note] from rfl]
    simp only [List.forall_mem_cons, List.not_mem_nil, false_implies, implies_true, and_true]
    exact ⟨rfl, _, rfl⟩

lemma distinctWireKeys_registry : registry.DistinctWireKeys := by
  rw [Registry.DistinctWireKeys, show registry.schemas = [note] from rfl]
  simp only [List.forall_mem_cons, List.not_mem_nil, false_implies, implies_true, and_true]
  rintro specs ⟨⟩
  decide

/-- A note whose body is the null of JSON is written with a null that the schema gives no
meaning. -/
theorem not_nullsMean_note :
    registry.IsValid ∧ registry.SeparatesWireKeys ∧
      registry.resolvedFields "Note" = .ok note.fields ∧
      encodeRecord registry ⟨"Note", [("body", .json .null)]⟩ = .ok (.object [("body", .null)]) ∧
      ¬ NullsMean note.fields [("body", .null)] := by
  refine ⟨isValid_registry,
    Registry.separatesWireKeys_of_isValid isValid_registry distinctWireKeys_registry, rfl, rfl,
    fun hmean => ?_⟩
  exact hmean.nonnull ("body", { wireKey := "body", shape := .scalar .json }) (by decide) rfl
    List.mem_cons_self

end NoteSample

end Payload

end CloudDirector
