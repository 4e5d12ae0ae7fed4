import CloudDirector.Proofs.Payload.RoundTrip

/-!
# What decoding gives

The value of a payload has the declared shape at every depth.  `Reads` says so without decoding: by
the parts of the payload, the enumerations and the schemas.  That every decoded value is related to
its payload is proved by induction on the payload, one level of decoding at a time.
-/

namespace CloudDirector

/-! ## Parts of payloads -/

/-- The first payload is an item or a member of the second one. -/
inductive Json.IsPart : Json → Json → Prop
  | item {j : Json} {items : List Json} (h : j ∈ items) : IsPart j (.array items)
  | member {key : String} {j : Json} {members : List (String × Json)} (h : (key, j) ∈ members) :
      IsPart j (.object members)

lemma Json.IsPart.sizeOf_lt {j k : Json} (h : k.IsPart j) : sizeOf k < sizeOf j := by
  cases h with
  | item h =>
    have hlt := List.sizeOf_lt_of_mem h
    simp only [Json.array.sizeOf_spec]
    omega
  | member h =>
    have hlt := List.sizeOf_lt_of_mem h
    simp only [Json.object.sizeOf_spec, Prod.mk.sizeOf_spec] at hlt ⊢
    omega

/-- What holds of a payload as soon as it holds of its parts holds of every payload. -/
lemma Json.induction {P : Json → Prop} (step : ∀ j, (∀ k, k.IsPart j → P k) → P j) (j : Json) :
    P j :=
  step j fun k _ => Json.induction step k
termination_by sizeOf j
decreasing_by exact Json.IsPart.sizeOf_lt ‹_›

lemma Json.eq_null_of_isNull {j : Json} (h : j.isNull = true) : j = .null := by
  cases j <;> simp_all [isNull]

namespace Payload

/-! ## Values of payloads -/

/-- A part of a list or of a map: null stands for null, and every other part for what it is decoded
as. -/
def ReadsPart (reg : Registry) (shape : Descriptor) (j : Json) (v : Value) : Prop :=
  (v.isNull = true ↔ j.isNull = true) ∧ (j.isNull = false → decode reg j shape = .ok (some v))

/-- A value has the declared shape at every depth, as the payload fills it. -/
inductive Reads (reg : Registry) : Descriptor → Json → Value → Prop
  | scalar {kind : Kind} {j : Json} {v : Value} (isKind : v.kind? = some kind)
      (nonnull : j.isNull = false) (walk : decodeScalar j kind = .ok v) :
      Reads reg (.scalar kind) j v
  | list {element : Descriptor} {items : List Json} {values : List Value}
      (length : values.length = items.length)
      (parts : ∀ (i : Nat) j v, items[i]? = some j → values[i]? = some v →
        ReadsPart reg element j v)
      (deep : ∀ (i : Nat) j v, items[i]? = some j → values[i]? = some v → j.isNull = false →
        Reads reg element j v) :
      Reads reg (.list element) (.array items) (.list values)
  | map {element : Descriptor} {members : List (String × Json)} {entries : List (String × Value)}
      (keys : Members.keys entries = Members.keys members)
      (parts : ∀ (i : Nat) m e, members[i]? = some m → entries[i]? = some e →
        ReadsPart reg element m.2 e.2)
      (deep : ∀ (i : Nat) m e, members[i]? = some m → entries[i]? = some e → m.2.isNull = false →
        Reads reg element m.2 e.2) :
      Reads reg (.map element) (.object members) (.map entries)
  | known {name text constant : String} {entry : EnumEntry}
      (lookup : reg.lookup? name = some (.enum entry))
      (mapped : entry.constant? text = some constant) :
      Reads reg (.named name) (.string text) (.enum ⟨name, .known constant⟩)
  | unknown {name text : String} {entry : EnumEntry}
      (lookup : reg.lookup? name = some (.enum entry)) (unmapped : entry.constant? text = none) :
      Reads reg (.named name) (.string text) (.enum ⟨name, .unknown text⟩)
  /-- A record of the requested schema, or of one that derives from it if that is dispatched on.
  Its fields stand in the order of the schema of its own type; a field is set exactly if its member
  is there and is not null or may be, and is null exactly if a null may be there and is. -/
  | record {shape : Descriptor} {s : Schema} {dispatched : Bool} {typeName : String}
      {members : List (String × Json)} {specs : List (String × FieldSpec)}
      {fields : List (String × Value)} (expects : reg.Expects shape s dispatched)
      (registered : ∃ t, reg.lookup? typeName = some (.schema t))
      (inherits : reg.Inherits typeName s.typeName)
      (exactly : dispatched = false → typeName = s.typeName)
      (resolved : reg.resolvedFields typeName = .ok specs)
      (order : (Members.keys fields).Sublist (Members.keys specs))
      (isSet : ∀ field ∈ specs, Members.contains fields field.1 = true ↔
        ∃ j, Members.get? members field.2.wireKey = some j ∧
          (j.isNull = false ∨ field.2.nullable = true))
      (isNull : ∀ field ∈ specs, Members.get? fields field.1 = some .null ↔
        Members.get? members field.2.wireKey = some .null ∧ field.2.nullable = true)
      (parts : ∀ field ∈ specs, ∀ j v, Members.get? members field.2.wireKey = some j →
        j.isNull = false → Members.get? fields field.1 = some v →
        decode reg j field.2.shape = .ok (some v))
      (deep : ∀ field ∈ specs, ∀ j v, Members.get? members field.2.wireKey = some j →
        j.isNull = false → Members.get? fields field.1 = some v →
        Reads reg field.2.shape j v) :
      Reads reg shape (.object members) (.record typeName fields)

variable {reg : Registry} {shape : Descriptor} {j : Json} {v : Value}

/-- A field that is set to something else than null comes from a member that is not null. -/
lemma exists_member_of_isSet {field : String × FieldSpec} {members : List (String × Json)}
    {fields : List (String × Value)}
    (hset : Members.contains fields field.1 = true ↔
      ∃ j, Members.get? members field.2.wireKey = some j ∧
        (j.isNull = false ∨ field.2.nullable = true))
    (hisNull : Members.get? fields field.1 = some .null ↔
      Members.get? members field.2.wireKey = some .null ∧ field.2.nullable = true)
    (hget : Members.get? fields field.1 = some v) (hnull : v.isNull = false) :
    ∃ j, Members.get? members field.2.wireKey = some j ∧ j.isNull = false := by
  have hcontains : Members.contains fields field.1 = true := by
    rw [Members.contains, hget, Option.isSome_some]
  obtain ⟨j, hj, hor⟩ := hset.1 hcontains
  refine ⟨j, hj, ?_⟩
  by_contra hjnull
  rw [Bool.not_eq_false] at hjnull
  obtain rfl := Json.eq_null_of_isNull hjnull
  have hfield := hisNull.2 ⟨hj, hor.resolve_left (by simp [Json.isNull])⟩
  rw [hget, Option.some.injEq] at hfield
  subst hfield
  cases hnull

/-- No payload is decoded into null. -/
lemma value_nonnull_of_decode (h : decode reg j shape = .ok (some v)) : v.isNull = false := by
  cases decoded_of_decode h with
  | scalar _ hv =>
    have hkind := kind?_of_decodeScalar hv
    cases v with
    | null => cases hkind
    | _ => rfl
  | list _ | map _ | enum _ _ _ | record _ _ _ _ => rfl

lemma readsPart_of_decode {found : Option Value} (h : decode reg j shape = .ok found) :
    ReadsPart reg shape j (found.getD .null) := by
  cases found with
  | none =>
    have hnull := isNull_of_decode_eq_none h
    refine ⟨by simp [hnull, Value.isNull], fun hj => ?_⟩
    rw [hnull] at hj
    cases hj
  | some v =>
    have hv := value_nonnull_of_decode h
    have hj := json_nonnull_of_decode h
    exact ⟨by simp [hv, hj], fun _ => h⟩

/-! ## Fields -/

section Fields

variable {typeName : String} {members : List (String × Json)} {specs : List (String × FieldSpec)}
  {fields : List (String × Value)}

/-- How a field can be read: its member is missing, null, or decoded. -/
lemma decodeMember_cases {field : String × FieldSpec} {found : Option (String × Value)}
    (h : decodeMember reg typeName field members = .ok found) :
    (Members.get? members field.2.wireKey = none ∧ found = none) ∨
    (Members.get? members field.2.wireKey = some .null ∧
      found = if field.2.nullable then some (field.1, .null) else none) ∨
    (∃ j v, Members.get? members field.2.wireKey = some j ∧ j.isNull = false ∧
      decode reg j field.2.shape = .ok (some v) ∧ found = some (field.1, v)) := by
  cases hget : Members.get? members field.2.wireKey with
  | none =>
    rw [decodeMember_of_get?_eq_none hget] at h
    cases h
    exact Or.inl ⟨rfl, rfl⟩
  | some j =>
    rw [decodeMember_of_get?_eq_some hget] at h
    by_cases hnull : j.isNull = true
    · rw [if_pos hnull] at h
      cases h
      obtain rfl := Json.eq_null_of_isNull hnull
      exact Or.inr (Or.inl ⟨rfl, rfl⟩)
    · rw [if_neg hnull] at h
      obtain ⟨w, hw, rfl⟩ := Result.map_eq_ok.1 h
      rw [Result.passing_eq_ok] at hw
      rw [Bool.not_eq_true] at hnull
      cases w with
      | none =>
        rw [isNull_of_decode_eq_none hw] at hnull
        cases hnull
      | some v => exact Or.inr (Or.inr ⟨j, v, rfl, hnull, hw, rfl⟩)

lemma fst_of_decodeMember {field : String × FieldSpec} {m : String × Value}
    (h : decodeMember reg typeName field members = .ok (some m)) : m.1 = field.1 := by
  rcases decodeMember_cases h with ⟨-, heq⟩ | ⟨-, heq⟩ | ⟨_, _, -, -, -, heq⟩
  · cases heq
  · split at heq
    · cases heq
      rfl
    · cases heq
  · cases heq
    rfl

variable (hwalk : gather (fun field => decodeMember reg typeName field members) specs = .ok fields)

include hwalk

/-- The fields of a record stand in the order of its schema. -/
lemma sublist_of_walk : (Members.keys fields).Sublist (Members.keys specs) := by
  obtain ⟨found, hfound, rfl⟩ := exists_of_gather_eq_ok hwalk
  refine Members.keys_filterMap_sublist fun field hfield m hm => ?_
  exact fst_of_decodeMember (by rw [hfound field hfield, hm])

/-- A field is what its own member is read as. -/
lemma get?_of_walk (hspecs : (Members.keys specs).Nodup) {field : String × FieldSpec}
    (hfield : field ∈ specs) :
    ∃ found, decodeMember reg typeName field members = .ok found ∧
      Members.get? fields field.1 = found.map Prod.snd := by
  obtain ⟨found, hfound, rfl⟩ := exists_of_gather_eq_ok hwalk
  refine ⟨found field, hfound field hfield, ?_⟩
  refine Members.get?_filterMap (fun other hother m hm => ?_) hspecs hfield
  exact fst_of_decodeMember (by rw [hfound other hother, hm])

end Fields

/-- A record is read where its fields are. -/
lemma reads_record {s t : Schema} {dispatched : Bool} {members : List (String × Json)}
    {specs : List (String × FieldSpec)} {fields : List (String × Value)} (hreg : reg.Coherent)
    (hexpects : reg.Expects shape s dispatched)
    (hselected : if dispatched then concreteSchema reg (.object members) s = .ok t else t = s)
    (hspecs : reg.resolvedFields t.typeName = .ok specs)
    (hwalk : gather (fun field => decodeMember reg t.typeName field members) specs = .ok fields)
    (ih : ∀ key j, (key, j) ∈ members → ∀ shape v, decode reg j shape = .ok (some v) →
      Reads reg shape j v) :
    Reads reg shape (.object members) (.record t.typeName fields) := by
  have hs := lookup?_of_expects hreg hexpects
  have hnodup := Registry.nodup_keys_resolvedFields hspecs
  have hvalue : ∀ field ∈ specs, ∀ j v, Members.get? members field.2.wireKey = some j →
      j.isNull = false → Members.get? fields field.1 = some v →
      decode reg j field.2.shape = .ok (some v) := by
    intro field hfield j v hj hnull hv
    obtain ⟨found, hfound, hget⟩ := get?_of_walk hwalk hnodup hfield
    rw [hget] at hv
    rcases decodeMember_cases hfound with ⟨hnone, -⟩ | ⟨hsome, -⟩ | ⟨k, w, hk, -, hw, rfl⟩
    · rw [hnone] at hj
      cases hj
    · rw [hsome] at hj
      cases hj
      cases hnull
    · obtain rfl : k = j := by simpa [hk] using hj
      obtain rfl : w = v := by simpa using hv
      exact hw
  refine .record hexpects (Registry.exists_schema_of_resolvedFields hspecs) ?_ ?_ hspecs
    (sublist_of_walk hwalk) ?_ ?_ hvalue ?_
  · split at hselected
    · exact (inherits_of_concreteSchema hreg hs hselected).2
    · rw [hselected]
      exact .refl
  · rintro rfl
    rw [if_neg Bool.false_ne_true] at hselected
    rw [hselected]
  · intro field hfield
    obtain ⟨found, hfound, hget⟩ := get?_of_walk hwalk hnodup hfield
    rw [Members.contains, hget]
    rcases decodeMember_cases hfound with ⟨hnone, rfl⟩ | ⟨hsome, rfl⟩ | ⟨j, v, hj, hnull, -, rfl⟩
    · simp [hnone]
    · cases hnullable : field.2.nullable <;> simp [hsome, Json.isNull]
    · simp [hj, hnull]
  · intro field hfield
    obtain ⟨found, hfound, hget⟩ := get?_of_walk hwalk hnodup hfield
    rw [hget]
    rcases decodeMember_cases hfound with ⟨hnone, rfl⟩ | ⟨hsome, rfl⟩ | ⟨j, v, hj, hnull, hv, rfl⟩
    · simp [hnone]
    · cases hnullable : field.2.nullable <;> simp [hsome]
    · have hvnull := value_nonnull_of_decode hv
      constructor
      · rintro ⟨⟩
        cases hvnull
      · rintro ⟨heq, -⟩
        rw [hj] at heq
        cases heq
        cases hnull
  · intro field hfield j v hj hnull hv
    exact ih _ j (Members.mem_of_get?_eq_some hj) _ v (hvalue field hfield j v hj hnull hv)

/-- Every decoded value has the declared shape. -/
lemma reads_of_decode (hreg : reg.Coherent) (h : decode reg j shape = .ok (some v)) :
    Reads reg shape j v := by
  induction j using Json.induction generalizing shape v with
  | step j ih =>
    cases decoded_of_decode h with
    | @list element items values hwalk =>
      rw [decodeItems_eq_ok_iff] at hwalk
      have hparts : ∀ (i : Nat) j v, items[i]? = some j → values[i]? = some v →
          ReadsPart reg element j v := by
        intro i j v hj hv
        obtain ⟨found, hfound, rfl⟩ := getElem?_of_forall₂ hwalk hj hv
        exact readsPart_of_decode hfound
      refine .list hwalk.length_eq.symm hparts fun i k w hk hw hnull => ?_
      exact ih k (.item (List.mem_of_getElem? hk)) ((hparts i k w hk hw).2 hnull)
    | @map element members entries hwalk =>
      rw [decodeEntries_eq_ok_iff] at hwalk
      have hkeys : Members.keys entries = Members.keys members :=
        keys_eq_of_forall₂ (hwalk.imp fun _ _ hm => hm.1)
      have hparts : ∀ (i : Nat) m e, members[i]? = some m → entries[i]? = some e →
          ReadsPart reg element m.2 e.2 := by
        intro i m e hm he
        obtain ⟨-, found, hfound, hvalue⟩ := getElem?_of_forall₂ hwalk hm he
        rw [← hvalue]
        exact readsPart_of_decode hfound
      refine .map hkeys hparts fun i m e hm he hnull => ?_
      exact ih m.2 (.member (List.mem_of_getElem? hm)) ((hparts i m e hm he).2 hnull)
    | scalar hnull hwalk => exact .scalar (kind?_of_decodeScalar hwalk) hnull hwalk
    | enum hnull hentry hwalk =>
      obtain rfl := hreg.named hentry
      obtain ⟨text, rfl, ⟨constant, hconstant, rfl⟩ | ⟨hnone, rfl⟩⟩ := decodeEnum_cases hwalk
      · exact .known hentry hconstant
      · exact .unknown hentry hnone
    | record hexpects hselected hspecs hwalk =>
      refine reads_record hreg hexpects hselected hspecs hwalk fun key k hk shape w hw => ?_
      exact ih k (.member hk) hw

/-- In every registry that was built by registering, a decoded value has the declared shape at every
depth. -/
theorem decode_sound (hreg : reg.Built) (h : decode reg j shape = .ok (some v)) :
    Reads reg shape j v :=
  reads_of_decode hreg.coherent h

namespace Sample

/-- An event as it may arrive: a derived type in the place of its base, an unknown member, and
nulls. -/
def payload : Json := .object [
  ("subject", .object [("_type", .string "org"), ("createdAt", .null), ("name", .string "acme"),
    ("city", .string "Palo Alto")]),
  ("ratios", .array [.number (.float false .zero), .null]),
  ("level", .string "INFO")]

/-- The fields of the event. -/
def decodedFields : List (String × Value) := [
  ("level", .enum ⟨"Level", .known "info"⟩),
  ("subject", .record "Org" [("name", .string "acme"), ("created", .null)]),
  ("ratios", .list [.float (.finite false .zero), .null])]

lemma decode_payload :
    decode registry payload (.named "Event") = .ok (some (.record "Event" decodedFields)) := rfl

/-- The decoded event has the declared shape. -/
theorem decode_sound_payload :
    decode registry payload (.named "Event") = .ok (some (.record "Event" decodedFields)) ∧
      Reads registry (.named "Event") payload (.record "Event" decodedFields) :=
  ⟨decode_payload, decode_sound isValid_registry.built decode_payload⟩

end Sample

end Payload

end CloudDirector
