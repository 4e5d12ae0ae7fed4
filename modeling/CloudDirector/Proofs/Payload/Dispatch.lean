import CloudDirector.Proofs.Catalog.Inheritance
import CloudDirector.Proofs.Payload.Walks

/-!
# The type of a record

Where a record is expected, a reference and a flag decide together whether the payload says which
derived type it is.  Encoding writes the discriminator of every derived type; decoding looks at it
only where the type is dispatched on.
-/

namespace CloudDirector

/-- A record of the schema is expected where the shape is declared.  The truth value tells whether
the payload selects a type derived from it: it does for a polymorphic reference, and for a schema
that is flagged. -/
inductive Registry.Expects (reg : Registry) : Descriptor → Schema → Bool → Prop
  | named {base : String} {s : Schema} (h : reg.lookup? base = some (.schema s)) :
      Expects reg (.named base) s s.polymorphic
  | polymorphic {base : String} {s : Schema} (h : reg.lookup? base = some (.schema s)) :
      Expects reg (.polymorphic base) s true

namespace Payload

variable {reg : Registry} {shape : Descriptor} {s t : Schema} {dispatched : Bool}

lemma lookup?_of_expects (hreg : reg.Coherent) (h : reg.Expects shape s dispatched) :
    reg.lookup? s.typeName = some (.schema s) := by
  cases h with
  | named h => rwa [hreg.typeName_eq h]
  | polymorphic h => rwa [hreg.typeName_eq h]

/-! ## Decoding -/

/-- Where a record is expected, the plan is to decode one. -/
lemma plan_of_expects (h : reg.Expects shape s dispatched) (j : Json) :
    plan reg j shape = if dispatched then (concreteSchema reg j s).map .record else .ok (.record s) := by
  cases h with
  | named h => simp only [plan, h]
  | polymorphic h =>
    rw [plan, Registry.schema_eq_ok_iff.2 h]
    rfl

lemma concreteSchema_cases {j : Json} (h : concreteSchema reg j s = .ok t) :
    t = s ∨ ∃ value, reg.resolveDiscriminator s.typeName value = .ok t := by
  rw [concreteSchema] at h
  split at h
  · next value _ =>
    split at h
    · cases h
      exact Or.inl rfl
    · exact Or.inr ⟨value, h⟩
  · cases h
    exact Or.inl rfl

/-- The schema of a payload is the expected one or derives from it. -/
lemma inherits_of_concreteSchema (hreg : reg.Coherent) {j : Json}
    (hs : reg.lookup? s.typeName = some (.schema s)) (h : concreteSchema reg j s = .ok t) :
    reg.lookup? t.typeName = some (.schema t) ∧ reg.Inherits t.typeName s.typeName := by
  rcases concreteSchema_cases h with rfl | ⟨value, hvalue⟩
  · exact ⟨hs, .refl⟩
  · obtain ⟨concrete, -, hdescendant, hlookup⟩ :=
      Registry.resolveDiscriminator_eq_ok hvalue
    obtain rfl := hreg.typeName_eq hlookup
    exact ⟨hlookup, Registry.inherits_of_reaches hdescendant⟩

/-- A payload without a discriminator is one of the expected type. -/
lemma concreteSchema_of_get?_eq_none {members : List (String × Json)}
    (h : Members.get? members discriminatorKey = none) :
    concreteSchema reg (.object members) s = .ok s := by
  simp only [concreteSchema, Json.member?, Json.members?, Option.bind_some, h, Option.bind_none]

/-- The discriminator of a derived type selects it. -/
lemma concreteSchema_of_discriminator (hreg : reg.IsValid) {members : List (String × Json)}
    (hs : reg.lookup? s.typeName = some (.schema s)) (ht : reg.lookup? t.typeName = some (.schema t))
    (hinherits : reg.Inherits t.typeName s.typeName)
    (h : Members.get? members discriminatorKey = some (.string t.discriminatorValue)) :
    concreteSchema reg (.object members) s = .ok t := by
  simp only [concreteSchema, Json.member?, Json.members?, Option.bind_some, h, Json.string?]
  split
  · next heq =>
    have hname := hreg.coherent.eq_of_discriminatorValue_eq ht hs heq
    rw [hname, hs] at ht
    cases ht
    rfl
  · rw [Registry.resolveDiscriminator, hreg.coherent.get?_discriminatorValue ht]
    simp only [hreg.isDescendant_iff.2 hinherits, if_true]
    exact Registry.schema_eq_ok_iff.2 ht

/-- A payload that names no other type is one of the expected type. -/
lemma concreteSchema_of_discriminatorValue {j : Json} (h : ∀ value,
    (j.member? discriminatorKey).bind Json.string? = some value → value = s.discriminatorValue) :
    concreteSchema reg j s = .ok s := by
  rw [concreteSchema]
  split
  · next value hvalue => rw [if_pos (h value hvalue)]
  · rfl

/-- A plan is made from the shape, and for records from the discriminator too. -/
lemma plan_cases {j : Json} {p : Plan} (h : plan reg j shape = .ok p) :
    (∃ element, shape = .list element ∧ p = .list element) ∨
    (∃ element, shape = .map element ∧ p = .map element) ∨
    (∃ kind, shape = .scalar kind ∧ p = .scalar kind) ∨
    (∃ name entry, shape = .named name ∧ reg.lookup? name = some (.enum entry) ∧ p = .enum entry) ∨
    (∃ s dispatched t, reg.Expects shape s dispatched ∧
      (if dispatched then concreteSchema reg j s = .ok t else t = s) ∧ p = .record t) := by
  cases shape with
  | scalar kind =>
    cases h
    exact Or.inr (Or.inr (Or.inl ⟨kind, rfl, rfl⟩))
  | list element =>
    cases h
    exact Or.inl ⟨element, rfl, rfl⟩
  | map element =>
    cases h
    exact Or.inr (Or.inl ⟨element, rfl, rfl⟩)
  | named name =>
    rw [plan] at h
    split at h
    · cases h
    · next entry hentry =>
      cases h
      exact Or.inr (Or.inr (Or.inr (Or.inl ⟨name, entry, rfl, hentry, rfl⟩)))
    · next s hs =>
      refine Or.inr (Or.inr (Or.inr (Or.inr ?_)))
      split at h
      · next hflag =>
        obtain ⟨t, ht, rfl⟩ := Result.map_eq_ok.1 h
        exact ⟨s, s.polymorphic, t, .named hs, by rwa [if_pos hflag], rfl⟩
      · next hflag =>
        cases h
        exact ⟨s, s.polymorphic, s, .named hs, by rw [if_neg hflag], rfl⟩
  | polymorphic base =>
    rw [plan] at h
    split at h
    · cases h
    · next s hs =>
      obtain ⟨t, ht, rfl⟩ := Result.map_eq_ok.1 h
      exact Or.inr (Or.inr (Or.inr (Or.inr
        ⟨s, true, t, .polymorphic (Registry.schema_eq_ok_iff.1 hs), ht, rfl⟩)))

/-! ### One level of decoding -/

/-- One level of decoding: which walk gives the value of a payload where a shape is declared. -/
inductive Decoded (reg : Registry) : Descriptor → Json → Value → Prop
  | list {element : Descriptor} {items : List Json} {values : List Value}
      (walk : decodeItems reg element 0 items = .ok values) :
      Decoded reg (.list element) (.array items) (.list values)
  | map {element : Descriptor} {members : List (String × Json)} {entries : List (String × Value)}
      (walk : decodeEntries reg element members = .ok entries) :
      Decoded reg (.map element) (.object members) (.map entries)
  | scalar {kind : Kind} {j : Json} {v : Value} (nonnull : j.isNull = false)
      (walk : decodeScalar j kind = .ok v) : Decoded reg (.scalar kind) j v
  | enum {name : String} {entry : EnumEntry} {j : Json} {e : EnumValue} (nonnull : j.isNull = false)
      (lookup : reg.lookup? name = some (.enum entry)) (walk : decodeEnum j entry = .ok e) :
      Decoded reg (.named name) j (.enum e)
  | record {shape : Descriptor} {s t : Schema} {dispatched : Bool} {members : List (String × Json)}
      {specs : List (String × FieldSpec)} {fields : List (String × Value)}
      (expects : reg.Expects shape s dispatched)
      (selected : if dispatched then concreteSchema reg (.object members) s = .ok t else t = s)
      (resolved : reg.resolvedFields t.typeName = .ok specs)
      (walk : gather (fun field => decodeMember reg t.typeName field members) specs = .ok fields) :
      Decoded reg shape (.object members) (.record t.typeName fields)

/-- Decoding gives no value for null only, and every value that it gives is decoded by a walk. -/
lemma decode_cases {j : Json} {found : Option Value} (h : decode reg j shape = .ok found) :
    (j.isNull = true ∧ found = none) ∨ ∃ v, found = some v ∧ Decoded reg shape j v := by
  rw [decode] at h
  split at h
  · next hnull =>
    cases h
    exact Or.inl ⟨hnull, rfl⟩
  · next hnull =>
    rw [Bool.not_eq_true] at hnull
    refine Or.inr ?_
    cases hplan : plan reg j shape with
    | error r =>
      rw [hplan] at h
      cases h
    | ok p =>
      rw [hplan] at h
      rcases plan_cases hplan with ⟨element, rfl, rfl⟩ | ⟨element, rfl, rfl⟩ | ⟨kind, rfl, rfl⟩ |
        ⟨name, entry, rfl, hentry, rfl⟩ | ⟨s, dispatched, t, hexpects, ht, rfl⟩
      · simp only at h
        split at h
        · obtain ⟨values, hvalues, rfl⟩ := Result.map_eq_ok.1 h
          exact ⟨_, rfl, .list hvalues⟩
        · cases h
      · simp only at h
        split at h
        · obtain ⟨entries, hentries, rfl⟩ := Result.map_eq_ok.1 h
          exact ⟨_, rfl, .map hentries⟩
        · cases h
      · obtain ⟨w, hw, rfl⟩ := Result.map_eq_ok.1 h
        exact ⟨_, rfl, .scalar hnull hw⟩
      · obtain ⟨e, he, rfl⟩ := Result.map_eq_ok.1 h
        exact ⟨_, rfl, .enum hnull hentry he⟩
      · simp only at h
        split at h
        · split at h
          · cases h
          · next specs hspecs =>
            obtain ⟨fields, hfields, rfl⟩ := Result.map_eq_ok.1 h
            exact ⟨_, rfl, .record hexpects ht hspecs hfields⟩
        · cases h

lemma decoded_of_decode {j : Json} {v : Value} (h : decode reg j shape = .ok (some v)) :
    Decoded reg shape j v := by
  rcases decode_cases h with ⟨-, hnone⟩ | ⟨w, hw, hdecoded⟩
  · cases hnone
  · cases hw
    exact hdecoded

lemma decode_of_decoded {j : Json} {v : Value} (h : Decoded reg shape j v) :
    decode reg j shape = .ok (some v) := by
  cases h with
  | list hvalues =>
    rw [decode]
    simp only [Json.isNull, plan, hvalues]
    rfl
  | map hentries =>
    rw [decode]
    simp only [Json.isNull, plan, hentries]
    rfl
  | scalar hnull hv =>
    rw [decode]
    simp only [hnull, plan, hv]
    rfl
  | enum hnull hentry he =>
    rw [decode]
    simp only [hnull, plan, hentry, he]
    rfl
  | @record _ s t dispatched members specs fields hexpects ht hspecs hfields =>
    have hplan : plan reg (.object members) shape = .ok (.record t) := by
      rw [plan_of_expects hexpects]
      split at ht
      · next hd => rw [if_pos hd, ht, Result.map_ok]
      · next hd => rw [if_neg hd, ht]
    rw [decode]
    simp only [Json.isNull, hplan, hspecs, hfields]
    rfl

/-- Where a record type is named, an object is decoded field by field into a record of it, or of the
type that is selected. -/
lemma exists_record_of_decode {base : String} {j : Json} {v : Value}
    (hs : reg.lookup? base = some (.schema s)) (h : decode reg j (.named base) = .ok (some v)) :
    ∃ t members specs fields,
      (if s.polymorphic then concreteSchema reg (.object members) s = .ok t else t = s) ∧
      reg.resolvedFields t.typeName = .ok specs ∧
      gather (fun field => decodeMember reg t.typeName field members) specs = .ok fields ∧
      j = .object members ∧ v = .record t.typeName fields := by
  cases decoded_of_decode h with
  | enum _ hentry _ =>
    rw [hs] at hentry
    cases hentry
  | record hexpects hselected hspecs hwalk =>
    cases hexpects with
    | named hs' =>
      rw [hs] at hs'
      cases hs'
      exact ⟨_, _, _, _, hselected, hspecs, hwalk, rfl, rfl⟩

/-- Where a payload names no other type, a polymorphic reference reads as a plain one does. -/
lemma decode_polymorphic {base : String} {j : Json} (hs : reg.lookup? base = some (.schema s))
    (hflag : s.polymorphic = false) (h : concreteSchema reg j s = .ok s) :
    decode reg j (.polymorphic base) = decode reg j (.named base) := by
  have hnamed := plan_of_expects (.named hs) j
  have hpolymorphic := plan_of_expects (.polymorphic hs) j
  rw [hflag] at hnamed
  rw [if_pos rfl, h, Result.map_ok] at hpolymorphic
  rw [decode, decode, hnamed, hpolymorphic]
  rfl

/-- Decoding gives no value for null only. -/
lemma isNull_of_decode_eq_none {j : Json} (h : decode reg j shape = .ok none) :
    j.isNull = true := by
  rcases decode_cases h with ⟨hnull, -⟩ | ⟨v, hv, -⟩
  · exact hnull
  · cases hv

lemma decode_null : decode reg .null shape = .ok none := rfl

/-- What is decoded into a value is not null. -/
lemma json_nonnull_of_decode {j : Json} {v : Value} (h : decode reg j shape = .ok (some v)) :
    j.isNull = false := by
  cases j with
  | null =>
    rw [decode_null] at h
    cases h
  | _ => rfl

end Payload

end CloudDirector
