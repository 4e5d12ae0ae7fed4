import CloudDirector.Proofs.Payload.Refusals
import CloudDirector.Proofs.Payload.Stability

/-!
# Undeclared fields

A record that sets a field which its schema does not declare cannot be encoded.  Nothing else fails
in this way, so an encoding that does names a record at some depth of the value, and one of the
fields of that record.
-/

namespace CloudDirector.Payload

variable {reg : Registry} {shape element : Descriptor} {v : Value} {e : Report}
  {typeName field : String}

/-- A report that a record sets a field which its schema does not declare. -/
def IsUndeclared (typeName field : String) (e : Report) : Prop :=
  e.failure = .setup (.undeclaredField typeName field)

lemma not_isUndeclared_of_isValueReport (h : IsValueReport e) :
    ¬IsUndeclared typeName field e := by
  obtain ⟨fault, rfl⟩ := h
  simp [IsUndeclared]

lemma isValueReport_of_encodeFloat {x : Binary64} (h : encodeFloat x = .error e) :
    IsValueReport e := by
  rw [encodeFloat] at h
  split at h
  · cases h
  · exact isValueReport_of_failValue h

lemma isValueReport_of_encodeScalar {kind : Kind} (h : encodeScalar v kind = .error e) :
    IsValueReport e := by
  rw [encodeScalar.eq_def] at h
  split at h <;> first
    | (cases h; done)
    | exact isValueReport_of_encodeFloat h
    | exact isValueReport_of_decodeDate (Result.map_eq_error.1 h)
    | exact isValueReport_of_decodeDateTime (Result.map_eq_error.1 h)
    | exact isValueReport_of_failValue h

lemma isValueReport_of_encodeEnum {value : EnumValue} {entry : EnumEntry}
    (h : encodeEnum value entry = .error e) : IsValueReport e := by
  rw [encodeEnum] at h
  split at h
  · split at h
    · cases h
    · exact isValueReport_of_failValue h
  · cases h

lemma not_isUndeclared_of_schema {name : String} (h : reg.schema name = .error e) :
    ¬IsUndeclared typeName field e := by
  rw [Registry.schema] at h
  split at h <;> cases h <;> simp [IsUndeclared]

lemma not_isUndeclared_of_collectFields {steps : Nat} {name : String}
    {fields : List (String × FieldSpec)} (h : reg.collectFields steps name fields = .error e) :
    ¬IsUndeclared typeName field e := by
  induction steps generalizing name fields with
  | zero =>
    cases h
    simp [IsUndeclared]
  | succ steps ih =>
    rw [Registry.collectFields] at h
    split at h
    · next r hschema =>
      cases h
      exact not_isUndeclared_of_schema hschema
    · split at h
      · next r hfold =>
        cases h
        obtain ⟨parent, -, acc, hacc⟩ := Registry.foldlM_eq_error hfold
        exact ih hacc
      · cases h

lemma not_isUndeclared_of_withDiscriminator {name declared : String}
    {members : List (String × Json)} (h : withDiscriminator reg name declared members = .error e) :
    ¬IsUndeclared typeName field e := by
  rw [withDiscriminator] at h
  split at h
  · cases h
  · split at h
    · next r hschema =>
      cases h
      exact not_isUndeclared_of_schema hschema
    · cases h

/-- An encoding that fails because of an undeclared field fails in a part, or at the fields of a
record. -/
lemma encode_eq_error_cases (h : encode reg v shape = .error e)
    (he : IsUndeclared typeName field e) :
    (∃ element i items, v = .list items ∧ encodeItems reg element i items = .error e) ∨
    (∃ element entries, v = .map entries ∧ encodeEntries reg element entries = .error e) ∨
    ∃ name fields, v = .record name fields ∧
      recordMembers reg name fields (fun field => encodeMember reg name field fields) =
        .error e := by
  have hvalue : ¬IsValueReport e := fun h => not_isUndeclared_of_isValueReport h he
  rw [encode.eq_def] at h
  split at h
  · cases h
  · split at h
    -- where any JSON is declared, a value is written by its own kind
    · split at h
      · split at h
        · exact absurd (isValueReport_of_encodeEnum h) hvalue
        · cases h
          cases he
      · exact .inl ⟨_, _, _, rfl, Result.map_eq_error.1 h⟩
      · exact .inr (.inl ⟨_, _, rfl, Result.map_eq_error.1 h⟩)
      · exact .inr (.inr ⟨_, _, rfl, Result.map_eq_error.1 h⟩)
      · exact absurd (isValueReport_of_encodeScalar h) hvalue
    · exact absurd (isValueReport_of_encodeScalar h) hvalue
    · split at h
      · exact .inl ⟨_, _, _, rfl, Result.map_eq_error.1 h⟩
      · exact absurd (isValueReport_of_failValue h) hvalue
    · split at h
      · exact .inr (.inl ⟨_, _, rfl, Result.map_eq_error.1 h⟩)
      · exact absurd (isValueReport_of_failValue h) hvalue
    -- a type that is named, and one that is dispatched on
    all_goals
      split at h
      · cases h
        cases he
      · split at h
        · exact absurd (isValueReport_of_encodeEnum h) hvalue
        · cases h
        · exact absurd (isValueReport_of_failValue h) hvalue
      · split at h
        · split at h
          · split at h
            · next r hmembers =>
              cases h
              exact .inr (.inr ⟨_, _, rfl, hmembers⟩)
            · exact absurd he (not_isUndeclared_of_withDiscriminator h)
          · cases h
            cases he
        · exact .inr (.inl ⟨_, _, rfl, Result.map_eq_error.1 h⟩)
        · cases h
        · exact absurd (isValueReport_of_failValue h) hvalue

/-! ## Parts -/

lemma exists_of_encodeItems_eq_error {i : Nat} {items : List Value}
    (h : encodeItems reg element i items = .error e) :
    ∃ v ∈ items, ∃ r, encode reg v element = .error r ∧ r.failure = e.failure := by
  induction items generalizing i with
  | nil =>
    rw [encodeItems] at h
    cases h
  | cons v rest ih =>
    rw [encodeItems] at h
    split at h
    · next r hv =>
      cases h
      obtain ⟨r, hr, rfl⟩ := Result.passing_eq_error.1 hv
      exact ⟨v, List.mem_cons_self, r, hr, rfl⟩
    · obtain ⟨w, hw, hr⟩ := ih (Result.map_eq_error.1 h)
      exact ⟨w, List.mem_cons_of_mem _ hw, hr⟩

lemma exists_of_encodeEntries_eq_error {entries : List (String × Value)}
    (h : encodeEntries reg element entries = .error e) :
    ∃ m ∈ entries, ∃ r, encode reg m.2 element = .error r ∧ r.failure = e.failure := by
  induction entries with
  | nil =>
    rw [encodeEntries] at h
    cases h
  | cons m rest ih =>
    obtain ⟨key, v⟩ := m
    rw [encodeEntries] at h
    split at h
    · next r hv =>
      cases h
      obtain ⟨r, hr, rfl⟩ := Result.passing_eq_error.1 hv
      exact ⟨(key, v), List.mem_cons_self, r, hr, rfl⟩
    · obtain ⟨n, hn, hr⟩ := ih (Result.map_eq_error.1 h)
      exact ⟨n, List.mem_cons_of_mem _ hn, hr⟩

lemma exists_of_encodeMember_eq_error {name : String} {spec : String × FieldSpec}
    {fields : List (String × Value)} (h : encodeMember reg name spec fields = .error e) :
    ∃ m ∈ fields, ∃ r, encode reg m.2 spec.2.shape = .error r ∧
      e = r.passing (.field name spec.1) := by
  cases hget : Members.get? fields spec.1 with
  | none =>
    rw [encodeMember_of_get?_eq_none hget] at h
    cases h
  | some v =>
    rw [encodeMember_of_get?_eq_some hget] at h
    split at h
    · cases h
    · obtain ⟨r, hr, he⟩ := Result.passing_eq_error.1 (Result.map_eq_error.1 h)
      exact ⟨_, Members.mem_of_get?_eq_some hget, r, hr, he⟩

/-- A record's members fail for an undeclared field of its own, or in one of its fields. -/
lemma recordMembers_eq_error_cases {name : String} {fields : List (String × Value)}
    (h : recordMembers reg name fields (fun field => encodeMember reg name field fields) =
      .error e) (he : IsUndeclared typeName field e) :
    (∃ specs, reg.resolvedFields name = .ok specs ∧ name = typeName ∧
      field ∈ Members.keys fields ∧ field ∉ Members.keys specs) ∨
    ∃ spec : String × FieldSpec, ∃ m ∈ fields, ∃ r, encode reg m.2 spec.2.shape = .error r ∧
      e = r.passing (.field name spec.1) := by
  rw [recordMembers] at h
  split at h
  · next r hspecs =>
    cases h
    exact absurd he (not_isUndeclared_of_collectFields hspecs)
  · next specs hspecs =>
    split at h
    · next key v hfind =>
      cases h
      cases he
      have hset := Members.mem_keys_of_mem (List.mem_of_find?_eq_some hfind)
      refine .inl ⟨specs, hspecs, rfl, hset, ?_⟩
      rw [← Members.contains_iff]
      simpa using List.find?_some hfind
    · obtain ⟨-, spec, -, -, hspec, -⟩ := gather_eq_error (Result.map_eq_error.1 h)
      exact .inr ⟨spec, exists_of_encodeMember_eq_error hspec⟩

/-- Where encoding fails because of an undeclared field, a record within the value sets it. -/
theorem exists_record_of_encode_eq_error (h : encode reg v shape = .error e)
    (he : IsUndeclared typeName field e) :
    ∃ fields specs, (Value.record typeName fields).Within v ∧
      reg.resolvedFields typeName = .ok specs ∧ field ∈ Members.keys fields ∧
      field ∉ Members.keys specs := by
  induction v using Value.induction generalizing shape e with
  | step v ih =>
    rcases encode_eq_error_cases h he with ⟨element, i, items, rfl, hitems⟩ |
      ⟨element, entries, rfl, hentries⟩ | ⟨name, fields, rfl, hfields⟩
    · obtain ⟨w, hw, r, hr, hfailure⟩ := exists_of_encodeItems_eq_error hitems
      obtain ⟨inner, specs, hwithin, hrest⟩ := ih w (.item hw) hr (hfailure.trans he)
      exact ⟨inner, specs, .item hw hwithin, hrest⟩
    · obtain ⟨m, hm, r, hr, hfailure⟩ := exists_of_encodeEntries_eq_error hentries
      obtain ⟨inner, specs, hwithin, hrest⟩ := ih m.2 (.entry hm) hr (hfailure.trans he)
      exact ⟨inner, specs, .entry hm hwithin, hrest⟩
    · rcases recordMembers_eq_error_cases hfields he with ⟨specs, hspecs, rfl, hset, hundeclared⟩ |
        ⟨spec, m, hm, r, hr, rfl⟩
      · exact ⟨fields, specs, .self _, hspecs, hset, hundeclared⟩
      · obtain ⟨inner, specs, hwithin, hrest⟩ := ih m.2 (.field hm) hr he
        exact ⟨inner, specs, .field hm hwithin, hrest⟩

end CloudDirector.Payload
