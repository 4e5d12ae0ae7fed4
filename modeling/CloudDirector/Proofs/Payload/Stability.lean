import CloudDirector.Proofs.Payload.Soundness

/-!
# Decoded values are stable

What decoding gives conforms to the shape and is in normal form, whatever spelling the payload had.
So it can be written, and reading what was written gives the same value again.
-/

namespace CloudDirector

/-- The first value occurs in the second one at some depth. -/
inductive Value.Within : Value → Value → Prop
  | self (v : Value) : Within v v
  | item {v w : Value} {items : List Value} (mem : w ∈ items) (within : Within v w) :
      Within v (.list items)
  | entry {v : Value} {m : String × Value} {entries : List (String × Value)} (mem : m ∈ entries)
      (within : Within v m.2) : Within v (.map entries)
  | field {v : Value} {typeName : String} {m : String × Value} {fields : List (String × Value)}
      (mem : m ∈ fields) (within : Within v m.2) : Within v (.record typeName fields)

/-- All dates of a value, and those of its dates with times, have plain years. -/
structure Value.HasPlainYears (v : Value) : Prop where
  date : ∀ d, Within (.date d) v → d.HasPlainYear
  dateTime : ∀ t, Within (.dateTime t) v → t.date.HasPlainYear

namespace Value.HasPlainYears

lemma item {items : List Value} (h : (list items).HasPlainYears) {v : Value} (hv : v ∈ items) :
    v.HasPlainYears :=
  ⟨fun d hd => h.date d (.item hv hd), fun t ht => h.dateTime t (.item hv ht)⟩

lemma entry {entries : List (String × Value)} (h : (map entries).HasPlainYears)
    {m : String × Value} (hm : m ∈ entries) : m.2.HasPlainYears :=
  ⟨fun d hd => h.date d (.entry hm hd), fun t ht => h.dateTime t (.entry hm ht)⟩

lemma field {typeName : String} {fields : List (String × Value)}
    (h : (record typeName fields).HasPlainYears) {m : String × Value} (hm : m ∈ fields) :
    m.2.HasPlainYears :=
  ⟨fun d hd => h.date d (.field hm hd), fun t ht => h.dateTime t (.field hm ht)⟩

end Value.HasPlainYears

namespace Payload

variable {reg : Registry} {shape : Descriptor} {j : Json} {v : Value}

lemma exists_getElem?_of_length_eq {α β : Type} {xs : List α} {ys : List β}
    (h : xs.length = ys.length) {x : α} (hx : x ∈ xs) :
    ∃ (i : Nat) (y : β), xs[i]? = some x ∧ ys[i]? = some y := by
  obtain ⟨i, hi, rfl⟩ := List.getElem_of_mem hx
  exact ⟨i, ys[i], List.getElem?_eq_getElem hi, List.getElem?_eq_getElem (h ▸ hi)⟩

/-- A part of a list or of a map is null, or as its payload was read. -/
lemma conforms_part (hpart : ReadsPart reg shape j v) (hyears : v.HasPlainYears)
    (ih : j.isNull = false → v.HasPlainYears → reg.Conforms shape v ∧ v.normal reg = v) :
    (v.isNull = false → reg.Conforms shape v) ∧ v.normal reg = v := by
  cases hnull : v.isNull with
  | true =>
    obtain rfl := Value.eq_null_of_isNull hnull
    exact ⟨Bool.noConfusion, Value.normal_null⟩
  | false =>
    have hj : j.isNull = false := by
      rw [← Bool.not_eq_true, ← hpart.1, hnull]
      exact Bool.false_ne_true
    obtain ⟨hconforms, hnormal⟩ := ih hj hyears
    exact ⟨fun _ => hconforms, hnormal⟩

lemma map_eq_self {α : Type} {f : α → α} {xs : List α} (h : ∀ x ∈ xs, f x = x) : xs.map f = xs := by
  rw [List.map_congr_left h, List.map_id']

/-- What is read conforms to the shape and is its own normal form. -/
lemma conforms_of_reads (h : Reads reg shape j v) (hyears : v.HasPlainYears) :
    reg.Conforms shape v ∧ v.normal reg = v := by
  induction h with
  | scalar hkind hnull hwalk =>
    have hholds := holds_of_decodeScalar hnull hwalk
      (fun d hd => hyears.date d (hd ▸ .self _)) (fun t ht => hyears.dateTime t (ht ▸ .self _))
    exact ⟨.scalar hholds, Value.normal_of_holds hholds⟩
  | @list element items values hlength hparts _ ih =>
    have hall : ∀ v ∈ values,
        (v.isNull = false → reg.Conforms element v) ∧ v.normal reg = v := by
      intro v hv
      obtain ⟨i, k, hi, hk⟩ := exists_getElem?_of_length_eq hlength hv
      exact conforms_part (hparts i k v hk hi) (hyears.item hv) (ih i k v hk hi)
    refine ⟨.list fun v hv => (hall v hv).1, ?_⟩
    rw [Value.normal, Value.normalItems_eq_map, map_eq_self fun v hv => (hall v hv).2]
  | @map element members entries hkeys hparts _ ih =>
    have hlength : entries.length = members.length := by
      simpa [Members.keys] using congrArg List.length hkeys
    have hall : ∀ e ∈ entries,
        (e.2.isNull = false → reg.Conforms element e.2) ∧ e.2.normal reg = e.2 := by
      intro e he
      obtain ⟨i, m, hi, hm⟩ := exists_getElem?_of_length_eq hlength he
      exact conforms_part (hparts i m e hm hi) (hyears.entry he) (ih i m e hm hi)
    have hnormal : (entries.map fun e => (e.1, e.2.normal reg)) = entries :=
      map_eq_self fun e he => Prod.ext rfl (hall e he).2
    refine ⟨.map fun e he => (hall e he).1, ?_⟩
    rw [Value.normal, Value.normalEntries_eq_map, hnormal]
  | known hentry hmapped =>
    obtain ⟨first, hfirst⟩ := exists_text?_of_constant? hmapped
    exact ⟨.enum (e := ⟨_, .known _⟩) hentry (.known hfirst), by rw [Value.normal.eq_def]⟩
  | unknown hentry hunmapped =>
    exact ⟨.enum (e := ⟨_, .unknown _⟩) hentry (.unknown hunmapped), by rw [Value.normal.eq_def]⟩
  | @record shape s dispatched typeName members specs fields hexpects _ hinherits hexactly hspecs
      horder hset hisNull hparts _ ih =>
    have hnodup := Registry.nodup_keys_resolvedFields hspecs
    have hvalue : ∀ field ∈ specs, ∀ v, Members.get? fields field.1 = some v → v.isNull = false →
        reg.Conforms field.2.shape v ∧ v.normal reg = v := by
      intro field hfield v hv hnull
      obtain ⟨k, hk, hknull⟩ :=
        exists_member_of_isSet (hset field hfield) (hisNull field hfield) hv hnull
      exact ih field hfield k v hk hknull hv (hyears.field (Members.mem_of_get?_eq_some hv))
    have hkeys : (Members.keys fields).Nodup := hnodup.sublist horder
    -- null stands only where it means something, so no field is left out
    have hnormal : (specs.filterMap fun field => Value.normalField reg field fields) =
        Members.restrict fields specs := by
      refine List.filterMap_congr fun field hfield => ?_
      rw [Value.normalField_eq]
      cases hget : Members.get? fields field.1 with
      | none => rfl
      | some v =>
        cases hnull : v.isNull with
        | true =>
          obtain rfl := Value.eq_null_of_isNull hnull
          have hnullable := ((hisNull field hfield).1 hget).2
          simp [hnullable]
        | false =>
          have hvnormal := (hvalue field hfield v hget hnull).2
          simp [hnull, hvnormal]
    refine ⟨.record hexpects ?_ hspecs ?_ ?_, ?_⟩
    · cases dispatched with
      | true => exact Or.inr ⟨rfl, hinherits⟩
      | false => exact Or.inl (hexactly rfl)
    · exact fun m hm => horder.subset (Members.mem_keys_of_mem hm)
    · intro m hm spec hspec hnull
      exact (hvalue _ hspec m.2 (Members.get?_eq_some_of_mem hkeys hm) hnull).1
    · rw [Value.normal_record hspecs, hnormal, Members.restrict_eq_self horder hnodup]

/-! ## Read, written, and read again -/

/-- Whatever a payload was decoded into as a record of a type, or of one that derives from it, is
written, and reading what was written gives back exactly the same record. -/
theorem decode_encodeRecord_of_decode (hreg : reg.IsValid) (hkeys : reg.DistinctWireKeys)
    {requested typeName : String} {fields : List (String × Value)}
    (h : decode reg j (.named requested) = .ok (some (.record typeName fields)))
    (hyears : (Value.record typeName fields).HasPlainYears) :
    ∃ written, encodeRecord reg ⟨typeName, fields⟩ = .ok written ∧
      decode reg written (.named typeName) = .ok (some (.record typeName fields)) := by
  obtain ⟨hconforms, hnormal⟩ := conforms_of_reads (reads_of_decode hreg.coherent h) hyears
  obtain ⟨specs, hspecs, hdeclared, hback⟩ := restoresField_of_conforms hreg hkeys hconforms
  rw [Value.normal_record hspecs] at hnormal
  obtain ⟨written, hencode, hdecode⟩ := exists_encodeRecord hreg hkeys hspecs hdeclared hback
  rw [hnormal] at hdecode
  exact ⟨written, hencode, hdecode⟩

namespace Sample

/-- An organization in the place of its base, with a date alone for a date and time. -/
def orgPayload : Json := .object [
  ("_type", .string "org"), ("createdAt", .string "2024-03-05"), ("name", .string "acme")]

/-- The day that the organization was created on. -/
def creationDay : Date := ⟨2024, 3, 5, by decide, by decide⟩

/-- The fields of the organization. -/
def orgFields : List (String × Value) :=
  [("name", .string "acme"), ("created", .dateTime (Calendar.atMidnight creationDay))]

lemma decode_orgPayload :
    decode registry orgPayload (.named "Entity") = .ok (some (.record "Org" orgFields)) := rfl

lemma hasPlainYears_orgFields : (Value.record "Org" orgFields).HasPlainYears := by
  have hplain : ∀ m ∈ orgFields, m.2.HasPlainYears := by
    simp only [orgFields, List.forall_mem_cons, List.not_mem_nil, false_implies, implies_true,
      and_true]
    refine ⟨⟨?_, ?_⟩, ?_, ?_⟩
    · rintro d ⟨⟩
    · rintro t ⟨⟩
    · rintro d ⟨⟩
    · rintro t ⟨⟩
      exact ⟨by decide, by decide⟩
  constructor
  · rintro d ⟨⟩
    next m hd hm => exact (hplain m hm).date d hd
  · rintro t ⟨⟩
    next m ht hm => exact (hplain m hm).dateTime t ht

/-- The organization is written and read back as it was decoded. -/
theorem decode_encodeRecord_orgPayload :
    decode registry orgPayload (.named "Entity") = .ok (some (.record "Org" orgFields)) ∧
    (Value.record "Org" orgFields).HasPlainYears ∧
    ∃ written, encodeRecord registry ⟨"Org", orgFields⟩ = .ok written ∧
      decode registry written (.named "Org") = .ok (some (.record "Org" orgFields)) :=
  ⟨decode_orgPayload, hasPlainYears_orgFields,
    decode_encodeRecord_of_decode isValid_registry distinctWireKeys_registry decode_orgPayload
      hasPlainYears_orgFields⟩

end Sample

end Payload

end CloudDirector
