import CloudDirector.Proofs.Payload.Dispatch

/-!
# Decoding that fails

A walk fails where one of its parts fails, and adds the place of the part to the trail.  So one level
of a failing decoding is described from the outside: the payload is refused for its own kind, the
shape could not be planned, or one part was refused.
-/

namespace CloudDirector

variable {α β : Type}

lemma Result.map_eq_error {r : Result α} {f : α → β} {e : Report} :
    r.map f = .error e ↔ r = .error e := by
  cases r with
  | error e => simp [Except.map]
  | ok a => simp [Except.map]

lemma Result.bind_eq_error {r : Result α} {f : α → Result β} {e : Report} :
    r >>= f = .error e ↔ r = .error e ∨ ∃ a, r = .ok a ∧ f a = .error e := by
  cases r with
  | error e => simp [bind, Except.bind]
  | ok a => simp [bind, Except.bind]

/-- A report that has passed one more place. -/
def Report.passing (place : Place) (r : Report) : Report := ⟨r.failure, place :: r.trail⟩

@[simp] lemma Report.failure_passing (place : Place) (r : Report) :
    (r.passing place).failure = r.failure := rfl

lemma Result.passing_eq_error {r : Result α} {place : Place} {e : Report} :
    r.passing place = .error e ↔ ∃ e', r = .error e' ∧ e = e'.passing place := by
  cases r with
  | error e' => simp [Result.passing, Report.passing, eq_comm]
  | ok a => simp

/-- Gathering fails on the first item that the function fails on. -/
lemma gather_eq_error {f : α → Result (Option β)} {xs : List α} {e : Report}
    (h : gather f xs = .error e) :
    ∃ before x after, xs = before ++ x :: after ∧ f x = .error e ∧
      ∀ y ∈ before, ∃ found, f y = .ok found := by
  induction xs with
  | nil => cases h
  | cons x xs ih =>
    rw [gather] at h
    split at h
    · next e' hx =>
      cases h
      exact ⟨[], x, xs, rfl, hx, List.forall_mem_nil _⟩
    · next found hx =>
      split at h
      · next e' hrest =>
        cases h
        obtain ⟨before, y, after, rfl, hy, hbefore⟩ := ih hrest
        exact ⟨x :: before, y, after, rfl, hy, List.forall_mem_cons.2 ⟨⟨found, hx⟩, hbefore⟩⟩
      · cases h

/-- Where the function fails on one item only, that is what gathering fails with. -/
lemma gather_eq_error_of_mem {f : α → Result (Option β)} {xs : List α} {x : α} {e : Report}
    (hx : x ∈ xs) (h : f x = .error e) (hother : ∀ y ∈ xs, y ≠ x → ∃ found, f y = .ok found) :
    gather f xs = .error e := by
  induction xs with
  | nil => cases hx
  | cons y xs ih =>
    rw [gather]
    by_cases hyx : y = x
    · rw [hyx, h]
    · obtain ⟨found, hfound⟩ := hother y List.mem_cons_self hyx
      have hrest := ih ((List.mem_cons.1 hx).resolve_left (Ne.symm hyx))
        fun z hz => hother z (List.mem_cons_of_mem _ hz)
      rw [hfound, hrest]

namespace Payload

variable {reg : Registry} {shape element : Descriptor} {j : Json} {r : Report}

/-! ## Scalars and constants -/

/-- The report is about the value of a payload, and has passed no place. -/
def IsValueReport (r : Report) : Prop := ∃ fault, r = ⟨.value fault, []⟩

lemma isValueReport_of_failValue {fault : ValueFault}
    (h : (Result.failValue fault : Result α) = .error r) : IsValueReport r := by
  cases h
  exact ⟨fault, rfl⟩

lemma isValueReport_of_require {kind : Kind} {found : Option α}
    (h : require kind j found = .error r) : IsValueReport r := by
  cases found with
  | none => exact isValueReport_of_failValue h
  | some a => cases h

lemma isValueReport_of_decodeBytes {text : String} (h : decodeBytes text = .error r) :
    IsValueReport r := by
  rw [decodeBytes] at h
  split at h
  · cases h
  · exact isValueReport_of_failValue h

lemma isValueReport_of_decodeDate {text : String} (h : decodeDate text = .error r) :
    IsValueReport r := by
  rw [decodeDate] at h
  split at h
  · cases h
  · exact isValueReport_of_failValue h

lemma isValueReport_of_decodeDateTime {text : String} (h : decodeDateTime text = .error r) :
    IsValueReport r := by
  rw [decodeDateTime] at h
  split at h
  · cases h
  · exact isValueReport_of_failValue h

/-- A kind that is read from a text is refused where there is no text, or for what the text says. -/
lemma isValueReport_of_text {kind : Kind} {read : String → Result α} {make : α → Value}
    (hread : ∀ {text}, read text = .error r → IsValueReport r)
    (h : (do return make (← read (← require kind j j.string?)) : Result Value) = .error r) :
    IsValueReport r := by
  rcases Result.bind_eq_error.1 h with htext | ⟨text, -, hrest⟩
  · exact isValueReport_of_require htext
  · rcases Result.bind_eq_error.1 hrest with htext | ⟨a, -, hmade⟩
    · exact hread htext
    · cases hmade

/-- A scalar is refused for its value only. -/
lemma isValueReport_of_decodeScalar {kind : Kind} (h : decodeScalar j kind = .error r) :
    IsValueReport r := by
  cases kind with
  | int | float | bool | string => exact isValueReport_of_require (Result.map_eq_error.1 h)
  | bytes => exact isValueReport_of_text isValueReport_of_decodeBytes h
  | date => exact isValueReport_of_text isValueReport_of_decodeDate h
  | dateTime => exact isValueReport_of_text isValueReport_of_decodeDateTime h
  | json => cases h

/-- A constant is refused for its value only. -/
lemma isValueReport_of_decodeEnum {entry : EnumEntry} (h : decodeEnum j entry = .error r) :
    IsValueReport r := by
  rw [decodeEnum] at h
  split at h
  · exact isValueReport_of_failValue h
  · split at h <;> cases h

/-! ## Walks -/

/-- A list is refused for the first item that is. -/
lemma decodeItems_eq_error {i : Nat} {items : List Json}
    (h : decodeItems reg element i items = .error r) :
    ∃ before item after e, items = before ++ item :: after ∧
      decode reg item element = .error e ∧ r = e.passing (.listIndex (i + before.length)) ∧
      ∀ other ∈ before, ∃ found, decode reg other element = .ok found := by
  induction items generalizing i with
  | nil => cases h
  | cons item items ih =>
    rw [decodeItems] at h
    split at h
    · next e he =>
      cases h
      obtain ⟨e', he', rfl⟩ := Result.passing_eq_error.1 he
      exact ⟨[], item, items, e', rfl, he', rfl, List.forall_mem_nil _⟩
    · next found hfound =>
      obtain ⟨before, other, after, e, rfl, he, hr, hbefore⟩ := ih (Result.map_eq_error.1 h)
      refine ⟨item :: before, other, after, e, rfl, he, ?_,
        List.forall_mem_cons.2 ⟨⟨found, Result.passing_eq_ok.1 hfound⟩, hbefore⟩⟩
      rwa [Nat.add_right_comm, Nat.add_assoc] at hr

/-- A map is refused for the first entry that is. -/
lemma decodeEntries_eq_error {members : List (String × Json)}
    (h : decodeEntries reg element members = .error r) :
    ∃ before key item after e, members = before ++ (key, item) :: after ∧
      decode reg item element = .error e ∧ r = e.passing (.mapKey key) ∧
      ∀ other ∈ before, ∃ found, decode reg other.2 element = .ok found := by
  induction members with
  | nil => cases h
  | cons member members ih =>
    obtain ⟨key, item⟩ := member
    rw [decodeEntries] at h
    split at h
    · next e he =>
      cases h
      obtain ⟨e', he', rfl⟩ := Result.passing_eq_error.1 he
      exact ⟨[], key, item, members, e', rfl, he', rfl, List.forall_mem_nil _⟩
    · next found hfound =>
      obtain ⟨before, key', other, after, e, rfl, he, hr, hbefore⟩ := ih (Result.map_eq_error.1 h)
      exact ⟨(key, item) :: before, key', other, after, e, rfl, he, hr,
        List.forall_mem_cons.2 ⟨⟨found, Result.passing_eq_ok.1 hfound⟩, hbefore⟩⟩

/-- A field is refused for the member under its wire key. -/
lemma decodeMember_eq_error {typeName : String} {field : String × FieldSpec}
    {members : List (String × Json)} (h : decodeMember reg typeName field members = .error r) :
    ∃ (item : Json) (e : Report), Members.get? members field.2.wireKey = some item ∧
      decode reg item field.2.shape = .error e ∧
      r = e.passing (.wireField typeName field.1 field.2.wireKey) := by
  cases hget : Members.get? members field.2.wireKey with
  | none =>
    rw [decodeMember_of_get?_eq_none hget] at h
    cases h
  | some item =>
    rw [decodeMember_of_get?_eq_some hget] at h
    split at h
    · cases h
    · obtain ⟨e, he, hr⟩ := Result.passing_eq_error.1 (Result.map_eq_error.1 h)
      exact ⟨item, e, rfl, he, hr⟩

/-- A field that is read has a member that is decoded, or none. -/
lemma exists_decode_of_decodeMember {typeName : String} {field : String × FieldSpec}
    {members : List (String × Json)} {found : Option (String × Value)}
    (h : decodeMember reg typeName field members = .ok found) {item : Json}
    (hitem : Members.get? members field.2.wireKey = some item) :
    ∃ v, decode reg item field.2.shape = .ok v := by
  rw [decodeMember_of_get?_eq_some hitem] at h
  split at h
  · next hnull => exact ⟨none, by rw [decode, if_pos hnull]⟩
  · obtain ⟨v, hv, -⟩ := Result.map_eq_ok.1 h
    exact ⟨v, Result.passing_eq_ok.1 hv⟩

/-! ## One level of decoding -/

/-- Decoding comes from a payload to one of its parts, once all parts before it are decoded.  The
place is the one that a failure passes on its way out of the part. -/
inductive Enters (reg : Registry) : Descriptor → Json → Place → Descriptor → Json → Prop
  | item {element : Descriptor} {before after : List Json} {item : Json}
      (earlier : ∀ other ∈ before, ∃ found, decode reg other element = .ok found) :
      Enters reg (.list element) (.array (before ++ item :: after)) (.listIndex before.length)
        element item
  | entry {element : Descriptor} {before after : List (String × Json)} {key : String} {item : Json}
      (earlier : ∀ other ∈ before, ∃ found, decode reg other.2 element = .ok found) :
      Enters reg (.map element) (.object (before ++ (key, item) :: after)) (.mapKey key)
        element item
  | field {shape : Descriptor} {s : Schema} {members : List (String × Json)}
      {before after : List (String × FieldSpec)} {field : String × FieldSpec} {item : Json}
      (planned : plan reg (.object members) shape = .ok (.record s))
      (resolved : reg.resolvedFields s.typeName = .ok (before ++ field :: after))
      (found : Members.get? members field.2.wireKey = some item)
      (earlier : ∀ other ∈ before, ∀ k, Members.get? members other.2.wireKey = some k →
        ∃ found, decode reg k other.2.shape = .ok found) :
      Enters reg shape (.object members) (.wireField s.typeName field.1 field.2.wireKey)
        field.2.shape item

/-- One level of a decoding that fails: why a payload is refused where a shape is declared. -/
inductive Refused (reg : Registry) : Descriptor → Json → Report → Prop
  /-- The payload itself does not have the shape. -/
  | value {shape : Descriptor} {j : Json} (fault : ValueFault) : Refused reg shape j ⟨.value fault, []⟩
  /-- The types that the shape or the payload names could not be found. -/
  | unplanned {shape : Descriptor} {j : Json} {r : Report} (h : plan reg j shape = .error r) :
      Refused reg shape j r
  /-- The fields of the type could not be collected. -/
  | unresolved {shape : Descriptor} {s : Schema} {members : List (String × Json)} {r : Report}
      (planned : plan reg (.object members) shape = .ok (.record s))
      (h : reg.resolvedFields s.typeName = .error r) : Refused reg shape (.object members) r
  | part {shape element : Descriptor} {j k : Json} {place : Place} {r : Report}
      (enters : Enters reg shape j place element k) (h : decode reg k element = .error r) :
      Refused reg shape j (r.passing place)

lemma Refused.of_isValueReport (h : IsValueReport r) : Refused reg shape j r := by
  obtain ⟨fault, rfl⟩ := h
  exact .value fault

/-- A payload that is not decoded is refused at its own level or for one of its parts. -/
lemma refused_of_decode (h : decode reg j shape = .error r) : Refused reg shape j r := by
  rw [decode] at h
  split at h
  · cases h
  · cases hplan : plan reg j shape with
    | error e =>
      rw [hplan] at h
      cases h
      exact .unplanned hplan
    | ok p =>
      rw [hplan] at h
      rcases plan_cases hplan with ⟨element, rfl, rfl⟩ | ⟨element, rfl, rfl⟩ | ⟨kind, rfl, rfl⟩ |
        ⟨name, entry, rfl, -, rfl⟩ | ⟨s, dispatched, t, -, -, rfl⟩
      · simp only at h
        split at h
        · obtain ⟨before, item, after, e, rfl, he, rfl, hbefore⟩ :=
            decodeItems_eq_error (Result.map_eq_error.1 h)
          rw [Nat.zero_add]
          exact .part (.item hbefore) he
        · exact .of_isValueReport (isValueReport_of_failValue h)
      · simp only at h
        split at h
        · obtain ⟨before, key, item, after, e, rfl, he, rfl, hbefore⟩ :=
            decodeEntries_eq_error (Result.map_eq_error.1 h)
          exact .part (.entry hbefore) he
        · exact .of_isValueReport (isValueReport_of_failValue h)
      · exact .of_isValueReport (isValueReport_of_decodeScalar (Result.map_eq_error.1 h))
      · exact .of_isValueReport (isValueReport_of_decodeEnum (Result.map_eq_error.1 h))
      · simp only at h
        split at h
        · split at h
          · next e hspecs =>
            cases h
            exact .unresolved hplan hspecs
          · next specs hspecs =>
            obtain ⟨before, field, after, rfl, hmember, hbefore⟩ :=
              gather_eq_error (Result.map_eq_error.1 h)
            obtain ⟨item, e, hitem, he, rfl⟩ := decodeMember_eq_error hmember
            refine .part (.field hplan hspecs hitem fun other hother k hk => ?_) he
            obtain ⟨found, hfound⟩ := hbefore other hother
            exact exists_decode_of_decodeMember hfound hk
        · exact .of_isValueReport (isValueReport_of_failValue h)

end Payload

end CloudDirector
