import CloudDirector.Proofs.Calendar.Reading

/-!
# Clocks that are read

Whatever layout a text follows, a distance from UTC is read in hours and minutes, a fraction is less
than a second, and a leap second is read from the number 60 only.  So every date and time that is
read has an offset of whole minutes, its leap second ends a minute if it is in one, and its written
form loses nothing of either.
-/

namespace CloudDirector

namespace Calendar

/-! ## Offsets -/

lemma signed_minutes (sign : Int) (hours minutes : Nat) :
    sign * (hours * 3600 + minutes * 60) % 60 = 0 := by
  have hdvd : (60 : Int) ∣ hours * 3600 + minutes * 60 := by omega
  exact Int.emod_eq_zero_of_dvd (Int.dvd_trans hdvd (Int.dvd_mul_left sign _))

/-- A distance from UTC that is read is a sign, two numbers and what separates them. -/
lemma readOffset_eq_some {separator : List Char → Option (List Char)} {cs rest : List Char}
    {offset : Int} (h : readOffset separator cs = some (offset, rest)) :
    ∃ c tail hours after after' minutes, cs = c :: tail ∧ readTwo tail = some (hours, after) ∧
      separator after = some after' ∧ readTwo after' = some (minutes, rest) ∧
      ∃ sign : Int, offset = sign * (hours * 3600 + minutes * 60) := by
  cases cs with
  | nil => cases h
  | cons c tail =>
    rw [readOffset] at h
    -- the sign is read first, and decides the branch
    obtain ⟨sign, h⟩ : ∃ sign : Int, ((readTwo tail).bind fun hours =>
        (separator hours.2).bind fun after => (readTwo after).bind fun minutes =>
          if 60 ≤ minutes.1 then none
          else some (sign * (hours.1 * 3600 + minutes.1 * 60), minutes.2)) =
            some (offset, rest) := by
      split at h
      · exact ⟨1, h⟩
      · split at h
        · exact ⟨-1, h⟩
        · cases h
    simp only [Option.bind_eq_some_iff] at h
    obtain ⟨⟨hours, after⟩, hhours, after', hafter, ⟨minutes, _⟩, hminutes, h⟩ := h
    split at h
    · cases h
    · cases h
      exact ⟨c, tail, hours, after, after', minutes, rfl, hhours, hafter, hminutes, sign, rfl⟩

lemma offset_of_readOffset {separator : List Char → Option (List Char)} {cs rest : List Char}
    {offset : Int} (h : readOffset separator cs = some (offset, rest)) : offset % 60 = 0 := by
  obtain ⟨_, _, hours, _, _, minutes, -, -, -, -, sign, rfl⟩ := readOffset_eq_some h
  exact signed_minutes sign hours minutes

lemma offset_of_readZone {cs rest : List Char} {offset : Int}
    (h : readZone cs = some (offset, rest)) : offset % 60 = 0 := by
  rw [readZone.eq_def] at h
  split at h
  · cases h
    rfl
  · cases h
    rfl
  · exact offset_of_readOffset h

/-! ## Fractions -/

lemma digit?_lt {c : Char} {d : Nat} (h : digit? c = some d) : d < 10 := by
  rw [digit?] at h
  split at h
  · next hc =>
    cases h
    have hle : c.toNat ≤ 57 := (Char.isDigit_iff_toNat.1 hc).2
    omega
  · cases h

lemma readDigits_lt (n limit : Nat) (cs : List Char) :
    (readDigits n limit cs).1 < (n + 1) * 10 ^ (readDigits n limit cs).2.1 ∧
      (readDigits n limit cs).2.1 ≤ limit := by
  induction limit generalizing n cs with
  | zero => simp [readDigits_zero]
  | succ limit ih =>
    cases cs with
    | nil => simp [readDigits]
    | cons c rest =>
      rw [readDigits]
      split
      · next d hd =>
        obtain ⟨hlt, hle⟩ := ih (n * 10 + d) rest
        have hdigit : d < 10 := digit?_lt hd
        refine ⟨Nat.lt_of_lt_of_le hlt ?_, Nat.succ_le_succ hle⟩
        -- one digit more multiplies the bound by ten
        rw [Nat.pow_succ', ← Nat.mul_assoc]
        exact Nat.mul_le_mul_right _ (by omega)
      · simp

lemma nanos_of_readNanos {cs rest : List Char} {nanos : Nat}
    (h : readNanos cs = some (nanos, rest)) : nanos < TimeOfDay.nanosPerSecond := by
  rw [readNanos] at h
  split at h
  · cases h
  · next n count after _ hread =>
    cases h
    obtain ⟨hlt, hle⟩ := readDigits_lt 0 9 cs
    rw [hread, Nat.zero_add, Nat.one_mul] at hlt
    rw [hread] at hle
    calc n * 10 ^ (9 - count) < 10 ^ count * 10 ^ (9 - count) :=
          Nat.mul_lt_mul_of_pos_right hlt (Nat.pow_pos (by decide))
      _ = TimeOfDay.nanosPerSecond := by rw [← Nat.pow_add, Nat.add_sub_cancel' hle]; rfl

lemma nanos_of_readFraction {cs rest : List Char} {nanos : Nat}
    (h : readFraction cs = some (nanos, rest)) : nanos < TimeOfDay.nanosPerSecond := by
  rw [readFraction.eq_def] at h
  split at h
  · exact nanos_of_readNanos h
  · cases h
    decide

/-! ## Layouts -/

/-- The offset and the fraction are as readers give them. -/
structure Fields.HasPlainClock (fields : Fields) : Prop where
  offset : fields.offset % 60 = 0
  nanos_lt : fields.nanos < TimeOfDay.nanosPerSecond

lemma hasPlainClock_of_readInternet {cs : List Char} {fields : Fields}
    (h : readInternet cs = some fields) : fields.HasPlainClock := by
  simp only [readInternet, Option.bind_eq_bind, Option.bind_eq_some_iff] at h
  obtain ⟨_, -, _, -, _, -, _, hfraction, ⟨offset, rest⟩, hzone, h⟩ := h
  cases rest with
  | nil =>
    cases h
    exact ⟨offset_of_readZone hzone, nanos_of_readFraction hfraction⟩
  | cons c rest => cases h

/-- Each part of a layout keeps the offset, or it is the offset and reads one; and it keeps the
nanoseconds or reads less than a second of them. -/
lemma clock_of_read {part : Part} {fields fields' : Fields} {cs rest : List Char}
    (h : part.read fields cs = some (fields', rest)) :
    (fields'.offset = fields.offset ∨ part = .offset ∧ fields'.offset % 60 = 0) ∧
      (fields'.nanos = fields.nanos ∨ fields'.nanos < TimeOfDay.nanosPerSecond) := by
  cases part with
  | year | month | day | hour | minute | second =>
    obtain ⟨_, -, heq⟩ := Option.map_eq_some_iff.1 h
    cases heq
    exact ⟨Or.inl rfl, Or.inl rfl⟩
  | fraction =>
    simp only [Part.read] at h
    split at h
    · obtain ⟨_, hread, heq⟩ := Option.map_eq_some_iff.1 h
      cases heq
      exact ⟨Or.inl rfl, Or.inr (nanos_of_readNanos hread)⟩
    · cases h
      exact ⟨Or.inl rfl, Or.inl rfl⟩
  | offset =>
    obtain ⟨_, hread, heq⟩ := Option.map_eq_some_iff.1 h
    cases heq
    exact ⟨Or.inr ⟨rfl, offset_of_readOffset hread⟩, Or.inl rfl⟩
  | mark m =>
    simp only [Part.read] at h
    split at h
    · split at h
      · cases h
        exact ⟨Or.inl rfl, Or.inl rfl⟩
      · cases h
    · cases h
  | gap =>
    cases h
    exact ⟨Or.inl rfl, Or.inl rfl⟩

/-- Parts of a layout without an offset keep it. -/
lemma offset_eq_of_readParts {parts : List Part} {fields fields' : Fields} {cs rest : List Char}
    (hparts : .offset ∉ parts) (h : readParts parts fields cs = some (fields', rest)) :
    fields'.offset = fields.offset := by
  induction parts generalizing fields cs with
  | nil =>
    cases h
    rfl
  | cons part parts ih =>
    obtain ⟨⟨next, after⟩, hpart, hparts'⟩ := Option.bind_eq_some_iff.1 h
    rw [ih (List.not_mem_of_not_mem_cons hparts) hparts']
    refine (clock_of_read hpart).1.resolve_right fun hoffset => hparts ?_
    exact hoffset.1 ▸ List.mem_cons_self

lemma hasPlainClock_of_readParts {parts : List Part} {fields fields' : Fields}
    {cs rest : List Char} (hfields : fields.HasPlainClock)
    (h : readParts parts fields cs = some (fields', rest)) : fields'.HasPlainClock := by
  induction parts generalizing fields cs with
  | nil =>
    cases h
    exact hfields
  | cons part parts ih =>
    obtain ⟨⟨next, after⟩, hpart, hparts⟩ := Option.bind_eq_some_iff.1 h
    obtain ⟨hoffset, hnanos⟩ := clock_of_read hpart
    refine ih ⟨?_, ?_⟩ hparts
    · rcases hoffset with hoffset | ⟨-, hoffset⟩
      · rw [hoffset]
        exact hfields.offset
      · exact hoffset
    · rcases hnanos with hnanos | hnanos
      · rw [hnanos]
        exact hfields.nanos_lt
      · exact hnanos

lemma hasPlainClock_of_readLayout {layout : List Part} {fields : Fields} {cs : List Char}
    (h : readLayout layout cs = some fields) : fields.HasPlainClock := by
  rw [readLayout] at h
  split at h
  · next hparts =>
    cases h
    exact hasPlainClock_of_readParts ⟨rfl, by decide⟩ hparts
  · cases h

/-! ## Dates and times -/

lemma parts_of_dateTime? {fields : Fields} {t : DateTime} (h : fields.dateTime? = some t) :
    fields.time? = some t.time ∧ t.offset = fields.offset := by
  simp only [Fields.dateTime?, Option.bind_eq_bind, Option.bind_eq_some_iff] at h
  obtain ⟨date, -, time, htime, u, hu, day, -, h⟩ := h
  split at h
  · cases h
    rw [DateTime.ofParts?] at hu
    split at hu
    · cases hu
      exact ⟨htime, rfl⟩
    · cases hu
  · cases h

lemma offset_of_dateTime? {fields : Fields} {t : DateTime} (h : fields.dateTime? = some t) :
    t.offset = fields.offset := (parts_of_dateTime? h).2

/-- The number 60 is the only one that is read as a leap second, the one after second 59. -/
lemma seconds_of_time? {fields : Fields} {t : TimeOfDay}
    (hnanos : fields.nanos < TimeOfDay.nanosPerSecond) (h : fields.time? = some t)
    (hleap : t.isLeap = true) : t.seconds % 60 = 59 := by
  rw [Fields.time?] at h
  split at h
  · split at h
    · rw [TimeOfDay.ofParts?] at h
      split at h
      · cases h
        show (fields.hour * 3600 + fields.minute * 60 + 59) % 60 = 59
        omega
      · cases h
    · rw [TimeOfDay.ofParts?] at h
      split at h
      · cases h
        exact absurd hnanos (Nat.not_lt.2 (of_decide_eq_true hleap))
      · cases h
  · cases h

lemma clock_of_bind {read : Option Fields} {t : DateTime}
    (hread : ∀ fields, read = some fields → fields.HasPlainClock)
    (h : read.bind Fields.dateTime? = some t) : t.HasWholeMinutes ∧ t.HasPlainSecond := by
  obtain ⟨fields, hfields, ht⟩ := Option.bind_eq_some_iff.1 h
  obtain ⟨htime, hoffset⟩ := parts_of_dateTime? ht
  have hclock := hread fields hfields
  refine ⟨?_, seconds_of_time? hclock.nanos_lt htime⟩
  rw [DateTime.HasWholeMinutes, hoffset]
  exact hclock.offset

lemma clock_of_findSome? {layouts : List (List Part)} {cs : List Char} {t : DateTime}
    (h : layouts.findSome? (fun layout => (readLayout layout cs).bind Fields.dateTime?) = some t) :
    t.HasWholeMinutes ∧ t.HasPlainSecond := by
  obtain ⟨layout, -, hlayout⟩ := List.exists_of_findSome?_eq_some h
  exact clock_of_bind (fun fields hfields => hasPlainClock_of_readLayout hfields) hlayout

lemma clock_of_readDateTime {cs : List Char} {t : DateTime} (h : readDateTime cs = some t) :
    t.HasWholeMinutes ∧ t.HasPlainSecond := by
  simp only [readDateTime, Option.orElse_eq_orElse, Option.orElse_eq_or, Option.or_eq_some_iff] at h
  rcases h with h | ⟨-, h | ⟨-, h | ⟨-, h⟩⟩⟩
  · exact clock_of_bind (fun fields hfields => hasPlainClock_of_readInternet hfields) h
  · exact clock_of_findSome? h
  · exact clock_of_findSome? h
  · obtain ⟨d, -, rfl⟩ := Option.map_eq_some_iff.1 h
    exact ⟨rfl, DateTime.hasPlainSecond_of_isLeap_eq_false rfl⟩

end Calendar

open Calendar

/-- Dates and times that are read have offsets of whole minutes, and leap seconds at the end of a
minute only. -/
lemma DateTime.clock_of_ofString? {text : String} {t : DateTime} (h : ofString? text = some t) :
    t.HasWholeMinutes ∧ t.HasPlainSecond :=
  clock_of_readDateTime h

end CloudDirector
