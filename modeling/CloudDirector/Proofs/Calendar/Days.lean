import CloudDirector.Calendar.DateTime
import Mathlib.Algebra.Order.Ring.Int
import Mathlib.Algebra.Order.Ring.Nat

/-!
# Numbers of days

Every integer is the number of a day, and a day whose number is not too far from zero lies in the
supported years.  With that a date and time of the years 0 to 9999 can be read back, whatever day
it falls on in UTC.
-/

namespace CloudDirector

open Calendar

namespace Date

lemma month_mem {d : Date} : 1 ≤ d.month ∧ d.month ≤ 12 := by
  have hday := d.day_pos
  have hle := d.day_le
  rw [monthLength] at hle
  split at hle
  · omega
  · next hmonth =>
    refine ⟨by omega, ?_⟩
    by_contra hlarge
    have hlength : (monthLengths d.year).length ≤ d.month - 1 := by
      simp only [monthLengths, List.length_cons, List.length_nil]
      omega
    rw [List.getD_eq_getElem?_getD, List.getElem?_eq_none hlength, Option.getD_none] at hle
    omega

lemma monthLength_le (year : Int) (month : Nat) : monthLength year month ≤ 31 := by
  have hall : ∀ n ∈ monthLengths year, n ≤ 31 := by
    cases h : isLeapYear year <;> simp [monthLengths, h]
  rw [monthLength]
  split
  · omega
  · rw [List.getD_eq_getElem?_getD]
    cases h : (monthLengths year)[month - 1]? with
    | none => simp
    | some n => exact hall n (List.mem_of_getElem? h)

lemma day_le_31 (d : Date) : d.day ≤ 31 := Nat.le_trans d.day_le (monthLength_le ..)

/-! ## The day of a number -/

/-- The days of a year lead to a month and a day that it has. -/
lemma locate_spec (first : Nat) (lengths : List Nat) (days : Nat) (h : days < lengths.sum) :
    ∃ i n, lengths[i]? = some n ∧ (locate first lengths days).1 = first + i ∧
      1 ≤ (locate first lengths days).2 ∧ (locate first lengths days).2 ≤ n := by
  induction lengths generalizing first days with
  | nil => simp at h
  | cons n rest ih =>
    rw [List.sum_cons] at h
    rw [locate]
    split
    · exact ⟨0, n, rfl, rfl, by simp, by simpa⟩
    · obtain ⟨i, m, hm, hfirst, hpos, hle⟩ := ih (first + 1) (days - n) (by omega)
      exact ⟨i + 1, m, by simpa using hm, by omega, hpos, hle⟩

lemma sum_monthLengths (year : Int) :
    (monthLengths year).sum = if isLeapYear year then 366 else 365 := by
  cases h : isLeapYear year <;> simp [monthLengths, h]

lemma isSome_ofParts?_locate {year : Int} {days : Nat}
    (h : days < if isLeapYear year then 366 else 365) :
    ∃ d, ofParts? year (locate 1 (monthLengths year) days).1
      (locate 1 (monthLengths year) days).2 = some d ∧ d.year = year := by
  rw [← sum_monthLengths] at h
  obtain ⟨i, n, hn, hmonth, hpos, hle⟩ := locate_spec 1 (monthLengths year) days h
  have hlength : monthLength year (1 + i) = n := by
    rw [monthLength, if_neg (by omega), Nat.add_sub_cancel_left, List.getD_eq_getElem?_getD, hn,
      Option.getD_some]
  rw [hmonth]
  rw [← hlength] at hle
  exact ⟨_, dif_pos ⟨hpos, hle⟩, rfl⟩

lemma isLeapYear_iff {year : Int} :
    isLeapYear year = true ↔ year % 4 = 0 ∧ (year % 100 ≠ 0 ∨ year % 400 = 0) := by
  simp [isLeapYear]

/-- Four centuries, centuries, groups of four years and single years, taken off one after another,
leave fewer days than the year has: the 366th day is left in leap years only. -/
lemma days_lt_of_cycles {n : Int} {cycle century quad single : Nat}
    (hcycle : cycle = (n % 146097).toNat) (hcentury : century = min (cycle / 36524) 3)
    (hquad : quad = (cycle - century * 36524) / 1461)
    (hsingle : single = min ((cycle - century * 36524) % 1461 / 365) 3) :
    (cycle - century * 36524) % 1461 - single * 365 <
      if isLeapYear (n / 146097 * 400 + century * 100 + quad * 4 + single + 1) then 366 else 365 := by
  have hbound : cycle < 146097 := by omega
  split
  · omega
  · next hleap =>
    rw [isLeapYear_iff] at hleap
    by_contra hlarge
    -- only the last day of a group of four years could be left
    have hlast : (cycle - century * 36524) % 1461 = 1460 ∧ single = 3 := by omega
    have hquads : quad ≤ 23 ∨ (quad = 24 ∧ century = 3) := by omega
    apply hleap
    rw [hlast.2]
    omega

/-- Every number is the number of a day, whose year is near the number of days divided by the
length of a year. -/
lemma exists_ofDays? (days : Int) :
    ∃ d, ofDays? days = some d ∧ (days + epoch) / 146097 * 400 < d.year ∧
      d.year ≤ (days + epoch) / 146097 * 400 + 400 := by
  obtain ⟨d, hd, hyear⟩ := isSome_ofParts?_locate
    (days_lt_of_cycles (n := days + epoch) rfl rfl rfl rfl)
  refine ⟨d, hd, ?_, ?_⟩ <;> rw [hyear] <;> omega

/-- A day that is not ten million days away is in the supported years. -/
lemma exists_isSupported_ofDays? {days : Int} (h : -10000000 ≤ days ∧ days ≤ 10000000) :
    ∃ d, ofDays? days = some d ∧ d.isSupported = true := by
  obtain ⟨d, hd, hlow, hhigh⟩ := exists_ofDays? days
  refine ⟨d, hd, ?_⟩
  rw [isSupported, Bool.and_eq_true, decide_eq_true_iff, decide_eq_true_iff]
  simp only [epoch] at hlow hhigh
  omega

/-- The days of the years 0 to 9999 have numbers below ten million. -/
lemma toDays_bounds {d : Date} (h : 0 ≤ d.year ∧ d.year ≤ 9999) :
    -1000000 ≤ d.toDays ∧ d.toDays ≤ 5000000 := by
  have hbefore : ((monthLengths d.year).take (d.month - 1)).foldl (· + ·) 0 ≤ 366 := by
    rw [← List.sum_eq_foldl_nat]
    have hsum := sum_monthLengths d.year
    rw [← List.take_append_drop (d.month - 1) (monthLengths d.year), List.sum_append] at hsum
    split at hsum <;> omega
  have hday := d.day_le_31
  simp only [toDays, daysBeforeYear, epoch]
  omega

end Date

/-- A date and time of the years 0 to 9999 falls on a supported day in UTC. -/
lemma DateTime.exists_utcDay {t : DateTime} (h : 0 ≤ t.date.year ∧ t.date.year ≤ 9999) :
    ∃ d, Date.ofDays? t.utcDay = some d ∧ d.isSupported = true := by
  have hdays := Date.toDays_bounds h
  have hoffset := t.offset_lt
  have hseconds := t.time.seconds_lt
  refine Date.exists_isSupported_ofDays? ?_
  simp only [utcDay, unixSeconds]
  omega

end CloudDirector
