import CloudDirector.Calendar.Iso
import CloudDirector.Proofs.Calendar.Days
import CloudDirector.Proofs.Text.Runs
import Mathlib.Data.List.Basic

/-!
# Written dates are read back

A date of the years 0 to 9999 is what its written form is read as, and so is a date and time if its
offset is of whole minutes and a leap second, should it be in one, ends a minute.  Numbers are
written with zeros in front up to a width, and every reader takes exactly that many digits; so the
text is read part by part, each part leaving what was written after it.
-/

namespace CloudDirector

namespace Calendar

open Text

variable {digits rest : List Char} {limit : Nat}

/-! ## Digits -/

lemma isDigit_of_mem_padded {width n : Nat} {c : Char} (h : c ∈ padded width n) :
    c.isDigit = true := by
  rcases List.mem_append.1 h with hzero | hdigit
  · rw [List.eq_of_mem_replicate hzero]
    rfl
  · exact Nat.isDigit_of_mem_toDigits (by decide) (by decide) hdigit

lemma length_padded (width : Nat) {n : Nat} (hwidth : 0 < width) (h : n < 10 ^ width) :
    (padded width n).length = width := by
  have hle := (Nat.length_toDigits_le_iff (b := 10) (by decide) hwidth).2 h
  rw [padded, List.length_append, List.length_replicate]
  omega

lemma padded_ne_nil {width n : Nat} (hwidth : 0 < width) (h : n < 10 ^ width) :
    padded width n ≠ [] := by
  rw [← List.length_pos_iff, length_padded width hwidth h]
  exact hwidth

lemma ofDigitChars_padded (width n : Nat) : Nat.ofDigitChars 10 (padded width n) 0 = n := by
  rw [padded, Nat.ofDigitChars_append, Nat.ofDigitChars_replicate_zero, Nat.mul_zero,
    Nat.ofDigitChars_ten_toDigits]

lemma readDigits_append {digits : List Char} (hdigits : ∀ c ∈ digits, c.isDigit = true)
    (n limit : Nat) (rest : List Char) :
    readDigits n (digits.length + limit) (digits ++ rest) =
      ((readDigits (Nat.ofDigitChars 10 digits n) limit rest).1,
        (readDigits (Nat.ofDigitChars 10 digits n) limit rest).2.1 + digits.length,
        (readDigits (Nat.ofDigitChars 10 digits n) limit rest).2.2) := by
  induction digits generalizing n with
  | nil => simp
  | cons c digits ih =>
    have hc : digit? c = some (c.toNat - 48) := if_pos (hdigits c List.mem_cons_self)
    have hrest := ih (fun d hd => hdigits d (List.mem_cons_of_mem _ hd)) (n * 10 + (c.toNat - 48))
    rw [List.length_cons, Nat.add_right_comm, List.cons_append, readDigits, hc]
    simp only [hrest, Nat.ofDigitChars_cons, Nat.mul_comm 10 n]
    rfl

lemma readDigits_zero (n : Nat) (cs : List Char) : readDigits n 0 cs = (n, 0, cs) := by
  rw [readDigits.eq_def]

/-- The text ends or goes on with something else than a digit. -/
def EndsDigits (rest : List Char) : Prop := ∀ c ∈ rest.head?, c.isDigit = false

lemma readDigits_of_endsDigits {rest : List Char} (h : EndsDigits rest) (n limit : Nat) :
    readDigits n limit rest = (n, 0, rest) := by
  cases limit with
  | zero => exact readDigits_zero n rest
  | succ limit =>
    cases rest with
    | nil => rw [readDigits]; simp
    | cons c rest =>
      have hc : digit? c = none := if_neg (by simp [h c rfl])
      rw [readDigits, hc]

/-- These are the digits that a reader of at most `limit` digits takes if `rest` comes after them. -/
structure AreTaken (limit : Nat) (digits rest : List Char) : Prop where
  isDigit : ∀ c ∈ digits, c.isDigit = true
  length_le : digits.length ≤ limit
  ends : digits.length = limit ∨ EndsDigits rest

lemma readDigits_of_areTaken (h : AreTaken limit digits rest) (n : Nat) :
    readDigits n limit (digits ++ rest) =
      (Nat.ofDigitChars 10 digits n, digits.length, rest) := by
  have hread := readDigits_append h.isDigit n (limit - digits.length) rest
  rw [Nat.add_sub_cancel' h.length_le] at hread
  have hnone : ∀ m, readDigits m (limit - digits.length) rest = (m, 0, rest) := by
    intro m
    rcases h.ends with hlength | hrest
    · rw [hlength, Nat.sub_self, readDigits_zero]
    · exact readDigits_of_endsDigits hrest m _
  rw [hread, hnone, Nat.zero_add]

lemma areTaken_padded {width n : Nat} (hwidth : 0 < width) (h : n < 10 ^ width) (rest : List Char) :
    AreTaken width (padded width n) rest where
  isDigit _ hc := isDigit_of_mem_padded hc
  length_le := Nat.le_of_eq (length_padded width hwidth h)
  ends := Or.inl (length_padded width hwidth h)

/-- As many digits as are asked for are read, whatever comes after them. -/
lemma readDigits_padded (width : Nat) {n : Nat} (hwidth : 0 < width) (h : n < 10 ^ width)
    (rest : List Char) : readDigits 0 width (padded width n ++ rest) = (n, width, rest) := by
  rw [readDigits_of_areTaken (areTaken_padded hwidth h rest), ofDigitChars_padded,
    length_padded width hwidth h]

lemma readFixed_padded (width : Nat) {n : Nat} (hwidth : 0 < width) (h : n < 10 ^ width)
    (rest : List Char) : readFixed width (padded width n ++ rest) = some (n, rest) := by
  rw [readFixed, readDigits_padded width hwidth h]
  simp

lemma readNumber_of_areTaken (hne : digits ≠ []) (h : AreTaken limit digits rest) :
    readNumber limit (digits ++ rest) = some (Nat.ofDigitChars 10 digits 0, rest) := by
  rw [readNumber, readDigits_of_areTaken h]
  cases digits with
  | nil => exact absurd rfl hne
  | cons c digits => rfl

lemma readNumber_padded (width : Nat) {n : Nat} (hwidth : 0 < width) (h : n < 10 ^ width)
    (rest : List Char) : readNumber width (padded width n ++ rest) = some (n, rest) := by
  rw [readNumber_of_areTaken (padded_ne_nil hwidth h) (areTaken_padded hwidth h rest),
    ofDigitChars_padded]

lemma readTwo_padded {n : Nat} (h : n < 100) (rest : List Char) :
    readTwo (padded 2 n ++ rest) = some (n, rest) := by
  have hlength := length_padded 2 (by decide) h
  have hvalue := ofDigitChars_padded 2 n
  have hdigit := fun c (hc : c ∈ padded 2 n) => isDigit_of_mem_padded hc
  obtain ⟨a, b, hab⟩ := List.length_eq_two.1 hlength
  rw [hab] at hvalue hdigit ⊢
  have ha : digit? a = some (a.toNat - 48) := if_pos (hdigit a (by simp))
  have hb : digit? b = some (b.toNat - 48) := if_pos (hdigit b (by simp))
  simp only [Nat.ofDigitChars_cons, Nat.ofDigitChars_nil] at hvalue
  simp only [List.cons_append, List.nil_append, readTwo, ha, hb]
  simp only [Option.bind_eq_bind, Option.bind_some, ← hvalue]
  simp [Nat.mul_comm]

/-- Of all the digits after a point the first nine count. -/
lemma readNanos_append (hne : digits ≠ []) (hdigits : ∀ c ∈ digits, c.isDigit = true)
    (hrest : EndsDigits rest) :
    readNanos (digits ++ rest) =
      some (Nat.ofDigitChars 10 (digits.take 9) 0 * 10 ^ (9 - (digits.take 9).length), rest) := by
  have htaken : AreTaken 9 (digits.take 9) (digits.drop 9 ++ rest) := by
    refine ⟨fun c hc => hdigits c (List.mem_of_mem_take hc), List.length_take_le .., ?_⟩
    rcases Nat.le_total 9 digits.length with hle | hle
    · exact Or.inl (List.length_take_of_le hle)
    · rw [List.drop_eq_nil_of_le hle]
      exact Or.inr hrest
  have hdrop : (digits.drop 9 ++ rest).dropWhile Char.isDigit = rest :=
    (takeWhile_append_of_stops (fun c hc => hdigits c (List.mem_of_mem_drop hc)) hrest).2
  have hread := readDigits_of_areTaken htaken 0
  rw [← List.append_assoc, List.take_append_drop] at hread
  rw [readNanos, hread]
  obtain ⟨c, ds, rfl⟩ := List.exists_cons_of_ne_nil hne
  rw [List.take_succ_cons, List.length_cons]
  exact congrArg (fun after => some (_, after)) hdrop

lemma readNanos_padded {width n : Nat} (hwidth : 0 < width ∧ width ≤ 9) (h : n < 10 ^ width)
    {rest : List Char} (hrest : EndsDigits rest) :
    readNanos (padded width n ++ rest) = some (n * 10 ^ (9 - width), rest) := by
  have hlength := length_padded width hwidth.1 h
  rw [readNanos_append (padded_ne_nil hwidth.1 h) (fun c hc => isDigit_of_mem_padded hc) hrest,
    List.take_of_length_le (hlength.trans_le hwidth.2), ofDigitChars_padded, hlength]

/-- A number that is written with at least one digit starts with a digit. -/
lemma exists_cons_padded (width n : Nat) (hwidth : 0 < width) :
    ∃ c cs, padded width n = c :: cs ∧ c.isDigit = true := by
  cases h : padded width n with
  | nil =>
    have hlength := congrArg List.length h
    rw [padded, List.length_append, List.length_replicate, List.length_nil] at hlength
    omega
  | cons c cs => exact ⟨c, cs, rfl, isDigit_of_mem_padded (h ▸ List.mem_cons_self)⟩

/-! ## The internet format -/

lemma readTriple_padded {width a b c : Nat} (hwidth : 0 < width) (ha : a < 10 ^ width)
    (hb : b < 10 ^ 2) (hc : c < 10 ^ 2) (m : Char) (rest : List Char) :
    readTriple width m (padded width a ++ m :: (padded 2 b ++ m :: (padded 2 c ++ rest))) =
      some ((a, b, c), rest) := by
  rw [readTriple, readFixed_padded width hwidth ha]
  simp only [skip, if_true, Option.bind_eq_bind, Option.bind_some,
    readFixed_padded 2 (by decide) hb, readFixed_padded 2 (by decide) hc]
  rfl

lemma readInternet_eq {year month day hour minute second nanos : Nat} {offset : Int}
    (hyear : year < 10 ^ 4) (hmonth : month < 10 ^ 2) (hday : day < 10 ^ 2) (hhour : hour < 10 ^ 2)
    (hminute : minute < 10 ^ 2) (hsecond : second < 10 ^ 2) {afterSeconds afterFraction : List Char}
    (hfraction : readFraction afterSeconds = some (nanos, afterFraction))
    (hzone : readZone afterFraction = some (offset, [])) :
    readInternet (padded 4 year ++ '-' :: (padded 2 month ++ '-' :: (padded 2 day ++ 'T' ::
      (padded 2 hour ++ ':' :: (padded 2 minute ++ ':' :: (padded 2 second ++ afterSeconds)))))) =
      some { year, month, day, hour, minute, second, nanos, offset } := by
  have hdate := readTriple_padded (by decide) hyear hmonth hday '-' ('T' ::
    (padded 2 hour ++ ':' :: (padded 2 minute ++ ':' :: (padded 2 second ++ afterSeconds))))
  have htime := readTriple_padded (by decide) hhour hminute hsecond ':' afterSeconds
  rw [readInternet, hdate]
  simp only [skipBetween, true_or, if_true, Option.bind_eq_bind, Option.bind_some, htime,
    hfraction, hzone]

lemma readFraction_renderFraction {nanos : Nat} (h : nanos < 1000000000) {rest : List Char}
    (hrest : EndsDigits rest) (hpoint : rest.head? ≠ some '.') :
    readFraction (renderFraction nanos ++ rest) = some (nanos, rest) := by
  rw [renderFraction]
  split
  · next hzero =>
    subst hzero
    rw [List.nil_append, readFraction.eq_def]
    split
    · simp at hpoint
    · rfl
  split
  · rw [List.cons_append, readFraction,
      readNanos_padded (by decide) (show nanos / 1000000 < 10 ^ 3 by omega) hrest,
      show nanos / 1000000 * 10 ^ (9 - 3) = nanos by omega]
  split
  · rw [List.cons_append, readFraction,
      readNanos_padded (by decide) (show nanos / 1000 < 10 ^ 6 by omega) hrest,
      show nanos / 1000 * 10 ^ (9 - 6) = nanos by omega]
  · rw [List.cons_append, readFraction, readNanos_padded (by decide) h hrest]
    simp

lemma readOffset_sign {sign : Char} {factor : Int} {hours minutes : Nat}
    (hsign : (sign = '+' ∧ factor = 1) ∨ (sign = '-' ∧ factor = -1)) (hhours : hours < 100)
    (hminutes : minutes < 60) :
    readOffset colonSeparator (sign :: (padded 2 hours ++ ':' :: padded 2 minutes)) =
      some (factor * (hours * 3600 + minutes * 60), []) := by
  have htwo := readTwo_padded (show minutes < 100 by omega) []
  rw [List.append_nil] at htwo
  have hsmall : ¬60 ≤ minutes := by omega
  rcases hsign with ⟨rfl, rfl⟩ | ⟨rfl, rfl⟩ <;>
    simp [readOffset, readTwo_padded hhours, colonSeparator, htwo, hsmall]

/-- An offset of whole minutes is read back. -/
lemma readZone_renderOffset {offset : Int} (h : -86400 < offset ∧ offset < 86400)
    (hminutes : offset % 60 = 0) : readZone (renderOffset offset) = some (offset, []) := by
  rw [renderOffset]
  split
  · next hzero =>
    subst hzero
    rfl
  · have hhours : (offset.natAbs + 30) / 60 / 60 < 100 := by omega
    have hsixty : (offset.natAbs + 30) / 60 % 60 < 60 := by omega
    split
    · rw [List.cons_append, readZone, readOffset_sign (Or.inr ⟨rfl, rfl⟩) hhours hsixty]
      · simp only [Option.some.injEq, Prod.mk.injEq, and_true]
        omega
      · simp
      · simp
    · rw [List.cons_append, readZone, readOffset_sign (Or.inl ⟨rfl, rfl⟩) hhours hsixty]
      · simp only [Option.some.injEq, Prod.mk.injEq, and_true]
        omega
      · simp
      · simp

lemma renderOffset_head (offset : Int) :
    EndsDigits (renderOffset offset) ∧ (renderOffset offset).head? ≠ some '.' := by
  rw [renderOffset]
  split
  · exact ⟨by rintro _ ⟨⟩; rfl, by simp⟩
  · split <;> exact ⟨by rintro _ ⟨⟩; rfl, by simp⟩

/-! ## Dates and times -/

lemma renderYear_eq {year : Int} (h : 0 ≤ year ∧ year ≤ 9999) :
    renderYear year = padded 4 year.toNat := if_pos h

/-- The seconds of a minute as they are written, a leap second as the sixtieth. -/
def shownSecond (t : TimeOfDay) : Nat := t.seconds % 60 + if t.isLeap then 1 else 0

/-- The nanoseconds of a second as they are written. -/
def shownNanos (t : TimeOfDay) : Nat :=
  t.nanos - (if t.isLeap then 1 else 0) * TimeOfDay.nanosPerSecond

lemma shownNanos_lt (t : TimeOfDay) : shownNanos t < 1000000000 := by
  have hlt : t.nanos < 2 * TimeOfDay.nanosPerSecond := t.nanos_lt
  have hsize : TimeOfDay.nanosPerSecond = 1000000000 := rfl
  cases hl : t.isLeap with
  | true =>
    rw [shownNanos, hl, if_pos rfl]
    omega
  | false =>
    have hge : t.nanos < TimeOfDay.nanosPerSecond := by simpa [TimeOfDay.isLeap] using hl
    rw [shownNanos, hl]
    omega

lemma time?_shown {t : TimeOfDay} (hleap : t.isLeap = true → t.seconds % 60 = 59) (f : Fields)
    (hhour : f.hour = t.seconds / 3600) (hminute : f.minute = t.seconds / 60 % 60)
    (hsecond : f.second = shownSecond t) (hnanos : f.nanos = shownNanos t) :
    f.time? = some t := by
  have hlt := t.seconds_lt
  have hnanoslt := t.nanos_lt
  rw [Fields.time?, hhour, hminute, hsecond, hnanos]
  cases hl : t.isLeap with
  | true =>
    -- the sixtieth second is read as the one before it with a second of nanoseconds more
    have hlast := hleap hl
    have hle : TimeOfDay.nanosPerSecond ≤ t.nanos := by simpa [TimeOfDay.isLeap] using hl
    have hsixty : shownSecond t = 60 := by rw [shownSecond, hl, hlast]; rfl
    have hrest : shownNanos t + TimeOfDay.nanosPerSecond = t.nanos := by
      rw [shownNanos, hl, if_pos rfl, Nat.one_mul, Nat.sub_add_cancel hle]
    have hseconds : t.seconds / 3600 * 3600 + t.seconds / 60 % 60 * 60 + 59 = t.seconds := by omega
    rw [hsixty, if_pos ⟨by omega, by omega, by omega⟩, if_pos rfl, hrest, hseconds]
    exact dif_pos ⟨hlt, hnanoslt⟩
  | false =>
    have hsecond' : shownSecond t = t.seconds % 60 := by simp [shownSecond, hl]
    have hnanos' : shownNanos t = t.nanos := by simp [shownNanos, hl]
    have hseconds : t.seconds / 3600 * 3600 + t.seconds / 60 % 60 * 60 + t.seconds % 60 =
        t.seconds := by omega
    rw [hsecond', hnanos', if_pos ⟨by omega, by omega, by omega⟩, if_neg (by omega)]
    simp only [hseconds]
    exact dif_pos ⟨hlt, hnanoslt⟩

/-! ## Blanks -/

lemma isBlank_of_mem_padded {width n : Nat} {c : Char} (h : c ∈ padded width n) :
    isBlank c = false := isBlank_of_isDigit (isDigit_of_mem_padded h)

lemma trimLeft_padded (width n : Nat) (hwidth : 0 < width) (rest : List Char) :
    trimLeft (padded width n ++ rest) = padded width n ++ rest := by
  obtain ⟨c, cs, hcons, hdigit⟩ := exists_cons_padded width n hwidth
  rw [hcons, List.cons_append, trimLeft,
    List.dropWhile_cons_of_neg (by simp [isBlank_of_isDigit hdigit])]

lemma readYear_of_isDigit {c : Char} (hc : c.isDigit = true) (cs : List Char) :
    readYear (c :: cs) = (readNumber 4 (c :: cs)).map fun (n, after) => ((n : Int), after) := by
  rw [readYear.eq_def]
  split
  · next heq =>
    obtain ⟨rfl, -⟩ := List.cons.inj heq
    cases hc
  · next heq =>
    obtain ⟨rfl, -⟩ := List.cons.inj heq
    cases hc
  · rfl

lemma readYear_padded {year : Nat} (h : year < 10 ^ 4) (rest : List Char) :
    readYear (padded 4 year ++ rest) = some ((year : Int), rest) := by
  obtain ⟨c, cs, hcons, hdigit⟩ := exists_cons_padded 4 year (by decide)
  have hread := readNumber_padded 4 (by decide) h rest
  rw [hcons, List.cons_append] at hread ⊢
  rw [readYear_of_isDigit hdigit, hread]
  rfl

lemma isBlank_of_mem_renderDate {d : Date} (h : 0 ≤ d.year ∧ d.year ≤ 9999) {c : Char}
    (hc : c ∈ d.renderChars) : isBlank c = false := by
  simp only [Date.renderChars, renderYear_eq h, List.mem_append, List.mem_cons] at hc
  rcases hc with (hc | rfl | hc) | rfl | hc
  · exact isBlank_of_mem_padded hc
  · rfl
  · exact isBlank_of_mem_padded hc
  · rfl
  · exact isBlank_of_mem_padded hc

lemma isBlank_of_mem_renderFraction {nanos : Nat} {c : Char} (hc : c ∈ renderFraction nanos) :
    isBlank c = false := by
  rw [renderFraction] at hc
  split at hc
  · cases hc
  · have hcases : c = '.' ∨ ∃ width n, c ∈ padded width n := by
      split at hc
      · exact (List.mem_cons.1 hc).imp_right fun h => ⟨_, _, h⟩
      split at hc
      · exact (List.mem_cons.1 hc).imp_right fun h => ⟨_, _, h⟩
      · exact (List.mem_cons.1 hc).imp_right fun h => ⟨_, _, h⟩
    rcases hcases with rfl | ⟨width, n, hn⟩
    · rfl
    · exact isBlank_of_mem_padded hn

lemma isBlank_of_mem_renderOffset {offset : Int} {c : Char} (hc : c ∈ renderOffset offset) :
    isBlank c = false := by
  rw [renderOffset] at hc
  split at hc
  · rw [List.mem_singleton.1 hc]
    rfl
  · simp only [List.cons_append, List.mem_append, List.mem_cons] at hc
    rcases hc with rfl | hc | rfl | hc
    · split <;> rfl
    · exact isBlank_of_mem_padded hc
    · rfl
    · exact isBlank_of_mem_padded hc

end Calendar

open Calendar Text

/-! ## Reading what was written -/

/-- The year is one of those that are written with four digits and no sign. -/
def Date.HasPlainYear (d : Date) : Prop := 0 ≤ d.year ∧ d.year ≤ 9999

lemma Date.date?_eq_some {d : Date} (h : d.HasPlainYear) (f : Fields) (hyear : f.year = d.year)
    (hmonth : f.month = d.month) (hday : f.day = d.day) : f.date? = some d := by
  have hsupported : d.isSupported = true := by
    simp only [isSupported, Bool.and_eq_true, decide_eq_true_iff]
    have := h.1
    have := h.2
    omega
  rw [Fields.date?, hyear, hmonth, hday, ofParts?_self, Option.bind_eq_bind, Option.bind_some,
    if_pos hsupported]

lemma Date.readDateOnly_renderChars {d : Date} (h : d.HasPlainYear) :
    readDateOnly d.renderChars = some d := by
  have hyear : d.year.toNat < 10 ^ 4 := by have := h.2; omega
  have hmonth : d.month < 10 ^ 2 := by have := d.month_mem; omega
  have hday : d.day < 10 ^ 2 := by have := d.day_le_31; omega
  have hend := readNumber_padded 2 (by decide) hday []
  have htrim := trimLeft_padded 2 d.day (by decide) []
  rw [List.append_nil] at hend htrim
  have hread : readLayout dashedDate d.renderChars =
      some { year := d.year, month := d.month, day := d.day } := by
    rw [Date.renderChars, renderYear_eq h, List.append_assoc, List.cons_append, readLayout,
      dashedDate]
    simp only [readParts, Part.read, trimLeft_padded 4 _ (by decide),
      trimLeft_padded 2 _ (by decide), htrim, readYear_padded hyear,
      readNumber_padded 2 (by decide) hmonth, hend, Option.map_some,
      Option.bind_eq_bind, Option.bind_some, if_true, Int.toNat_of_nonneg h.1]
  rw [readDateOnly, dateLayouts, List.findSome?_cons, hread, Option.bind_some,
    date?_eq_some h _ rfl rfl rfl]

/-- A date is read back from its written form. -/
lemma Date.ofString?_render {d : Date} (h : d.HasPlainYear) : Date.ofString? d.render = some d := by
  rw [Date.ofString?, Date.render, String.toList_ofList,
    trim_eq_self_of_forall fun c hc => isBlank_of_mem_renderDate h hc, Date.readDateOnly_renderChars h]
  rfl

/-! ### Dates and times -/

lemma TimeOfDay.renderChars_eq (t : TimeOfDay) :
    t.renderChars = padded 2 (t.seconds / 3600) ++ ':' :: (padded 2 (t.seconds / 60 % 60) ++
      ':' :: (padded 2 (shownSecond t) ++ renderFraction (shownNanos t))) := by
  simp [renderChars, shownSecond, shownNanos]

/-- The offset is a whole number of minutes, as offsets are written. -/
def DateTime.HasWholeMinutes (t : DateTime) : Prop := t.offset % 60 = 0

/-- A leap second ends a minute, so that its written form is the sixtieth second.  After any other
second it is written as the start of the next one. -/
def DateTime.HasPlainSecond (t : DateTime) : Prop :=
  t.time.isLeap = true → t.time.seconds % 60 = 59

lemma DateTime.hasPlainSecond_of_isLeap_eq_false {t : DateTime} (h : t.time.isLeap = false) :
    t.HasPlainSecond :=
  fun hleap => absurd hleap (Bool.eq_false_iff.1 h)

lemma DateTime.readInternet_renderChars {t : DateTime} (h : t.date.HasPlainYear)
    (hoffset : t.HasWholeMinutes) :
    readInternet t.renderChars = some {
      year := t.date.year, month := t.date.month, day := t.date.day
      hour := t.time.seconds / 3600, minute := t.time.seconds / 60 % 60
      second := shownSecond t.time, nanos := shownNanos t.time, offset := t.offset } := by
  have hyear : t.date.year.toNat < 10 ^ 4 := by have := h.2; omega
  have hmonth : t.date.month < 10 ^ 2 := by have := t.date.month_mem; omega
  have hday : t.date.day < 10 ^ 2 := by have := t.date.day_le_31; omega
  have hhour : t.time.seconds / 3600 < 10 ^ 2 := by have := t.time.seconds_lt; omega
  have hminute : t.time.seconds / 60 % 60 < 10 ^ 2 := by omega
  have hsecond : shownSecond t.time < 10 ^ 2 := by rw [shownSecond]; split <;> omega
  have hnanos : shownNanos t.time < 1000000000 := shownNanos_lt t.time
  have hread := readInternet_eq hyear hmonth hday hhour hminute hsecond
    (readFraction_renderFraction hnanos (renderOffset_head t.offset).1 (renderOffset_head t.offset).2)
    (readZone_renderOffset t.offset_lt hoffset)
  rw [Int.toNat_of_nonneg h.1] at hread
  rw [← hread, renderChars, Date.renderChars, TimeOfDay.renderChars_eq, renderYear_eq h]
  simp only [List.append_assoc, List.cons_append]

lemma isBlank_of_mem_renderDateTime {t : DateTime} (h : t.date.HasPlainYear) {c : Char}
    (hc : c ∈ t.renderChars) : isBlank c = false := by
  rw [DateTime.renderChars, TimeOfDay.renderChars_eq] at hc
  simp only [List.mem_append, List.mem_cons] at hc
  rcases hc with (hc | rfl | hc | rfl | hc | rfl | hc | hc) | hc
  · exact isBlank_of_mem_renderDate h hc
  · rfl
  · exact isBlank_of_mem_padded hc
  · rfl
  · exact isBlank_of_mem_padded hc
  · rfl
  · exact isBlank_of_mem_padded hc
  · exact isBlank_of_mem_renderFraction hc
  · exact isBlank_of_mem_renderOffset hc

/-- A date and time is read back from its written form. -/
lemma DateTime.ofString?_render {t : DateTime} (h : t.date.HasPlainYear)
    (hoffset : t.HasWholeMinutes) (hsecond : t.HasPlainSecond) :
    DateTime.ofString? t.render = some t := by
  obtain ⟨day, hday, hsupported⟩ := exists_utcDay h
  have hdate : ∀ f : Fields, f.year = t.date.year → f.month = t.date.month → f.day = t.date.day →
      f.date? = some t.date := Date.date?_eq_some h
  -- the internet format is tried first, so no other layout is looked at
  rw [DateTime.ofString?, DateTime.render, String.toList_ofList,
    trim_eq_self_of_forall fun c hc => isBlank_of_mem_renderDateTime h hc, readDateTime,
    readInternet_renderChars h hoffset, Option.bind_some]
  rw [Fields.dateTime?, hdate _ rfl rfl rfl,
    time?_shown hsecond _ rfl rfl rfl rfl]
  simp only [Option.bind_eq_bind, Option.bind_some, ofParts?_self, hday, hsupported, if_true]
  rfl

end CloudDirector
