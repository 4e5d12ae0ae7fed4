import CloudDirector.Payload.Encode
import CloudDirector.Proofs.Base64
import CloudDirector.Proofs.Binary64
import CloudDirector.Proofs.Calendar.Clock
import CloudDirector.Proofs.Catalog.Registration
import CloudDirector.Proofs.Payload.Walks

/-!
# Scalars and constants are read back

A scalar of a kind is written in one form, and that form is read as the scalar again.  What is read
is always written: the forms that are only read, like integers for floating point numbers or other
layouts of dates, give scalars that are written in the one form.  Writing lets a few values of other
kinds pass, like integers for floating point numbers and texts of dates; whatever it lets pass is
read at the same kind too.
-/

namespace CloudDirector

/-- A value that is a scalar of a kind and that its written form keeps. -/
inductive Kind.Holds : Kind → Value → Prop
  | int (i : Int64) : Holds .int (.int i)
  | float (negative : Bool) (m : Magnitude) : Holds .float (.float (.finite negative m))
  | bool (b : Bool) : Holds .bool (.bool b)
  | string (s : String) : Holds .string (.string s)
  | bytes (bytes : List UInt8) : Holds .bytes (.bytes bytes)
  | date {d : Date} (h : d.HasPlainYear) : Holds .date (.date d)
  | dateTime {t : DateTime} (h : t.date.HasPlainYear) (hoffset : t.HasWholeMinutes)
      (hsecond : t.HasPlainSecond) : Holds .dateTime (.dateTime t)
  | json {j : Json} (h : j.isNull = false) : Holds .json (.json j)

/-- The kind of scalar that a value is, if it is a scalar. -/
def Value.kind? : Value → Option Kind
  | .int _ => some .int
  | .float _ => some .float
  | .bool _ => some .bool
  | .string _ => some .string
  | .bytes _ => some .bytes
  | .date _ => some .date
  | .dateTime _ => some .dateTime
  | .json _ => some .json
  | _ => none

/-- A constant that its text keeps: one that is mapped, or a text that is not. -/
inductive EnumEntry.Holds (entry : EnumEntry) : EnumConstant → Prop
  | known {constant text : String} (h : entry.text? constant = some text) :
      Holds entry (.known constant)
  | unknown {text : String} (h : entry.constant? text = none) : Holds entry (.unknown text)

namespace Payload

variable {kind : Kind} {j : Json} {v : Value}

/-! ## Written, then read -/

lemma decodeDate_render {d : Date} (h : d.HasPlainYear) : decodeDate d.render = .ok d := by
  rw [decodeDate, Date.ofString?_render h]

lemma decodeDateTime_render {t : DateTime} (h : t.date.HasPlainYear) (hoffset : t.HasWholeMinutes)
    (hsecond : t.HasPlainSecond) : decodeDateTime t.render = .ok t := by
  rw [decodeDateTime, DateTime.ofString?_render h hoffset hsecond]

lemma decodeBytes_encode (bytes : List UInt8) :
    decodeBytes (.ofList (Base64.encode bytes)) = .ok bytes := by
  rw [decodeBytes, Base64.decode_encode]

/-- A scalar is read back from its written form. -/
lemma exists_encode_scalar (reg : Registry) (h : kind.Holds v) :
    ∃ j, encode reg v (.scalar kind) = .ok j ∧ j.isNull = false ∧ decodeScalar j kind = .ok v := by
  cases h with
  | int i =>
    refine ⟨.int i, rfl, rfl, ?_⟩
    simp only [decodeScalar, Json.int, Json.int64?, WireInteger.toInt64?_ofInt64]
    rfl
  | float negative m => exact ⟨.number (.float negative m), rfl, rfl, rfl⟩
  | bool b => exact ⟨.bool b, rfl, rfl, rfl⟩
  | string s => exact ⟨.string s, rfl, rfl, rfl⟩
  | bytes bytes =>
    refine ⟨.string (.ofList (Base64.encode bytes)), rfl, rfl, ?_⟩
    simp only [decodeScalar, Json.string?, require, bind, Except.bind, decodeBytes_encode]
    rfl
  | @date d h =>
    refine ⟨.string d.render, rfl, rfl, ?_⟩
    simp only [decodeScalar, Json.string?, require, bind, Except.bind, decodeDate_render h]
    rfl
  | @dateTime t h hoffset hsecond =>
    refine ⟨.string t.render, rfl, rfl, ?_⟩
    simp only [decodeScalar, Json.string?, require, bind, Except.bind,
      decodeDateTime_render h hoffset hsecond]
    rfl
  | @json j h => exact ⟨j, rfl, h, rfl⟩

/-! ## Read, then written -/

lemma require_eq_ok_iff {α : Type} {found : Option α} {a : α} :
    require kind j found = .ok a ↔ found = some a := by
  cases found with
  | none => simp [require, Result.failValue, Result.fail]
  | some b => simp [require]

lemma clock_of_decodeDateTime {text : String} {t : DateTime} (h : decodeDateTime text = .ok t) :
    t.HasWholeMinutes ∧ t.HasPlainSecond := by
  rw [decodeDateTime] at h
  split at h
  · next hread =>
    cases h
    exact DateTime.clock_of_ofString? hread
  · cases h

/-- Of the dates and times of the years 0 to 9999, leap seconds and all fractions included, exactly
those are what their written form is read as whose offset is of whole minutes and whose leap second,
if they are in one, ends a minute.  All that is ever read is like that, so what is read from any
text can be written and read again without a change. -/
theorem decodeDateTime_render_iff :
    (∀ t : DateTime, t.date.HasPlainYear →
      (decodeDateTime t.render = .ok t ↔ t.HasWholeMinutes ∧ t.HasPlainSecond)) ∧
    ∀ text t, decodeDateTime text = .ok t →
      t.HasWholeMinutes ∧ (t.date.HasPlainYear → decodeDateTime t.render = .ok t) := by
  constructor
  · intro t hyear
    exact ⟨clock_of_decodeDateTime, fun h => decodeDateTime_render hyear h.1 h.2⟩
  · intro text t hread
    obtain ⟨hminutes, hsecond⟩ := clock_of_decodeDateTime hread
    exact ⟨hminutes, fun hyear => decodeDateTime_render hyear hminutes hsecond⟩

/-- The middle of the leap second at the end of 2016 on a clock five and a half hours behind. -/
def leapSecond : DateTime where
  date := ⟨2016, 12, 31, by decide, by decide⟩
  time := ⟨66599, 1500000000, by decide, by decide⟩
  offset := -19800
  offset_lt := by decide

theorem decodeDateTime_leapSecond :
    leapSecond.date.HasPlainYear ∧ leapSecond.HasWholeMinutes ∧ leapSecond.HasPlainSecond ∧
      decodeDateTime leapSecond.render = .ok leapSecond ∧
      decodeDateTime "20161231T182960.5-0530" = .ok leapSecond := by
  have hyear : leapSecond.date.HasPlainYear := ⟨by decide, by decide⟩
  have hsecond : leapSecond.HasPlainSecond := fun _ => rfl
  have hread : decodeDateTime "20161231T182960.5-0530" = .ok leapSecond := by
    decide +kernel
  have hminutes := (decodeDateTime_render_iff.2 _ _ hread).1
  have hback := (decodeDateTime_render_iff.1 _ hyear).2 ⟨hminutes, hsecond⟩
  exact ⟨hyear, hminutes, hsecond, hback, hread⟩

/-- A leap second in the middle of a minute, half of it gone. -/
def midMinuteLeap : DateTime :=
  { leapSecond with time := ⟨66510, 1500000000, by decide, by decide⟩ }

/-- What the leap second in the middle of a minute is written like. -/
def halfPastNext : DateTime :=
  { leapSecond with time := ⟨66511, 500000000, by decide, by decide⟩ }

lemma decodeDateTime_render_midMinuteLeap :
    decodeDateTime midMinuteLeap.render = .ok halfPastNext := by
  decide +kernel

/-- A leap second in the middle of a minute is read as another instant, that half a second into the
next second. -/
theorem decodeDateTime_midMinuteLeap :
    midMinuteLeap.date.HasPlainYear ∧ midMinuteLeap.HasWholeMinutes ∧
      ∃ t, decodeDateTime midMinuteLeap.render = .ok t ∧ midMinuteLeap.sameInstant t = false :=
  ⟨⟨by decide, by decide⟩, rfl, halfPastNext, decodeDateTime_render_midMinuteLeap, rfl⟩

/-- What is read as a scalar of a kind is one. -/
lemma kind?_of_decodeScalar (h : decodeScalar j kind = .ok v) : v.kind? = some kind := by
  cases kind with
  | int | float | bool | string =>
    obtain ⟨_, -, rfl⟩ := Result.map_eq_ok.1 h
    rfl
  | bytes | date | dateTime =>
    obtain ⟨_, -, h⟩ := Result.bind_eq_ok.1 h
    obtain ⟨_, -, h⟩ := Result.bind_eq_ok.1 h
    cases h
    rfl
  | json =>
    cases h
    rfl

/-- What is read as a scalar of a kind keeps its written form, if its year has one. -/
lemma holds_of_decodeScalar (hnull : j.isNull = false) (h : decodeScalar j kind = .ok v)
    (hdate : ∀ d, v = .date d → d.HasPlainYear)
    (hdateTime : ∀ t, v = .dateTime t → t.date.HasPlainYear) : kind.Holds v := by
  cases kind with
  | int =>
    obtain ⟨i, -, rfl⟩ := Result.map_eq_ok.1 h
    exact .int i
  | float =>
    obtain ⟨x, hx, rfl⟩ := Result.map_eq_ok.1 h
    rw [require_eq_ok_iff] at hx
    cases j with
    | number n =>
      cases hx
      cases n with
      | integer i =>
        obtain ⟨m, hm, -⟩ := i.exists_isNearest
        rw [Json.Number.toBinary64, hm]
        exact .float _ m
      | float negative m => exact .float negative m
    | _ => cases hx
  | bool =>
    obtain ⟨b, -, rfl⟩ := Result.map_eq_ok.1 h
    exact .bool b
  | string =>
    obtain ⟨s, -, rfl⟩ := Result.map_eq_ok.1 h
    exact .string s
  | bytes =>
    obtain ⟨_, -, h⟩ := Result.bind_eq_ok.1 h
    obtain ⟨bytes, -, h⟩ := Result.bind_eq_ok.1 h
    cases h
    exact .bytes bytes
  | date =>
    obtain ⟨_, -, h⟩ := Result.bind_eq_ok.1 h
    obtain ⟨d, -, h⟩ := Result.bind_eq_ok.1 h
    cases h
    exact .date (hdate d rfl)
  | dateTime =>
    obtain ⟨_, -, h⟩ := Result.bind_eq_ok.1 h
    obtain ⟨t, ht, h⟩ := Result.bind_eq_ok.1 h
    cases h
    exact .dateTime (hdateTime t rfl) (clock_of_decodeDateTime ht).1 (clock_of_decodeDateTime ht).2
  | json =>
    cases h
    exact .json hnull

/-! ## Whatever is written -/

/-- What a value that was written as `j` in the place of a scalar of a kind is read back as.  Any
JSON takes what is written there as it is, an integer in the place of a floating point number is
widened, and a text in the place of a date is the date that it spells. -/
inductive ReadBack (j : Json) : Kind → Value → Value → Prop
  | same {kind : Kind} {v : Value} (h : v.kind? = some kind) : ReadBack j kind v v
  | written {v : Value} (h : v.kind? ≠ some .json) : ReadBack j .json v (.json j)
  | widened (i : Int64) : ReadBack j .float (.int i) (.float (.ofInt i.toInt))
  | date {text : String} {d : Date} (h : decodeDate text = .ok d) :
      ReadBack j .date (.string text) (.date d)
  | dateTime {text : String} {t : DateTime} (h : decodeDateTime text = .ok t) :
      ReadBack j .dateTime (.string text) (.dateTime t)

/-- A scalar that is written in the place of its kind is one that its written form keeps. -/
lemma holds_of_encodeScalar (hkind : v.kind? = some kind) (hjson : kind ≠ .json)
    (hdate : ∀ d, v = .date d → d.HasPlainYear)
    (hdateTime : ∀ t, v = .dateTime t → t.date.HasPlainYear ∧ t.HasWholeMinutes ∧
      t.HasPlainSecond)
    (h : encodeScalar v kind = .ok j) : kind.Holds v := by
  cases v with
  | int i =>
    cases hkind
    exact .int i
  | float x =>
    cases hkind
    cases x with
    | finite negative m => exact .float negative m
    | infinite negative => cases h
    | nan => cases h
  | bool b =>
    cases hkind
    exact .bool b
  | string s =>
    cases hkind
    exact .string s
  | bytes bytes =>
    cases hkind
    exact .bytes bytes
  | date d =>
    cases hkind
    exact .date (hdate d rfl)
  | dateTime t =>
    cases hkind
    obtain ⟨hyear, hminutes, hsecond⟩ := hdateTime t rfl
    exact .dateTime hyear hminutes hsecond
  | json j =>
    cases hkind
    exact absurd rfl hjson
  | null | enum | list | map | record => cases hkind

lemma encode_scalar_of_holds (reg : Registry) (h : kind.Holds v) :
    encode reg v (.scalar kind) = encodeScalar v kind := by
  cases h with
  | @json j h => rfl
  | int | float | bool | string | bytes | date | dateTime => rfl

/-- Where any other scalar than one of the kind is written, it is an integer as a floating point
number, or a text that spells a date. -/
lemma encodeScalar_cases (hnull : v ≠ .null) (hkind : v.kind? ≠ some kind) (hjson : kind ≠ .json)
    (h : encodeScalar v kind = .ok j) :
    (∃ i, kind = .float ∧ v = .int i ∧ j = .int i) ∨
    (∃ text d, kind = .date ∧ v = .string text ∧ j = .string text ∧ decodeDate text = .ok d) ∨
    (∃ text t, kind = .dateTime ∧ v = .string text ∧ j = .string text ∧
      decodeDateTime text = .ok t) := by
  cases kind with
  | json => exact absurd rfl hjson
  | float =>
    cases v with
    | int i => exact Or.inl ⟨i, rfl, rfl, (Except.ok.inj h).symm⟩
    | null => exact absurd rfl hnull
    | float x => exact absurd rfl hkind
    | _ => cases h
  | date =>
    cases v with
    | string text =>
      obtain ⟨d, hd, rfl⟩ := Result.map_eq_ok.1 h
      exact Or.inr (Or.inl ⟨text, d, rfl, rfl, rfl, hd⟩)
    | null => exact absurd rfl hnull
    | date d => exact absurd rfl hkind
    | _ => cases h
  | dateTime =>
    cases v with
    | string text =>
      obtain ⟨t, ht, rfl⟩ := Result.map_eq_ok.1 h
      exact Or.inr (Or.inr ⟨text, t, rfl, rfl, rfl, ht⟩)
    | null => exact absurd rfl hnull
    | dateTime t => exact absurd rfl hkind
    | _ => cases h
  | int | bool | string | bytes =>
    cases v <;> first | exact absurd rfl hnull | exact absurd rfl hkind | cases h

/-- What is written in the place of a scalar of a kind is accepted when it is read as one: a value
of the kind comes back as it was, and any other one as its reading says. -/
theorem exists_decodeScalar_of_encodeScalar (hnull : v ≠ .null)
    (hdate : ∀ d, v = .date d → d.HasPlainYear)
    (hdateTime : ∀ t, v = .dateTime t → t.date.HasPlainYear ∧ t.HasWholeMinutes ∧
      t.HasPlainSecond)
    (h : encodeScalar v kind = .ok j) :
    ∃ w, decodeScalar j kind = .ok w ∧ ReadBack j kind v w := by
  by_cases hkind : v.kind? = some kind
  · by_cases hjson : kind = .json
    · subst hjson
      cases v with
      | json j' =>
        cases h
        exact ⟨.json j, rfl, .same rfl⟩
      | _ => cases hkind
    · have hholds := holds_of_encodeScalar hkind hjson hdate hdateTime h
      obtain ⟨j', hencode, -, hdecode⟩ := exists_encode_scalar {} hholds
      rw [encode_scalar_of_holds {} hholds, h] at hencode
      cases hencode
      exact ⟨v, hdecode, .same hkind⟩
  · by_cases hjson : kind = .json
    · subst hjson
      exact ⟨.json j, rfl, .written hkind⟩
    · rcases encodeScalar_cases hnull hkind hjson h with ⟨i, rfl, rfl, rfl⟩ |
        ⟨text, d, rfl, rfl, rfl, hd⟩ | ⟨text, t, rfl, rfl, rfl, ht⟩
      · exact ⟨_, rfl, .widened i⟩
      · refine ⟨.date d, ?_, .date hd⟩
        simp only [decodeScalar, Json.string?, require, bind, Except.bind, hd]
        rfl
      · refine ⟨.dateTime t, ?_, .dateTime ht⟩
        simp only [decodeScalar, Json.string?, require, bind, Except.bind, ht]
        rfl

/-- A leap second on a clock behind UTC comes back from its written form, and a text that spells it
in another way is passed on and read as it. -/
theorem exists_decodeScalar_leapSecond :
    (∃ j, encodeScalar (.dateTime leapSecond) .dateTime = .ok j ∧
      ∃ w, decodeScalar j .dateTime = .ok w ∧ ReadBack j .dateTime (.dateTime leapSecond) w) ∧
    ∃ j, encodeScalar (.string "20161231T182960.5-0530") .dateTime = .ok j ∧
      ∃ w, decodeScalar j .dateTime = .ok w ∧
        ReadBack j .dateTime (.string "20161231T182960.5-0530") w := by
  have hyear : leapSecond.date.HasPlainYear := ⟨by decide, by decide⟩
  have hkept : ∀ t, Value.dateTime leapSecond = .dateTime t →
      t.date.HasPlainYear ∧ t.HasWholeMinutes ∧ t.HasPlainSecond := by
    rintro t ⟨⟩
    exact ⟨hyear, rfl, fun _ => rfl⟩
  have hread : decodeDateTime "20161231T182960.5-0530" = .ok leapSecond := by
    decide +kernel
  have htext : encodeScalar (.string "20161231T182960.5-0530") .dateTime =
      .ok (.string "20161231T182960.5-0530") := by
    rw [encodeScalar, hread]
    rfl
  refine ⟨⟨.string leapSecond.render, rfl, ?_⟩, _, htext, ?_⟩
  · exact exists_decodeScalar_of_encodeScalar nofun nofun hkept rfl
  · exact exists_decodeScalar_of_encodeScalar (by simp) (by simp) (by simp) htext

/-- A leap second in the middle of a minute is written in the place of a date and time, and another
one comes back. -/
theorem exists_decodeScalar_midMinuteLeap :
    midMinuteLeap.date.HasPlainYear ∧ midMinuteLeap.HasWholeMinutes ∧
      ∃ j w, encodeScalar (.dateTime midMinuteLeap) .dateTime = .ok j ∧
        decodeScalar j .dateTime = .ok w ∧ w ≠ .dateTime midMinuteLeap := by
  refine ⟨⟨by decide, by decide⟩, rfl, _, .dateTime halfPastNext, rfl, ?_, ?_⟩
  · simp only [decodeScalar, Json.string?, require, bind, Except.bind,
      decodeDateTime_render_midMinuteLeap]
    rfl
  · rintro ⟨⟩

/-! ## Constants of enumerations -/

section Constant

variable {entry : EnumEntry} {e : EnumValue}

/-- A text of the wire that is mapped to a constant, if the constant is mapped. -/
lemma exists_text?_of_constant? {text constant : String} (h : entry.constant? text = some constant) :
    ∃ first, entry.text? constant = some first := by
  have hmem : (text, constant) ∈ entry.values := Members.mem_of_get?_eq_some h
  have hfound : (entry.values.find? fun m => m.2 == constant).isSome = true :=
    List.find?_isSome.2 ⟨_, hmem, beq_self_eq_true constant⟩
  obtain ⟨m, hm⟩ := Option.isSome_iff_exists.1 hfound
  exact ⟨m.1, by rw [EnumEntry.text?, hm, Option.map_some]⟩

/-- The text that a constant is written as is mapped to it. -/
lemma constant?_of_text? (hkeyed : (Entry.enum entry).Keyed) {text constant : String}
    (h : entry.text? constant = some text) : entry.constant? text = some constant := by
  obtain ⟨⟨first, c⟩, hm, rfl⟩ := Option.map_eq_some_iff.1 h
  have hc : c = constant := by simpa using List.find?_some hm
  subst hc
  exact Members.get?_eq_some_of_mem hkeyed (List.mem_of_find?_eq_some hm)

/-- A constant is read back from its text. -/
lemma exists_encodeEnum (hkeyed : (Entry.enum entry).Keyed) (htype : e.typeName = entry.typeName)
    (h : entry.Holds e.constant) :
    ∃ text, encodeEnum e entry = .ok (.string text) ∧ decodeEnum (.string text) entry = .ok e := by
  obtain ⟨typeName, constant⟩ := e
  subst htype
  cases h with
  | @known constant text h =>
    refine ⟨text, by simp only [encodeEnum, h], ?_⟩
    simp only [decodeEnum, Json.string?, constant?_of_text? hkeyed h]
  | @unknown text h =>
    refine ⟨text, rfl, ?_⟩
    simp only [decodeEnum, Json.string?, h]

/-- A constant that is read is the one that the text is mapped to, or the text itself. -/
lemma decodeEnum_cases (h : decodeEnum j entry = .ok e) :
    ∃ text, j = .string text ∧
      ((∃ constant, entry.constant? text = some constant ∧ e = ⟨entry.typeName, .known constant⟩) ∨
        (entry.constant? text = none ∧ e = ⟨entry.typeName, .unknown text⟩)) := by
  rw [decodeEnum] at h
  split at h
  · cases h
  · next text htext =>
    obtain rfl : j = .string text := by
      cases j <;> cases htext
      rfl
    refine ⟨text, rfl, ?_⟩
    split at h
    · next constant hconstant =>
      cases h
      exact Or.inl ⟨constant, hconstant, rfl⟩
    · next hnone =>
      cases h
      exact Or.inr ⟨hnone, rfl⟩

end Constant

end Payload

end CloudDirector
