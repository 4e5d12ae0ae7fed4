import CloudDirector.Client.Setting
import CloudDirector.Proofs.Text.Runs
import CloudDirector.Proofs.Unsigned

/-!
# Versions have one form

A version may be given as a text, as a text in JSON or as an integer in JSON, with blanks around it,
plus signs and zeros in front of its numbers, and without a minor number.  All of them denote a pair
of numbers, and the version that is read is that pair, if it is in the supported range.  It is
written in one way only, and what is written is read as the same version again.
-/

namespace CloudDirector

open Text

namespace ApiVersion

open Unsigned

/-! ## Pairs of numbers -/

/-- The characters denote a major and a minor number.  A minor number that is left out is zero. -/
inductive Denotes : List Char → Nat → Nat → Prop
  | whole {cs : List Char} {major : Nat} (h : Spells cs major) : Denotes cs major 0
  | pair {front after : List Char} {major minor : Nat} (hfront : Spells front major)
      (hafter : Spells after minor) : Denotes (front ++ '.' :: after) major minor

variable {cs : List Char} {major minor : Nat} {v : ApiVersion} {s : String}

lemma point_not_mem_of_spells (h : Spells cs major) : '.' ∉ cs := by
  intro hmem
  rcases h.mem hmem with hsign | hdigit
  · cases hsign
  · cases hdigit

/-- A text denotes what the numbers in front of its first point and after it are, a zero standing
for the second one if there is no point. -/
lemma denotes_iff :
    Denotes cs major minor ↔
      Spells (splitFirst '.' cs).1 major ∧ Spells ((splitFirst '.' cs).2.getD ['0']) minor := by
  have hzero : Spells ['0'] 0 := (isDecimal_toDigits 0).spells
  constructor
  · rintro (h | ⟨hfront, hafter⟩)
    · rw [splitFirst_of_not_mem (point_not_mem_of_spells h)]
      exact ⟨h, hzero⟩
    · rw [splitFirst_append (point_not_mem_of_spells hfront)]
      exact ⟨hfront, hafter⟩
  · rcases hsplit : splitFirst '.' cs with ⟨front, none | after⟩
    · rintro ⟨hmajor, hminor⟩
      obtain rfl := splitFirst_none hsplit
      obtain rfl := hminor.unique hzero
      exact .whole hmajor
    · rintro ⟨hmajor, hminor⟩
      rw [splitFirst_some hsplit]
      exact .pair hmajor hminor

lemma parseChars_eq_ok_iff : parseChars cs = .ok v ↔ Denotes cs v.major v.minor := by
  rw [denotes_iff, parseChars]
  rcases splitFirst '.' cs with ⟨front, after⟩
  dsimp only
  split
  · next major minor hmajor hminor =>
    rw [ofChars?_eq_some_iff] at hmajor hminor
    constructor
    · intro h
      split at h
      · cases h
        exact ⟨hmajor.1, hminor.1⟩
      · cases h
    · rintro ⟨hmajor', hminor'⟩
      obtain rfl := hmajor.1.unique hmajor'
      obtain rfl := hminor.1.unique hminor'
      exact dif_pos v.supported
  · next hnone =>
    refine iff_of_false (fun h => by cases h) ?_
    rintro ⟨hmajor, hminor⟩
    exact hnone _ _ (ofChars?_eq_some_iff.2 ⟨hmajor, v.major_lt⟩)
      (ofChars?_eq_some_iff.2 ⟨hminor, v.minor_lt⟩)

lemma Denotes.unique {major' minor' : Nat} (h : Denotes cs major minor)
    (h' : Denotes cs major' minor') : major = major' ∧ minor = minor' := by
  obtain ⟨hmajor, hminor⟩ := denotes_iff.1 h
  obtain ⟨hmajor', hminor'⟩ := denotes_iff.1 h'
  exact ⟨hmajor.unique hmajor', hminor.unique hminor'⟩

lemma toList_ofNat (n : Nat) : (toString (Int.ofNat n)).toList = Nat.toDigits 10 n :=
  Nat.toList_repr

lemma toList_negSucc (n : Nat) :
    (toString (Int.negSucc n)).toList = '-' :: Nat.toDigits 10 (n + 1) := by
  have hrepr : toString (Int.negSucc n) = "-" ++ (n + 1).repr := rfl
  rw [hrepr, String.toList_append, Nat.toList_repr]
  rfl

/-- An integer in decimal denotes itself as the major number, if it is not negative. -/
lemma denotes_toString_iff {i : Int} :
    Denotes (toString i).toList major minor ↔ i = major ∧ minor = 0 := by
  cases i with
  | ofNat n =>
    have hwhole : Denotes (Nat.toDigits 10 n) n 0 := .whole (isDecimal_toDigits n).spells
    rw [toList_ofNat]
    constructor
    · intro h
      obtain ⟨rfl, rfl⟩ := h.unique hwhole
      exact ⟨rfl, rfl⟩
    · rintro ⟨hn, rfl⟩
      obtain rfl := Int.ofNat.inj hn
      exact hwhole
  | negSucc n =>
    -- the minus sign is in front of the first point, and is in no spelling of a number
    refine iff_of_false (fun h => ?_) fun h => by cases h.1
    rw [toList_negSucc, denotes_iff, splitFirst, if_neg (by decide)] at h
    rcases h.1.mem List.mem_cons_self with hsign | hdigit
    · cases hsign
    · cases hdigit

lemma isBlank_of_denotes (h : Denotes cs major minor) : ∀ c ∈ cs, isBlank c = false := by
  have hspells {cs : List Char} {n : Nat} (h : Spells cs n) : ∀ c ∈ cs, isBlank c = false := by
    intro c hc
    rcases h.mem hc with rfl | hdigit
    · rfl
    · exact isBlank_of_isDigit hdigit
  cases h with
  | whole h => exact hspells h
  | pair hfront hafter =>
    rw [List.forall_mem_append, List.forall_mem_cons]
    exact ⟨hspells hfront, rfl, hspells hafter⟩

lemma isBlank_of_mem_toString {i : Int} : ∀ c ∈ (toString i).toList, isBlank c = false := by
  have hdigits (n : Nat) : ∀ c ∈ Nat.toDigits 10 n, isBlank c = false :=
    fun c hc => isBlank_of_isDigit ((isDecimal_toDigits n).isDigit c hc)
  cases i with
  | ofNat n =>
    rw [toList_ofNat]
    exact hdigits n
  | negSucc n =>
    rw [toList_negSucc, List.forall_mem_cons]
    exact ⟨rfl, hdigits (n + 1)⟩

/-! ## What a version is given as -/

/-- What a version is given as: a text, or a text or an integer of JSON. -/
inductive Source where
  | text (s : String)
  | jsonText (s : String)
  | jsonInteger (i : WireInteger)

namespace Source

/-- The version that is read from it. -/
def Gives : Source → ApiVersion → Prop
  | text s, v => ofString s = .ok v
  | jsonText s, v => ofJson (.string s) = .ok v
  | jsonInteger i, v => ofJson (.number (.integer i)) = .ok v

/-- The pair of a major and a minor number that it denotes.  Blanks around a text mean nothing, and
an integer is a major number. -/
def Denotes : Source → Nat → Nat → Prop
  | text s, major, minor | jsonText s, major, minor =>
    ∃ before cs after, (∀ c ∈ before, isBlank c = true) ∧ (∀ c ∈ after, isBlank c = true) ∧
      s.toList = before ++ cs ++ after ∧ ApiVersion.Denotes cs major minor
  | jsonInteger i, major, minor => i.val = major ∧ minor = 0

end Source

lemma denotes_trim_iff :
    Denotes (trim s.toList) major minor ↔ (Source.text s).Denotes major minor := by
  constructor
  · intro h
    obtain ⟨before, after, hbefore, hafter, htrim⟩ := exists_blanks_trim s.toList
    exact ⟨before, _, after, hbefore, hafter, htrim, h⟩
  · rintro ⟨before, cs, after, hbefore, hafter, hs, h⟩
    rwa [hs, trim_append hafter, trim_blanks_append hbefore,
      trim_eq_self_of_forall (isBlank_of_denotes h)]

lemma ofString_eq_ok_iff : ofString s = .ok v ↔ parseChars (trim s.toList) = .ok v := by
  rw [ofString, parse]
  cases parseChars (trim s.toList) with
  | error fault => exact iff_of_false (fun h => by cases h) fun h => by cases h
  | ok w => rw [Except.ok.injEq, Except.ok.injEq]

lemma ofSetting_eq_ok_iff : ofSetting cs = .ok v ↔ parseChars cs = .ok v := by
  rw [ofSetting]
  cases parseChars cs with
  | error fault => exact iff_of_false (fun h => by cases h) fun h => by cases h
  | ok w => rw [Except.ok.injEq, Except.ok.injEq]

/-- What is given is read as the version that it denotes, if there is one. -/
lemma gives_iff {src : Source} : src.Gives v ↔ src.Denotes v.major v.minor := by
  cases src with
  | text s => rw [Source.Gives, ofString_eq_ok_iff, parseChars_eq_ok_iff, denotes_trim_iff]
  | jsonText s =>
    have hread : (Source.jsonText s).Gives v ↔ ofSetting (trim s.toList) = .ok v := Iff.rfl
    rw [hread, ofSetting_eq_ok_iff, parseChars_eq_ok_iff, denotes_trim_iff]
    exact Iff.rfl
  | jsonInteger i =>
    have hread : (Source.jsonInteger i).Gives v ↔ ofSetting (toString i.val).toList = .ok v :=
      Iff.rfl
    rw [hread, ofSetting_eq_ok_iff, parseChars_eq_ok_iff, denotes_toString_iff]
    exact Iff.rfl

lemma Source.Denotes.unique {src : Source} {major' minor' : Nat} (h : src.Denotes major minor)
    (h' : src.Denotes major' minor') : major = major' ∧ minor = minor' := by
  cases src with
  | text s => exact (denotes_trim_iff.2 h).unique (denotes_trim_iff.2 h')
  | jsonText s =>
    exact ((denotes_trim_iff (s := s)).2 h).unique ((denotes_trim_iff (s := s)).2 h')
  | jsonInteger i =>
    obtain ⟨hmajor, rfl⟩ := h
    obtain ⟨hmajor', rfl⟩ := h'
    exact ⟨Int.ofNat.inj (hmajor.symm.trans hmajor'), rfl⟩

/-! ## The one form -/

/-- A version as it is written: both numbers in decimal with a point between them, in the supported
range.  The text tells the major number, and is read as the same version again. -/
structure IsCanonical (v : ApiVersion) : Prop where
  written : ∃ major minor, v.render.toList = major ++ '.' :: minor ∧
    IsDecimal major v.major ∧ IsDecimal minor v.minor
  supported : 27 ≤ v.major
  major_lt : v.major < 4294967296
  minor_lt : v.minor < 4294967296
  told : majorOf v.render = v.major
  text : (Source.text v.render).Gives v
  jsonText : (Source.jsonText v.render).Gives v

lemma toList_render (v : ApiVersion) :
    v.render.toList = Nat.toDigits 10 v.major ++ '.' :: Nat.toDigits 10 v.minor := by
  have hrender : v.render = v.major.repr ++ "." ++ v.minor.repr := rfl
  rw [hrender, String.toList_append, String.toList_append, Nat.toList_repr, Nat.toList_repr,
    List.append_assoc]
  rfl

lemma denotes_render (v : ApiVersion) : (Source.text v.render).Denotes v.major v.minor := by
  refine denotes_trim_iff.1 ?_
  have hpair : Denotes v.render.toList v.major v.minor := by
    rw [toList_render]
    exact .pair (isDecimal_toDigits _).spells (isDecimal_toDigits _).spells
  rwa [trim_eq_self_of_forall (isBlank_of_denotes hpair)]

lemma majorOf_render (v : ApiVersion) : majorOf v.render = v.major := by
  have hspells : Spells (Nat.toDigits 10 v.major) v.major := (isDecimal_toDigits _).spells
  rw [majorOf, toList_render, splitFirst_append (point_not_mem_of_spells hspells),
    ofChars?_eq_some_iff.2 ⟨hspells, v.major_lt⟩, Option.getD_some]

lemma isCanonical (v : ApiVersion) : v.IsCanonical where
  written := ⟨_, _, toList_render v, isDecimal_toDigits _, isDecimal_toDigits _⟩
  supported := v.supported
  major_lt := v.major_lt
  minor_lt := v.minor_lt
  told := majorOf_render v
  text := gives_iff.2 (denotes_render v)
  jsonText := gives_iff.2 (denotes_render v)

/-- A version is read from exactly what denotes a supported pair, and it is that pair.  It has one
written form, which is read as the same version again.  Two versions are the same, and are written
alike, exactly if what they were read from denotes one pair.  An integer of JSON gives what its
decimal text gives. -/
theorem hasOneForm :
    (∀ src : Source, (∃ v, src.Gives v) ↔
      ∃ major minor, src.Denotes major minor ∧
        27 ≤ major ∧ major < 4294967296 ∧ minor < 4294967296) ∧
    (∀ (src : Source) (v : ApiVersion), src.Gives v →
      src.Denotes v.major v.minor ∧ v.IsCanonical) ∧
    (∀ (src src' : Source) (v v' : ApiVersion), src.Gives v → src'.Gives v' →
      (v = v' ↔ ∃ major minor, src.Denotes major minor ∧ src'.Denotes major minor) ∧
      (v.render = v'.render ↔ v = v')) ∧
    ∀ (i : WireInteger) (v : ApiVersion),
      (Source.jsonInteger i).Gives v ↔ (Source.text (toString i.val)).Gives v := by
  refine ⟨fun src => ?_, fun src v h => ⟨gives_iff.1 h, isCanonical v⟩,
    fun src src' v v' h h' => ⟨?_, ?_⟩, fun i v => ?_⟩
  · constructor
    · rintro ⟨v, h⟩
      exact ⟨v.major, v.minor, gives_iff.1 h, v.supported, v.major_lt, v.minor_lt⟩
    · rintro ⟨major, minor, h, hsupported, hmajor, hminor⟩
      exact ⟨⟨major, minor, hsupported, hmajor, hminor⟩, gives_iff.2 h⟩
  · rw [gives_iff] at h h'
    constructor
    · rintro rfl
      exact ⟨v.major, v.minor, h, h'⟩
    · rintro ⟨major, minor, hdenotes, hdenotes'⟩
      obtain ⟨hmajor, hminor⟩ := h.unique hdenotes
      obtain ⟨hmajor', hminor'⟩ := h'.unique hdenotes'
      rw [mk.injEq]
      exact ⟨hmajor.trans hmajor'.symm, hminor.trans hminor'.symm⟩
  · refine ⟨fun hrender => ?_, congrArg render⟩
    have hread : ofString v.render = .ok v' := hrender ▸ (isCanonical v').text
    exact Except.ok.inj ((isCanonical v).text.symm.trans hread)
  · rw [gives_iff, gives_iff, ← denotes_trim_iff, trim_eq_self_of_forall isBlank_of_mem_toString,
      denotes_toString_iff]
    exact Iff.rfl

example : (ofString "\t+036 ").map render = .ok "36.0" := rfl

end ApiVersion

end CloudDirector
