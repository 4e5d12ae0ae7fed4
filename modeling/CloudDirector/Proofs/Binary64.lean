import CloudDirector.Json.Basic
import Mathlib.Algebra.Order.Ring.Nat
import Mathlib.Tactic.Positivity

/-!
# Integers of the wire as floating point numbers

Rounding goes beyond the largest magnitude for sizes of more than 2098 bits only.  An integer of
the wire has at most 64 bits above the point, so it is rounded to a finite floating point number.
What a ratio is rounded to is the magnitude nearest to it: the quotient is rounded to an integer
after 53 bits, and of the other magnitudes those that are no multiple of the same power of two are
too small to be near.
-/

namespace CloudDirector

/-- Rounding a ratio gives one of the two integers next to it. -/
lemma divNearest_mem (a b : Nat) : a / b ≤ divNearest a b ∧ divNearest a b ≤ a / b + 1 := by
  rw [divNearest]
  split <;> omega

namespace Magnitude

lemma exists_ofParts? {significand exponent : Nat} (hsignificand : significand < 2 ^ 53)
    (hexponent : exponent ≤ 2045) (hnormal : 2 ^ 52 ≤ significand ∨ exponent = 0) :
    ∃ m, ofParts? significand exponent = some m :=
  ⟨_, dif_pos ⟨hsignificand, hexponent, hnormal⟩⟩

/-- A quotient shifted to 53 bits has that many, unless nothing was shifted out. -/
lemma shifted_bounds (q : Nat) :
    q / 2 ^ (q.log2 + 1 - 53) < 2 ^ 53 ∧
      (2 ^ 52 ≤ q / 2 ^ (q.log2 + 1 - 53) ∨ q.log2 + 1 - 53 = 0) := by
  constructor
  · rw [Nat.div_lt_iff_lt_mul (by positivity), ← pow_add]
    exact Nat.lt_log2_self.trans_le (Nat.pow_le_pow_right (by decide) (by omega))
  · by_cases hsmall : q.log2 + 1 - 53 = 0
    · exact Or.inr hsmall
    · have hq : q ≠ 0 := by
        rintro rfl
        simp at hsmall
      left
      rw [Nat.le_div_iff_mul_le (by positivity), ← pow_add]
      exact (Nat.pow_le_pow_right (by decide) (by omega)).trans (Nat.log2_self_le hq)

/-- A ratio of at most 2096 bits has a nearest magnitude. -/
lemma exists_nearest? {a b : Nat} (h : (a / b).log2 ≤ 2096) : ∃ m, nearest? a b = some m := by
  obtain ⟨hlt, hnormal⟩ := shifted_bounds (a / b)
  rw [Nat.div_div_eq_div_mul] at hlt hnormal
  obtain ⟨hlow, hhigh⟩ := divNearest_mem a (b * 2 ^ ((a / b).log2 + 1 - 53))
  simp only [nearest?, Nat.pow_eq]
  split
  · exact exists_ofParts? (by decide) (by omega) (Or.inl le_rfl)
  · next hne =>
    exact exists_ofParts? (by omega) (by omega) (hnormal.imp_left fun hle => hle.trans hlow)

end Magnitude

/-! ## The nearest magnitude -/

/-- No integer is nearer to a ratio than the rounded one, and that is even where another one is as
near. -/
lemma divNearest_nearest {a c : Nat} (hc : 0 < c) (k : Nat) :
    ((c * divNearest a c : Int) - a).natAbs ≤ ((c * k : Int) - a).natAbs ∧
      (k ≠ divNearest a c → ((c * k : Int) - a).natAbs = ((c * divNearest a c : Int) - a).natAbs →
        divNearest a c % 2 = 0) := by
  have hdiv : c * (a / c) + a % c = a := Nat.div_add_mod a c
  have hmod : a % c < c := Nat.mod_lt a hc
  -- `c * k` is at `c * (a / c)` or at the next multiple, or beyond one of the two
  have hk : c * k + c ≤ c * (a / c) ∨ k = a / c ∨ k = a / c + 1 ∨
      c * (a / c) + 2 * c ≤ c * k := by
    rcases Nat.lt_or_ge k (a / c) with hlt | hge
    · left
      rw [← Nat.mul_succ]
      exact Nat.mul_le_mul_left c hlt
    · rcases Nat.lt_or_ge (a / c + 1) k with hlt | hle
      · right; right; right
        rw [Nat.mul_comm 2 c, ← Nat.mul_add]
        exact Nat.mul_le_mul_left c hlt
      · omega
  have hsucc : c * (a / c + 1) = c * (a / c) + c := Nat.mul_succ c (a / c)
  rw [divNearest]
  split
  · next h =>
    rcases hk with hk | rfl | rfl | hk <;> omega
  · next h =>
    rcases hk with hk | rfl | rfl | hk <;> omega

namespace Magnitude

/-- How far a magnitude is from `a / b` units, `b` times. -/
def distance (m : Magnitude) (a b : Nat) : Nat := ((b * m.scaled : Int) - a).natAbs

/-- No magnitude is nearer to `a / b` units, and the significand is even where another one is as
near. -/
structure IsNearest (m : Magnitude) (a b : Nat) : Prop where
  le : ∀ other : Magnitude, m.distance a b ≤ other.distance a b
  even : ∀ other : Magnitude, other.scaled ≠ m.scaled → other.distance a b = m.distance a b →
    m.significand % 2 = 0

lemma eq_of_ofParts? {significand exponent : Nat} {m : Magnitude}
    (h : ofParts? significand exponent = some m) :
    m.significand = significand ∧ m.exponent = exponent := by
  rw [ofParts?] at h
  split at h
  · cases h
    exact ⟨rfl, rfl⟩
  · cases h

/-- The nearest magnitude is a rounded quotient times a power of two, also where rounding has
carried over to the next power. -/
lemma scaled_of_nearest? {a b shift : Nat} {m : Magnitude} (hshift : (a / b).log2 + 1 - 53 = shift)
    (h : nearest? a b = some m) :
    m.scaled = divNearest a (b * 2 ^ shift) * 2 ^ shift ∧
      (divNearest a (b * 2 ^ shift) % 2 = 0 → m.significand % 2 = 0) := by
  simp only [nearest?, Nat.pow_eq, hshift] at h
  rw [scaled, Nat.pow_eq]
  split at h
  · next hcarry =>
    obtain ⟨hsignificand, hexponent⟩ := eq_of_ofParts? h
    rw [hsignificand, hexponent, hcarry, pow_succ]
    exact ⟨by omega, fun _ => rfl⟩
  · obtain ⟨hsignificand, hexponent⟩ := eq_of_ofParts? h
    rw [hsignificand, hexponent]
    exact ⟨rfl, id⟩

/-- A magnitude is a multiple of the unit that was rounded to, or is below all that has 53 bits
there. -/
lemma scaled_cases (m : Magnitude) (shift : Nat) :
    (∃ k, m.scaled = k * 2 ^ shift) ∨ (0 < shift ∧ m.scaled < 2 ^ 52 * 2 ^ shift) := by
  rcases Nat.lt_or_ge m.exponent shift with hlt | hge
  · right
    refine ⟨by omega, ?_⟩
    have hpow : 2 * 2 ^ m.exponent ≤ 2 ^ shift := by
      rw [← pow_succ']
      exact Nat.pow_le_pow_right (by decide) hlt
    have hbits : m.scaled < 2 ^ 53 * 2 ^ m.exponent :=
      Nat.mul_lt_mul_of_pos_right m.significand_lt (Nat.two_pow_pos m.exponent)
    omega
  · left
    refine ⟨m.significand * 2 ^ (m.exponent - shift), ?_⟩
    rw [scaled, Nat.pow_eq, Nat.mul_assoc, ← pow_add, Nat.sub_add_cancel hge]

lemma isNearest_of_nearest? {a b : Nat} {m : Magnitude} (hb : 0 < b) (h : nearest? a b = some m) :
    m.IsNearest a b := by
  obtain ⟨shift, hshift⟩ : ∃ shift, (a / b).log2 + 1 - 53 = shift := ⟨_, rfl⟩
  obtain ⟨hscaled, heven⟩ := scaled_of_nearest? hshift h
  have hc : 0 < b * 2 ^ shift := by positivity
  have hnearest := divNearest_nearest (a := a) hc
  have hmultiple (k : Nat) : b * (k * 2 ^ shift) = b * 2 ^ shift * k := by
    rw [Nat.mul_assoc, Nat.mul_comm k]
  have hdistance {x : Magnitude} {k : Nat} (hx : x.scaled = k * 2 ^ shift) :
      x.distance a b = ((b * 2 ^ shift : Nat) * k - a : Int).natAbs := by
    rw [distance, hx]
    norm_cast
    rw [hmultiple]
  -- what is no multiple is too small to be near, since the multiple `2 ^ 52` is nearer
  have hfar {other : Magnitude} (hpos : 0 < shift) (hlt : other.scaled < 2 ^ 52 * 2 ^ shift) :
      m.distance a b < other.distance a b := by
    have hlow : 2 ^ 52 ≤ a / b / 2 ^ shift := by
      have hbounds := (shifted_bounds (a / b)).2
      rw [hshift] at hbounds
      exact hbounds.resolve_right (by omega)
    rw [Nat.div_div_eq_div_mul, Nat.le_div_iff_mul_le hc] at hlow
    have hsmall : b * other.scaled < b * 2 ^ shift * 2 ^ 52 := by
      rw [← hmultiple]
      exact Nat.mul_lt_mul_of_pos_left hlt hb
    have hle := (hnearest (2 ^ 52)).1
    rw [hdistance hscaled]
    rw [distance]
    omega
  constructor
  · intro other
    rcases scaled_cases other shift with ⟨k, hk⟩ | ⟨hpos, hlt⟩
    · rw [hdistance hscaled, hdistance hk]
      exact (hnearest k).1
    · exact (hfar hpos hlt).le
  · intro other hne htie
    rcases scaled_cases other shift with ⟨k, hk⟩ | ⟨hpos, hlt⟩
    · rw [hdistance hscaled, hdistance hk] at htie
      refine heven ((hnearest k).2 ?_ htie)
      rintro rfl
      exact hne (hk.trans hscaled.symm)
    · exact absurd htie (hfar hpos hlt).ne'

end Magnitude

/-- A ratio of at most 2096 bits is rounded to the magnitude nearest to it. -/
lemma Binary64.exists_ofUnits (negative : Bool) {a b : Nat} (hb : 0 < b)
    (h : (a / b).log2 ≤ 2096) :
    ∃ m, ofUnits negative a b = .finite negative m ∧ m.IsNearest a b := by
  obtain ⟨m, hm⟩ := Magnitude.exists_nearest? h
  refine ⟨m, ?_, Magnitude.isNearest_of_nearest? hb hm⟩
  unfold ofUnits
  rw [hm]

/-! ## Integers of the wire -/

lemma log2_mul_two_pow_le {n k m : Nat} (h : n < 2 ^ m) : (n * 2 ^ k).log2 ≤ m + k := by
  rcases Nat.eq_zero_or_pos n with rfl | hpos
  · simp
  · have hne : n * 2 ^ k ≠ 0 := by positivity
    refine Nat.le_of_lt ((Nat.log2_lt hne).2 ?_)
    rw [pow_add]
    exact Nat.mul_lt_mul_of_pos_right h (by positivity)

/-- The unit is a power of two; under a bound its exponent is never computed with. -/
lemma Magnitude.exists_unit_eq : ∃ k ≤ 1074, unit = Nat.pow 2 k := by
  refine ⟨1074, le_rfl, ?_⟩
  unfold unit
  with_reducible rfl

/-- An integer of the wire becomes the number of its sign with the magnitude nearest to it. -/
lemma WireInteger.exists_isNearest (i : WireInteger) :
    ∃ m, Binary64.ofInt i.val = .finite (i.val < 0) m ∧
      m.IsNearest (i.val.natAbs * Magnitude.unit) 1 := by
  have hlow := i.lower
  have hhigh := i.upper
  have hlog : (i.val.natAbs * Magnitude.unit / 1).log2 ≤ 2096 := by
    obtain ⟨k, hk, hunit⟩ := Magnitude.exists_unit_eq
    have hbits := log2_mul_two_pow_le (k := k) (show i.val.natAbs < 2 ^ 64 by omega)
    rw [Nat.div_one, hunit, Nat.pow_eq]
    omega
  exact Binary64.exists_ofUnits _ Nat.one_pos hlog

end CloudDirector
