import CloudDirector.Number.Unsigned
import Mathlib.Order.Basic
import Mathlib.Tactic.IntervalCases

/-!
# Spellings of numbers without a sign

A number may be spelled with a plus sign and with zeros in front.  What is read is the number that
is spelled, if it is below the limit.  In decimal a number has one form, without either of them.
-/

namespace CloudDirector.Unsigned

/-- The characters are digits with the given value, and there is at least one. -/
structure AreDigits (cs : List Char) (n : Nat) : Prop where
  ne_nil : cs ≠ []
  isDigit : ∀ c ∈ cs, c.isDigit = true
  value : Nat.ofDigitChars 10 cs 0 = n

/-- The characters spell the number: digits of its value, with a plus sign in front or without. -/
def Spells (cs : List Char) (n : Nat) : Prop :=
  ∃ digits, (cs = digits ∨ cs = '+' :: digits) ∧ AreDigits digits n

/-- The characters are the number in decimal: no zero is in front of another digit. -/
structure IsDecimal (cs : List Char) (n : Nat) : Prop extends AreDigits cs n where
  plain : cs.head? = some '0' → cs = ['0']

variable {cs : List Char} {limit m n : Nat}

lemma addDigits?_eq_some_iff :
    addDigits? n cs = some m ↔ (∀ c ∈ cs, c.isDigit = true) ∧ Nat.ofDigitChars 10 cs n = m := by
  induction cs generalizing n with
  | nil => simp [addDigits?]
  | cons c cs ih =>
    rw [addDigits?, List.forall_mem_cons, Nat.ofDigitChars_cons, Nat.mul_comm 10]
    split
    · next hc =>
      rw [ih, and_assoc, and_iff_right hc]
      rfl
    · next hc => simp [hc]

lemma ofDigits?_eq_some_iff : ofDigits? cs = some n ↔ AreDigits cs n := by
  rw [ofDigits?]
  constructor
  · intro h
    split at h
    · cases h
    · next hne =>
      obtain ⟨hdigits, hvalue⟩ := addDigits?_eq_some_iff.1 h
      exact ⟨fun hnil => hne (List.isEmpty_iff.2 hnil), hdigits, hvalue⟩
  · intro h
    rw [if_neg fun hempty => h.ne_nil (List.isEmpty_iff.1 hempty)]
    exact addDigits?_eq_some_iff.2 ⟨h.isDigit, h.value⟩

/-- A sign is no digit, so what follows it are the digits. -/
lemma spells_sign_iff : Spells ('+' :: cs) n ↔ AreDigits cs n := by
  constructor
  · rintro ⟨digits, rfl | hsign, hdigits⟩
    · exact absurd (hdigits.isDigit '+' List.mem_cons_self) (by decide)
    · rwa [List.tail_eq_of_cons_eq hsign]
  · exact fun hdigits => ⟨cs, Or.inr rfl, hdigits⟩

lemma spells_iff_of_ne_sign (hsign : ∀ rest, cs ≠ '+' :: rest) : Spells cs n ↔ AreDigits cs n := by
  constructor
  · rintro ⟨digits, rfl | rfl, hdigits⟩
    · exact hdigits
    · exact absurd rfl (hsign digits)
  · exact fun hdigits => ⟨cs, Or.inl rfl, hdigits⟩

/-- What is read are the spelled numbers below the limit. -/
lemma ofChars?_eq_some_iff : ofChars? limit cs = some n ↔ Spells cs n ∧ n < limit := by
  have hread {digits : List Char}
      (hsome : ∀ k, ofDigits? digits = some k →
        ofChars? limit cs = if k < limit then some k else none)
      (hnone : ofDigits? digits = none → ofChars? limit cs = none) :
      ofChars? limit cs = some n ↔ AreDigits digits n ∧ n < limit := by
    rw [← ofDigits?_eq_some_iff]
    cases hdigits : ofDigits? digits with
    | none => simp [hnone hdigits]
    | some k =>
      rw [hsome k hdigits, Option.ite_none_right_eq_some, Option.some.injEq]
      constructor
      · rintro ⟨hlt, rfl⟩
        exact ⟨rfl, hlt⟩
      · rintro ⟨rfl, hlt⟩
        exact ⟨hlt, rfl⟩
  by_cases hsign : ∃ rest, cs = '+' :: rest
  · obtain ⟨rest, rfl⟩ := hsign
    rw [spells_sign_iff]
    exact hread (fun k hk => by rw [ofChars?.eq_1, hk]) fun hk => by rw [ofChars?.eq_1, hk]
  · have hne : ∀ rest, cs ≠ '+' :: rest := fun rest hcs => hsign ⟨rest, hcs⟩
    rw [spells_iff_of_ne_sign hne]
    exact hread (fun k hk => by rw [ofChars?.eq_2 _ _ hne, hk]) fun hk => by
      rw [ofChars?.eq_2 _ _ hne, hk]

lemma Spells.unique (h : Spells cs m) (h' : Spells cs n) : m = n := by
  have hm : ofChars? (m + n + 1) cs = some m := ofChars?_eq_some_iff.2 ⟨h, by omega⟩
  have hn : ofChars? (m + n + 1) cs = some n := ofChars?_eq_some_iff.2 ⟨h', by omega⟩
  exact Option.some.inj (hm.symm.trans hn)

/-- The only characters are digits and the sign. -/
lemma Spells.mem (h : Spells cs n) {c : Char} (hc : c ∈ cs) : c = '+' ∨ c.isDigit = true := by
  obtain ⟨digits, rfl | rfl, hdigits⟩ := h
  · exact Or.inr (hdigits.isDigit c hc)
  · exact (List.mem_cons.1 hc).imp_right (hdigits.isDigit c)

lemma eq_zero_of_head?_toDigits (h : (Nat.toDigits 10 n).head? = some '0') : n = 0 := by
  induction n using Nat.strong_induction_on with
  | h n ih =>
    by_cases hlt : n < 10
    · rw [Nat.toDigits_of_lt_base hlt, List.head?_cons, Option.some.injEq] at h
      interval_cases n <;> revert h <;> decide
    · -- the first digit is the one of the number without its last digit
      rw [Nat.toDigits_of_base_le (by decide) (Nat.not_lt.1 hlt), List.head?_append] at h
      cases hhead : (Nat.toDigits 10 (n / 10)).head? with
      | none => exact absurd (List.head?_eq_none_iff.1 hhead) Nat.toDigits_ne_nil
      | some c =>
        rw [hhead] at h
        have hzero := ih (n / 10) (by omega) (hhead.trans h)
        omega

lemma isDecimal_toDigits (n : Nat) : IsDecimal (Nat.toDigits 10 n) n where
  ne_nil := Nat.toDigits_ne_nil
  isDigit _ := Nat.isDigit_of_mem_toDigits (by decide) (by decide)
  value := Nat.ofDigitChars_ten_toDigits
  plain h := by
    rw [eq_zero_of_head?_toDigits h]
    rfl

lemma IsDecimal.spells (h : IsDecimal cs n) : Spells cs n := ⟨cs, Or.inl rfl, h.toAreDigits⟩

end CloudDirector.Unsigned
