import CloudDirector.Proofs.Catalog.Registration
import Mathlib.Logic.Relation

/-!
# Chains of parents

Collecting fields and testing for descent both walk from a type to its parents, and both stop after
a number of steps: the one with a failure, the other with "no".  A chain counts these steps, and
each walk is described by the lengths of the chains: fields can be collected in a number of levels
exactly if every chain is shorter, and a type is found in a number of steps exactly if a chain of at
most that length leads there.
-/

namespace CloudDirector

namespace Registry

/-- The first type is a registered schema, and the second one is among its parents. -/
def IsParent (reg : Registry) (child parent : String) : Prop :=
  ∃ s, reg.lookup? child = some (.schema s) ∧ parent ∈ s.parents

/-- The first type is the second one or derived from it, along any number of parents. -/
def Inherits (reg : Registry) : String → String → Prop := Relation.ReflTransGen reg.IsParent

/-- So many steps, each from a type to one of its parents, lead from the first type to the second
one. -/
inductive Chain (reg : Registry) : Nat → String → String → Prop
  | here (name : String) : Chain reg 0 name name
  | up {n : Nat} {child parent ancestor : String} (step : reg.IsParent child parent)
      (rest : Chain reg n parent ancestor) : Chain reg (n + 1) child ancestor

/-! ## Folds that may fail -/

section Fold

variable {α β : Type} {f : β → α → Result β}

lemma foldlM_cons_eq_ok {b r : β} {x : α} {xs : List α} :
    (x :: xs).foldlM f b = .ok r ↔ ∃ c, f b x = .ok c ∧ xs.foldlM f c = .ok r := by
  rw [List.foldlM_cons]
  cases h : f b x with
  | error e => simp [bind, Except.bind]
  | ok c => simp [bind, Except.bind]

lemma foldlM_append_eq_ok {xs ys : List α} {b r : β} :
    (xs ++ ys).foldlM f b = .ok r ↔ ∃ c, xs.foldlM f b = .ok c ∧ ys.foldlM f c = .ok r := by
  rw [List.foldlM_append]
  cases h : xs.foldlM f b with
  | error e => simp [bind, Except.bind]
  | ok c => simp [bind, Except.bind]

/-- A fold that succeeds has applied its function to each item. -/
lemma exists_of_foldlM_eq_ok {xs : List α} {b r : β} (h : xs.foldlM f b = .ok r) {x : α}
    (hx : x ∈ xs) : ∃ acc acc', f acc x = .ok acc' := by
  induction xs generalizing b with
  | nil => cases hx
  | cons y ys ih =>
    obtain ⟨c, hc, hrest⟩ := foldlM_cons_eq_ok.1 h
    rcases List.mem_cons.1 hx with rfl | hmem
    · exact ⟨b, c, hc⟩
    · exact ih hrest hmem

/-- What each application keeps, the whole fold keeps. -/
lemma foldlM_induction {P : β → Prop} {xs : List α}
    (step : ∀ x ∈ xs, ∀ b c, P b → f b x = .ok c → P c) {b r : β} (hb : P b)
    (h : xs.foldlM f b = .ok r) : P r := by
  induction xs generalizing b with
  | nil =>
    cases h
    exact hb
  | cons y ys ih =>
    obtain ⟨c, hc, hrest⟩ := foldlM_cons_eq_ok.1 h
    exact ih (fun x hx => step x (List.mem_cons_of_mem _ hx)) (step y List.mem_cons_self b c hb hc)
      hrest

/-- A fold of a function that always succeeds succeeds. -/
lemma exists_foldlM_eq_ok {xs : List α}
    (h : ∀ x ∈ xs, ∀ b, ∃ c, f b x = .ok c) (b : β) : ∃ r, xs.foldlM f b = .ok r := by
  induction xs generalizing b with
  | nil => exact ⟨b, rfl⟩
  | cons x xs ih =>
    obtain ⟨c, hc⟩ := h x List.mem_cons_self b
    obtain ⟨r, hr⟩ := ih (fun y hy => h y (List.mem_cons_of_mem _ hy)) c
    exact ⟨r, foldlM_cons_eq_ok.2 ⟨c, hc, hr⟩⟩

lemma foldlM_eq_error {xs : List α} {b : β} {r : Report}
    (h : xs.foldlM f b = .error r) : ∃ x ∈ xs, ∃ c, f c x = .error r := by
  induction xs generalizing b with
  | nil => cases h
  | cons x xs ih =>
    rw [List.foldlM_cons] at h
    cases hx : f b x with
    | error e =>
      rw [hx] at h
      cases h
      exact ⟨x, List.mem_cons_self, b, hx⟩
    | ok c =>
      rw [hx] at h
      obtain ⟨y, hy, d, hd⟩ := ih h
      exact ⟨y, List.mem_cons_of_mem _ hy, d, hd⟩

end Fold

/-! ## Chains -/

variable {reg : Registry} {child parent ancestor name : String} {m n : Nat}

namespace Chain

lemma inherits (h : reg.Chain n child ancestor) : reg.Inherits child ancestor := by
  induction h with
  | here name => exact .refl
  | up step _ ih => exact .head step ih

lemma trans {middle : String} (h : reg.Chain m child middle) (h' : reg.Chain n middle ancestor) :
    reg.Chain (m + n) child ancestor := by
  induction h with
  | here name => rwa [Nat.zero_add]
  | up step _ ih =>
    rw [Nat.add_right_comm]
    exact .up step (ih h')

/-- A chain that leads back to its start can be walked any number of times. -/
lemma mul (h : reg.Chain n name name) (k : Nat) : reg.Chain (k * n) name name := by
  induction k with
  | zero =>
    rw [Nat.zero_mul]
    exact .here name
  | succ k ih =>
    rw [Nat.succ_mul]
    exact ih.trans h

end Chain

lemma inherits_iff_exists_chain :
    reg.Inherits child ancestor ↔ ∃ n, reg.Chain n child ancestor := by
  constructor
  · intro h
    induction h using Relation.ReflTransGen.head_induction_on with
    | refl => exact ⟨0, .here _⟩
    | head step _ ih =>
      obtain ⟨n, hn⟩ := ih
      exact ⟨n + 1, .up step hn⟩
  · rintro ⟨n, hn⟩
    exact hn.inherits

/-! ## The two walks -/

/-- Collecting the fields of a type looks its schema up, collects those of the parents, and sets
its own. -/
lemma collectFields_succ_eq_ok {steps : Nat} {typeName : String}
    {fields collected : List (String × FieldSpec)} :
    reg.collectFields (steps + 1) typeName fields = .ok collected ↔
      ∃ s inherited, reg.lookup? typeName = some (.schema s) ∧
        s.parents.foldlM (fun acc parent => reg.collectFields steps parent acc) fields =
          .ok inherited ∧
        collected = Members.update inherited s.fields := by
  rw [collectFields]
  constructor
  · intro h
    split at h
    · cases h
    · next s hs =>
      split at h
      · cases h
      · next inherited hinherited =>
        cases h
        exact ⟨s, inherited, schema_eq_ok_iff.1 hs, hinherited, rfl⟩
  · rintro ⟨s, inherited, hs, hinherited, rfl⟩
    simp only [schema_eq_ok_iff.2 hs, hinherited]

/-- The test for descent finds what a chain within its number of steps leads to. -/
lemma reaches_iff {steps : Nat} :
    reg.reaches steps child ancestor = true ↔ ∃ n ≤ steps, reg.Chain n child ancestor := by
  induction steps generalizing child with
  | zero =>
    rw [reaches, beq_iff_eq]
    constructor
    · rintro rfl
      exact ⟨0, Nat.le_refl 0, .here _⟩
    · rintro ⟨n, hn, hchain⟩
      obtain rfl := Nat.le_zero.1 hn
      cases hchain
      rfl
  | succ steps ih =>
    rw [reaches, Bool.or_eq_true, beq_iff_eq]
    constructor
    · rintro (rfl | h)
      · exact ⟨0, Nat.zero_le _, .here _⟩
      · split at h
        · next s hs =>
          obtain ⟨parent, hparent, hreach⟩ := List.any_eq_true.1 h
          obtain ⟨n, hn, hchain⟩ := ih.1 hreach
          exact ⟨n + 1, Nat.succ_le_succ hn, .up ⟨s, hs, hparent⟩ hchain⟩
        · cases h
    · rintro ⟨n, hn, hchain⟩
      cases hchain with
      | here => exact Or.inl rfl
      | up step rest =>
        obtain ⟨s, hs, hparent⟩ := step
        refine Or.inr ?_
        rw [hs]
        exact List.any_eq_true.2 ⟨_, hparent, ih.2 ⟨_, Nat.le_of_succ_le_succ hn, rest⟩⟩

/-- A type is found to be a descendant within one step more than the limit. -/
lemma isDescendant_iff_exists_chain :
    reg.isDescendant child ancestor = true ↔
      ∃ n ≤ inheritanceLimit + 1, reg.Chain n child ancestor :=
  reaches_iff

section Collect

variable {steps : Nat} {fields collected : List (String × FieldSpec)}

/-- Where fields were collected, every chain is shorter than the number of levels. -/
lemma lt_of_collectFields (h : reg.collectFields steps child fields = .ok collected)
    (hchain : reg.Chain n child ancestor) : n < steps := by
  induction steps generalizing child fields collected n with
  | zero => cases h
  | succ steps ih =>
    cases hchain with
    | here => exact Nat.succ_pos steps
    | up step rest =>
      obtain ⟨s, hs, hparent⟩ := step
      obtain ⟨t, inherited, ht, hinherited, -⟩ := collectFields_succ_eq_ok.1 h
      obtain rfl : s = t := by simpa [hs] using ht
      obtain ⟨acc, acc', hacc⟩ := exists_of_foldlM_eq_ok hinherited hparent
      exact Nat.succ_lt_succ (ih hacc rest)

/-- Where all parents are schemas and every chain is shorter than the number of levels, fields are
collected. -/
lemma exists_collectFields
    (hparents : ∀ {child parent}, reg.IsParent child parent →
      ∃ t, reg.lookup? parent = some (.schema t))
    {s : Schema} (hs : reg.lookup? child = some (.schema s))
    (hchains : ∀ n ancestor, reg.Chain n child ancestor → n < steps)
    (fields : List (String × FieldSpec)) :
    ∃ collected, reg.collectFields steps child fields = .ok collected := by
  induction steps generalizing child s fields with
  | zero => exact absurd (hchains 0 child (.here child)) (Nat.lt_irrefl 0)
  | succ steps ih =>
    have hfold : ∀ parent ∈ s.parents, ∀ acc, ∃ acc',
        reg.collectFields steps parent acc = .ok acc' := by
      intro parent hparent acc
      have hstep : reg.IsParent child parent := ⟨s, hs, hparent⟩
      obtain ⟨t, ht⟩ := hparents hstep
      refine ih ht (fun n ancestor hchain => ?_) acc
      exact Nat.lt_of_succ_lt_succ (hchains (n + 1) ancestor (.up hstep hchain))
    obtain ⟨inherited, hinherited⟩ := exists_foldlM_eq_ok hfold fields
    exact ⟨_, collectFields_succ_eq_ok.2 ⟨s, inherited, hs, hinherited, rfl⟩⟩

end Collect

/-! ## Bounded chains -/

/-- Where the chains are bounded, none leads back to its start. -/
lemma eq_zero_of_chain_self {bound : Nat} (hbound : ∀ n child ancestor,
    reg.Chain n child ancestor → n ≤ bound) (h : reg.Chain n name name) : n = 0 := by
  by_contra hn
  have hlong := hbound _ _ _ (h.mul (bound + 1))
  have hmul : bound + 1 ≤ (bound + 1) * n := Nat.le_mul_of_pos_right _ (Nat.pos_of_ne_zero hn)
  omega

/-- Where the chains are bounded, two types that inherit from each other are the same. -/
lemma eq_of_inherits_of_inherits {bound : Nat} (hbound : ∀ n child ancestor,
    reg.Chain n child ancestor → n ≤ bound) (h : reg.Inherits child ancestor)
    (h' : reg.Inherits ancestor child) : child = ancestor := by
  obtain ⟨m, hm⟩ := inherits_iff_exists_chain.1 h
  obtain ⟨n, hn⟩ := inherits_iff_exists_chain.1 h'
  have hzero := eq_zero_of_chain_self hbound (hm.trans hn)
  obtain rfl : m = 0 := by omega
  cases hm
  rfl

end Registry

end CloudDirector
