import CloudDirector.Catalog.Validation
import CloudDirector.Proofs.Catalog.Chains

/-!
# Inheritance in valid registries

A type inherits from another one when steps from a type to one of its parents lead there.  In a
valid registry the limit on the number of steps never cuts a chain of parents short: validation
has walked along all of them while it collected the fields.  So the test for descent decides
inheritance, and every registered schema has fields, under names that are different from each
other.
-/

namespace CloudDirector

namespace Registry

/-- The registry was built by registering, and validation accepts it. -/
structure IsValid (reg : Registry) : Prop where
  built : reg.Built
  validated : reg.validate = .ok ()

/-- The schema of the type, or of one that it inherits from, has the field. -/
def Declares (reg : Registry) (typeName : String) (field : String × FieldSpec) : Prop :=
  ∃ ancestor s, reg.Inherits typeName ancestor ∧ reg.lookup? ancestor = some (.schema s) ∧
    field ∈ s.fields

variable {reg : Registry}

/-! ## The fields of a type -/

lemma nodup_keys_collectFields {steps : Nat} {typeName : String}
    {fields collected : List (String × FieldSpec)} (hfields : (Members.keys fields).Nodup)
    (h : reg.collectFields steps typeName fields = .ok collected) :
    (Members.keys collected).Nodup := by
  induction steps generalizing typeName fields collected with
  | zero => cases h
  | succ steps ih =>
    obtain ⟨s, inherited, -, hinherited, rfl⟩ := collectFields_succ_eq_ok.1 h
    refine Members.nodup_keys_update ?_ s.fields
    exact foldlM_induction (P := fun acc => (Members.keys acc).Nodup)
      (fun parent _ acc acc' hacc hstep => ih hacc hstep) hfields hinherited

/-- The fields of a type have different names. -/
lemma nodup_keys_resolvedFields {typeName : String} {fields : List (String × FieldSpec)}
    (h : reg.resolvedFields typeName = .ok fields) : (Members.keys fields).Nodup :=
  nodup_keys_collectFields
    (show (Members.keys ([] : List (String × FieldSpec))).Nodup from List.nodup_nil) h

/-- What is collected was there, or is declared by a type on the way. -/
lemma mem_or_declares_of_mem_collectFields {steps : Nat} {typeName : String}
    {fields collected : List (String × FieldSpec)}
    (h : reg.collectFields steps typeName fields = .ok collected) {field : String × FieldSpec}
    (hfield : field ∈ collected) : field ∈ fields ∨ reg.Declares typeName field := by
  induction steps generalizing typeName fields collected with
  | zero => cases h
  | succ steps ih =>
    obtain ⟨s, inherited, hs, hinherited, rfl⟩ := collectFields_succ_eq_ok.1 h
    rcases Members.mem_or_mem_of_mem_update hfield with hmem | hmem
    · refine foldlM_induction (P := fun acc => field ∈ acc → field ∈ fields ∨
        reg.Declares typeName field) (fun parent hparent acc acc' hacc hstep hmem' => ?_) Or.inl
        hinherited hmem
      rcases ih hstep hmem' with hold | ⟨ancestor, t, hinherits, ht, hdeclared⟩
      · exact hacc hold
      · exact Or.inr ⟨ancestor, t, .head ⟨s, hs, hparent⟩ hinherits, ht, hdeclared⟩
    · exact Or.inr ⟨typeName, s, .refl, hs, hmem⟩

/-- Every field of a type is declared by the type or by one that it inherits from. -/
lemma declares_of_mem_resolvedFields {typeName : String} {fields : List (String × FieldSpec)}
    (h : reg.resolvedFields typeName = .ok fields) {field : String × FieldSpec}
    (hfield : field ∈ fields) : reg.Declares typeName field :=
  (mem_or_declares_of_mem_collectFields h hfield).resolve_left List.not_mem_nil

/-- What a type declares itself is among its fields. -/
lemma mem_resolvedFields_of_mem (hreg : reg.Coherent) {typeName : String} {s : Schema}
    {fields : List (String × FieldSpec)} (hs : reg.lookup? typeName = some (.schema s))
    (h : reg.resolvedFields typeName = .ok fields) {field : String × FieldSpec}
    (hfield : field ∈ s.fields) : field ∈ fields := by
  obtain ⟨t, inherited, ht, -, rfl⟩ := collectFields_succ_eq_ok.1 h
  obtain rfl : s = t := by simpa [hs] using ht
  have hkeyed : (Members.keys s.fields).Nodup := hreg.keyed hs
  exact Members.mem_of_get?_eq_some (Members.get?_update_of_mem hkeyed hfield)

/-- A type with fields is a registered schema. -/
lemma exists_schema_of_resolvedFields {typeName : String} {fields : List (String × FieldSpec)}
    (h : reg.resolvedFields typeName = .ok fields) :
    ∃ s, reg.lookup? typeName = some (.schema s) := by
  obtain ⟨s, -, hs, -, -⟩ := collectFields_succ_eq_ok.1 h
  exact ⟨s, hs⟩

/-! ## The test for descent -/

lemma inherits_of_reaches {steps : Nat} {typeName ancestor : String}
    (h : reg.reaches steps typeName ancestor = true) : reg.Inherits typeName ancestor := by
  obtain ⟨n, -, hchain⟩ := reaches_iff.1 h
  exact hchain.inherits

/-- Where fields could be collected in a number of steps, no chain of parents is longer. -/
lemma reaches_of_inherits {steps : Nat} {typeName ancestor : String}
    {fields collected : List (String × FieldSpec)}
    (hcollect : reg.collectFields steps typeName fields = .ok collected)
    (h : reg.Inherits typeName ancestor) : reg.reaches steps typeName ancestor = true := by
  obtain ⟨n, hchain⟩ := inherits_iff_exists_chain.1 h
  have hlt := lt_of_collectFields hcollect hchain
  exact reaches_iff.2 ⟨n, Nat.le_of_lt hlt, hchain⟩

lemma eq_of_inherits_of_lookup? {typeName ancestor : String}
    (hnone : ∀ s, reg.lookup? typeName ≠ some (.schema s)) (h : reg.Inherits typeName ancestor) :
    typeName = ancestor := by
  rcases h.cases_head with heq | ⟨parent, ⟨s, hs, -⟩, -⟩
  · exact heq
  · exact absurd hs (hnone s)

/-! ## What validation has checked -/

lemma dropRepeats_eq_nil_iff {xs : List String} : dropRepeats xs = [] ↔ xs = [] := by
  fun_induction dropRepeats xs <;> simp_all

lemma unresolved_eq_nil_iff :
    reg.unresolved = [] ↔ ∀ s ∈ reg.schemas, s.unresolved reg = [] := by
  rw [unresolved, dropRepeats_eq_nil_iff, ← List.length_eq_zero_iff, List.length_mergeSort,
    List.length_eq_zero_iff, List.flatMap_eq_nil_iff]

lemma forM_eq_ok_iff {α : Type} {xs : List α} {f : α → Result Unit} :
    xs.forM f = .ok () ↔ ∀ x ∈ xs, f x = .ok () := by
  induction xs with
  | nil =>
    constructor
    · intro _ x hx
      cases hx
    · exact fun _ => rfl
  | cons y ys ih =>
    rw [List.forall_mem_cons, ← ih, List.forM_eq_forM, List.forM_cons]
    cases hy : f y with
    | error e => simp [bind, Except.bind]
    | ok u => simp [bind, Except.bind]

lemma forM_eq_error {α : Type} {xs : List α} {f : α → Result Unit} {r : Report}
    (h : xs.forM f = .error r) : ∃ x ∈ xs, f x = .error r := by
  induction xs with
  | nil => cases h
  | cons x xs ih =>
    rw [List.forM_eq_forM, List.forM_cons] at h
    cases hx : f x with
    | error e =>
      rw [hx] at h
      cases h
      exact ⟨x, List.mem_cons_self, hx⟩
    | ok u =>
      rw [hx] at h
      obtain ⟨y, hy, hfy⟩ := ih h
      exact ⟨y, List.mem_cons_of_mem _ hy, hfy⟩

/-- Validation accepts a registry exactly if everything resolves and every schema has fields. -/
lemma validate_eq_ok_iff :
    reg.validate = .ok () ↔ ∀ s ∈ reg.schemas, s.unresolved reg = [] ∧
      ∃ fields, reg.resolvedFields s.typeName = .ok fields := by
  have hfields : ∀ s : Schema, ((reg.resolvedFields s.typeName).map fun _ => ()) = .ok () ↔
      ∃ fields, reg.resolvedFields s.typeName = .ok fields := by
    intro s
    cases reg.resolvedFields s.typeName with
    | error r => simp [Except.map]
    | ok fields => simp [Except.map]
  rw [validate]
  split
  · next hnil =>
    rw [unresolved_eq_nil_iff] at hnil
    simp only [forM_eq_ok_iff, hfields]
    exact ⟨fun h s hs => ⟨hnil s hs, h s hs⟩, fun h s hs => (h s hs).2⟩
  · next hne =>
    constructor
    · intro h
      cases h
    · intro h
      exact absurd (unresolved_eq_nil_iff.2 fun s hs => (h s hs).1) hne

namespace IsValid

variable (hreg : reg.IsValid) {typeName : String} {s : Schema}

include hreg

lemma coherent : reg.Coherent := hreg.built.coherent

lemma exists_resolvedFields (h : reg.lookup? typeName = some (.schema s)) :
    ∃ fields, reg.resolvedFields typeName = .ok fields := by
  obtain ⟨-, hfields⟩ := validate_eq_ok_iff.1 hreg.validated s (hreg.coherent.mem_schemas h)
  rwa [hreg.coherent.typeName_eq h] at hfields

/-- In a valid registry the test for descent decides inheritance. -/
lemma isDescendant_iff {ancestor : String} :
    reg.isDescendant typeName ancestor = true ↔ reg.Inherits typeName ancestor := by
  refine ⟨inherits_of_reaches, fun h => ?_⟩
  by_cases hschema : ∃ s, reg.lookup? typeName = some (.schema s)
  · obtain ⟨s, hs⟩ := hschema
    obtain ⟨fields, hfields⟩ := hreg.exists_resolvedFields hs
    exact reaches_of_inherits hfields h
  · obtain rfl := eq_of_inherits_of_lookup? (not_exists.1 hschema) h
    exact reaches_iff.2 ⟨0, Nat.zero_le _, .here _⟩

end IsValid

end Registry

end CloudDirector
