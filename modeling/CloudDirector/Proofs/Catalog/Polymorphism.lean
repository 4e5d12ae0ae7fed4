import CloudDirector.Proofs.Catalog.Acceptance

/-!
# Polymorphic bases

A type has a polymorphic base if it carries the flag itself or inherits, through any number of
parents, from a type that carries it.  The query for polymorphic types is about exactly that, but
looks at the type alone.  So it overlooks the types that have their base from a parent, and is right
about all types of a registry exactly if every type with a flagged parent is flagged again.
-/

namespace CloudDirector

namespace Registry

/-- The type is a registered schema, and it or a type that it inherits from carries the flag. -/
def HasPolymorphicBase (reg : Registry) (typeName : String) : Prop :=
  (∃ s, reg.lookup? typeName = some (.schema s)) ∧
    ∃ base t, reg.Inherits typeName base ∧ reg.lookup? base = some (.schema t) ∧
      t.polymorphic = true

/-- The query for polymorphic types tells whether the type has a polymorphic base. -/
def TellsBase (reg : Registry) (typeName : String) : Prop :=
  reg.isPolymorphic typeName = true ↔ reg.HasPolymorphicBase typeName

variable {reg : Registry} {typeName : String} {s : Schema}

lemma isPolymorphic_iff :
    reg.isPolymorphic typeName = true ↔
      ∃ s, reg.lookup? typeName = some (.schema s) ∧ s.polymorphic = true := by
  unfold isPolymorphic
  split <;> simp_all

lemma hasPolymorphicBase_of_isPolymorphic (h : reg.isPolymorphic typeName = true) :
    reg.HasPolymorphicBase typeName := by
  obtain ⟨s, hs, hflag⟩ := isPolymorphic_iff.1 h
  exact ⟨⟨s, hs⟩, typeName, s, .refl, hs, hflag⟩

/-- What the query says yes to has a polymorphic base, so that only a "no" can be wrong. -/
lemma tellsBase_iff_imp :
    reg.TellsBase typeName ↔
      (reg.HasPolymorphicBase typeName → reg.isPolymorphic typeName = true) :=
  ⟨fun h => h.2, fun h => ⟨hasPolymorphicBase_of_isPolymorphic, h⟩⟩

namespace IsValid

variable (hreg : reg.IsValid)

include hreg

/-- A base is the type's own flag or comes from one of its parents. -/
lemma hasPolymorphicBase_iff_parents (hs : reg.lookup? typeName = some (.schema s)) :
    reg.HasPolymorphicBase typeName ↔
      s.polymorphic = true ∨ ∃ parent ∈ s.parents, reg.HasPolymorphicBase parent := by
  constructor
  · rintro ⟨-, base, t, hinherits, ht, hflag⟩
    rcases hinherits.cases_head with rfl | ⟨parent, ⟨s', hs', hparent⟩, hrest⟩
    · obtain rfl : s = t := by simpa [hs] using ht
      exact Or.inl hflag
    · obtain rfl : s = s' := by simpa [hs] using hs'
      have hregistered := hreg.resolves.parents s (hreg.coherent.mem_schemas hs) parent hparent
      exact Or.inr ⟨parent, hparent, hregistered, base, t, hrest, ht, hflag⟩
  · rintro (hflag | ⟨parent, hparent, -, base, t, hinherits, ht, hflag⟩)
    · exact ⟨⟨s, hs⟩, typeName, s, .refl, hs, hflag⟩
    · exact ⟨⟨s, hs⟩, base, t, .head ⟨s, hs, hparent⟩ hinherits, ht, hflag⟩

/-- The test for descent finds the base. -/
lemma hasPolymorphicBase_iff_isDescendant :
    reg.HasPolymorphicBase typeName ↔
      ∃ t ∈ reg.schemas, t.polymorphic = true ∧ reg.isDescendant typeName t.typeName = true := by
  simp only [hreg.isDescendant_iff]
  constructor
  · rintro ⟨-, base, t, hinherits, ht, hflag⟩
    refine ⟨t, hreg.coherent.mem_schemas ht, hflag, ?_⟩
    rwa [hreg.coherent.typeName_eq ht]
  · rintro ⟨t, hmem, hflag, hinherits⟩
    have ht : reg.lookup? t.typeName = some (.schema t) := hreg.coherent.mem_schemas_iff.1 hmem
    refine ⟨?_, t.typeName, t, hinherits, ht, hflag⟩
    -- a name without a schema has no parents, and so would be the name of the base
    by_contra hnone
    obtain rfl := eq_of_inherits_of_lookup? (not_exists.1 hnone) hinherits
    exact hnone ⟨t, ht⟩

end IsValid

/-- Where every type with a flagged parent is flagged again, every type with a base is flagged. -/
lemma isPolymorphic_of_hasPolymorphicBase
    (hclosed : ∀ child parent, reg.IsParent child parent → reg.isPolymorphic parent = true →
      reg.isPolymorphic child = true)
    (h : reg.HasPolymorphicBase typeName) : reg.isPolymorphic typeName = true := by
  obtain ⟨-, base, t, hinherits, ht, hflag⟩ := h
  induction hinherits using Relation.ReflTransGen.head_induction_on with
  | refl => exact isPolymorphic_iff.2 ⟨t, ht, hflag⟩
  | head step _ ih => exact hclosed _ _ step ih

/-- In a valid registry the test for descent finds the polymorphic base of a type.  The query is
right about a schema exactly if that is flagged itself or no parent has a polymorphic base, it is
right about all other names, and it is right about all names exactly if every type with a flagged
parent is flagged again. -/
theorem tellsBase_iff (hreg : reg.IsValid) :
    (∀ typeName, reg.HasPolymorphicBase typeName ↔
      ∃ t ∈ reg.schemas, t.polymorphic = true ∧
        reg.isDescendant typeName t.typeName = true) ∧
    (∀ typeName s, reg.lookup? typeName = some (.schema s) →
      (reg.TellsBase typeName ↔
        s.polymorphic = true ∨ ∀ parent ∈ s.parents, ¬ reg.HasPolymorphicBase parent)) ∧
    (∀ typeName, (∀ s, reg.lookup? typeName ≠ some (.schema s)) → reg.TellsBase typeName) ∧
    ((∀ typeName, reg.TellsBase typeName) ↔
      ∀ child parent, reg.IsParent child parent → reg.isPolymorphic parent = true →
        reg.isPolymorphic child = true) := by
  refine ⟨fun _ => hreg.hasPolymorphicBase_iff_isDescendant, fun typeName s hs => ?_,
    fun typeName hnone => ?_, fun h child parent hstep hparent => ?_, fun hclosed typeName => ?_⟩
  · have hown : reg.isPolymorphic typeName = true ↔ s.polymorphic = true := by
      simp [isPolymorphic_iff, hs]
    rw [tellsBase_iff_imp, hreg.hasPolymorphicBase_iff_parents hs, hown]
    constructor
    · intro h
      by_cases hflag : s.polymorphic = true
      · exact Or.inl hflag
      · exact Or.inr fun parent hparent hbase => hflag (h (Or.inr ⟨parent, hparent, hbase⟩))
    · rintro (hflag | hnone) hbase
      · exact hflag
      · exact hbase.resolve_right fun ⟨parent, hparent, hbase⟩ => hnone parent hparent hbase
  · refine tellsBase_iff_imp.2 fun ⟨⟨s, hs⟩, _⟩ => absurd hs (hnone s)
  · obtain ⟨t, ht, hflag⟩ := isPolymorphic_iff.1 hparent
    have hchild : reg.HasPolymorphicBase child := by
      obtain ⟨s, hs, hmem⟩ := hstep
      exact ⟨⟨s, hs⟩, parent, t, .single ⟨s, hs, hmem⟩, ht, hflag⟩
    exact (h child).2 hchild
  · exact tellsBase_iff_imp.2 (isPolymorphic_of_hasPolymorphicBase hclosed)

/-! ### A flagged base with a type derived from it -/

namespace Flagged

/-- A polymorphic base. -/
def base : Schema where
  typeName := "Base"
  polymorphic := true

/-- A type derived from it, flagged or not. -/
def derived (flag : Bool) : Schema where
  typeName := "Derived"
  parents := ["Base"]
  polymorphic := flag

/-- The registry of both. -/
def registry (flag : Bool) : Registry where
  entries := [("Base", .schema base), ("Derived", .schema (derived flag))]
  discriminators := [("Base", "Base"), ("Derived", "Derived")]

lemma isValid_registry (flag : Bool) : (registry flag).IsValid where
  built := by
    have hall : registerAll {} [.schema base, .schema (derived flag)] = .ok (registry flag) := rfl
    have hkeyed : ∀ e ∈ [Entry.schema base, .schema (derived flag)], e.Keyed := by
      cases flag <;> decide
    exact Built.empty.registerAll hkeyed hall
  validated := by
    rw [validate_eq_ok_iff, show (registry flag).schemas = [base, derived flag] from rfl]
    simp only [List.forall_mem_cons, List.not_mem_nil, false_implies, implies_true, and_true]
    exact ⟨⟨rfl, _, rfl⟩, rfl, _, rfl⟩

/-- Where the derived type is flagged again, the query is right about every type. -/
theorem tellsBase_registry :
    (registry true).IsValid ∧ ∀ typeName, (registry true).TellsBase typeName := by
  refine ⟨isValid_registry true, (tellsBase_iff (isValid_registry true)).2.2.2.2 ?_⟩
  rintro child parent ⟨s, hs, hparent⟩ -
  have hmem : (child, Entry.schema s) ∈ (registry true).entries := Members.mem_of_get?_eq_some hs
  simp only [registry, List.mem_cons, Prod.mk.injEq, Entry.schema.injEq, List.not_mem_nil,
    or_false] at hmem
  rcases hmem with ⟨rfl, rfl⟩ | ⟨rfl, rfl⟩ <;> rfl

/-- Where it is not, the query overlooks that it has a polymorphic base. -/
theorem not_tellsBase_derived :
    (registry false).IsValid ∧ (registry false).isPolymorphic "Derived" = false ∧
      (registry false).HasPolymorphicBase "Derived" ∧ ¬ (registry false).TellsBase "Derived" := by
  have hbase : (registry false).HasPolymorphicBase "Derived" := by
    refine ⟨⟨derived false, rfl⟩, "Base", base, .single ⟨derived false, rfl, ?_⟩, rfl, rfl⟩
    exact List.mem_cons_self
  refine ⟨isValid_registry false, rfl, hbase, fun htells => ?_⟩
  have hquery : (registry false).isPolymorphic "Derived" = true := htells.2 hbase
  cases hquery

end Flagged

end Registry

end CloudDirector
