import CloudDirector.Proofs.Catalog.Inheritance

/-!
# What validation accepts

Validation accepts a registry exactly if its types resolve: parents are registered schemas, fields
refer to registered types, no field is a polymorphic reference to an enumeration, and no chain of
parents has more steps than the limit.  In an accepted registry the fields of every schema can be
collected, and the test for descent decides inheritance, which is a partial order there.
-/

namespace CloudDirector

/-- The descriptor names the type, at any depth of lists and maps. -/
inductive Descriptor.Refers : Descriptor → String → Prop
  | named (name : String) : Refers (.named name) name
  | polymorphic (base : String) : Refers (.polymorphic base) base
  | list {element : Descriptor} {name : String} (h : Refers element name) :
      Refers (.list element) name
  | map {element : Descriptor} {name : String} (h : Refers element name) :
      Refers (.map element) name

lemma Descriptor.reference?_eq_some_iff {shape : Descriptor} {name : String} :
    shape.reference? = some name ↔ shape.Refers name := by
  constructor
  · intro h
    induction shape with
    | scalar kind => cases h
    | list element ih => exact .list (ih h)
    | map element ih => exact .map (ih h)
    | named typeName =>
      obtain rfl := Option.some.inj h
      exact .named typeName
    | polymorphic typeName =>
      obtain rfl := Option.some.inj h
      exact .polymorphic typeName
  · intro h
    induction h with
    | named name => rfl
    | polymorphic base => rfl
    | list _ ih => exact ih
    | map _ ih => exact ih

namespace Registry

/-- All that a registry says about its types can be resolved. -/
structure Resolves (reg : Registry) : Prop where
  /-- Every parent is a registered schema. -/
  parents : ∀ s ∈ reg.schemas, ∀ parent ∈ s.parents, ∃ t, reg.lookup? parent = some (.schema t)
  /-- Every type that a field refers to at any depth is registered. -/
  references : ∀ s ∈ reg.schemas, ∀ field ∈ s.fields, ∀ name, field.2.shape.Refers name →
    ∃ entry, reg.lookup? name = some entry
  /-- No field is itself a polymorphic reference to an enumeration. -/
  bases : ∀ s ∈ reg.schemas, ∀ field ∈ s.fields, ∀ base, field.2.shape = .polymorphic base →
    ∀ e, reg.lookup? base ≠ some (.enum e)
  /-- No chain of parents has more steps than the limit. -/
  chains : ∀ n child ancestor, reg.Chain n child ancestor → n ≤ inheritanceLimit

variable {reg : Registry} {s : Schema}

/-! ## One schema -/

lemma enum?_eq_some_iff {name : String} {e : EnumEntry} :
    reg.enum? name = some e ↔ reg.lookup? name = some (.enum e) := by
  unfold enum?
  split <;> simp_all

lemma unresolvedParents_eq_nil_iff :
    s.unresolvedParents reg = [] ↔
      ∀ parent ∈ s.parents, ∃ t, reg.lookup? parent = some (.schema t) := by
  rw [Schema.unresolvedParents, List.filterMap_eq_nil_iff]
  refine forall₂_congr fun parent _ => ?_
  constructor
  · intro h
    split at h
    · next t ht => exact ⟨t, ht⟩
    · cases h
  · rintro ⟨t, ht⟩
    rw [ht]

lemma unresolvedField_eq_nil_iff {name : String} {spec : FieldSpec} :
    s.unresolvedField reg name spec = [] ↔
      (∀ reference, spec.shape.Refers reference → ∃ entry, reg.lookup? reference = some entry) ∧
      (∀ base, spec.shape = .polymorphic base → ∀ e, reg.lookup? base ≠ some (.enum e)) := by
  rw [Schema.unresolvedField, List.append_eq_nil_iff]
  refine and_congr ?_ ?_
  · simp only [← Descriptor.reference?_eq_some_iff]
    cases hreference : spec.shape.reference? with
    | none => simp
    | some reference => cases hlookup : reg.lookup? reference <;> simp [isRegistered, hlookup]
  · cases hshape : spec.shape with
    | polymorphic base => simp [Option.isSome_iff_exists, enum?_eq_some_iff]
    | _ => simp

lemma unresolved_schema_eq_nil_iff :
    s.unresolved reg = [] ↔
      (∀ parent ∈ s.parents, ∃ t, reg.lookup? parent = some (.schema t)) ∧
      ∀ field ∈ s.fields,
        (∀ name, field.2.shape.Refers name → ∃ entry, reg.lookup? name = some entry) ∧
        (∀ base, field.2.shape = .polymorphic base → ∀ e, reg.lookup? base ≠ some (.enum e)) := by
  rw [Schema.unresolved, List.append_eq_nil_iff, unresolvedParents_eq_nil_iff,
    List.flatMap_eq_nil_iff]
  simp only [unresolvedField_eq_nil_iff]

/-! ## A registry -/

/-- A chain with a step starts at a registered schema. -/
lemma exists_schema_of_chain {n : Nat} {child ancestor : String}
    (h : reg.Chain (n + 1) child ancestor) : ∃ s, reg.lookup? child = some (.schema s) := by
  cases h with
  | up step _ =>
    obtain ⟨s, hs, -⟩ := step
    exact ⟨s, hs⟩

/-- Validation accepts what resolves, and nothing else. -/
lemma validate_eq_ok_iff_resolves (hreg : reg.Coherent) : reg.validate = .ok () ↔ reg.Resolves := by
  rw [validate_eq_ok_iff]
  constructor
  · intro h
    have hresolved := fun s hs => unresolved_schema_eq_nil_iff.1 (h s hs).1
    refine ⟨fun s hs => (hresolved s hs).1, fun s hs field hfield => ((hresolved s hs).2 field hfield).1,
      fun s hs field hfield => ((hresolved s hs).2 field hfield).2, fun n child ancestor hchain => ?_⟩
    cases n with
    | zero => exact Nat.zero_le _
    | succ n =>
      obtain ⟨s, hs⟩ := exists_schema_of_chain hchain
      obtain ⟨-, fields, hfields⟩ := h s (hreg.mem_schemas hs)
      rw [hreg.typeName_eq hs] at hfields
      exact Nat.le_of_lt_succ (lt_of_collectFields hfields hchain)
  · intro h s hs
    refine ⟨unresolved_schema_eq_nil_iff.2 ⟨h.parents s hs, fun field hfield =>
      ⟨h.references s hs field hfield, h.bases s hs field hfield⟩⟩, ?_⟩
    refine exists_collectFields ?_ (hreg.mem_schemas_iff.1 hs) (fun n ancestor hchain => ?_) []
    · rintro child parent ⟨t, ht, hparent⟩
      exact h.parents t (hreg.mem_schemas ht) parent hparent
    · exact Nat.lt_succ_of_le (h.chains n s.typeName ancestor hchain)

lemma IsValid.resolves (hreg : reg.IsValid) : reg.Resolves :=
  (validate_eq_ok_iff_resolves hreg.coherent).1 hreg.validated

/-- Validation accepts exactly the registries whose types resolve; there every schema has its
fields, and the test for descent decides inheritance, which has no cycles and is a partial order. -/
theorem validate_iff_resolves (h : reg.Built) :
    (reg.validate = .ok () ↔ reg.Resolves) ∧
    (reg.validate = .ok () →
      (∀ name s, reg.lookup? name = some (.schema s) →
        ∃ fields, reg.resolvedFields name = .ok fields) ∧
      (∀ x y, reg.isDescendant x y = true ↔ ∃ n, reg.Chain n x y) ∧
      (∀ n x, reg.Chain n x x → n = 0) ∧
      (∀ x, reg.isDescendant x x = true) ∧
      (∀ x y z, reg.isDescendant x y = true → reg.isDescendant y z = true →
        reg.isDescendant x z = true) ∧
      (∀ x y, reg.isDescendant x y = true → reg.isDescendant y x = true → x = y)) := by
  refine ⟨validate_eq_ok_iff_resolves h.coherent, fun hok => ?_⟩
  have hreg : reg.IsValid := ⟨h, hok⟩
  have hchains := hreg.resolves.chains
  simp only [hreg.isDescendant_iff]
  refine ⟨fun name s hs => hreg.exists_resolvedFields hs, fun x y => inherits_iff_exists_chain,
    fun n x hchain => eq_zero_of_chain_self hchains hchain, fun x => .refl,
    fun x y z hxy hyz => hxy.trans hyz, fun x y hxy hyx => ?_⟩
  exact eq_of_inherits_of_inherits hchains hxy hyx

/-! ### A ladder of types -/

namespace Ladder

/-- The schemas of a ladder: each has the next one as its parent, and fields that refer to it. -/
def rungs : List String → List Schema
  | [] => []
  | [name] => [{ typeName := name }]
  | name :: parent :: rest =>
    { typeName := name
      parents := [parent]
      fields := [
        ("upper", { wireKey := "upper", shape := .polymorphic parent }),
        ("others", { wireKey := "others", shape := .list (.named parent) })] } ::
      rungs (parent :: rest)

/-- The registry of a ladder. -/
def registry (names : List String) : Registry where
  entries := (rungs names).map fun s => (s.typeName, .schema s)
  discriminators := (rungs names).map fun s => (s.typeName, s.typeName)

/-- Names for a ladder of 34 steps. -/
def names : List String := [
  "T0", "T1", "T2", "T3", "T4", "T5", "T6", "T7", "T8", "T9", "T10", "T11", "T12", "T13", "T14",
  "T15", "T16", "T17", "T18", "T19", "T20", "T21", "T22", "T23", "T24", "T25", "T26", "T27", "T28",
  "T29", "T30", "T31", "T32", "T33", "T34"]

lemma built_registry_take : (registry (names.take 33)).Built := by
  have hall : registerAll {} ((rungs (names.take 33)).map .schema) =
      .ok (registry (names.take 33)) := rfl
  exact Built.empty.registerAll (by decide +kernel) hall

/-- A ladder of as many steps as the limit is accepted, and its lowest type is a descendant of its
highest one. -/
theorem validate_ladder :
    (registry (names.take 33)).Built ∧ (registry (names.take 33)).Resolves ∧
      ∃ n, (registry (names.take 33)).Chain n "T0" "T32" := by
  have hok : (registry (names.take 33)).validate = .ok () := by
    rw [validate_eq_ok_iff]
    have hall : ∀ s ∈ (registry (names.take 33)).schemas,
        s.unresolved (registry (names.take 33)) = [] ∧
          ((registry (names.take 33)).resolvedFields s.typeName).toOption.isSome = true := by
      decide +kernel
    intro s hs
    obtain ⟨hnil, hsome⟩ := hall s hs
    refine ⟨hnil, ?_⟩
    cases hfields : (registry (names.take 33)).resolvedFields s.typeName with
    | error r =>
      rw [hfields] at hsome
      cases hsome
    | ok fields => exact ⟨fields, rfl⟩
  obtain ⟨haccept, hdescent⟩ := validate_iff_resolves built_registry_take
  exact ⟨built_registry_take, haccept.1 hok, ((hdescent hok).2.1 "T0" "T32").1 rfl⟩

/-- One step more is one too many. -/
example : (registry (names.take 34)).resolvedFields "T0" =
    .error ⟨.setup (.inheritance "T33"), []⟩ := rfl

end Ladder

end Registry

end CloudDirector
