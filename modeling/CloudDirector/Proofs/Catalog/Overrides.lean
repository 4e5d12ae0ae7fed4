import CloudDirector.Proofs.Catalog.Acceptance

/-!
# Overridden fields

The fields of a type are set over those of its parents, one parent after another.  A later parent
sets all that it has once more, even what an earlier one has already overridden.  So the field of a
name is found by going up from the type, each time to the last parent that has it, until a type
declares it.  That is the most derived declaration unless a parent that was passed on the way leads
to a type which overrides it.
-/

namespace CloudDirector

namespace Registry

/-- The type declares the field itself. -/
def Owns (reg : Registry) (owner : String) (field : String × FieldSpec) : Prop :=
  ∃ s, reg.lookup? owner = some (.schema s) ∧ field ∈ s.fields

/-- The type or one that it inherits from declares a field of the name. -/
def HasField (reg : Registry) (typeName name : String) : Prop :=
  ∃ spec, reg.Declares typeName (name, spec)

/-- Going up from the type, each time to the last parent that has the field, leads to the owner,
which is the first one there to declare it.  The list holds the parents before those on the way. -/
inductive LeadsTo (reg : Registry) (name : String) : String → List String → String → Prop
  | here {typeName : String} {spec : FieldSpec} (h : reg.Owns typeName (name, spec)) :
      LeadsTo reg name typeName [] typeName
  | up {typeName parent owner : String} {s : Schema} {before after passed : List String}
      (hs : reg.lookup? typeName = some (.schema s)) (hown : name ∉ Members.keys s.fields)
      (hparents : s.parents = before ++ parent :: after)
      (hafter : ∀ later ∈ after, ¬ reg.HasField later name)
      (rest : LeadsTo reg name parent passed owner) :
      LeadsTo reg name typeName (before ++ passed) owner

/-- The type inherits from the owner, is another one, and declares the field as well. -/
def Overrides (reg : Registry) (name owner other : String) : Prop :=
  other ≠ owner ∧ reg.Inherits other owner ∧ ∃ spec, reg.Owns other (name, spec)

/-- The owner is the type or one that it inherits from, and among these none overrides its field. -/
def IsMostDerived (reg : Registry) (typeName name owner : String) : Prop :=
  reg.Inherits typeName owner ∧
    ∀ other, reg.Inherits typeName other → ¬ reg.Overrides name owner other

/-- Of the declarations of a field, the type has one that is not overridden. -/
def TakesMostDerived (reg : Registry) (typeName name : String) : Prop :=
  ∀ fields, reg.resolvedFields typeName = .ok fields →
    ∃ owner spec, Members.get? fields name = some spec ∧ reg.Owns owner (name, spec) ∧
      reg.IsMostDerived typeName name owner

variable {reg : Registry} {typeName name owner other : String} {s : Schema} {spec : FieldSpec}
  {passed : List String} {steps : Nat} {fields collected : List (String × FieldSpec)}

/-! ## The way to a declaration -/

lemma owns_iff (hs : reg.lookup? typeName = some (.schema s)) {field : String × FieldSpec} :
    reg.Owns typeName field ↔ field ∈ s.fields := by
  constructor
  · rintro ⟨t, ht, hfield⟩
    obtain rfl : s = t := by simpa [hs] using ht
    exact hfield
  · exact fun hfield => ⟨s, hs, hfield⟩

lemma hasField_iff :
    reg.HasField typeName name ↔
      ∃ owner spec, reg.Inherits typeName owner ∧ reg.Owns owner (name, spec) := by
  constructor
  · rintro ⟨spec, owner, s, hinherits, howns⟩
    exact ⟨owner, spec, hinherits, s, howns⟩
  · rintro ⟨owner, spec, hinherits, s, howns⟩
    exact ⟨spec, owner, s, hinherits, howns⟩

/-- A field that a type does not declare itself comes from one of its parents. -/
lemma exists_parent_of_inherits (hs : reg.lookup? typeName = some (.schema s))
    (hown : name ∉ Members.keys s.fields) (hinherits : reg.Inherits typeName owner)
    (howns : reg.Owns owner (name, spec)) :
    ∃ parent ∈ s.parents, reg.Inherits parent owner := by
  rcases hinherits.cases_head with rfl | ⟨parent, ⟨t, ht, hparent⟩, hrest⟩
  · exact absurd (Members.mem_keys_of_mem ((owns_iff hs).1 howns)) hown
  · obtain rfl : s = t := by simpa [hs] using ht
    exact ⟨parent, hparent, hrest⟩

/-- Where some item of a list has a property, one of them is the last that has it. -/
lemma exists_last {α : Type} {P : α → Prop} {xs : List α} (h : ∃ x ∈ xs, P x) :
    ∃ before x after, xs = before ++ x :: after ∧ P x ∧ ∀ y ∈ after, ¬ P y := by
  induction xs with
  | nil =>
    obtain ⟨x, hx, -⟩ := h
    cases hx
  | cons x xs ih =>
    by_cases hrest : ∃ y ∈ xs, P y
    · obtain ⟨before, y, after, rfl, hy, hafter⟩ := ih hrest
      exact ⟨x :: before, y, after, rfl, hy, hafter⟩
    · obtain ⟨y, hy, hP⟩ := h
      rcases List.mem_cons.1 hy with rfl | hmem
      · exact ⟨[], y, xs, rfl, hP, fun z hz hPz => hrest ⟨z, hz, hPz⟩⟩
      · exact absurd ⟨y, hmem, hP⟩ hrest

/-- Where fields are collected, there is a way to every field. -/
lemma exists_leadsTo (h : reg.collectFields steps typeName fields = .ok collected)
    (hname : reg.HasField typeName name) : ∃ passed owner, reg.LeadsTo name typeName passed owner := by
  induction steps generalizing typeName fields collected with
  | zero => cases h
  | succ steps ih =>
    obtain ⟨s, inherited, hs, hinherited, -⟩ := collectFields_succ_eq_ok.1 h
    by_cases hown : name ∈ Members.keys s.fields
    · obtain ⟨spec, hfield⟩ := Members.mem_keys_iff.1 hown
      exact ⟨[], typeName, .here ((owns_iff hs).2 hfield)⟩
    · obtain ⟨owner, spec, hinherits, howns⟩ := hasField_iff.1 hname
      obtain ⟨parent, hparent, hrest⟩ := exists_parent_of_inherits hs hown hinherits howns
      have hsome : ∃ parent ∈ s.parents, reg.HasField parent name :=
        ⟨parent, hparent, hasField_iff.2 ⟨owner, spec, hrest, howns⟩⟩
      obtain ⟨before, last, after, hparents, hlast, hafter⟩ := exists_last hsome
      have hmem : last ∈ s.parents := hparents ▸ List.mem_append_right _ List.mem_cons_self
      obtain ⟨acc, acc', hacc⟩ := exists_of_foldlM_eq_ok hinherited hmem
      obtain ⟨passed, owner, hway⟩ := ih hacc hlast
      exact ⟨before ++ passed, owner, .up hs hown hparents hafter hway⟩

namespace LeadsTo

lemma inherits (h : reg.LeadsTo name typeName passed owner) : reg.Inherits typeName owner := by
  induction h with
  | here _ => exact .refl
  | up hs _ hparents _ _ ih =>
    exact .head ⟨_, hs, hparents ▸ List.mem_append_right _ List.mem_cons_self⟩ ih

/-- The parents that are passed are parents of the type or of one that it inherits from. -/
lemma inherits_passed (h : reg.LeadsTo name typeName passed owner) {parent : String}
    (hparent : parent ∈ passed) : reg.Inherits typeName parent := by
  induction h with
  | here _ => cases hparent
  | up hs _ hparents _ _ ih =>
    rcases List.mem_append.1 hparent with hbefore | hpassed
    · exact .single ⟨_, hs, hparents ▸ List.mem_append_left _ hbefore⟩
    · exact .head ⟨_, hs, hparents ▸ List.mem_append_right _ List.mem_cons_self⟩ (ih hpassed)

/-- A type that declares the field is above the owner or above a parent that was passed. -/
lemma inherits_or_exists_passed (h : reg.LeadsTo name typeName passed owner)
    (hother : reg.Inherits typeName other) (howns : reg.Owns other (name, spec)) :
    reg.Inherits owner other ∨ ∃ parent ∈ passed, reg.Inherits parent other := by
  induction h with
  | here _ => exact Or.inl hother
  | up hs hown hparents hafter _ ih =>
    obtain ⟨parent, hparent, hrest⟩ := exists_parent_of_inherits hs hown hother howns
    rw [hparents, List.mem_append, List.mem_cons] at hparent
    rcases hparent with hbefore | rfl | hlater
    · exact Or.inr ⟨parent, List.mem_append_left _ hbefore, hrest⟩
    · refine (ih hrest).imp_right ?_
      rintro ⟨passed, hpassed, hinherits⟩
      exact ⟨passed, List.mem_append_right _ hpassed, hinherits⟩
    · exact absurd (hasField_iff.2 ⟨other, spec, hrest, howns⟩) (hafter parent hlater)

/-- The way leads to the most derived declaration exactly if no parent that was passed leads to a
type that overrides it. -/
lemma isMostDerived_iff (hreg : reg.IsValid) (h : reg.LeadsTo name typeName passed owner) :
    reg.IsMostDerived typeName name owner ↔
      ∀ parent ∈ passed, ∀ other, reg.Inherits parent other → ¬ reg.Overrides name owner other := by
  constructor
  · rintro ⟨-, hnone⟩ parent hparent other hinherits
    exact hnone other ((h.inherits_passed hparent).trans hinherits)
  · refine fun hpassed => ⟨h.inherits, fun other hinherits hoverrides => ?_⟩
    obtain ⟨hne, hderived, spec, howns⟩ := hoverrides
    rcases h.inherits_or_exists_passed hinherits howns with hup | ⟨parent, hparent, hrest⟩
    · exact hne (eq_of_inherits_of_inherits hreg.resolves.chains hderived hup)
    · exact hpassed parent hparent other hrest ⟨hne, hderived, spec, howns⟩

end LeadsTo

/-! ## What is collected -/

lemma get?_update_of_not_mem {news : List (String × FieldSpec)} (h : name ∉ Members.keys news)
    (fields : List (String × FieldSpec)) :
    Members.get? (Members.update fields news) name = Members.get? fields name := by
  have hnone : Members.get? news.reverse name = none := by
    rw [Members.get?_eq_none_iff, Members.keys, List.map_reverse, List.mem_reverse]
    exact h
  rw [Members.get?_update, hnone, Option.none_or]

/-- A field that neither the type nor one that it inherits from declares stays as it was. -/
lemma get?_collectFields_of_not_hasField
    (h : reg.collectFields steps typeName fields = .ok collected)
    (hnone : ¬ reg.HasField typeName name) :
    Members.get? collected name = Members.get? fields name := by
  induction steps generalizing typeName fields collected with
  | zero => cases h
  | succ steps ih =>
    obtain ⟨s, inherited, hs, hinherited, rfl⟩ := collectFields_succ_eq_ok.1 h
    have hown : name ∉ Members.keys s.fields := by
      intro hmem
      obtain ⟨spec, hfield⟩ := Members.mem_keys_iff.1 hmem
      exact hnone (hasField_iff.2 ⟨typeName, spec, .refl, (owns_iff hs).2 hfield⟩)
    rw [get?_update_of_not_mem hown]
    refine foldlM_induction (P := fun acc => Members.get? acc name = Members.get? fields name)
      (fun parent hparent acc acc' hacc hstep => ?_) rfl hinherited
    rw [ih hstep, hacc]
    intro hparentField
    obtain ⟨owner, spec, hinherits, howns⟩ := hasField_iff.1 hparentField
    exact hnone (hasField_iff.2 ⟨owner, spec, .head ⟨s, hs, hparent⟩ hinherits, howns⟩)

/-- What is collected under the name is the declaration that the way leads to. -/
lemma get?_collectFields_of_leadsTo (hreg : reg.Coherent)
    (hway : reg.LeadsTo name typeName passed owner) (howns : reg.Owns owner (name, spec))
    (h : reg.collectFields steps typeName fields = .ok collected) :
    Members.get? collected name = some spec := by
  induction hway generalizing steps fields collected with
  | here _ =>
    cases steps with
    | zero => cases h
    | succ steps =>
      obtain ⟨s, inherited, hs, -, rfl⟩ := collectFields_succ_eq_ok.1 h
      exact Members.get?_update_of_mem (hreg.keyed hs) ((owns_iff hs).1 howns)
  | @up typeName parent owner s before after passed hs hown hparents hafter _ ih =>
    cases steps with
    | zero => cases h
    | succ steps =>
      obtain ⟨t, inherited, ht, hinherited, rfl⟩ := collectFields_succ_eq_ok.1 h
      obtain rfl : s = t := by simpa [hs] using ht
      rw [hparents] at hinherited
      obtain ⟨acc, -, hfold⟩ := foldlM_append_eq_ok.1 hinherited
      obtain ⟨acc', hparent, hrest⟩ := foldlM_cons_eq_ok.1 hfold
      rw [get?_update_of_not_mem hown]
      -- the later parents do not have the field, so they leave what the last one has set
      refine foldlM_induction (P := fun acc => Members.get? acc name = some spec)
        (fun later hlater acc acc' hacc hstep => ?_) (ih howns hparent) hrest
      rw [get?_collectFields_of_not_hasField hstep (hafter later hlater), hacc]

/-- In a valid registry the type has under each name the declaration that is found by going up to
the last parent that has the field, and there is always such a way.  It is the most derived one
exactly if no parent that was passed on the way leads to a type that overrides it; else the type has
the most derived one only if that says the same. -/
theorem takesMostDerived_iff (hreg : reg.IsValid) (hs : reg.lookup? typeName = some (.schema s))
    (hname : reg.HasField typeName name) :
    (∃ passed owner, reg.LeadsTo name typeName passed owner) ∧
    ∀ passed owner spec, reg.LeadsTo name typeName passed owner → reg.Owns owner (name, spec) →
      (∃ fields, reg.resolvedFields typeName = .ok fields ∧
        Members.get? fields name = some spec) ∧
      (reg.TakesMostDerived typeName name ↔
        (∀ parent ∈ passed, ∀ other, reg.Inherits parent other →
          ¬ reg.Overrides name owner other) ∨
        ∃ other, other ≠ owner ∧ reg.IsMostDerived typeName name other ∧
          reg.Owns other (name, spec)) := by
  obtain ⟨fields, hfields⟩ := hreg.exists_resolvedFields hs
  refine ⟨exists_leadsTo hfields hname, fun passed owner spec hway howns => ?_⟩
  have hget : Members.get? fields name = some spec :=
    get?_collectFields_of_leadsTo hreg.coherent hway howns hfields
  refine ⟨⟨fields, hfields, hget⟩, ?_⟩
  rw [← hway.isMostDerived_iff hreg]
  constructor
  · intro htakes
    obtain ⟨other, spec', hget', howns', hmost⟩ := htakes fields hfields
    obtain rfl : spec = spec' := by simpa [hget] using hget'
    by_cases heq : other = owner
    · subst heq
      exact Or.inl hmost
    · exact Or.inr ⟨other, heq, hmost, howns'⟩
  · intro hcond fields' hfields'
    obtain rfl : fields = fields' := by simpa [hfields] using hfields'
    rcases hcond with hmost | ⟨other, -, hmost, howns'⟩
    · exact ⟨owner, spec, hget, howns, hmost⟩
    · exact ⟨other, spec, hget, howns', hmost⟩

/-! ### Two ways to join a hierarchy -/

namespace Diamond

/-- How the field of the base travels. -/
def baseSpec : FieldSpec := { wireKey := "name", shape := .scalar .string }

/-- A base with one field. -/
def base : Schema where
  typeName := "Base"
  fields := [("name", baseSpec)]

/-- A type that overrides the field of its base. -/
def left : Schema where
  typeName := "Left"
  parents := ["Base"]
  fields := [("name", { wireKey := "leftName", shape := .scalar .string })]

/-- A type that takes the field of its base as it is. -/
def right : Schema where
  typeName := "Right"
  parents := ["Base"]

/-- A type derived from both, the one that overrides first. -/
def joined : Schema where
  typeName := "Joined"
  parents := ["Left", "Right"]

/-- A type derived from both, the one that overrides last. -/
def mirrored : Schema where
  typeName := "Mirrored"
  parents := ["Right", "Left"]

/-- The registry of these types. -/
def registry : Registry where
  entries := [("Base", .schema base), ("Left", .schema left), ("Right", .schema right),
    ("Joined", .schema joined), ("Mirrored", .schema mirrored)]
  discriminators := [("Base", "Base"), ("Left", "Left"), ("Right", "Right"),
    ("Joined", "Joined"), ("Mirrored", "Mirrored")]

lemma isValid_registry : registry.IsValid where
  built := by
    have hall : registerAll {}
        [.schema base, .schema left, .schema right, .schema joined, .schema mirrored] =
          .ok registry := rfl
    exact Built.empty.registerAll (by decide) hall
  validated := by
    rw [validate_eq_ok_iff,
      show registry.schemas = [base, left, right, joined, mirrored] from rfl]
    simp only [List.forall_mem_cons, List.not_mem_nil, false_implies, implies_true, and_true]
    exact ⟨⟨rfl, _, rfl⟩, ⟨rfl, _, rfl⟩, ⟨rfl, _, rfl⟩, ⟨rfl, _, rfl⟩, rfl, _, rfl⟩

lemma owner_cases {owner : String} {spec : FieldSpec} (h : registry.Owns owner ("name", spec)) :
    (owner = "Base" ∧ spec = baseSpec) ∨ (owner = "Left" ∧ spec ≠ baseSpec) := by
  obtain ⟨s, hs, hfield⟩ := h
  have hmem : (owner, Entry.schema s) ∈ registry.entries := Members.mem_of_get?_eq_some hs
  simp only [registry, List.mem_cons, Prod.mk.injEq, Entry.schema.injEq, List.not_mem_nil,
    or_false] at hmem
  rcases hmem with ⟨rfl, rfl⟩ | ⟨rfl, rfl⟩ | ⟨rfl, rfl⟩ | ⟨rfl, rfl⟩ | ⟨rfl, rfl⟩
  · left
    simpa [base, baseSpec] using hfield
  · right
    obtain rfl : spec = { wireKey := "leftName", shape := .scalar .string } := by
      simpa [left] using hfield
    exact ⟨rfl, by decide⟩
  · cases hfield
  · cases hfield
  · cases hfield

/-- Where the override comes last, it is kept: only the base is above the parent that is passed. -/
theorem takesMostDerived_mirrored :
    registry.IsValid ∧ registry.HasField "Mirrored" "name" ∧
      registry.TakesMostDerived "Mirrored" "name" := by
  have hname : registry.HasField "Mirrored" "name" :=
    ⟨baseSpec, "Base", base, isValid_registry.isDescendant_iff.1 rfl, rfl, List.mem_cons_self⟩
  have howns : registry.Owns "Left" ("name", { wireKey := "leftName", shape := .scalar .string }) :=
    ⟨left, rfl, List.mem_cons_self⟩
  have hway : registry.LeadsTo "name" "Mirrored" (["Right"] ++ []) "Left" :=
    .up (s := mirrored) rfl List.not_mem_nil rfl (List.forall_mem_nil _) (.here howns)
  obtain ⟨-, hiff⟩ := (takesMostDerived_iff isValid_registry rfl hname).2 _ _ _ hway howns
  refine ⟨isValid_registry, hname, hiff.2 (Or.inl fun parent hparent other hinherits => ?_)⟩
  rintro ⟨hne, hderived, spec, hother⟩
  rcases owner_cases hother with ⟨rfl, -⟩ | ⟨rfl, -⟩
  · exact absurd (isValid_registry.isDescendant_iff.2 hderived) (by decide)
  · exact hne rfl

/-- Where the base is joined again by the last parent, it takes the override back. -/
theorem not_takesMostDerived_joined :
    registry.IsValid ∧ registry.HasField "Joined" "name" ∧
      registry.resolvedFields "Joined" = .ok [("name", baseSpec)] ∧
      ¬ registry.TakesMostDerived "Joined" "name" := by
  have hname : registry.HasField "Joined" "name" :=
    ⟨baseSpec, "Base", base, isValid_registry.isDescendant_iff.1 rfl, rfl, List.mem_cons_self⟩
  refine ⟨isValid_registry, hname, rfl, fun htakes => ?_⟩
  obtain ⟨owner, spec, hget, howns, -, hnone⟩ := htakes [("name", baseSpec)] rfl
  obtain rfl : spec = baseSpec := by simpa using hget.symm
  rcases owner_cases howns with ⟨rfl, -⟩ | ⟨-, hne⟩
  · refine hnone "Left" (isValid_registry.isDescendant_iff.1 rfl) ⟨by decide, ?_, ?_⟩
    · exact isValid_registry.isDescendant_iff.1 rfl
    · exact ⟨_, left, rfl, List.mem_cons_self⟩
  · exact hne rfl

end Diamond

end Registry

end CloudDirector
