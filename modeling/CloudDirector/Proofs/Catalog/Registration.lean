import CloudDirector.Catalog.Registry
import CloudDirector.Proofs.Members

/-!
# Registries built by registering

A registry is built when it comes from the empty one by registering entries.  What one successful
registration can do is said once, by `register_cases`; from it follows the invariant `Coherent` of
all built registries: an entry stands under its own name, and the index of discriminators holds
exactly the discriminators of the registered schemas.
-/

namespace CloudDirector

/-- The fields of a schema, and the texts of an enumeration, are different from each other. -/
def Entry.Keyed : Entry → Prop
  | .schema s => (Members.keys s.fields).Nodup
  | .enum e => (Members.keys e.values).Nodup

instance (entry : Entry) : Decidable entry.Keyed :=
  match entry with
  | .schema s => inferInstanceAs (Decidable (Members.keys s.fields).Nodup)
  | .enum e => inferInstanceAs (Decidable (Members.keys e.values).Nodup)

namespace Registry

/-- The registry comes from the empty one by registering entries. -/
inductive Built : Registry → Prop
  | empty : Built {}
  | register {reg reg' : Registry} {entry : Entry} (built : Built reg) (keyed : entry.Keyed)
      (h : reg.register entry = .ok reg') : Built reg'

variable {reg reg' : Registry} {entry : Entry}

/-- Registering an entry changes nothing, or adds a schema with a free name and a free
discriminator, or an enumeration with a free name. -/
lemma register_cases (h : reg.register entry = .ok reg') :
    reg' = reg ∨
    (∃ s, entry = .schema s ∧ s.check = .ok () ∧ reg.lookup? s.typeName = none ∧
      Members.get? reg.discriminators s.discriminatorValue = none ∧
      reg' = { entries := reg.entries ++ [(s.typeName, .schema s)]
               discriminators := reg.discriminators ++ [(s.discriminatorValue, s.typeName)] }) ∨
    (∃ e, entry = .enum e ∧ reg.lookup? e.typeName = none ∧
      reg' = { reg with entries := reg.entries ++ [(e.typeName, .enum e)] }) := by
  cases entry with
  | schema s =>
    simp only [register] at h
    split at h
    · cases h
    · next hcheck =>
      split at h
      · split at h
        · left
          cases h
          rfl
        · cases h
      · next hname =>
        split at h
        · cases h
        · next hfree =>
          cases h
          exact Or.inr (Or.inl ⟨s, rfl, hcheck, hname, hfree, rfl⟩)
  | enum e =>
    simp only [register] at h
    split at h
    · split at h
      · left
        cases h
        rfl
      · cases h
    · next hname =>
      cases h
      exact Or.inr (Or.inr ⟨e, rfl, hname, rfl⟩)

/-! ## The invariant -/

/-- Entries stand under their own names, and the index names exactly the registered schemas. -/
structure Coherent (reg : Registry) : Prop where
  nodup : (Members.keys reg.entries).Nodup
  named : ∀ {name entry}, reg.lookup? name = some entry → entry.typeName = name
  keyed : ∀ {name entry}, reg.lookup? name = some entry → entry.Keyed
  checked : ∀ {name s}, reg.lookup? name = some (.schema s) → s.check = .ok ()
  indexed : ∀ {value name}, Members.get? reg.discriminators value = some name ↔
    ∃ s, reg.lookup? name = some (.schema s) ∧ s.discriminatorValue = value

lemma coherent_empty : Coherent {} where
  nodup := List.nodup_nil
  named h := by simp [lookup?] at h
  keyed h := by simp [lookup?] at h
  checked h := by simp [lookup?] at h
  indexed := by simp [lookup?]

lemma lookup?_append (entries : List (String × Entry)) (discriminators : List (String × String))
    (name : String) (entry : Entry) (other : String) :
    lookup? { entries := entries ++ [(name, entry)], discriminators } other =
      (lookup? { entries, discriminators } other).or (if name = other then some entry else none) := by
  simp only [lookup?, Members.get?_append]
  rfl

/-- After a new entry, a name has the entry that it had, or it is the new name. -/
lemma lookup?_append_eq_some {entries : List (String × Entry)}
    {discriminators discriminators' : List (String × String)} {name : String} {entry : Entry}
    (hname : lookup? { entries, discriminators } name = none) {other : String} {found : Entry} :
    lookup? { entries := entries ++ [(name, entry)], discriminators := discriminators' } other =
        some found ↔
      lookup? { entries, discriminators } other = some found ∨ (name = other ∧ entry = found) := by
  rw [lookup?_append]
  change ((lookup? { entries, discriminators } other).or _) = _ ↔ _
  by_cases heq : name = other
  · subst heq
    simp [hname]
  · simp [heq]

/-- A new entry under a free name keeps the invariant, if the index gets its discriminator and no
other. -/
lemma Coherent.append {entries : List (String × Entry)}
    {discriminators discriminators' : List (String × String)}
    (hreg : Coherent { entries, discriminators })
    (hname : lookup? { entries, discriminators } entry.typeName = none) (hkeyed : entry.Keyed)
    (hchecked : ∀ s, entry = .schema s → s.check = .ok ())
    (hindexed : ∀ value name, Members.get? discriminators' value = some name ↔
      Members.get? discriminators value = some name ∨
        ∃ s, entry = .schema s ∧ s.typeName = name ∧ s.discriminatorValue = value) :
    Coherent { entries := entries ++ [(entry.typeName, entry)], discriminators := discriminators' }
    where
  nodup := by
    have hnew : entry.typeName ∉ Members.keys entries := Members.get?_eq_none_iff.1 hname
    have hinsert := Members.nodup_keys_insert hreg.nodup entry.typeName entry
    rwa [Members.insert_of_not_mem hnew] at hinsert
  named h := by
    rcases (lookup?_append_eq_some hname).1 h with hold | ⟨rfl, rfl⟩
    · exact hreg.named hold
    · rfl
  keyed h := by
    rcases (lookup?_append_eq_some hname).1 h with hold | ⟨rfl, rfl⟩
    · exact hreg.keyed hold
    · exact hkeyed
  checked h := by
    rcases (lookup?_append_eq_some hname).1 h with hold | ⟨-, heq⟩
    · exact hreg.checked hold
    · exact hchecked _ heq
  indexed {value name} := by
    rw [hindexed, hreg.indexed]
    simp only [lookup?_append_eq_some hname]
    constructor
    · rintro (⟨t, ht, hvalue⟩ | ⟨t, rfl, ht, hvalue⟩)
      · exact ⟨t, Or.inl ht, hvalue⟩
      · exact ⟨t, Or.inr ⟨ht, rfl⟩, hvalue⟩
    · rintro ⟨t, ht | ⟨ht, rfl⟩, hvalue⟩
      · exact Or.inl ⟨t, ht, hvalue⟩
      · exact Or.inr ⟨t, rfl, ht, hvalue⟩

/-- Every registration keeps the invariant. -/
lemma Coherent.register (hreg : reg.Coherent) (hkeyed : entry.Keyed)
    (h : reg.register entry = .ok reg') : reg'.Coherent := by
  obtain ⟨entries, discriminators⟩ := reg
  rcases register_cases h with rfl | ⟨s, rfl, hcheck, hname, hfree, rfl⟩ | ⟨e, rfl, hname, rfl⟩
  · exact hreg
  · have hnew : lookup? { entries, discriminators } (Entry.schema s).typeName = none := hname
    refine hreg.append hnew hkeyed ?_ fun value name => ?_
    · rintro _ ⟨⟩
      exact hcheck
    · rw [Members.get?_append]
      by_cases hvalue : s.discriminatorValue = value
      · -- the discriminator was free, so the index leads to the new schema
        subst hvalue
        simp [hfree]
      · simp [Members.get?_cons_of_ne hvalue, hvalue]
  · have hnew : lookup? { entries, discriminators } (Entry.enum e).typeName = none := hname
    refine hreg.append hnew hkeyed ?_ fun value name => ?_
    · rintro _ ⟨⟩
    · simp

/-- Every built registry is coherent. -/
lemma Built.coherent (h : reg.Built) : reg.Coherent := by
  induction h with
  | empty => exact coherent_empty
  | register _ hkeyed h ih => exact ih.register hkeyed h

lemma Built.registerAll {reg' : Registry} {entries : List Entry} (h : reg.Built)
    (hkeyed : ∀ e ∈ entries, e.Keyed) (hall : reg.registerAll entries = .ok reg') : reg'.Built := by
  induction entries generalizing reg with
  | nil =>
    cases hall
    exact h
  | cons e entries ih =>
    rw [Registry.registerAll] at hall
    split at hall
    · next next hnext =>
      refine ih (h.register (hkeyed e List.mem_cons_self) hnext) ?_ hall
      exact fun e' he' => hkeyed e' (List.mem_cons_of_mem _ he')
    · cases hall

/-! ## Look-ups in a coherent registry -/

namespace Coherent

variable (hreg : reg.Coherent) {name : String} {s : Schema}

include hreg

lemma typeName_eq (h : reg.lookup? name = some (.schema s)) : s.typeName = name := hreg.named h

lemma mem_schemas_iff : s ∈ reg.schemas ↔ reg.lookup? s.typeName = some (.schema s) := by
  have key : s ∈ reg.schemas ↔ ∃ name, (name, Entry.schema s) ∈ reg.entries := by
    simp only [schemas, List.mem_filterMap]
    constructor
    · rintro ⟨⟨name, entry⟩, hmem, heq⟩
      cases entry with
      | enum e => cases heq
      | schema t =>
        cases heq
        exact ⟨name, hmem⟩
    · rintro ⟨name, hmem⟩
      exact ⟨_, hmem, rfl⟩
  rw [key]
  constructor
  · rintro ⟨name, hmem⟩
    have hfound : reg.lookup? name = some (.schema s) := Members.get?_eq_some_of_mem hreg.nodup hmem
    rwa [hreg.typeName_eq hfound]
  · intro h
    exact ⟨_, Members.mem_of_get?_eq_some h⟩

lemma mem_schemas (h : reg.lookup? name = some (.schema s)) : s ∈ reg.schemas := by
  rwa [hreg.mem_schemas_iff, hreg.typeName_eq h]

/-- A schema is found by its discriminator. -/
lemma get?_discriminatorValue (h : reg.lookup? name = some (.schema s)) :
    Members.get? reg.discriminators s.discriminatorValue = some name :=
  hreg.indexed.2 ⟨s, h, rfl⟩

/-- Two registered schemas with one discriminator are the same. -/
lemma eq_of_discriminatorValue_eq {other : String} {t : Schema}
    (hs : reg.lookup? name = some (.schema s)) (ht : reg.lookup? other = some (.schema t))
    (h : s.discriminatorValue = t.discriminatorValue) : name = other := by
  have hname := hreg.get?_discriminatorValue hs
  rw [h, hreg.get?_discriminatorValue ht] at hname
  exact (Option.some.inj hname).symm

end Coherent

lemma schema_eq_ok_iff {name : String} {s : Schema} :
    reg.schema name = .ok s ↔ reg.lookup? name = some (.schema s) := by
  unfold schema
  split <;> simp_all [Result.failSetup, Result.fail]

/-- A discriminator selects the type that it is indexed with, if that derives from the base. -/
lemma resolveDiscriminator_eq_ok {base value : String} {s : Schema}
    (h : reg.resolveDiscriminator base value = .ok s) :
    ∃ concrete, Members.get? reg.discriminators value = some concrete ∧
      reg.isDescendant concrete base = true ∧ reg.lookup? concrete = some (.schema s) := by
  rw [resolveDiscriminator] at h
  split at h
  · cases h
  · next concrete hconcrete =>
    split at h
    · next hdescendant => exact ⟨concrete, hconcrete, hdescendant, schema_eq_ok_iff.1 h⟩
    · cases h

end Registry

end CloudDirector
