import CloudDirector.Proofs.Catalog.Calls
import Mathlib.Data.List.Perm.Subperm
import Mathlib.Data.List.Sort
import Mathlib.Data.String.Basic

/-!
# Registering in any order

Which entries can be registered together does not depend on their order: each schema passes its
check, entries under one name differ in the order of their members only, and no discriminator has
two owners.  The registries that two orders build agree name by name, and validation tells the same
of both, whichever way their entries are gone through.
-/

namespace CloudDirector

/-! ## Entries up to the order of their members -/

namespace Entry

/-- The second entry is the first one with its fields, or its texts, in another order. -/
inductive Reorders : Entry → Entry → Prop
  | schema (s : Schema) {fields : List (String × FieldSpec)} (h : s.fields.Perm fields) :
      Reorders (.schema s) (.schema { s with fields })
  | enum (e : EnumEntry) {values : List (String × String)} (h : e.values.Perm values) :
      Reorders (.enum e) (.enum { e with values })

variable {e f g : Entry}

/-- Lists of members with different keys are compared as finite maps. -/
lemma sameMembers_iff_perm {α : Type} [BEq α] [LawfulBEq α] {xs ys : List (String × α)}
    (hxs : (Members.keys xs).Nodup) (hys : (Members.keys ys).Nodup) :
    sameMembers xs ys = true ↔ xs.Perm ys := by
  have hunfold : sameMembers xs ys =
      (xs.length == ys.length && xs.all fun m => Members.get? ys m.1 == some m.2) := rfl
  have hfound : (xs.all fun m => Members.get? ys m.1 == some m.2) = true ↔ xs ⊆ ys := by
    rw [List.all_eq_true]
    refine forall₂_congr fun m _ => ?_
    rw [beq_iff_eq, Members.get?_eq_some_iff_mem hys]
  rw [hunfold, Bool.and_eq_true, hfound, beq_iff_eq]
  constructor
  · rintro ⟨hlength, hsubset⟩
    have hsubperm : xs.Subperm ys := (List.Nodup.of_map _ hxs).subperm hsubset
    exact hsubperm.perm_of_length_le hlength.ge
  · intro h
    exact ⟨h.length_eq, h.subset⟩

lemma same_iff_reorders (he : e.Keyed) (hf : f.Keyed) : e.same f = true ↔ e.Reorders f := by
  cases e with
  | schema s =>
    cases f with
    | enum => exact iff_of_false (by simp [same]) (by rintro ⟨⟩)
    | schema t =>
      simp only [same, Bool.and_eq_true, beq_iff_eq, sameMembers_iff_perm he hf]
      constructor
      · rintro ⟨⟨⟨⟨⟨hname, hparents⟩, hfields⟩, hpolymorphic⟩, hdiscriminator⟩, hmedia⟩
        have ht : t = { s with fields := t.fields } := by
          cases t
          simp_all
        rw [ht]
        exact .schema s hfields
      · rintro ⟨⟩
        next h => exact ⟨⟨⟨⟨⟨rfl, rfl⟩, h⟩, rfl⟩, rfl⟩, rfl⟩
  | enum d =>
    cases f with
    | schema => exact iff_of_false (by simp [same]) (by rintro ⟨⟩)
    | enum c =>
      simp only [same, Bool.and_eq_true, beq_iff_eq, sameMembers_iff_perm he hf]
      constructor
      · rintro ⟨hname, hvalues⟩
        have hc : c = { d with values := c.values } := by
          cases c
          simp_all
        rw [hc]
        exact .enum d hvalues
      · rintro ⟨⟩
        next h => exact ⟨rfl, h⟩

namespace Reorders

lemma refl (e : Entry) : e.Reorders e := by
  cases e with
  | schema s => exact .schema s (.refl _)
  | enum d => exact .enum d (.refl _)

lemma symm (h : e.Reorders f) : f.Reorders e := by
  cases h with
  | @schema s fields h => exact .schema { s with fields } h.symm
  | @enum d values h => exact .enum { d with values } h.symm

lemma trans (h : e.Reorders f) (h' : f.Reorders g) : e.Reorders g := by
  cases h with
  | schema s h =>
    cases h' with
    | schema _ h' => exact .schema s (h.trans h')
  | enum d h =>
    cases h' with
    | enum _ h' => exact .enum d (h.trans h')

lemma typeName_eq (h : e.Reorders f) : e.typeName = f.typeName := by
  cases h <;> rfl

end Reorders

end Entry

namespace Registry

variable {reg reg' : Registry} {entry : Entry} {before rest entries : List Entry}

/-! ## Which entries can be registered together -/

/-- Entries that can be registered in one registry, whatever their order. -/
structure Registrable (entries : List Entry) : Prop where
  /-- The fields of a schema have different wire keys. -/
  checked : ∀ s, Entry.schema s ∈ entries → (s.fields.map fun field => field.2.wireKey).Nodup
  /-- Entries under one name are the same. -/
  same : ∀ e ∈ entries, ∀ f ∈ entries, e.typeName = f.typeName → e.same f = true
  /-- No two schemas have one discriminator. -/
  owned : ∀ s t, Entry.schema s ∈ entries → Entry.schema t ∈ entries →
    s.discriminatorValue = t.discriminatorValue → s.typeName = t.typeName

/-- The registry stores the entries, each up to the order of its members, and no others. -/
structure Stores (reg : Registry) (entries : List Entry) : Prop where
  coherent : reg.Coherent
  stored : ∀ e ∈ entries, ∃ f, reg.lookup? e.typeName = some f ∧ f.Reorders e
  origin : ∀ name f, reg.lookup? name = some f → f ∈ entries

lemma stores_empty : Stores {} [] where
  coherent := coherent_empty
  stored _ h := by cases h
  origin _ _ h := by cases h

/-- The registry with one more entry, and with its discriminator if it is a schema. -/
def extend (reg : Registry) : Entry → Registry
  | .schema s => {
      entries := reg.entries ++ [(s.typeName, .schema s)]
      discriminators := reg.discriminators ++ [(s.discriminatorValue, s.typeName)] }
  | .enum e => { reg with entries := reg.entries ++ [(e.typeName, .enum e)] }

lemma register_of_stored {existing : Entry} (h : reg.lookup? entry.typeName = some existing) :
    reg.register entry = .ok reg' ↔
      (∀ s, entry = .schema s → s.check = .ok ()) ∧ existing.same entry = true ∧ reg' = reg := by
  cases entry with
  | schema s =>
    have hname : reg.lookup? s.typeName = some existing := h
    simp only [register, hname]
    cases hcheck : s.check with
    | error r => simp [hcheck]
    | ok u =>
      cases hsame : existing.same (.schema s) <;>
        simp [hcheck, Result.failSetup, Result.fail, eq_comm]
  | enum e =>
    have hname : reg.lookup? e.typeName = some existing := h
    simp only [register, hname]
    cases hsame : existing.same (.enum e) <;> simp [Result.failSetup, Result.fail, eq_comm]

lemma register_of_free (h : reg.lookup? entry.typeName = none) :
    reg.register entry = .ok reg' ↔
      (∀ s, entry = .schema s → s.check = .ok ()) ∧
      (∀ s, entry = .schema s → Members.get? reg.discriminators s.discriminatorValue = none) ∧
      reg' = reg.extend entry := by
  cases entry with
  | schema s =>
    have hname : reg.lookup? s.typeName = none := h
    simp only [register, hname, extend]
    cases hcheck : s.check with
    | error r => simp [hcheck]
    | ok u =>
      cases hfree : Members.get? reg.discriminators s.discriminatorValue <;>
        simp [hcheck, hfree, Result.failSetup, Result.fail, eq_comm]
  | enum e =>
    have hname : reg.lookup? e.typeName = none := h
    simp [register, hname, extend, eq_comm]

lemma lookup?_extend (h : reg.lookup? entry.typeName = none) {name : String} {found : Entry} :
    (reg.extend entry).lookup? name = some found ↔
      reg.lookup? name = some found ∨ (entry.typeName = name ∧ entry = found) := by
  obtain ⟨stored, discriminators⟩ := reg
  cases entry with
  | schema s => exact lookup?_append_eq_some h
  | enum e => exact lookup?_append_eq_some h

lemma registerAll_cons_eq_ok :
    reg.registerAll (entry :: rest) = .ok reg' ↔
      ∃ next, reg.register entry = .ok next ∧ next.registerAll rest = .ok reg' := by
  rw [registerAll]
  cases reg.register entry <;> simp

namespace Stores

variable (hstores : reg.Stores before)

include hstores

/-- One registration stores one entry more. -/
lemma register (hkeyed : entry.Keyed) (h : reg.register entry = .ok reg') :
    reg'.Stores (before ++ [entry]) := by
  have hcoherent : reg'.Coherent := hstores.coherent.register hkeyed h
  cases hname : reg.lookup? entry.typeName with
  | some existing =>
    obtain ⟨-, hsame, rfl⟩ := (register_of_stored hname).1 h
    have hexisting : existing.Keyed := hstores.coherent.keyed hname
    have hreorders : existing.Reorders entry := (Entry.same_iff_reorders hexisting hkeyed).1 hsame
    refine ⟨hcoherent, fun e he => ?_, fun name f hf => ?_⟩
    · rcases List.mem_append.1 he with hold | hnew
      · exact hstores.stored e hold
      · obtain rfl := List.mem_singleton.1 hnew
        exact ⟨existing, hname, hreorders⟩
    · exact List.mem_append_left _ (hstores.origin name f hf)
  | none =>
    obtain ⟨-, -, rfl⟩ := (register_of_free hname).1 h
    refine ⟨hcoherent, fun e he => ?_, fun name f hf => ?_⟩
    · rcases List.mem_append.1 he with hold | hnew
      · obtain ⟨f, hf, hreorders⟩ := hstores.stored e hold
        exact ⟨f, (lookup?_extend hname).2 (Or.inl hf), hreorders⟩
      · obtain rfl := List.mem_singleton.1 hnew
        exact ⟨e, (lookup?_extend hname).2 (Or.inr ⟨rfl, rfl⟩), .refl e⟩
    · rcases (lookup?_extend hname).1 hf with hold | ⟨-, rfl⟩
      · exact List.mem_append_left _ (hstores.origin name f hold)
      · exact List.mem_append_right _ (List.mem_singleton.2 rfl)

/-- What a registry stores already does not hinder an entry that can be registered with it. -/
lemma exists_register (hall : Registrable (before ++ entry :: rest)) :
    ∃ reg', reg.register entry = .ok reg' := by
  have hentry : entry ∈ before ++ entry :: rest := by simp
  have hbefore : ∀ {name f}, reg.lookup? name = some f → f ∈ before ++ entry :: rest :=
    fun hf => List.mem_append_left _ (hstores.origin _ _ hf)
  have hchecks : ∀ s, entry = .schema s → s.check = .ok () := by
    rintro s rfl
    exact Schema.check_eq_ok_iff.2 (hall.checked s hentry)
  cases hname : reg.lookup? entry.typeName with
  | some existing =>
    have hsame : existing.same entry = true :=
      hall.same existing (hbefore hname) entry hentry (hstores.coherent.named hname)
    exact ⟨reg, (register_of_stored hname).2 ⟨hchecks, hsame, rfl⟩⟩
  | none =>
    refine ⟨reg.extend entry, (register_of_free hname).2 ⟨hchecks, ?_, rfl⟩⟩
    rintro s rfl
    cases howner : Members.get? reg.discriminators s.discriminatorValue with
    | none => rfl
    | some owner =>
      obtain ⟨t, ht, hvalue⟩ := hstores.coherent.indexed.1 howner
      have hnames : t.typeName = s.typeName := hall.owned t s (hbefore ht) hentry hvalue
      rw [hstores.coherent.typeName_eq ht] at hnames
      have hfree : reg.lookup? s.typeName = none := hname
      rw [hnames, hfree] at ht
      cases ht

/-- Registering one after another stores all that is registered. -/
lemma registerAll (hkeyed : ∀ e ∈ rest, e.Keyed) (h : reg.registerAll rest = .ok reg') :
    reg'.Stores (before ++ rest) := by
  induction rest generalizing reg before with
  | nil =>
    cases h
    rwa [List.append_nil]
  | cons entry rest ih =>
    rw [List.forall_mem_cons] at hkeyed
    obtain ⟨next, hnext, hrest⟩ := registerAll_cons_eq_ok.1 h
    have hstored := ih (hstores.register hkeyed.1 hnext) hkeyed.2 hrest
    rwa [List.append_assoc, List.singleton_append] at hstored

lemma exists_registerAll (hkeyed : ∀ e ∈ rest, e.Keyed) (hall : Registrable (before ++ rest)) :
    ∃ reg', reg.registerAll rest = .ok reg' := by
  induction rest generalizing reg before with
  | nil => exact ⟨reg, rfl⟩
  | cons entry rest ih =>
    rw [List.forall_mem_cons] at hkeyed
    obtain ⟨next, hnext⟩ := hstores.exists_register hall
    have hall' : Registrable (before ++ [entry] ++ rest) := by
      rwa [List.append_assoc, List.singleton_append]
    obtain ⟨reg', hrest⟩ := ih (hstores.register hkeyed.1 hnext) hkeyed.2 hall'
    exact ⟨reg', registerAll_cons_eq_ok.2 ⟨next, hnext, hrest⟩⟩

/-- What one registry stores can be registered together. -/
lemma registrable (hkeyed : ∀ e ∈ before, e.Keyed) : Registrable before where
  checked s hs := by
    obtain ⟨f, hf, hreorders⟩ := hstores.stored _ hs
    cases hreorders with
    | schema t hfields =>
      have hcheck := Schema.check_eq_ok_iff.1 (hstores.coherent.checked hf)
      exact (hfields.map fun field => field.2.wireKey).nodup_iff.1 hcheck
  same e he f hf hname := by
    obtain ⟨stored, hstored, he'⟩ := hstores.stored e he
    obtain ⟨stored', hstored', hf'⟩ := hstores.stored f hf
    obtain rfl : stored = stored' := by
      rw [hname, hstored'] at hstored
      exact (Option.some.inj hstored).symm
    exact (Entry.same_iff_reorders (hkeyed e he) (hkeyed f hf)).2 (he'.symm.trans hf')
  owned s t hs ht hvalue := by
    obtain ⟨_, hf, hreorders⟩ := hstores.stored _ hs
    obtain ⟨_, hg, hreorders'⟩ := hstores.stored _ ht
    cases hreorders
    cases hreorders'
    exact hstores.coherent.eq_of_discriminatorValue_eq hf hg hvalue

end Stores

/-- Entries can be registered one after another exactly if they can be registered together. -/
lemma exists_registerAll_iff (hkeyed : ∀ e ∈ entries, e.Keyed) :
    (∃ reg, registerAll {} entries = .ok reg) ↔ Registrable entries := by
  constructor
  · rintro ⟨reg, h⟩
    have hstores : reg.Stores entries := stores_empty.registerAll hkeyed h
    exact hstores.registrable hkeyed
  · exact fun h => stores_empty.exists_registerAll hkeyed h

lemma Registrable.perm {entries' : List Entry} (hperm : entries.Perm entries')
    (h : Registrable entries) : Registrable entries' where
  checked s hs := h.checked s (hperm.mem_iff.2 hs)
  same e he f hf := h.same e (hperm.mem_iff.2 he) f (hperm.mem_iff.2 hf)
  owned s t hs ht := h.owned s t (hperm.mem_iff.2 hs) (hperm.mem_iff.2 ht)

/-! ## Registries that agree -/

/-- The same names have entries, which are the same up to the order of their members, and each
discriminator selects the same type. -/
structure Agrees (reg reg' : Registry) : Prop where
  entries : ∀ name, Option.Rel (fun e f => e.same f = true) (reg.lookup? name) (reg'.lookup? name)
  discriminators : ∀ value,
    Members.get? reg.discriminators value = Members.get? reg'.discriminators value

/-- Two coherent registries have the same entries up to the order of members. -/
structure Matches (reg reg' : Registry) : Prop where
  left : reg.Coherent
  right : reg'.Coherent
  entries : ∀ name, Option.Rel Entry.Reorders (reg.lookup? name) (reg'.lookup? name)

/-- Registries that store the same entries match. -/
lemma Stores.matches {entries' : List Entry} (hstores : reg.Stores entries)
    (hstores' : reg'.Stores entries') (hperm : entries.Perm entries') : reg.Matches reg' where
  left := hstores.coherent
  right := hstores'.coherent
  entries name := by
    have hcovers : ∀ {reg reg' : Registry} {entries entries' : List Entry}, reg.Stores entries →
        reg'.Stores entries' → entries ⊆ entries' → ∀ e, reg.lookup? name = some e →
          ∃ f, reg'.lookup? name = some f ∧ e.Reorders f := by
      intro reg reg' entries entries' hstores hstores' hsubset e he
      obtain ⟨f, hf, hreorders⟩ := hstores'.stored e (hsubset (hstores.origin name e he))
      rw [hstores.coherent.named he] at hf
      exact ⟨f, hf, hreorders.symm⟩
    cases he : reg.lookup? name with
    | some e =>
      obtain ⟨f, hf, hreorders⟩ := hcovers hstores hstores' hperm.subset e he
      rw [hf]
      exact .some hreorders
    | none =>
      cases hf : reg'.lookup? name with
      | none => exact .none
      | some f =>
        obtain ⟨e, he', -⟩ := hcovers hstores' hstores hperm.symm.subset f hf
        rw [he] at he'
        cases he'

/-- The entries of a registry may be gone through in any order. -/
lemma lookup?_of_perm {order : List (String × Entry)} (hreg : reg.Coherent)
    (h : order.Perm reg.entries) (name : String) :
    lookup? { reg with entries := order } name = reg.lookup? name :=
  (Members.get?_perm h.symm hreg.nodup name).symm

lemma Coherent.of_perm {order : List (String × Entry)} (hreg : reg.Coherent)
    (h : order.Perm reg.entries) : Coherent { reg with entries := order } where
  nodup := (h.map Prod.fst).nodup_iff.2 hreg.nodup
  named hname := hreg.named (by rwa [lookup?_of_perm hreg h] at hname)
  keyed hname := hreg.keyed (by rwa [lookup?_of_perm hreg h] at hname)
  checked hname := hreg.checked (by rwa [lookup?_of_perm hreg h] at hname)
  indexed := by
    simp only [lookup?_of_perm hreg h]
    exact hreg.indexed

namespace Matches

variable (h : reg.Matches reg')

include h

lemma of_perm {order order' : List (String × Entry)} (hperm : order.Perm reg.entries)
    (hperm' : order'.Perm reg'.entries) :
    Matches { reg with entries := order } { reg' with entries := order' } where
  left := h.left.of_perm hperm
  right := h.right.of_perm hperm'
  entries name := by
    rw [lookup?_of_perm h.left hperm, lookup?_of_perm h.right hperm']
    exact h.entries name

lemma symm : reg'.Matches reg where
  left := h.right
  right := h.left
  entries name := by
    have hrel := h.entries name
    generalize reg.lookup? name = x at hrel ⊢
    generalize reg'.lookup? name = y at hrel ⊢
    cases hrel with
    | none => exact .none
    | some hreorders => exact .some hreorders.symm

lemma schema {name : String} {s : Schema} (hs : reg.lookup? name = some (.schema s)) :
    ∃ fields, s.fields.Perm fields ∧ reg'.lookup? name = some (.schema { s with fields }) := by
  have hrel := h.entries name
  rw [hs] at hrel
  generalize hy : reg'.lookup? name = y at hrel ⊢
  cases hrel with
  | some hreorders =>
    cases hreorders with
    | @schema _ fields hfields => exact ⟨fields, hfields, rfl⟩

lemma get?_discriminators {value name : String}
    (hvalue : Members.get? reg.discriminators value = some name) :
    Members.get? reg'.discriminators value = some name := by
  obtain ⟨s, hs, rfl⟩ := h.left.indexed.1 hvalue
  obtain ⟨fields, -, ht⟩ := h.schema hs
  exact h.right.indexed.2 ⟨{ s with fields }, ht, rfl⟩

lemma agrees : reg.Agrees reg' where
  entries name := by
    have hrel := h.entries name
    cases he : reg.lookup? name with
    | none =>
      rw [he] at hrel
      generalize reg'.lookup? name = y at hrel ⊢
      cases hrel
      exact .none
    | some e =>
      cases hf : reg'.lookup? name with
      | none =>
        rw [he, hf] at hrel
        cases hrel
      | some f =>
        rw [he, hf] at hrel
        cases hrel with
        | some hreorders =>
          exact .some ((Entry.same_iff_reorders (h.left.keyed he) (h.right.keyed hf)).2 hreorders)
  discriminators value := by
    ext name
    exact ⟨h.get?_discriminators, h.symm.get?_discriminators⟩

/-! ### What validation tells -/

/-- What does not resolve in a schema is the same up to order, since a name has a schema in both
registries, or an enumeration in both, or nothing in both. -/
lemma unresolved_perm (s : Schema) {fields : List (String × FieldSpec)}
    (hfields : s.fields.Perm fields) :
    (s.unresolved reg).Perm (Schema.unresolved reg' { s with fields }) := by
  have hparents : s.unresolvedParents reg = Schema.unresolvedParents reg' { s with fields } := by
    refine List.filterMap_congr fun parent _ => ?_
    have hrel := h.entries parent
    generalize reg.lookup? parent = x at hrel ⊢
    generalize reg'.lookup? parent = y at hrel ⊢
    cases hrel with
    | none => rfl
    | some hreorders => cases hreorders <;> rfl
  have hfield : ∀ name spec, s.unresolvedField reg name spec =
      Schema.unresolvedField reg' { s with fields } name spec := by
    intro name spec
    have hregistered : ∀ name, reg.isRegistered name = reg'.isRegistered name := by
      intro name
      have hrel := h.entries name
      rw [isRegistered, isRegistered]
      generalize reg.lookup? name = x at hrel ⊢
      generalize reg'.lookup? name = y at hrel ⊢
      cases hrel <;> rfl
    have henum : ∀ name, (reg.enum? name).isSome = (reg'.enum? name).isSome := by
      intro name
      have hrel := h.entries name
      rw [enum?, enum?]
      generalize reg.lookup? name = x at hrel ⊢
      generalize reg'.lookup? name = y at hrel ⊢
      cases hrel with
      | none => rfl
      | some hreorders => cases hreorders <;> rfl
    simp only [Schema.unresolvedField, hregistered, henum]
  rw [Schema.unresolved, Schema.unresolved, hparents]
  simp only [hfield]
  exact (hfields.flatMap_right _).append_left _

end Matches

/-! ### The text of what does not resolve -/

lemma mem_dropRepeats {xs : List String} {x : String} : x ∈ dropRepeats xs ↔ x ∈ xs := by
  fun_induction dropRepeats xs <;> simp_all

lemma pairwise_lt_dropRepeats {xs : List String} (h : xs.Pairwise (· ≤ ·)) :
    (dropRepeats xs).Pairwise (· < ·) := by
  fun_induction dropRepeats xs with
  | case1 => exact .nil
  | case2 x => exact List.pairwise_singleton _ x
  | case3 x rest ih => exact ih h.of_cons
  | case4 x y rest hne ih =>
    obtain ⟨hx, hrest⟩ := List.pairwise_cons.1 h
    have hy : ∀ z ∈ y :: rest, y ≤ z := by
      intro z hz
      rcases List.mem_cons.1 hz with rfl | hz
      · exact le_rfl
      · exact (List.pairwise_cons.1 hrest).1 z hz
    have hlt : x < y := lt_of_le_of_ne (hx y List.mem_cons_self) hne
    exact List.pairwise_cons.2 ⟨fun z hz => hlt.trans_le (hy z (mem_dropRepeats.1 hz)), ih hrest⟩

lemma mem_unresolved {message : String} :
    message ∈ reg.unresolved ↔ ∃ s ∈ reg.schemas, message ∈ s.unresolved reg := by
  rw [unresolved, mem_dropRepeats, List.mem_mergeSort, List.mem_flatMap]

lemma pairwise_lt_unresolved (reg : Registry) : reg.unresolved.Pairwise (· < ·) := by
  have htrans : ∀ a b c : String, decide (a ≤ b) = true → decide (b ≤ c) = true →
      decide (a ≤ c) = true := by
    intro a b c hab hbc
    exact decide_eq_true ((of_decide_eq_true hab).trans (of_decide_eq_true hbc))
  have htotal : ∀ a b : String, (decide (a ≤ b) || decide (b ≤ a)) = true := by
    intro a b
    simpa using le_total a b
  have hsorted := List.pairwise_mergeSort htrans htotal
    (reg.schemas.flatMap (Schema.unresolved reg))
  exact pairwise_lt_dropRepeats (by simpa using hsorted)

/-! ### Inheritance that goes too far -/

/-- Where all parents are registered, collecting fields fails for the length of a chain only. -/
lemma collectFields_eq_error
    (hparents : ∀ child parent, reg.IsParent child parent →
      ∃ t, reg.lookup? parent = some (.schema t))
    {steps : Nat} {typeName : String} {s : Schema} (hs : reg.lookup? typeName = some (.schema s))
    {fields : List (String × FieldSpec)} {r : Report}
    (h : reg.collectFields steps typeName fields = .error r) :
    ∃ name, r = ⟨.setup (.inheritance name), []⟩ := by
  induction steps generalizing typeName s fields with
  | zero =>
    cases h
    exact ⟨typeName, rfl⟩
  | succ steps ih =>
    rw [collectFields, schema_eq_ok_iff.2 hs] at h
    simp only at h
    split at h
    · next e hfold =>
      cases h
      obtain ⟨parent, hparent, acc, hacc⟩ := foldlM_eq_error hfold
      obtain ⟨t, ht⟩ := hparents typeName parent ⟨s, hs, hparent⟩
      exact ih ht hacc
    · cases h

/-- What validation tells: it lists what does not resolve, or else accepts or names a type whose
chain of parents is too long. -/
lemma validate_cases (hreg : reg.Coherent) :
    (reg.unresolved ≠ [] ∧ reg.validate = .failSetup (.unresolved reg.unresolved)) ∨
    (reg.unresolved = [] ∧ (reg.validate = .ok () ∨
      ∃ name, reg.validate = .failSetup (.inheritance name))) := by
  rw [validate]
  split
  · next hnil =>
    refine Or.inr ⟨hnil, ?_⟩
    cases hforM : reg.schemas.forM fun s => (reg.resolvedFields s.typeName).map fun _ => () with
    | ok u => exact Or.inl rfl
    | error r =>
      obtain ⟨s, hs, hfields⟩ := forM_eq_error hforM
      have hcollect : reg.resolvedFields s.typeName = .error r := by
        cases hresolved : reg.resolvedFields s.typeName with
        | ok fields =>
          rw [hresolved] at hfields
          cases hfields
        | error e =>
          rw [hresolved] at hfields
          cases hfields
          rfl
      have hparents : ∀ child parent, reg.IsParent child parent →
          ∃ t, reg.lookup? parent = some (.schema t) := by
        rintro child parent ⟨t, ht, hparent⟩
        have hnone := unresolved_eq_nil_iff.1 hnil t (hreg.mem_schemas ht)
        exact (unresolved_schema_eq_nil_iff.1 hnone).1 parent hparent
      obtain ⟨name, rfl⟩ := collectFields_eq_error hparents (hreg.mem_schemas_iff.1 hs) hcollect
      exact Or.inr ⟨name, rfl⟩
  · next hne => exact Or.inl ⟨hne, rfl⟩

/-- Two outcomes of validation tell the same.  Of several types whose chains are too long, each may
name another one. -/
inductive SameVerdict : Result Unit → Result Unit → Prop
  | accepted : SameVerdict (.ok ()) (.ok ())
  | unresolved (references : List String) :
      SameVerdict (.failSetup (.unresolved references)) (.failSetup (.unresolved references))
  | inheritance (name name' : String) :
      SameVerdict (.failSetup (.inheritance name)) (.failSetup (.inheritance name'))

namespace Matches

variable (h : reg.Matches reg')

include h

lemma mem_schemas {s : Schema} (hs : s ∈ reg.schemas) :
    ∃ fields, s.fields.Perm fields ∧ { s with fields } ∈ reg'.schemas := by
  obtain ⟨fields, hfields, ht⟩ := h.schema (h.left.mem_schemas_iff.1 hs)
  exact ⟨fields, hfields, h.right.mem_schemas ht⟩

lemma mem_unresolved {message : String} (hmessage : message ∈ reg.unresolved) :
    message ∈ reg'.unresolved := by
  obtain ⟨s, hs, hmem⟩ := Registry.mem_unresolved.1 hmessage
  obtain ⟨fields, hfields, ht⟩ := h.mem_schemas hs
  exact Registry.mem_unresolved.2 ⟨_, ht, (h.unresolved_perm s hfields).mem_iff.1 hmem⟩

/-- What does not resolve is listed alike. -/
lemma unresolved_eq : reg.unresolved = reg'.unresolved :=
  (pairwise_lt_unresolved reg).eq_of_mem_iff (pairwise_lt_unresolved reg')
    fun _ => ⟨h.mem_unresolved, h.symm.mem_unresolved⟩

lemma chain {n : Nat} {child ancestor : String} (hchain : reg.Chain n child ancestor) :
    reg'.Chain n child ancestor := by
  induction hchain with
  | here name => exact .here name
  | up step _ ih =>
    obtain ⟨s, hs, hparent⟩ := step
    obtain ⟨fields, -, ht⟩ := h.schema hs
    exact .up ⟨_, ht, hparent⟩ ih

lemma validate_eq_ok (hok : reg.validate = .ok ()) : reg'.validate = .ok () := by
  have hresolves : reg.Resolves := (validate_eq_ok_iff_resolves h.left).1 hok
  have hnil : reg'.unresolved = [] := by
    rw [← h.unresolved_eq, unresolved_eq_nil_iff]
    exact fun s hs => (validate_eq_ok_iff.1 hok s hs).1
  have hresolved := fun s hs => unresolved_schema_eq_nil_iff.1 (unresolved_eq_nil_iff.1 hnil s hs)
  refine (validate_eq_ok_iff_resolves h.right).2 ⟨fun s hs => (hresolved s hs).1,
    fun s hs field hfield => ((hresolved s hs).2 field hfield).1,
    fun s hs field hfield => ((hresolved s hs).2 field hfield).2, ?_⟩
  exact fun n child ancestor hchain => hresolves.chains n child ancestor (h.symm.chain hchain)

/-- Validation tells the same of registries that match. -/
lemma sameVerdict : SameVerdict reg.validate reg'.validate := by
  have heq := h.unresolved_eq
  rcases validate_cases h.left with ⟨hne, hleft⟩ | ⟨hnil, hleft⟩
  · rcases validate_cases h.right with ⟨-, hright⟩ | ⟨hnil', -⟩
    · rw [hleft, hright, heq]
      exact .unresolved _
    · exact absurd (heq.trans hnil') hne
  · rcases validate_cases h.right with ⟨hne', -⟩ | ⟨-, hright⟩
    · exact absurd (heq.symm.trans hnil) hne'
    · rcases hleft with hok | ⟨name, hleft⟩
      · rw [hok, h.validate_eq_ok hok]
        exact .accepted
      · rcases hright with hok' | ⟨name', hright⟩
        · have hok := h.symm.validate_eq_ok hok'
          rw [hleft] at hok
          cases hok
        · rw [hleft, hright]
          exact .inheritance name name'

end Matches

/-- Entries can be registered in one order exactly if they can be in any other.  The registries
agree, and validation tells the same of both, in whatever orders it goes through their entries. -/
theorem registerAll_perm {entries entries' : List Entry} (hperm : entries.Perm entries')
    (hkeyed : ∀ e ∈ entries, e.Keyed) :
    ((∃ reg, registerAll {} entries = .ok reg) ↔ ∃ reg', registerAll {} entries' = .ok reg') ∧
    ∀ reg reg', registerAll {} entries = .ok reg → registerAll {} entries' = .ok reg' →
      reg.Agrees reg' ∧
      ∀ order order', order.Perm reg.entries → order'.Perm reg'.entries →
        SameVerdict (validate { reg with entries := order })
          (validate { reg' with entries := order' }) := by
  have hkeyed' : ∀ e ∈ entries', e.Keyed := fun e he => hkeyed e (hperm.mem_iff.2 he)
  refine ⟨?_, fun reg reg' hreg hreg' => ?_⟩
  · rw [exists_registerAll_iff hkeyed, exists_registerAll_iff hkeyed']
    exact ⟨fun h => h.perm hperm, fun h => h.perm hperm.symm⟩
  · have hstores : reg.Stores entries := stores_empty.registerAll hkeyed hreg
    have hstores' : reg'.Stores entries' := stores_empty.registerAll hkeyed' hreg'
    have hmatches : reg.Matches reg' := hstores.matches hstores' hperm
    exact ⟨hmatches.agrees, fun order order' horder horder' =>
      (hmatches.of_perm horder horder').sameVerdict⟩

/-! ### Three orders -/

namespace Permuted

/-- A schema whose parent is not registered, and that refers to a type that is not either. -/
def disk : Schema where
  typeName := "Disk"
  parents := ["Resource"]
  fields := [
    ("owner", { wireKey := "owner", shape := .list (.named "Person") }),
    ("mode", { wireKey := "mode", shape := .named "Mode" })]

/-- An enumeration that it refers to. -/
def mode : EnumEntry where
  typeName := "Mode"
  values := [("fast", "Fast"), ("slow", "Slow")]

/-- Entries of which the last ones are the first ones with their members in another order. -/
def listed : List Entry := [.schema disk, .enum mode, .schema { typeName := "Person.Old" },
  .enum { mode with values := mode.values.reverse },
  .schema { disk with fields := disk.fields.reverse }]

theorem registerAll_reverse :
    listed.Perm listed.reverse ∧ (∀ e ∈ listed, e.Keyed) ∧
      ∃ reg reg', registerAll {} listed = .ok reg ∧ registerAll {} listed.reverse = .ok reg' ∧
        reg.lookup? "Disk" ≠ reg'.lookup? "Disk" ∧ reg.Agrees reg' ∧
        SameVerdict reg.validate (validate { reg' with entries := reg'.entries.reverse }) ∧
        "Person (field `owner` of Disk)" ∈ reg.unresolved := by
  have hperm : listed.Perm listed.reverse := (List.reverse_perm listed).symm
  have hkeyed : ∀ e ∈ listed, e.Keyed := by decide
  obtain ⟨-, hagree⟩ := registerAll_perm hperm hkeyed
  obtain ⟨hagrees, hverdict⟩ := hagree _ _ rfl rfl
  exact ⟨hperm, hkeyed, _, _, rfl, rfl, by decide, hagrees,
    hverdict _ _ (.refl _) (List.reverse_perm _),
    mem_unresolved.2 ⟨disk, by decide, by decide +kernel⟩⟩

end Permuted

end Registry

end CloudDirector
