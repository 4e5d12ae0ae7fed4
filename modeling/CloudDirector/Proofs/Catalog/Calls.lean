import CloudDirector.Proofs.Catalog.Acceptance

/-!
# Registering in place

A registry is filled by calls, some of which may fail.  A call checks and changes the registry in
place, part by part, so what a failing call has changed on its way would stay; that it never has
changed anything is `run_enter`.  After any calls whatsoever the entries and the index of
discriminators agree, and what was stored before is stored still.  Hence a discriminator selects
the one schema that has it, where that is found to be a descendant of the expected base.
-/

namespace CloudDirector

/-! ## Wire keys of one schema -/

namespace Schema

lemma clashAfter_eq_none_iff {earlier fields : List (String × FieldSpec)} :
    clashAfter earlier fields = none ↔
      (∀ field ∈ fields, ∀ other ∈ earlier, other.2.wireKey ≠ field.2.wireKey) ∧
      (fields.map fun field => field.2.wireKey).Nodup := by
  induction fields generalizing earlier with
  | nil => simp [clashAfter]
  | cons field rest ih =>
    obtain ⟨name, spec⟩ := field
    rw [clashAfter]
    split
    · next first e hfound =>
      have hmem : (first, e) ∈ earlier := List.mem_of_find?_eq_some hfound
      have hkey : e.wireKey = spec.wireKey := by simpa using List.find?_some hfound
      refine iff_of_false (by simp) ?_
      rintro ⟨hfresh, -⟩
      exact hfresh _ List.mem_cons_self _ hmem hkey
    · next hfound =>
      have hfree : ∀ other ∈ earlier, other.2.wireKey ≠ spec.wireKey := by
        simpa using List.find?_eq_none.1 hfound
      rw [ih, List.map_cons, List.nodup_cons]
      simp only [List.mem_append, List.mem_singleton, List.forall_mem_cons, List.mem_map]
      constructor
      · rintro ⟨hfresh, hnodup⟩
        refine ⟨⟨hfree, fun field hfield other hother => hfresh field hfield other (Or.inl hother)⟩,
          ?_, hnodup⟩
        rintro ⟨field, hfield, hkey⟩
        exact hfresh field hfield _ (Or.inr rfl) hkey.symm
      · rintro ⟨⟨-, hfresh⟩, hnew, hnodup⟩
        refine ⟨fun field hfield other hother => ?_, hnodup⟩
        rcases hother with hother | rfl
        · exact hfresh field hfield other hother
        · exact fun hkey => hnew ⟨field, hfield, hkey.symm⟩

/-- A schema passes its check exactly if its fields have different wire keys. -/
lemma check_eq_ok_iff {s : Schema} :
    s.check = .ok () ↔ (s.fields.map fun field => field.2.wireKey).Nodup := by
  have hclash : clash? s.fields = none ↔ (s.fields.map fun field => field.2.wireKey).Nodup := by
    simp [clash?, clashAfter_eq_none_iff]
  rw [← hclash, check]
  split
  · next heq => simp [heq, Result.failSetup, Result.fail]
  · next heq => simp [heq]

end Schema

namespace Registry

/-! ## Calls -/

/-- Something that is done with a registry in place.  It may fail, and what it has changed before
stays changed. -/
abbrev Call := ExceptT Report (StateM Registry)

/-- Enters the discriminator of a schema in the index, if no other schema has it. -/
def index (s : Schema) : Call Unit := do
  match Members.get? (← get).discriminators s.discriminatorValue with
  | some owner => throw ⟨.setup (.sharedDiscriminator s.discriminatorValue s.typeName owner), []⟩
  | none => modify fun reg => { reg with
      discriminators := Members.insert reg.discriminators s.discriminatorValue s.typeName }

/-- Registers an entry in place, one check and one change after another. -/
def enter (entry : Entry) : Call Unit := do
  if let .schema s := entry then s.check
  match (← get).lookup? entry.typeName with
  | some existing =>
    unless existing.same entry do throw ⟨.setup (.differentShape entry.typeName), []⟩
  | none =>
    if let .schema s := entry then index s
    modify fun reg => { reg with entries := Members.insert reg.entries entry.typeName entry }

/-- The registry after entries were registered in place, one after another, whether or not each
call succeeded. -/
def after (reg : Registry) (entries : List Entry) : Registry :=
  entries.foldl (fun reg entry => ((enter entry).run reg).2) reg

variable {reg reg' : Registry} {s : Schema} {entry stored : Entry} {entries : List Entry}
  {name : String}

section Run

variable {α β : Type}

lemma run_get_bind (f : Registry → Call α) : (get >>= f).run reg = (f reg).run reg := rfl

lemma run_modify (f : Registry → Registry) : (modify f : Call Unit).run reg = (.ok (), f reg) := rfl

lemma run_throw (r : Report) : (throw r : Call α).run reg = (.error r, reg) := rfl

lemma run_lift_bind (a : α) (f : α → Call β) :
    ((liftM (.ok a : Result α) : Call α) >>= f).run reg = (f a).run reg := rfl

lemma run_bind (x : Call α) (f : α → Call β) :
    (x >>= f).run reg = match x.run reg with
      | (.ok a, reg') => (f a).run reg'
      | (.error r, reg') => (.error r, reg') := by
  simp only [bind, ExceptT.bind, ExceptT.run, ExceptT.mk, StateT.bind, ExceptT.bindCont]
  rcases x reg with ⟨result, reg'⟩
  cases result <;> rfl

end Run

lemma run_index_of_eq_none (h : Members.get? reg.discriminators s.discriminatorValue = none) :
    (index s).run reg = (.ok (), { reg with
      discriminators := reg.discriminators ++ [(s.discriminatorValue, s.typeName)] }) := by
  rw [index, run_get_bind, h, run_modify, Members.insert_of_not_mem (Members.get?_eq_none_iff.1 h)]

lemma run_index_of_eq_some {owner : String}
    (h : Members.get? reg.discriminators s.discriminatorValue = some owner) :
    (index s).run reg =
      (.error ⟨.setup (.sharedDiscriminator s.discriminatorValue s.typeName owner), []⟩, reg) := by
  rw [index, run_get_bind, h, run_throw]

/-- A call in place leaves the registry with the entry, or it fails and leaves the registry as it
was. -/
lemma run_enter (reg : Registry) (entry : Entry) :
    (enter entry).run reg = match reg.register entry with
      | .ok reg' => (.ok (), reg')
      | .error r => (.error r, reg) := by
  cases entry with
  | schema s =>
    simp only [enter, register]
    cases hcheck : s.check with
    | error r => rfl
    | ok u =>
      rw [run_lift_bind, run_get_bind]
      cases hname : reg.lookup? s.typeName with
      | some existing =>
        simp only [Entry.typeName, hname]
        cases existing.same (.schema s) <;> rfl
      | none =>
        have hentries := Members.insert_of_not_mem (Members.get?_eq_none_iff.1 hname) (.schema s)
        cases hfree : Members.get? reg.discriminators s.discriminatorValue with
        | some owner =>
          simp only [Entry.typeName, hname, run_bind, run_index_of_eq_some hfree]
          rfl
        | none =>
          simp only [Entry.typeName, hname, run_bind, run_index_of_eq_none hfree, run_modify,
            hentries]
  | enum e =>
    simp only [enter, register]
    rw [run_get_bind]
    cases hname : reg.lookup? e.typeName with
    | some existing =>
      simp only [Entry.typeName, hname]
      cases existing.same (.enum e) <;> rfl
    | none =>
      have hentries := Members.insert_of_not_mem (Members.get?_eq_none_iff.1 hname) (.enum e)
      simp only [Entry.typeName, hname, run_modify, hentries]

/-! ## One call -/

lemma run_enter_of_error {r : Report} (h : (enter entry).run reg = (.error r, reg')) :
    reg' = reg := by
  rw [run_enter] at h
  split at h
  · cases h
  · cases h
    rfl

/-- A call leaves the registry as it was, or is a successful registration. -/
lemma run_enter_cases (reg : Registry) (entry : Entry) :
    ((enter entry).run reg).2 = reg ∨ reg.register entry = .ok ((enter entry).run reg).2 := by
  rw [run_enter]
  cases reg.register entry with
  | ok reg' => exact Or.inr rfl
  | error r => exact Or.inl rfl

/-- Registering what is stored already changes nothing. -/
lemma run_enter_of_lookup? (h : reg.lookup? entry.typeName = some stored) :
    ((enter entry).run reg).2 = reg := by
  rcases run_enter_cases reg entry with heq | hreg
  · exact heq
  · rcases register_cases hreg with heq | ⟨s, rfl, -, hname, -⟩ | ⟨e, rfl, hname, -⟩
    · exact heq
    · have hstored : reg.lookup? s.typeName = some stored := h
      rw [hname] at hstored
      cases hstored
    · have hstored : reg.lookup? e.typeName = some stored := h
      rw [hname] at hstored
      cases hstored

/-- A successful registration keeps what is stored. -/
lemma lookup?_of_register (hreg : reg.register entry = .ok reg')
    (h : reg.lookup? name = some stored) : reg'.lookup? name = some stored := by
  obtain ⟨storedEntries, discriminators⟩ := reg
  rcases register_cases hreg with rfl | ⟨s, -, -, hname, -, rfl⟩ | ⟨e, -, hname, rfl⟩
  · exact h
  · exact (lookup?_append_eq_some hname).2 (Or.inl h)
  · exact (lookup?_append_eq_some hname).2 (Or.inl h)

/-! ## Any number of calls -/

lemma after_cons (reg : Registry) (entry : Entry) (entries : List Entry) :
    after reg (entry :: entries) = after ((enter entry).run reg).2 entries := rfl

/-- Where all calls succeed, the registry is the one that they build. -/
lemma after_of_registerAll (h : reg.registerAll entries = .ok reg') : after reg entries = reg' := by
  induction entries generalizing reg with
  | nil => exact Except.ok.inj h
  | cons entry entries ih =>
    rw [registerAll] at h
    split at h
    · next next hnext =>
      rw [after_cons, run_enter, hnext]
      exact ih h
    · cases h

/-- Whatever calls follow, a stored entry stays as it is. -/
lemma lookup?_after (h : reg.lookup? name = some stored) :
    (after reg entries).lookup? name = some stored := by
  induction entries generalizing reg with
  | nil => exact h
  | cons entry entries ih =>
    rw [after_cons]
    refine ih ?_
    rcases run_enter_cases reg entry with heq | hreg
    · rwa [heq]
    · exact lookup?_of_register hreg h

/-- Whatever calls are made, the registry is one that successful registrations build. -/
lemma Built.after (h : reg.Built) (hkeyed : ∀ e ∈ entries, e.Keyed) :
    (Registry.after reg entries).Built := by
  induction entries generalizing reg with
  | nil => exact h
  | cons entry entries ih =>
    rw [List.forall_mem_cons] at hkeyed
    rw [after_cons]
    refine ih ?_ hkeyed.2
    rcases run_enter_cases reg entry with heq | hreg
    · rwa [heq]
    · exact h.register hkeyed.1 hreg

/-! ## Discriminators -/

/-- A discriminator selects the schema that has it, if that is found to be a descendant of the base
where it is expected. -/
lemma Coherent.resolveDiscriminator_eq_ok_iff (hreg : reg.Coherent) {base value : String} :
    reg.resolveDiscriminator base value = .ok s ↔
      reg.lookup? s.typeName = some (.schema s) ∧ s.discriminatorValue = value ∧
        reg.isDescendant s.typeName base = true := by
  constructor
  · intro h
    obtain ⟨concrete, hconcrete, hdescendant, hs⟩ := resolveDiscriminator_eq_ok h
    obtain rfl := hreg.typeName_eq hs
    obtain ⟨t, ht, hvalue⟩ := hreg.indexed.1 hconcrete
    obtain rfl : t = s := by simpa [hs] using ht.symm
    exact ⟨hs, hvalue, hdescendant⟩
  · rintro ⟨hs, rfl, hdescendant⟩
    rw [resolveDiscriminator]
    simp only [hreg.get?_discriminatorValue hs, hdescendant, if_true]
    exact schema_eq_ok_iff.2 hs

/-- The entries and the index of a registry agree. -/
structure Consistent (reg : Registry) : Prop where
  /-- Every entry is stored under its own name. -/
  named : ∀ name entry, reg.lookup? name = some entry → entry.typeName = name
  /-- The fields of a stored schema have different wire keys. -/
  distinct : ∀ name s, reg.lookup? name = some (.schema s) →
    (s.fields.map fun field => field.2.wireKey).Nodup
  /-- The index leads from a value to a type exactly if that is a stored schema with the value as
  its discriminator. -/
  indexed : ∀ value name, Members.get? reg.discriminators value = some name ↔
    ∃ s, reg.lookup? name = some (.schema s) ∧ s.discriminatorValue = value
  /-- No two stored schemas share a discriminator. -/
  unique : ∀ name other s t, reg.lookup? name = some (.schema s) →
    reg.lookup? other = some (.schema t) → s.discriminatorValue = t.discriminatorValue →
    name = other ∧ s = t

lemma Coherent.consistent (hreg : reg.Coherent) : reg.Consistent where
  named _ _ h := hreg.named h
  distinct _ _ h := Schema.check_eq_ok_iff.1 (hreg.checked h)
  indexed _ _ := hreg.indexed
  unique name other s t hs ht h := by
    obtain rfl := hreg.eq_of_discriminatorValue_eq hs ht h
    exact ⟨rfl, by simpa [hs] using ht⟩

/-- After any calls, some of which may have failed, entries and index agree; no later call changes
or removes a stored entry; a call that fails or that repeats a stored entry changes nothing; and a
discriminator selects exactly the schema that has it, if a chain of at most one step more than the
limit leads from there to the base, which in a valid registry is every chain. -/
theorem after_calls (entries : List Entry) (hkeyed : ∀ e ∈ entries, e.Keyed) :
    (after {} entries).Consistent ∧
    (∀ later name stored, (after {} entries).lookup? name = some stored →
      (after {} (entries ++ later)).lookup? name = some stored) ∧
    (∀ entry r reg', (enter entry).run (after {} entries) = (.error r, reg') →
      reg' = after {} entries) ∧
    (∀ entry stored, (after {} entries).lookup? entry.typeName = some stored →
      stored.same entry = true → ((enter entry).run (after {} entries)).2 = after {} entries) ∧
    (∀ base value s, (after {} entries).resolveDiscriminator base value = .ok s ↔
      (after {} entries).lookup? s.typeName = some (.schema s) ∧ s.discriminatorValue = value ∧
        ∃ n ≤ inheritanceLimit + 1, (after {} entries).Chain n s.typeName base) ∧
    ((after {} entries).validate = .ok () →
      ∀ base value s, (after {} entries).resolveDiscriminator base value = .ok s ↔
        (after {} entries).lookup? s.typeName = some (.schema s) ∧ s.discriminatorValue = value ∧
          (after {} entries).Inherits s.typeName base) := by
  have hbuilt : (after {} entries).Built := Built.empty.after hkeyed
  have hreg := hbuilt.coherent
  refine ⟨hreg.consistent, fun later name stored h => ?_, fun entry r reg' h => run_enter_of_error h,
    fun entry stored h _ => run_enter_of_lookup? h, fun base value s => ?_,
    fun hok base value s => ?_⟩
  · have happend : after {} (entries ++ later) = after (after {} entries) later :=
      List.foldl_append
    rw [happend]
    exact lookup?_after h
  · rw [hreg.resolveDiscriminator_eq_ok_iff, isDescendant_iff_exists_chain]
  · have hvalid : (after {} entries).IsValid := ⟨hbuilt, hok⟩
    rw [hreg.resolveDiscriminator_eq_ok_iff, hvalid.isDescendant_iff]

/-! ### Calls that fail -/

namespace Attempts

/-- A base. -/
def shape : Schema where
  typeName := "Shape"
  fields := [("name", { wireKey := "name", shape := .scalar .string })]

/-- A type derived from it, with a discriminator of its own. -/
def circle : Schema where
  typeName := "Circle"
  parents := ["Shape"]
  discriminator := some "shape.circle"

/-- Entries of which the third one is there already, and the three after it are refused: for another
shape under a name that is taken, for a discriminator that is taken, and for a wire key that two
fields share. -/
def attempts : List Entry := [
  .schema shape, .schema circle, .schema circle,
  .schema { typeName := "Circle" },
  .schema { typeName := "Ring", discriminator := some "shape.circle" },
  .schema { typeName := "Pair", fields := [
    ("left", { wireKey := "name", shape := .scalar .string }),
    ("right", { wireKey := "name", shape := .scalar .string })] },
  .enum { typeName := "Mode", values := [("fast", "fast")] }]

/-- Three entries are stored, and the discriminator selects the derived type. -/
theorem after_attempts :
    (∀ e ∈ attempts, e.Keyed) ∧
      Members.keys (after {} attempts).entries = ["Shape", "Circle", "Mode"] ∧
      (after {} attempts).Consistent ∧
      (after {} attempts).resolveDiscriminator "Shape" "shape.circle" = .ok circle := by
  have hkeyed : ∀ e ∈ attempts, e.Keyed := by decide
  obtain ⟨hconsistent, -, -, -, hresolve, -⟩ := after_calls attempts hkeyed
  have hparent : (after {} attempts).IsParent "Circle" "Shape" := ⟨circle, rfl, by decide⟩
  have hchain : (after {} attempts).Chain 1 "Circle" "Shape" := .up hparent (.here _)
  exact ⟨hkeyed, rfl, hconsistent, (hresolve _ _ _).2 ⟨rfl, rfl, 1, by decide, hchain⟩⟩

end Attempts

/-! ### A descendant too far -/

namespace Ladder

/-- The lowest type of a ladder of 34 steps derives from its highest one, and is still not selected
where that one is expected. -/
theorem resolveDiscriminator_far :
    after {} ((rungs names).map .schema) = registry names ∧
      (∃ s, (registry names).lookup? "T0" = some (.schema s) ∧ s.discriminatorValue = "T0") ∧
      (registry names).Inherits "T0" "T34" ∧
      (registry names).resolveDiscriminator "T34" "T0" =
        .error ⟨.setup (.notSubtype "T0" "T0" "T34"), []⟩ := by
  have hall : registerAll {} ((rungs names).map .schema) = .ok (registry names) := rfl
  have hreach : (registry names).reaches (inheritanceLimit + 1) "T0" "T33" = true := rfl
  have hlast : (registry names).IsParent "T33" "T34" := ⟨_, rfl, List.mem_singleton.2 rfl⟩
  exact ⟨after_of_registerAll hall, ⟨_, rfl, rfl⟩, (inherits_of_reaches hreach).tail hlast, rfl⟩

end Ladder

end Registry

end CloudDirector
