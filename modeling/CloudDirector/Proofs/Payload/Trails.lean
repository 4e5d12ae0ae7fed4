import CloudDirector.Proofs.Payload.RoundTrip
import CloudDirector.Proofs.Payload.Refusals
import CloudDirector.Proofs.Payload.Soundness

/-!
# Where decoding fails

A failure collects the places that it passes on its way out of a payload.  Read from the outside,
they lead from the whole payload to the part that is refused for itself: at each place decoding has
entered a part after all parts before it were decoded, and at the end the failure has passed no
place yet.  This holds in every registry and for every shape, resolvable or not.
-/

namespace CloudDirector.Payload

/-- Entering one part after another leads from a payload where a shape is declared to a part and the
shape declared there.  The list holds the places in between, outermost first. -/
inductive LeadsInto (reg : Registry) : Descriptor → Json → List Place → Descriptor → Json → Prop
  | here (shape : Descriptor) (j : Json) : LeadsInto reg shape j [] shape j
  | into {shape element shape' : Descriptor} {j k j' : Json} {place : Place} {places : List Place}
      (enters : Enters reg shape j place element k)
      (rest : LeadsInto reg element k places shape' j') :
      LeadsInto reg shape j (place :: places) shape' j'

variable {reg : Registry} {shape element : Descriptor} {j k : Json} {place : Place} {r : Report}

lemma Enters.isPart (h : Enters reg shape j place element k) : k.IsPart j := by
  cases h with
  | item _ => exact .item List.mem_append_cons_self
  | entry _ => exact .member List.mem_append_cons_self
  | field _ _ hget _ => exact .member (Members.mem_of_get?_eq_some hget)

/-! ## Failures that have passed no place -/

lemma trail_of_schema {name : String} (h : reg.schema name = .error r) : r.trail = [] := by
  rw [Registry.schema] at h
  split at h <;> cases h <;> rfl

lemma trail_of_resolveDiscriminator {base value : String}
    (h : reg.resolveDiscriminator base value = .error r) : r.trail = [] := by
  rw [Registry.resolveDiscriminator] at h
  split at h
  · cases h
    rfl
  · split at h
    · exact trail_of_schema h
    · cases h
      rfl

lemma trail_of_concreteSchema {s : Schema} (h : concreteSchema reg j s = .error r) :
    r.trail = [] := by
  rw [concreteSchema] at h
  split at h
  · split at h
    · cases h
    · exact trail_of_resolveDiscriminator h
  · cases h

lemma trail_of_plan (h : plan reg j shape = .error r) : r.trail = [] := by
  cases shape with
  | scalar _ | list _ | map _ => cases h
  | named name =>
    rw [plan] at h
    split at h
    · cases h
      rfl
    · cases h
    · split at h
      · exact trail_of_concreteSchema (Result.map_eq_error.1 h)
      · cases h
  | polymorphic base =>
    rw [plan] at h
    split at h
    · next e hschema =>
      cases h
      exact trail_of_schema hschema
    · exact trail_of_concreteSchema (Result.map_eq_error.1 h)

lemma trail_of_collectFields {steps : Nat} {name : String} {fields : List (String × FieldSpec)}
    (h : reg.collectFields steps name fields = .error r) : r.trail = [] := by
  induction steps generalizing name fields with
  | zero =>
    cases h
    rfl
  | succ steps ih =>
    rw [Registry.collectFields] at h
    split at h
    · next e hschema =>
      cases h
      exact trail_of_schema hschema
    · split at h
      · next e hfold =>
        cases h
        obtain ⟨parent, -, acc, hacc⟩ := Registry.foldlM_eq_error hfold
        exact ih hacc
      · cases h

/-! ## The way to the part that is refused -/

/-- A failure that has passed no place is that of the payload itself. -/
lemma exists_leadsInto_of_trail_eq_nil (h : decode reg j shape = .error r) (htrail : r.trail = []) :
    ∃ shape' j', LeadsInto reg shape j r.trail shape' j' ∧
      decode reg j' shape' = .error ⟨r.failure, []⟩ := by
  rw [htrail]
  refine ⟨shape, j, .here shape j, ?_⟩
  rw [h, ← htrail]

/-- Where decoding fails, the places that the failure has passed, outermost first, lead to a part of
the payload whose decoding fails in the same way before any place is passed.  On the way, all parts
before those that are entered are decoded. -/
theorem exists_leadsInto_of_decode (h : decode reg j shape = .error r) :
    ∃ shape' j', LeadsInto reg shape j r.trail shape' j' ∧
      decode reg j' shape' = .error ⟨r.failure, []⟩ := by
  induction j using Json.induction generalizing shape r with
  | step j ih =>
    -- a failure of the payload itself has passed no place, one of a part has passed one place more
    cases refused_of_decode h with
    | value fault => exact exists_leadsInto_of_trail_eq_nil h rfl
    | unplanned hplan => exact exists_leadsInto_of_trail_eq_nil h (trail_of_plan hplan)
    | unresolved _ hspecs =>
      exact exists_leadsInto_of_trail_eq_nil h (trail_of_collectFields hspecs)
    | part henters he =>
      obtain ⟨shape', j', hrest, hfailure⟩ := ih _ henters.isPart he
      exact ⟨shape', j', .into henters hrest, hfailure⟩

/-! ### A subject with a name that is no text -/

namespace Sample

/-- Two events, the second one with an organization whose name is no text. -/
def misnamed : Json := .array [
  .object [("level", .string "INFO")],
  .object [("subject", .object [("name", .bool true), ("_type", .string "org")])]]

/-- The failure names the event, its subject, and the field of the subject under the type that the
payload gives it. -/
theorem exists_leadsInto_misnamed :
    ∃ r, decode registry misnamed (.list (.named "Event")) = .error r ∧
      r.failure.message = "Malformed value: Invalid string: expected string, found bool" ∧
      r.trail.map Place.message = ["List index: 1", "Field: Event.subject (wire key `subject`)",
        "Field: Org.name (wire key `name`)"] ∧
      ∃ shape' j', LeadsInto registry (.list (.named "Event")) misnamed r.trail shape' j' ∧
        decode registry j' shape' = .error ⟨r.failure, []⟩ := by
  have hdecode : decode registry misnamed (.list (.named "Event")) =
      .error ⟨.value (.wrongJson .string "bool"), [.listIndex 1,
        .wireField "Event" "subject" "subject", .wireField "Org" "name" "name"]⟩ := rfl
  exact ⟨_, hdecode, by decide +kernel, by decide +kernel, exists_leadsInto_of_decode hdecode⟩

end Sample

end CloudDirector.Payload
