import CloudDirector.Proofs.Catalog.Acceptance
import CloudDirector.Proofs.Payload.Refusals
import CloudDirector.Proofs.Payload.Soundness

/-!
# Faults of payloads and faults of the set-up

In a valid registry decoding finds every type that a shape names, so a payload is refused for its
values, or for a discriminator that selects no type where it stands.  There is one exception: what
validation accepts inside of lists and maps is a polymorphic reference to an enumeration, and there
decoding fails with a fault of the set-up whatever the payload holds.
-/

namespace CloudDirector

/-! ## Payloads without discriminators -/

namespace Json

/-- The first payload is the second one, or stands in it at any depth. -/
def Within : Json → Json → Prop := Relation.ReflTransGen IsPart

/-- No object in the payload, at any depth, names a type. -/
def Untyped (j : Json) : Prop := ∀ k : Json, k.Within j → k.member? discriminatorKey = none

lemma untyped_iff {j : Json} :
    j.Untyped ↔ j.member? discriminatorKey = none ∧ ∀ k : Json, k.IsPart j → k.Untyped := by
  constructor
  · intro h
    exact ⟨h j .refl, fun k hk i hi => h i (hi.tail hk)⟩
  · rintro ⟨hnone, hparts⟩ k hk
    rcases hk.cases_tail with rfl | ⟨i, hi, hpart⟩
    · exact hnone
    · exact hparts i hpart k hi

lemma untyped_array {items : List Json} (h : ∀ k ∈ items, k.Untyped) : (array items).Untyped := by
  refine untyped_iff.2 ⟨rfl, fun k hk => ?_⟩
  cases hk with
  | item hmem => exact h k hmem

lemma untyped_object {members : List (String × Json)} (hkey : discriminatorKey ∉ Members.keys members)
    (h : ∀ m ∈ members, m.2.Untyped) : (object members).Untyped := by
  refine untyped_iff.2 ⟨Members.get?_eq_none_iff.2 hkey, fun k hk => ?_⟩
  cases hk with
  | member hmem => exact h _ hmem

lemma untyped_array_singleton {j : Json} (h : j.Untyped) : (array [j]).Untyped := by
  refine untyped_array fun k hk => ?_
  rwa [List.mem_singleton.1 hk]

lemma untyped_object_singleton {key : String} {j : Json} (hkey : key ≠ discriminatorKey)
    (h : j.Untyped) : (object [(key, j)]).Untyped := by
  refine untyped_object ?_ fun m hm => ?_
  · rw [Members.keys_cons, Members.keys_nil, List.mem_singleton]
    exact hkey.symm
  · rwa [List.mem_singleton.1 hm]

lemma untyped_bool (b : Bool) : (bool b).Untyped := untyped_iff.2 ⟨rfl, fun _ hk => nomatch hk⟩

lemma untyped_string (s : String) : (string s).Untyped :=
  untyped_iff.2 ⟨rfl, fun _ hk => nomatch hk⟩

end Json

/-! ## Types that are there -/

/-- The descriptor leaves it to the payload which type derived from the given one it is, at any
depth of lists and maps. -/
inductive Descriptor.Dispatches : Descriptor → String → Prop
  | polymorphic (base : String) : Dispatches (.polymorphic base) base
  | list {element : Descriptor} {base : String} (h : Dispatches element base) :
      Dispatches (.list element) base
  | map {element : Descriptor} {base : String} (h : Dispatches element base) :
      Dispatches (.map element) base

namespace Registry

/-- No field, at any depth of its descriptor, is a polymorphic reference to an enumeration. -/
def DispatchesOnSchemas (reg : Registry) : Prop :=
  ∀ s ∈ reg.schemas, ∀ field ∈ s.fields, ∀ base, field.2.shape.Dispatches base →
    ∀ e, reg.lookup? base ≠ some (.enum e)

/-- What the shape names is registered, and is a schema where the payload is asked for the type. -/
inductive Provides (reg : Registry) : Descriptor → Prop
  | scalar (kind : Kind) : Provides reg (.scalar kind)
  | list {element : Descriptor} (h : Provides reg element) : Provides reg (.list element)
  | map {element : Descriptor} (h : Provides reg element) : Provides reg (.map element)
  | named {name : String} {entry : Entry} (h : reg.lookup? name = some entry) :
      Provides reg (.named name)
  | polymorphic {base : String} {s : Schema} (h : reg.lookup? base = some (.schema s)) :
      Provides reg (.polymorphic base)

variable {reg : Registry}

lemma provides_of_refers {shape : Descriptor}
    (hrefers : ∀ name, shape.Refers name → ∃ entry, reg.lookup? name = some entry)
    (hbases : ∀ base, shape.Dispatches base → ∀ e, reg.lookup? base ≠ some (.enum e)) :
    reg.Provides shape := by
  induction shape with
  | scalar kind => exact .scalar kind
  | list element ih =>
    exact .list (ih (fun name h => hrefers name (.list h)) fun base h => hbases base (.list h))
  | map element ih =>
    exact .map (ih (fun name h => hrefers name (.map h)) fun base h => hbases base (.map h))
  | named name =>
    obtain ⟨entry, hentry⟩ := hrefers name (.named name)
    exact .named hentry
  | polymorphic base =>
    obtain ⟨entry, hentry⟩ := hrefers base (.polymorphic base)
    cases entry with
    | schema s => exact .polymorphic hentry
    | enum e => exact absurd hentry (hbases base (.polymorphic base) e)

/-- The shapes of all fields, inherited ones included, are provided for. -/
lemma IsValid.provides (hreg : reg.IsValid) (hbases : reg.DispatchesOnSchemas) {typeName : String}
    {specs : List (String × FieldSpec)} (hspecs : reg.resolvedFields typeName = .ok specs)
    {field : String × FieldSpec} (hfield : field ∈ specs) : reg.Provides field.2.shape := by
  obtain ⟨ancestor, s, -, hs, hown⟩ := declares_of_mem_resolvedFields hspecs hfield
  have hmem := hreg.coherent.mem_schemas hs
  exact provides_of_refers (hreg.resolves.references s hmem field hown) (hbases s hmem field hown)

end Registry

namespace Payload

variable {reg : Registry} {shape : Descriptor} {s : Schema} {j k : Json} {r : Report}

/-! ## Discriminators that select nothing -/

/-- The failure is that of looking up a discriminator which the payload holds, at any depth, where a
registered schema is expected. -/
def DiscriminatorFault (reg : Registry) (j : Json) (failure : Failure) : Prop :=
  ∃ (k : Json) (value base : String) (s : Schema) (r : Report), k.Within j ∧
    k.member? discriminatorKey = some (.string value) ∧
    reg.lookup? base = some (.schema s) ∧ reg.resolveDiscriminator base value = .error r ∧
    r.failure = failure

lemma DiscriminatorFault.of_isPart {failure : Failure} (h : DiscriminatorFault reg k failure)
    (hpart : k.IsPart j) : DiscriminatorFault reg j failure := by
  obtain ⟨i, value, base, s, r, hi, hrest⟩ := h
  exact ⟨i, value, base, s, r, hi.tail hpart, hrest⟩

lemma not_discriminatorFault_of_untyped (h : j.Untyped) (failure : Failure) :
    ¬ DiscriminatorFault reg j failure := by
  rintro ⟨k, value, base, s, r, hk, hmember, -⟩
  rw [h k hk] at hmember
  cases hmember

lemma concreteSchema_eq_error (h : concreteSchema reg j s = .error r) :
    ∃ value, j.member? discriminatorKey = some (.string value) ∧
      reg.resolveDiscriminator s.typeName value = .error r := by
  rw [concreteSchema] at h
  split at h
  · next value hvalue =>
    obtain ⟨member, hmember, htext⟩ := Option.bind_eq_some_iff.1 hvalue
    split at h
    · cases h
    · refine ⟨value, ?_, h⟩
      cases member with
      | string text =>
        cases htext
        exact hmember
      | _ => cases htext
  · cases h

/-- Where all that a shape names is there, planning can fail for a discriminator only. -/
lemma discriminatorFault_of_plan (hreg : reg.Coherent) (hshape : reg.Provides shape)
    (h : plan reg j shape = .error r) : DiscriminatorFault reg j r.failure := by
  have hfault : ∀ {base s}, reg.lookup? base = some (.schema s) →
      concreteSchema reg j s = .error r → DiscriminatorFault reg j r.failure := by
    intro base s hs hconcrete
    obtain ⟨value, hmember, hresolve⟩ := concreteSchema_eq_error hconcrete
    rw [hreg.typeName_eq hs] at hresolve
    exact ⟨j, value, base, s, r, .refl, hmember, hs, hresolve, rfl⟩
  cases hshape with
  | scalar kind => cases h
  | list _ => cases h
  | map _ => cases h
  | @named name entry hentry =>
    rw [plan, hentry] at h
    cases entry with
    | enum e => cases h
    | schema s =>
      simp only at h
      split at h
      · exact hfault hentry (Result.map_eq_error.1 h)
      · cases h
  | @polymorphic base s hs =>
    rw [plan, Registry.schema_eq_ok_iff.2 hs] at h
    exact hfault hs (Result.map_eq_error.1 h)

/-- A record is planned for registered schemas only. -/
lemma lookup?_of_plan (hreg : reg.Coherent) (h : plan reg j shape = .ok (.record s)) :
    reg.lookup? s.typeName = some (.schema s) := by
  rcases plan_cases h with ⟨_, -, heq⟩ | ⟨_, -, heq⟩ | ⟨_, -, heq⟩ | ⟨_, _, -, -, heq⟩ |
    ⟨base, dispatched, t, hexpects, hselected, heq⟩
  · cases heq
  · cases heq
  · cases heq
  · cases heq
  · cases heq
    have hbase := lookup?_of_expects hreg hexpects
    split at hselected
    · exact (inherits_of_concreteSchema hreg hbase hselected).1
    · rwa [hselected]

/-! ## What decoding fails for -/

/-- In a valid registry that dispatches on schemas only, a payload is refused for a value in it or
for a discriminator in it. -/
lemma fault_of_decode (hreg : reg.IsValid) (hbases : reg.DispatchesOnSchemas)
    (hshape : reg.Provides shape) (h : decode reg j shape = .error r) :
    (∃ fault, r.failure = .value fault) ∨ DiscriminatorFault reg j r.failure := by
  induction j using Json.induction generalizing shape r with
  | step j ih =>
    -- a part that is refused adds its place to the trail, and leaves the failure as it is
    have hpart : ∀ {element : Descriptor} {k : Json} {e : Report}, k.IsPart j →
        reg.Provides element → decode reg k element = .error e → r.failure = e.failure →
        (∃ fault, r.failure = .value fault) ∨ DiscriminatorFault reg j r.failure := by
      intro element k e hk helement he hfailure
      rw [hfailure]
      exact (ih k hk helement he).imp_right fun hfault => hfault.of_isPart hk
    cases refused_of_decode h with
    | value fault => exact Or.inl ⟨fault, rfl⟩
    | unplanned hplan => exact Or.inr (discriminatorFault_of_plan hreg.coherent hshape hplan)
    | unresolved hplan hspecs =>
      obtain ⟨specs, hok⟩ := hreg.exists_resolvedFields (lookup?_of_plan hreg.coherent hplan)
      rw [hok] at hspecs
      cases hspecs
    | part henters he =>
      cases henters with
      | item _ =>
        cases hshape with
        | list helement => exact hpart (.item List.mem_append_cons_self) helement he rfl
      | entry _ =>
        cases hshape with
        | map helement => exact hpart (.member List.mem_append_cons_self) helement he rfl
      | field _ hspecs hget _ =>
        exact hpart (.member (Members.mem_of_get?_eq_some hget))
          (hreg.provides hbases hspecs List.mem_append_cons_self) he rfl

/-- In a valid registry that dispatches on schemas only, a payload without discriminators is decoded
as a registered type or refused for a value in it, and the only fatal failure that any payload leads
to is that of a discriminator in it. -/
theorem decode_registered (hreg : reg.IsValid) (hbases : reg.DispatchesOnSchemas) {name : String}
    {entry : Entry} (hname : reg.lookup? name = some entry) (j : Json) :
    (j.Untyped → (∃ found, decode reg j (.named name) = .ok found) ∨
      ∃ r, decode reg j (.named name) = .error r ∧ r.failure.isMalformed = true ∧
        r.failure.isFatal = false) ∧
    (∀ r, decode reg j (.named name) = .error r → r.failure.isFatal = true →
      DiscriminatorFault reg j r.failure) := by
  have hshape : reg.Provides (.named name) := .named hname
  constructor
  · intro huntyped
    cases hdecode : decode reg j (.named name) with
    | ok found => exact Or.inl ⟨found, rfl⟩
    | error r =>
      refine Or.inr ⟨r, rfl, ?_⟩
      rcases fault_of_decode hreg hbases hshape hdecode with ⟨fault, hfault⟩ | hfault
      · rw [hfault]
        exact ⟨rfl, rfl⟩
      · exact absurd hfault (not_discriminatorFault_of_untyped huntyped _)
  · intro r hdecode hfatal
    rcases fault_of_decode hreg hbases hshape hdecode with ⟨fault, hfault⟩ | hfault
    · rw [hfault] at hfatal
      cases hfatal
    · exact hfault

/-! ### A value of the wrong kind -/

namespace Sample

lemma dispatchesOnSchemas_registry : registry.DispatchesOnSchemas := by
  rw [Registry.DispatchesOnSchemas, show registry.schemas = [entity, org, event] from rfl]
  simp only [List.forall_mem_cons, List.not_mem_nil, false_implies, implies_true, and_true]
  refine ⟨?_, ?_, ?_⟩
  · intro field hfield base hdispatches
    obtain rfl := List.mem_singleton.1 hfield
    cases hdispatches
  · intro field hfield base hdispatches
    obtain rfl := List.mem_singleton.1 hfield
    cases hdispatches
  · intro field hfield base hdispatches
    simp only [event, List.mem_cons, List.not_mem_nil, or_false] at hfield
    rcases hfield with rfl | rfl | rfl
    · cases hdispatches
    · cases hdispatches
    · obtain _ | ⟨⟨⟩⟩ := hdispatches

/-- An event whose ratios hold a text. -/
def wrongRatios : Json := .object [("ratios", .array [.string "half"])]

lemma untyped_wrongRatios : wrongRatios.Untyped :=
  Json.untyped_object_singleton (by decide) (Json.untyped_array_singleton (Json.untyped_string "half"))

/-- The event is refused for that text. -/
theorem decode_wrongRatios :
    registry.IsValid ∧ registry.DispatchesOnSchemas ∧ wrongRatios.Untyped ∧
      ∃ r, decode registry wrongRatios (.named "Event") = .error r ∧ r.failure.isMalformed = true := by
  refine ⟨isValid_registry, dispatchesOnSchemas_registry, untyped_wrongRatios, ?_⟩
  have hname : registry.lookup? "Event" = some (.schema event) := rfl
  obtain ⟨hdecoded, -⟩ :=
    decode_registered isValid_registry dispatchesOnSchemas_registry hname wrongRatios
  rcases hdecoded untyped_wrongRatios with ⟨found, hfound⟩ | ⟨r, hr, hmalformed, -⟩
  · cases hfound
  · exact ⟨r, hr, hmalformed⟩

end Sample

/-! ### A list of constants -/

namespace EnumBaseSample

/-- An enumeration. -/
def level : EnumEntry where
  typeName := "Level"
  values := [("INFO", "info")]

/-- A type with a list of polymorphic references to it. -/
def holder : Schema where
  typeName := "Holder"
  fields := [("items", { wireKey := "items", shape := .list (.polymorphic "Level") })]

/-- The registry of the two. -/
def registry : Registry where
  entries := [("Level", .enum level), ("Holder", .schema holder)]
  discriminators := [("Holder", "Holder")]

lemma isValid_registry : registry.IsValid where
  built := by
    have hall : Registry.registerAll {} [.enum level, .schema holder] = .ok registry := rfl
    exact Registry.Built.empty.registerAll (by decide) hall
  validated := by
    rw [Registry.validate_eq_ok_iff, show registry.schemas = [holder] from rfl]
    simp only [List.forall_mem_cons, List.not_mem_nil, false_implies, implies_true, and_true]
    exact ⟨rfl, _, rfl⟩

/-- A holder of one constant. -/
def payload : Json := .object [("items", .array [.string "INFO"])]

lemma untyped_payload : payload.Untyped :=
  Json.untyped_object_singleton (by decide) (Json.untyped_array_singleton (Json.untyped_string "INFO"))

/-- The registry is valid and the payload holds no discriminator, but decoding fails with a fault of
the set-up. -/
theorem decode_payload_fatal :
    registry.IsValid ∧ registry.lookup? "Holder" = some (.schema holder) ∧ payload.Untyped ∧
      decode registry payload (.named "Holder") = .error ⟨.setup (.notRecordType "Level"),
        [.wireField "Holder" "items" "items", .listIndex 0]⟩ :=
  ⟨isValid_registry, rfl, untyped_payload, rfl⟩

end EnumBaseSample

/-! ## Polymorphic references to enumerations -/

/-- A payload in which a shape reaches the type that it names. -/
def probe : Descriptor → Json
  | .list element => .array [probe element]
  | .map element => .object [("", probe element)]
  | _ => .bool true

lemma isNull_probe (shape : Descriptor) : (probe shape).isNull = false := by
  cases shape <;> rfl

lemma untyped_probe (shape : Descriptor) : (probe shape).Untyped := by
  induction shape with
  | list element ih => exact Json.untyped_array_singleton ih
  | map element ih => exact Json.untyped_object_singleton (by decide) ih
  | scalar _ | named _ | polymorphic _ => exact Json.untyped_bool true

/-- Decoding fails where a shape dispatches on an enumeration. -/
lemma decode_probe {base : String} {e : EnumEntry} (hshape : shape.Dispatches base)
    (he : reg.lookup? base = some (.enum e)) :
    ∃ r, decode reg (probe shape) shape = .error r ∧ r.failure = .setup (.notRecordType base) := by
  induction hshape with
  | polymorphic base =>
    refine ⟨⟨.setup (.notRecordType base), []⟩, ?_, rfl⟩
    rw [decode, plan, Registry.schema, he]
    rfl
  | @list element base hdispatches ih =>
    obtain ⟨r, hr, hfailure⟩ := ih he
    refine ⟨r.passing (.listIndex 0), ?_, hfailure⟩
    rw [probe, decode]
    simp only [Json.isNull, plan, decodeItems, hr]
    rfl
  | @map element base hdispatches ih =>
    obtain ⟨r, hr, hfailure⟩ := ih he
    refine ⟨r.passing (.mapKey ""), ?_, hfailure⟩
    rw [probe, decode]
    simp only [Json.isNull, plan, decodeEntries, hr]
    rfl

/-- An object without a discriminator is refused for the one field that is refused. -/
lemma decode_object_eq_error {members : List (String × Json)} {specs : List (String × FieldSpec)}
    {field : String × FieldSpec} (hs : reg.lookup? s.typeName = some (.schema s))
    (hnone : Members.get? members discriminatorKey = none)
    (hspecs : reg.resolvedFields s.typeName = .ok specs) (hfield : field ∈ specs)
    (h : decodeMember reg s.typeName field members = .error r)
    (hother : ∀ other ∈ specs, other ≠ field → ∃ found,
      decodeMember reg s.typeName other members = .ok found) :
    decode reg (.object members) (.named s.typeName) = .error r := by
  have hplan : plan reg (.object members) (.named s.typeName) = .ok (.record s) := by
    rw [plan_of_expects (.named hs), concreteSchema_of_get?_eq_none hnone, Result.map_ok, ite_self]
  rw [decode]
  simp only [Json.isNull, hplan, hspecs, gather_eq_error_of_mem hfield h hother]
  rfl

/-- Where wire keys are different, a field that dispatches on an enumeration makes the decoding of an
object with just that member fail with a fault of the set-up. -/
lemma exists_decode_of_dispatches (hreg : reg.IsValid) (hkeys : reg.DistinctWireKeys)
    (hs : reg.lookup? s.typeName = some (.schema s)) {field : String × FieldSpec}
    (hfield : field ∈ s.fields) {base : String} {e : EnumEntry}
    (hdispatches : field.2.shape.Dispatches base) (he : reg.lookup? base = some (.enum e)) :
    ∃ j r, Json.Untyped j ∧ decode reg j (.named s.typeName) = .error r ∧
      r.failure = .setup (.notRecordType base) := by
  obtain ⟨specs, hspecs⟩ := hreg.exists_resolvedFields hs
  have hmem := Registry.mem_resolvedFields_of_mem hreg.coherent hs hspecs hfield
  obtain ⟨hfresh, hnodup⟩ := List.nodup_cons.1 (nodup_wireKeys hreg hkeys hspecs)
  let members : List (String × Json) := [(field.2.wireKey, probe field.2.shape)]
  have hne : field.2.wireKey ≠ discriminatorKey := by
    intro heq
    exact hfresh (heq ▸ List.mem_map_of_mem hmem)
  have huntyped : (Json.object members).Untyped :=
    Json.untyped_object_singleton hne (untyped_probe _)
  have hnone : Members.get? members discriminatorKey = none := by
    rw [Members.get?_cons_of_ne hne, Members.get?_nil]
  obtain ⟨r, hr, hfailure⟩ := decode_probe hdispatches he
  have hrefused : decodeMember reg s.typeName field members =
      .error (r.passing (.wireField s.typeName field.1 field.2.wireKey)) := by
    rw [decodeMember_of_get?_eq_some (Members.get?_cons_self ..), isNull_probe, hr]
    rfl
  -- the other fields have other wire keys, and so no member
  have hother : ∀ other ∈ specs, other ≠ field → ∃ found,
      decodeMember reg s.typeName other members = .ok found := by
    intro other hmem' hdistinct
    have hkey : field.2.wireKey ≠ other.2.wireKey := fun heq =>
      hdistinct (List.inj_on_of_nodup_map hnodup hmem' hmem heq.symm)
    refine ⟨none, decodeMember_of_get?_eq_none ?_⟩
    rw [Members.get?_cons_of_ne hkey, Members.get?_nil]
  exact ⟨_, _, huntyped, decode_object_eq_error hs hnone hspecs hmem hrefused hother, hfailure⟩

/-- Where wire keys are different, payloads without discriminators are refused for their values only
exactly if the registry dispatches on schemas only. -/
theorem forall_isMalformed_iff (hreg : reg.IsValid) (hkeys : reg.DistinctWireKeys) :
    (∀ name entry (j : Json) r, reg.lookup? name = some entry → j.Untyped →
      decode reg j (.named name) = .error r → r.failure.isMalformed = true) ↔
    reg.DispatchesOnSchemas := by
  constructor
  · intro h s hmem field hfield base hdispatches e he
    have hs := hreg.coherent.mem_schemas_iff.1 hmem
    obtain ⟨j, r, huntyped, hdecode, hfailure⟩ :=
      exists_decode_of_dispatches hreg hkeys hs hfield hdispatches he
    have hmalformed := h _ _ j r hs huntyped hdecode
    rw [hfailure] at hmalformed
    cases hmalformed
  · intro hbases name entry j r hname huntyped hdecode
    rcases fault_of_decode hreg hbases (.named hname) hdecode with ⟨fault, hfault⟩ | hfault
    · rw [hfault]
      rfl
    · exact absurd hfault (not_discriminatorFault_of_untyped huntyped _)

end Payload

end CloudDirector
