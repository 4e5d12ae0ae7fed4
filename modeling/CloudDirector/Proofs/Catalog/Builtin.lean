import CloudDirector.Proofs.Payload.Records
import CloudDirector.Shape.Expression
import CloudDirector.Typed.Builtin

/-!
# The registry of the built-in models

What is registered for links, for tasks and for the resources that tasks may be running for.  The
registry is a closed term, so that all of this is read off by evaluating it; what the replies of a
server become rests on these facts only.
-/

namespace CloudDirector.Builtin

variable {specs : List (String × FieldSpec)}

/-- Each model is registered with its schema. -/
lemma lookup?_schema : ∀ m ∈ models.models,
    registry.lookup? (m.schema models).typeName = some (.schema (m.schema models)) := by
  decide +kernel

/-- Every schema names registered types only, and its fields have wire keys of their own. -/
lemma schemas_cases : ∀ s ∈ registry.schemas, s.unresolved registry = [] ∧
    (registry.resolvedFields s.typeName).toOption.any (fun specs =>
      decide (discriminatorKey :: specs.map fun field => field.2.wireKey).Nodup) = true := by
  decide +kernel

lemma isValid_registry : registry.IsValid where
  built := by
    have hall : Registry.registerAll {} entries = .ok registry := rfl
    exact Registry.Built.empty.registerAll (by decide +kernel) hall
  validated := by
    refine Registry.validate_eq_ok_iff.2 fun s hs => ?_
    obtain ⟨hresolves, hfields⟩ := schemas_cases s hs
    obtain ⟨specs, hspecs, -⟩ := Result.exists_of_any_toOption hfields
    exact ⟨hresolves, specs, hspecs⟩

/-- What has been evaluated for the fields of a type holds of them. -/
lemma holds_of_any {typeName : String} {p : List (String × FieldSpec) → Bool}
    (hcheck : (registry.resolvedFields typeName).toOption.any p = true)
    (h : registry.resolvedFields typeName = .ok specs) : p specs = true := by
  rwa [h] at hcheck

lemma distinctWireKeys_registry : registry.DistinctWireKeys := fun s hs _ hspecs =>
  of_decide_eq_true (holds_of_any (schemas_cases s hs).2 hspecs)

/-- Where a model that is not dispatched on is named, an object is decoded field by field into a
record of it. -/
lemma exists_record_of_decode (m : Model) (hm : m ∈ models.models)
    (hflag : (m.schema models).polymorphic = false) {typeName : String} {j : Json} {v : Value}
    (h : Payload.decode registry j (.named typeName) = .ok (some v))
    (hname : (m.schema models).typeName = typeName) :
    ∃ members specs fields, registry.resolvedFields typeName = .ok specs ∧
      gather (fun field => Payload.decodeMember registry typeName field members) specs =
        .ok fields ∧
      j = .object members ∧ v = .record typeName fields := by
  subst hname
  obtain ⟨t, members, specs, fields, ht, h⟩ :=
    Payload.exists_record_of_decode (lookup?_schema m hm) h
  rw [hflag] at ht
  obtain rfl : t = m.schema models := ht
  exact ⟨members, specs, fields, h⟩

/-! ## Links and tasks -/

/-- The members that the fields of a link are read from. -/
def linkKeys : List String := ["href", "rel", "type", "name", "id", "model"]

/-- The field for the address at which a task can be asked for again. -/
def hrefField : String × FieldSpec :=
  ("href", { wireKey := "href", shape := .scalar .string })

/-- The field for the list of the tasks that are running. -/
def taskField : String × FieldSpec :=
  ("task", { wireKey := "task", shape := .list (.named "Task") })

lemma fields_cases :
    (registry.resolvedFields "Link").toOption.any (fun specs =>
      decide ((∀ field ∈ specs, field.2.shape = .scalar .string ∧ field.2.nullable = false) ∧
        specs.map (fun field => field.2.wireKey) = linkKeys)) = true ∧
    (registry.resolvedFields "Task").toOption.any
      (fun specs => decide (hrefField ∈ specs)) = true ∧
    (registry.resolvedFields "TasksInProgress").toOption.any
      (fun specs => decide (taskField ∈ specs)) = true := by
  decide +kernel

/-- The fields of a link are texts. -/
lemma fields_link (h : registry.resolvedFields "Link" = .ok specs) :
    (∀ field ∈ specs, field.2.shape = .scalar .string ∧ field.2.nullable = false) ∧
      specs.map (fun field => field.2.wireKey) = linkKeys :=
  of_decide_eq_true (holds_of_any fields_cases.1 h)

lemma mem_fields_task (h : registry.resolvedFields "Task" = .ok specs) : hrefField ∈ specs :=
  of_decide_eq_true (holds_of_any fields_cases.2.1 h)

lemma mem_fields_tasksInProgress (h : registry.resolvedFields "TasksInProgress" = .ok specs) :
    taskField ∈ specs :=
  of_decide_eq_true (holds_of_any fields_cases.2.2 h)

/-! ## Resources -/

/-- The types of the resources that tasks may be running for. -/
def hosts : List String := ["Entity", "Org", "AdminOrg"]

/-- The field for the links of a resource. -/
def linkField : String × FieldSpec :=
  ("link", { wireKey := "link", shape := .list (.named "Link") })

/-- The field for the tasks that are running for a resource. -/
def tasksField : String × FieldSpec :=
  ("tasks", { wireKey := "tasks", shape := .named "TasksInProgress" })

lemma hosts_cases : ∀ host ∈ hosts, registry.isRegistered host = true ∧
    registry.isDescendant host "Task" = false ∧
    (registry.resolvedFields host).toOption.any (fun specs =>
      decide (linkField ∈ specs ∧ tasksField ∈ specs)) = true := by
  decide +kernel

lemma mem_fields_host {host : String} (hhost : host ∈ hosts)
    (h : registry.resolvedFields host = .ok specs) : linkField ∈ specs ∧ tasksField ∈ specs := by
  obtain ⟨-, -, hcheck⟩ := hosts_cases host hhost
  exact of_decide_eq_true (holds_of_any hcheck h)

lemma parse_host : ∀ host ∈ hosts, Expression.parse host = .ok (.decode (.named host)) := by
  intro host hhost
  simp only [hosts, List.mem_cons, List.not_mem_nil, or_false] at hhost
  rcases hhost with rfl | rfl | rfl <;> rfl

/-- Entries have their own names; of the discriminators, one selects a task, and those that may
stand for an organization select types of resources. -/
lemma discriminators_cases : (∀ e ∈ registry.entries, e.2.typeName = e.1) ∧
    ∀ m ∈ registry.discriminators, (registry.isDescendant m.2 "Task" = true → m.1 = "Task") ∧
      (registry.isDescendant m.2 "Org" = true → m.2 ∈ hosts) := by
  decide +kernel

lemma typeName_of_lookup? {name : String} {s : Schema}
    (h : registry.lookup? name = some (.schema s)) : s.typeName = name := by
  rw [Registry.lookup?] at h
  exact discriminators_cases.1 _ (Members.mem_of_get?_eq_some h)

end CloudDirector.Builtin
