import CloudDirector.Catalog.Validation
import CloudDirector.Typed.Model

/-!
# The models that the client itself reads

Links, tasks and error bodies, with the resources that they are part of.  They are registered in
every registry unless it is built from nothing.
-/

namespace CloudDirector.Builtin

/-- A member that is an optional text. -/
def optionalText (identifier : String) (wire : Option String := none) : Member FieldType Model :=
  .field { identifier, type := .optional .text, wire }

/-- A member of a type. -/
def member (identifier : String) (type : FieldType) (wire : Option String := none) :
    Member FieldType Model :=
  .field { identifier, type, wire }

/-- A link to a related resource or action. -/
def link : Model := .mk { name := "Link" } [
  member "href" .text,
  optionalText "rel",
  optionalText "media_type" "type",
  optionalText "name",
  optionalText "id",
  optionalText "model"]

/-- A reference to another entity. -/
def reference : Model := .mk { name := "Reference" } [
  member "href" .text,
  optionalText "id",
  optionalText "media_type" "type",
  optionalText "name"]

/-- What every addressable resource has. -/
def resource : Model := .mk { name := "Resource" } [
  optionalText "href",
  optionalText "media_type" "type",
  member "link" (.list (.model "Link"))]

/-- A named resource, which tasks may be running for. -/
def entity : Model := .mk { name := "Entity" } [
  .parent "resource" resource,
  optionalText "name",
  optionalText "description",
  optionalText "id",
  optionalText "operation_key",
  member "tasks" (.optional (.model "TasksInProgress"))]

/-- An organization. -/
def org : Model := .mk { name := "Org", polymorphic := true } [
  .parent "entity" entity,
  optionalText "full_name"]

/-- An organization as administrators see it. -/
def adminOrg : Model :=
  .mk { name := "AdminOrg", mediaType := "application/vnd.vmware.admin.organization+json" } [
    .parent "org" org,
    member "enabled" (.optional .flag) "isEnabled"]

/-- The states of a task. -/
def taskStatus : EnumDecl where
  name := "TaskStatus"
  variants := [⟨"Queued", none⟩, ⟨"PreRunning", none⟩, ⟨"Running", none⟩, ⟨"Success", none⟩,
    ⟨"Error", none⟩, ⟨"Canceled", none⟩, ⟨"Aborted", none⟩]
  unknown := "Unknown"

/-- An operation that goes on in the server. -/
def task : Model :=
  .mk { name := "Task", mediaType := "application/vnd.vmware.vcloud.task+json" } [
    .parent "entity" entity,
    member "status" (.optional (.enum "TaskStatus")),
    optionalText "operation",
    optionalText "operation_name",
    member "start_time" (.optional .dateTime),
    member "end_time" (.optional .dateTime),
    member "expiry_time" (.optional .dateTime),
    member "progress" (.optional .int32),
    member "cancel_requested" (.optional .flag),
    optionalText "details",
    member "owner" (.optional (.model "Reference")),
    member "user" (.optional (.model "Reference")),
    member "organization" (.optional (.model "Reference")),
    member "error" (.optional (.model "Error"))]

/-- The tasks that are running for an entity. -/
def tasksInProgress : Model := .mk { name := "TasksInProgress" } [
  member "task" (.list (.model "Task"))]

/-- The owner of an entity. -/
def owner : Model := .mk { name := "Owner" } [
  .parent "resource" resource,
  member "user" (.optional (.model "Reference"))]

/-- The body of an unsuccessful response. -/
def error : Model := .mk { name := "Error" } [
  optionalText "message",
  member "major_error_code" (.optional .int32),
  optionalText "minor_error_code",
  optionalText "stack_trace",
  optionalText "vendor_specific_error_code"]

/-- The declarations of this module. -/
def models : Models where
  models := [link, reference, resource, entity, org, adminOrg, task, tasksInProgress, owner, error]
  enums := [taskStatus]

/-- What is registered for the declarations of this module. -/
def entries : List Entry :=
  models.enums.map (fun e => .enum e.entry) ++ models.models.map fun m => .schema (m.schema models)

/-- The registry of the declarations of this module. -/
def registry : Registry :=
  match Registry.registerAll {} entries with
  | .ok reg => reg
  | .error _ => {}

end CloudDirector.Builtin
