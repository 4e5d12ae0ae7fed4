import CloudDirector.Typed.Builtin
import CloudDirector.Typed.Conversion

/-!
# Tasks

A task is an operation that goes on in the server after the call that started it.  It is known by
the address at which it can be asked for again and by the record that was read last, whose status
says whether it has ended and how.
-/

namespace CloudDirector

/-- The state of a task. -/
inductive TaskStatus where
  | queued
  | preRunning
  | running
  | success
  | error
  | canceled
  | aborted
  /-- A state that is not known. -/
  | unknown (text : String)
  deriving DecidableEq

namespace TaskStatus

/-- The states that are known. -/
def all : List TaskStatus := [queued, preRunning, running, success, error, canceled, aborted]

/-- The name of a state, or its text if it is not known. -/
def text : TaskStatus → String
  | queued => "Queued"
  | preRunning => "PreRunning"
  | running => "Running"
  | success => "Success"
  | error => "Error"
  | canceled => "Canceled"
  | aborted => "Aborted"
  | unknown text => text

/-- A state, with its text quoted if it is not known. -/
def outline : TaskStatus → String
  | unknown text => "Unknown(" ++ Text.quoted text ++ ")"
  | s => s.text

/-- Whether a task in the state has ended. -/
def isTerminal : TaskStatus → Bool
  | success | error | canceled | aborted => true
  | _ => false

/-- Whether a task in the state has ended without success. -/
def isFailed : TaskStatus → Bool
  | error | canceled | aborted => true
  | _ => false

/-- The state of a constant. -/
def ofConstant? : EnumConstant → Option TaskStatus
  | .known name => all.find? fun s => s.text == name
  | .unknown text => some (unknown text)

/-- The state that the text of the wire stands for. -/
def ofWire (text : String) : TaskStatus :=
  ((Builtin.taskStatus.entry.constant? text).bind fun name => ofConstant? (.known name)).getD
    (unknown text)

/-- The state that a value stands for. -/
def ofValue? : Value → Option TaskStatus
  | .enum e => ofConstant? e.constant
  | .string text => some (ofWire text)
  | _ => none

end TaskStatus

namespace Typed

/-- A member of a value of a model, which may be optional. -/
def member? : Typed → String → Option Typed
  | model _ members, identifier => Members.get? members identifier
  | .some t, identifier => member? t identifier
  | _, _ => Option.none

/-- The text of a value, which may be optional. -/
def text? : Typed → Option String
  | text s => Option.some s
  | .some t => text? t
  | _ => Option.none

end Typed

/-- A task: where it can be asked for again, and what was read last. -/
structure Task where
  href : String
  record : Record

namespace Task

/-- The task of a record that says where it can be asked for again. -/
def ofRecord? (record : Record) : Option Task :=
  (record.string? "href").map fun href => ⟨href, record⟩

/-- The state of a task, if it says so. -/
def status? (t : Task) : Option TaskStatus := (t.record.get? "status").bind TaskStatus.ofValue?

/-- The record of a task as a value of the declared model. -/
def typed (t : Task) : Result Typed := Builtin.task.ofRecord Builtin.models t.record

/-- Whether a task has ended. -/
def isTerminal (t : Task) : Bool := t.status?.any TaskStatus.isTerminal

/-- The message of the error that a task has ended with. -/
def errorMessage? (t : Task) : Option String :=
  match t.typed with
  | .ok typed => ((typed.member? "error").bind fun e => e.member? "message").bind Typed.text?
  | .error _ => none

/-- The task itself, unless it has failed. -/
def result (t : Task) : Result Task :=
  match t.status? with
  | none => .ok t
  | some status =>
    if status.isFailed then
      let details := t.errorMessage?.getD s!"task ended with status {status.text}"
      (Result.fail (.transport "complete task" details)).passing (.task t.href)
    else .ok t

end Task

end CloudDirector
