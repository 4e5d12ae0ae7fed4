import CloudDirector.Client.Download
import CloudDirector.Navigation.Link
import CloudDirector.Tasks.Task
import CloudDirector.Web.Header
import CloudDirector.Web.Status

/-!
# Envelopes

All that one call has led to: the status, the headers and what the body became, with the links and
the task that were found in them.
-/

namespace CloudDirector

/-- What the body of a reply became. -/
inductive Output where
  /-- The value that was asked for. -/
  | decoded (value : Value)
  /-- JSON as it is, or a body that is not JSON as a text. -/
  | raw (json : Json)
  | file (download : Download)
  /-- There is no body, or it is null. -/
  | nothing

/-- All that one call has led to. -/
structure Envelope where
  status : Nat
  headers : Web.Headers := []
  links : List Link := []
  task : Option Task := none
  output : Output := .nothing

namespace Output

/-- The decoded value. -/
def decoded? : Output → Option Value
  | decoded value => some value
  | _ => none

/-- The JSON as it is. -/
def raw? : Output → Option Json
  | raw json => some json
  | _ => none

/-- The file. -/
def file? : Output → Option Download
  | file download => some download
  | _ => none

end Output

namespace Envelope

/-- Whether the status says that the call succeeded. -/
def isSuccess (e : Envelope) : Bool := Web.isSuccess e.status

/-- The decoded record. -/
def record? (e : Envelope) : Option Record := e.output.decoded?.bind Value.record?

/-- The decoded value as one of a declared type. -/
def decode (e : Envelope) (ms : Models) (type : FieldType) : Result Typed :=
  match e.output with
  | .decoded value => (Typed.ofValue ms value type).passing (.httpStatus e.status)
  | .nothing =>
    match type.absent? with
    | some t => .ok t
    | none => (Result.failValue (.missing "response body")).passing (.httpStatus e.status)
  | .raw _ | .file _ => .failValue .undecodedBody

/-- The text or the numeral in a member of the body. -/
def bodyText? (e : Envelope) (key : String) : Option String :=
  match e.output.raw?.bind fun json => json.member? key with
  | some (.string s) => some s
  | some (.number n) => some n.render
  | _ => none

/-- What the server says about a call that did not succeed, or the customary phrase of the status.
-/
def statusMessage (e : Envelope) : String :=
  match e.bodyText? "message", e.output.raw?.bind Json.string? with
  | some message, _ => message
  | none, some text => text
  | none, none => (Web.statusPhrase? e.status).getD "Unknown error"

/-- A failure that passes a place if there is a text to name it by. -/
def passingCode {α : Type} (result : Result α) (place : String → Place) : Option String → Result α
  | some text => result.passing (place text)
  | none => result

/-- The envelope of a call that succeeded; any other call is a failure with what the server says. -/
def checked (e : Envelope) : Result Envelope :=
  if e.isSuccess then .ok e
  else
    let failure : Result Envelope := .fail (.status e.status e.statusMessage)
    let failure := passingCode failure .majorCode (e.bodyText? "majorErrorCode")
    passingCode failure .minorCode (e.bodyText? "minorErrorCode")

end Envelope

end CloudDirector
