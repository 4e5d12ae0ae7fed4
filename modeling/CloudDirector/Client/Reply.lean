import CloudDirector.Failure
import CloudDirector.Json.Parser
import CloudDirector.Text.Utf8
import CloudDirector.Web.Header
import CloudDirector.Web.Status

/-!
# Replies

What arrives from a server: a reply of any status, or nothing.
-/

namespace CloudDirector

/-- A reply as it arrives. -/
structure Reply where
  status : Nat := 200
  headers : Web.Headers := []
  body : List UInt8 := []

namespace Reply

/-- Whether a reply says that the request succeeded. -/
def isSuccess (r : Reply) : Bool := Web.isSuccess r.status

/-- Whether a body holds nothing but blanks. -/
def isBodyEmpty (r : Reply) : Bool :=
  r.body.all fun b => b == 32 || b == 9 || b == 10 || b == 12 || b == 13

/-- The JSON that a body spells. -/
def json? (r : Reply) : Option Json := (Text.ofBytes? r.body).bind Json.ofString?

end Reply

/-- What comes of a request. -/
inductive Arrival where
  | reply (r : Reply)
  /-- Nothing arrives, as the report says. -/
  | failure (r : Report)

end CloudDirector
