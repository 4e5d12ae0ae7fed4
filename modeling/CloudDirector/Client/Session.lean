import CloudDirector.Failure
import CloudDirector.Web.Header

/-!
# Sessions

The credential of a session goes with every request.  It is not shown in the outline of a session.
-/

namespace CloudDirector

/-- The credential of a session. -/
inductive Session where
  | bearer (token : String)
  /-- The credential of the older scheme. -/
  | legacy (token : String)
  deriving DecidableEq

namespace Session

/-- The header that carries a credential. -/
def header : Session → String × String
  | bearer token => ("authorization", "Bearer " ++ token)
  | legacy token => ("x-vcloud-authorization", token)

/-- Sets the header of a credential. -/
def apply (s : Session) (headers : Web.Headers) : Result Web.Headers :=
  let (name, value) := s.header
  if Web.isHeaderValue value then .ok (headers.set name value) else .failSetup .badToken

/-- A session without its token. -/
def outline : Session → String
  | bearer _ => "Session::Bearer(..)"
  | legacy _ => "Session::VcloudToken(..)"

end Session

end CloudDirector
