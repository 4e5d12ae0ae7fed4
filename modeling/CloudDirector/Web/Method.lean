import CloudDirector.Text.Blank

/-!
# Methods of requests
-/

namespace CloudDirector.Web

/-- What a request does to the resource that it addresses. -/
inductive Method where
  | get | post | put | patch | delete
  deriving DecidableEq, Repr

namespace Method

/-- The name on the wire. -/
def name : Method → String
  | get => "GET"
  | post => "POST"
  | put => "PUT"
  | patch => "PATCH"
  | delete => "DELETE"

/-- All methods. -/
def all : List Method := [get, post, put, patch, delete]

/-- The method of a name in any case of letters. -/
def ofString? (s : String) : Option Method := all.find? fun m => Text.sameLetters s m.name

end Method

end CloudDirector.Web
