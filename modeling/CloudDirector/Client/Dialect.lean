import CloudDirector.Client.Version
import CloudDirector.Web.Url

/-!
# Dialects

A server has two interfaces.  The first step `api` or `cloudapi` in the path of an address says
which of them is addressed, and with it how messages travel.
-/

namespace CloudDirector

/-- The two interfaces of a server. -/
inductive Dialect where
  | api
  | cloudApi
  deriving DecidableEq, Repr

namespace Dialect

/-- The name of a dialect. -/
def name : Dialect → String
  | api => "api"
  | cloudApi => "cloudapi"

/-- The dialect of a step of a path. -/
def ofStep? (step : List Char) : Option Dialect :=
  if step = "api".toList then some api
  else if step = "cloudapi".toList then some cloudApi
  else none

/-- The dialect of an address. -/
def ofUrl (url : Web.Url) : Result Dialect :=
  match (url.path.steps?.getD []).findSome? ofStep? with
  | some dialect => .ok dialect
  | none => .failSetup (.noDialect url.render)

/-- The media type that bodies have unless another one is set. -/
def mediaType : Dialect → String
  | api => "application/*+json"
  | cloudApi => "application/json"

end Dialect

/-- A media type with the version of the API. -/
def ApiVersion.ofMediaType (version : ApiVersion) (mediaType : String) : String :=
  s!"{mediaType};version={version.render}"

/-- The address that a text spells. -/
def readAddress (text : String) : Result Web.Url :=
  match Web.Url.parse text with
  | .ok url => .ok url
  | .error fault => .failSetup (.badAddress text fault.message)

/-- What is accepted in the dialect. -/
def Dialect.accept (dialect : Dialect) (version : ApiVersion) : String :=
  version.ofMediaType dialect.mediaType

end CloudDirector
