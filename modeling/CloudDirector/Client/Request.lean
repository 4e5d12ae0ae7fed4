import CloudDirector.Client.Query
import CloudDirector.Members
import CloudDirector.Value.Basic
import CloudDirector.Web.Method

/-!
# Requests

What a caller asks for, before anything of it has been checked.
-/

namespace CloudDirector

/-- A request of a caller. -/
structure CallRequest where
  method : Web.Method
  address : String
  body : Option Value := none
  /-- The media type of the body, if it is not the usual one. -/
  mediaType : Option String := none
  /-- Pairs for the query of the address. -/
  query : List (String × String) := []
  /-- The expression of what the response is to become. -/
  expects : Option String := none

namespace CallRequest

/-- Asks for a resource as something. -/
def get (address expects : String) : CallRequest :=
  { method := .get, address, expects := some expects }

/-- Sends a record as a new resource. -/
def post (address : String) (record : Record) (expects : String) : CallRequest :=
  { method := .post, address, body := some (.ofRecord record), expects := some expects }

/-- Sends a record in the place of a resource. -/
def put (address : String) (record : Record) (expects : String) : CallRequest :=
  { method := .put, address, body := some (.ofRecord record), expects := some expects }

/-- Removes a resource. -/
def delete (address : String) : CallRequest := { method := .delete, address }

/-- Adds pairs to the query, in the place of those with their keys. -/
def withQuery (r : CallRequest) (pairs : List (String × String)) : CallRequest :=
  { r with query := Members.update r.query pairs }

/-- Adds the pairs of a query of a list. -/
def withListQuery (r : CallRequest) (q : ListQuery) : CallRequest := r.withQuery q.pairs

end CallRequest

end CloudDirector
