import CloudDirector.Log.Level

/-!
# Notices

What the client tells about its work while it goes on.
-/

namespace CloudDirector

/-- A notice. -/
inductive Notice where
  | levelSet
  | unverifiedServer
  | unmappedText
  | narrowedType
  | undeclaredMember
  | dispatching
  | unsuccessful
  | badLinks
  | badTask
  | kept
  | followingLocation
  | completed
  | polled
  deriving DecidableEq

namespace Notice

/-- How detailed a notice is. -/
def level : Notice → LogLevel
  | levelSet => .info
  | unverifiedServer => .warn
  | unmappedText => .debug
  | narrowedType => .trace
  | undeclaredMember => .trace
  | dispatching => .debug
  | unsuccessful => .warn
  | badLinks => .warn
  | badTask => .warn
  | kept => .debug
  | followingLocation => .debug
  | completed => .debug
  | polled => .debug

/-- The wording of a notice. -/
def message : Notice → String
  | levelSet => "Tracing level set"
  | unverifiedServer => "TLS certificate verification is disabled"
  | unmappedText => "Unmapped enum value kept as unknown"
  | narrowedType => "Resolved polymorphic record"
  | undeclaredMember => "Ignoring undeclared wire key"
  | dispatching => "Dispatching call"
  | unsuccessful => "Call returned non-success status"
  | badLinks => "Ignoring malformed Link header"
  | badTask => "Ignoring undecodable task in response body"
  | kept => "Persisted download"
  | followingLocation => "Following Location header to task"
  | completed => "Call complete"
  | polled => "Polled task"

end Notice

end CloudDirector
