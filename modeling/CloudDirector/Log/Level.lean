import CloudDirector.Failure
import CloudDirector.Text.Blank

/-!
# Levels of logging

Notices have a level, and those that are more detailed than the level in force are held back.  So
are all notices of the parts that keep connections.
-/

namespace CloudDirector

/-- How detailed a notice is. -/
inductive LogLevel where
  | error | warn | info | debug | trace
  deriving DecidableEq, Repr

namespace LogLevel

/-- The level in force until another one is set. -/
def standard : LogLevel := warn

/-- The place of a level, the most detailed last. -/
def rank : LogLevel → Nat
  | error => 0
  | warn => 1
  | info => 2
  | debug => 3
  | trace => 4

/-- The name of a level. -/
def name : LogLevel → String
  | error => "error"
  | warn => "warn"
  | info => "info"
  | debug => "debug"
  | trace => "trace"

/-- All levels. -/
def all : List LogLevel := [error, warn, info, debug, trace]

/-- The level of a name in any case of letters, blanks around it aside. -/
def parse (text : String) : Result LogLevel :=
  match all.find? fun l => Text.sameLetters (Text.trimmed text) l.name with
  | some l => .ok l
  | none => .failSetup (.badLevel text)

/-- Whether notices of a level pass while another one is in force. -/
def passes (l threshold : LogLevel) : Bool := l.rank ≤ threshold.rank

end LogLevel

/-- The beginnings of the names of parts whose notices are held back at every level. -/
def quietParts : List String := ["reqwest::", "hyper", "h2::", "rustls::", "want::"]

/-- Whether a notice of a part passes while a level is in force. -/
def isLogged (threshold : LogLevel) (part : String) (l : LogLevel) : Bool :=
  !(quietParts.any fun start => start.toList.isPrefixOf part.toList) && l.passes threshold

end CloudDirector
