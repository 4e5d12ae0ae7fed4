import CloudDirector.Failure
import CloudDirector.Json.Basic
import CloudDirector.Number.Unsigned
import CloudDirector.Text.Blank
import CloudDirector.Text.Split

/-!
# Versions of the API

A version is a major and a minor number, written with a point between them.  A version that is
read may leave out the minor number, and may have signs and zeros in front that are not written
again.
-/

namespace CloudDirector

/-- A version of the API, none that is too old. -/
structure ApiVersion where
  major : Nat
  minor : Nat
  supported : oldestMajor ≤ major
  major_lt : major < Unsigned.limit32
  minor_lt : minor < Unsigned.limit32
  deriving DecidableEq

namespace ApiVersion

/-- The version that is spoken unless another one is set. -/
def standard : ApiVersion where
  major := 36
  minor := 0
  supported := by decide
  major_lt := by decide
  minor_lt := by decide

instance : Inhabited ApiVersion := ⟨standard⟩

/-- The text of a version. -/
def render (v : ApiVersion) : String := s!"{v.major}.{v.minor}"

/-- The major number that the text of a version tells: the number in front of the first point, zero
if there is none. -/
def majorOf (text : String) : Nat :=
  (Unsigned.ofChars? Unsigned.limit32 (Text.splitFirst '.' text.toList).1).getD 0

/-- The version that the characters of a text spell. -/
def parseChars (cs : List Char) : Except SetupFault ApiVersion :=
  let (major, minor) := Text.splitFirst '.' cs
  match hmajor : Unsigned.ofChars? Unsigned.limit32 major,
      hminor : Unsigned.ofChars? Unsigned.limit32 (minor.getD ['0']) with
  | some major, some minor =>
    if h : oldestMajor ≤ major then
      .ok ⟨major, minor, h, Unsigned.lt_of_ofChars? hmajor, Unsigned.lt_of_ofChars? hminor⟩
    else .error (.oldVersion (.ofList cs))
  | _, _ => .error (.badVersion (.ofList cs))

/-- The version that a text spells, blanks around it aside. -/
def parse (s : String) : Except SetupFault ApiVersion := parseChars (Text.trim s.toList)

/-- The version that a text spells. -/
def ofString (s : String) : Result ApiVersion :=
  match parse s with
  | .ok v => .ok v
  | .error fault => .failSetup fault

end ApiVersion

end CloudDirector
