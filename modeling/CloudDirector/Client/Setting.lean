import CloudDirector.Client.Version
import CloudDirector.Number.Numeral
import CloudDirector.Text.Quoted

/-!
# Settings in JSON

Settings may be given as JSON.  A value of the wrong kind is refused with a message that says what
was found and what was expected.  A version may be given as a text or as a number; a number with a
fraction must have one digit after the point, since `36.10` and `36.1` would be the same number.
-/

namespace CloudDirector

/-- Why a setting is refused. -/
inductive SettingFault where
  | wrongType (found : Json) (expected : String)
  | wrongValue (found : Json) (expected : String)
  | tooMany (count : Nat)
  | setup (fault : SetupFault)

namespace SettingFault

/-- A value as messages describe it. -/
def describe : Json → String
  | .null => "null"
  | .bool b => s!"boolean `{b}`"
  | .number (.integer i) => s!"integer `{i.val}`"
  | .number (.float negative m) =>
    s!"floating point `{(Binary64.finite negative m).render .wire}`"
  | .string s => "string " ++ Text.quoted s
  | .array _ => "sequence"
  | .object _ => "map"

/-- The wording of a fault. -/
def message : SettingFault → String
  | wrongType found expected => s!"invalid type: {describe found}, expected {expected}"
  | wrongValue found expected => s!"invalid value: {describe found}, expected {expected}"
  | tooMany count => s!"invalid length {count}, expected fewer elements in array"
  | setup fault => fault.message

end SettingFault

/-- The text of a number with one digit after the point, if that digit is enough to tell the
number. -/
def Binary64.tenths? (negative : Bool) (m : Magnitude) : Option (List Char) :=
  let tenths := divNearest (m.scaled * 10) Magnitude.unit
  if ofRatio negative tenths 10 = finite negative m then
    some ((if negative then ['-'] else []) ++ Nat.toDigits 10 (tenths / 10) ++
      '.' :: Nat.toDigits 10 (tenths % 10))
  else none

namespace ApiVersion

/-- What a version is given as. -/
def expected : String := "an API version as a number or a major.minor string"

/-- The version that a text spells, as a setting. -/
def ofSetting (cs : List Char) : Except SettingFault ApiVersion :=
  match parseChars cs with
  | .ok v => .ok v
  | .error fault => .error (.setup fault)

/-- The version that a JSON value gives. -/
def ofJson (j : Json) : Except SettingFault ApiVersion :=
  match j with
  | .string s => ofSetting (Text.trim s.toList)
  | .number (.integer i) => ofSetting (toString i.val).toList
  | .number (.float negative m) =>
    match Binary64.tenths? negative m with
    | some cs => ofSetting cs
    | none => .error (.wrongValue j expected)
  | _ => .error (.wrongType j expected)

end ApiVersion

end CloudDirector
