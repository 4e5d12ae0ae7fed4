import CloudDirector.Json.Basic
import CloudDirector.Number.Numeral

/-!
# JSON text

The compact text of a value: no blanks, members in order, and inside a string only the quote, the
backslash and the control characters escaped.
-/

namespace CloudDirector.Json

/-- The digits of a control character's number. -/
def controlDigits (n : Nat) : List Char :=
  ['0', '0', Nat.digitChar (n / 16), Nat.digitChar (n % 16)]

/-- One character of a string. -/
def escaped (c : Char) : List Char :=
  match c with
  | '"' => ['\\', '"']
  | '\\' => ['\\', '\\']
  | '\n' => ['\\', 'n']
  | '\r' => ['\\', 'r']
  | '\t' => ['\\', 't']
  | '\x08' => ['\\', 'b']
  | '\x0c' => ['\\', 'f']
  | _ => if c.toNat < 0x20 then '\\' :: 'u' :: controlDigits c.toNat else [c]

/-- The text of a string with its quotes. -/
def renderString (s : String) : String := .ofList ('"' :: s.toList.flatMap escaped ++ ['"'])

/-- The text of a number. -/
def Number.render : Number → String
  | integer i => toString i.val
  | float negative m => (Binary64.finite negative m).render .wire

mutual

/-- The text of a value. -/
def render : Json → String
  | null => "null"
  | bool true => "true"
  | bool false => "false"
  | number n => n.render
  | string s => renderString s
  | array items => "[" ++ renderItems items ++ "]"
  | object members => "\x7b" ++ renderMembers members ++ "\x7d"

/-- The items of an array, separated by commas. -/
def renderItems : List Json → String
  | [] => ""
  | [item] => render item
  | item :: rest => render item ++ "," ++ renderItems rest

/-- The members of an object, separated by commas. -/
def renderMembers : List (String × Json) → String
  | [] => ""
  | [(key, value)] => renderString key ++ ":" ++ render value
  | (key, value) :: rest =>
    renderString key ++ ":" ++ render value ++ "," ++ renderMembers rest

end

end CloudDirector.Json
