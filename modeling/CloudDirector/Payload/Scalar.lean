import CloudDirector.Catalog.Schema
import CloudDirector.Value.Basic

/-!
# Scalars and constants on the wire

Dates travel as ISO 8601 texts, bytes in base 64, and constants of enumerations as their mapped
texts.  Decoding is strict: a value that is not of the declared kind is refused and never replaced
by a default.
-/

namespace CloudDirector.Payload

/-- A date and time read from a text. -/
def decodeDateTime (text : String) : Result DateTime :=
  match DateTime.ofString? text with
  | some t => .ok t
  | none => .failValue (.badDateTime (Text.trimmed text))

/-- A date read from a text that spells it alone or with a time. -/
def decodeDate (text : String) : Result Date :=
  match Date.ofString? text with
  | some d => .ok d
  | none => .failValue (.badDate (Text.trimmed text))

/-- A floating point number as JSON, if it is finite. -/
def encodeFloat (x : Binary64) : Result Json :=
  match Json.Number.ofBinary64? x with
  | some n => .ok (.number n)
  | none => .failValue (.notFinite x)

/-- A value as a scalar of a kind. -/
def encodeScalar (value : Value) (kind : Kind) : Result Json :=
  match kind, value with
  | _, .null => .ok .null
  | .json, .json j => .ok j
  | .int, .int i | .json, .int i | .float, .int i => .ok (.int i)
  | .float, .float x | .json, .float x => encodeFloat x
  | .bool, .bool b | .json, .bool b => .ok (.bool b)
  | .string, .string s | .json, .string s => .ok (.string s)
  | .bytes, .bytes bytes | .json, .bytes bytes => .ok (.string (.ofList (Base64.encode bytes)))
  | .date, .date d | .json, .date d => .ok (.string d.render)
  | .dateTime, .dateTime t | .json, .dateTime t => .ok (.string t.render)
  | .date, .string s => (decodeDate s).map fun _ => .string s
  | .dateTime, .string s => (decodeDateTime s).map fun _ => .string s
  | kind, value => .failValue (.notEncodable kind value.kindName)

/-- A part of a JSON value that a kind of scalar asks for. -/
def require {α : Type} (kind : Kind) (j : Json) : Option α → Result α
  | some a => .ok a
  | none => .failValue (.wrongJson kind j.kindName)

/-- The bytes of a text in base 64. -/
def decodeBytes (text : String) : Result (List UInt8) :=
  match Base64.decode text.toUTF8.toList with
  | .ok bytes => .ok bytes
  | .error fault => .failValue (.badBytes fault)

/-- A scalar of a kind as a value. -/
def decodeScalar (j : Json) (kind : Kind) : Result Value :=
  match kind with
  | .int => (require kind j j.int64?).map .int
  | .float => (require kind j j.binary64?).map .float
  | .bool => (require kind j j.bool?).map .bool
  | .string => (require kind j j.string?).map .string
  | .bytes => do return .bytes (← decodeBytes (← require kind j j.string?))
  | .date => do return .date (← decodeDate (← require kind j j.string?))
  | .dateTime => do return .dateTime (← decodeDateTime (← require kind j j.string?))
  | .json => .ok (.json j)

/-- A constant as the text that it is mapped from; a text that is not mapped stays as it is. -/
def encodeEnum (value : EnumValue) (entry : EnumEntry) : Result Json :=
  match value.constant with
  | .known constant =>
    match entry.text? constant with
    | some text => .ok (.string text)
    | none => .failValue (.unmappedConstant entry.typeName constant)
  | .unknown text => .ok (.string text)

/-- The constant of a text; one that is not mapped is kept. -/
def decodeEnum (j : Json) (entry : EnumEntry) : Result EnumValue :=
  match j.string? with
  | none => .failValue (.notEnumText entry.typeName j.kindName)
  | some text =>
    match entry.constant? text with
    | some constant => .ok ⟨entry.typeName, .known constant⟩
    | none => .ok ⟨entry.typeName, .unknown text⟩

end CloudDirector.Payload
