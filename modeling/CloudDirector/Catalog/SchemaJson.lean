import CloudDirector.Catalog.Schema
import CloudDirector.Json.Basic

/-!
# Schemas in JSON

Schemas and descriptors have a JSON form of their own, in which they can be kept.  A structure is
an object of its parts, or an array of them in order; only the parts that may be missing may be
left out of an object, and none of an array.
-/

namespace CloudDirector

namespace Json

/-- The part of a structure at a place: by name in an object, in order in an array of all parts. -/
def part? (j : Json) (names : List String) (name : String) : Option Json :=
  match j with
  | object members => Members.get? members name
  | array items =>
    if items.length = names.length then (names.zip items).lookup name else none
  | _ => none

/-- A text that may be missing or null. -/
def optionalString? : Option Json → Option (Option String)
  | none => some none
  | some null => some none
  | some (string s) => some (some s)
  | some _ => none

end Json

namespace Kind

/-- The name of a kind in JSON. -/
def jsonName : Kind → String
  | json => "opaque"
  | k => k.name

/-- All kinds. -/
def all : List Kind := [int, float, bool, string, bytes, date, dateTime, json]

/-- The kind of its name in JSON, which may also be the key of an object with null. -/
def ofJson? (j : Json) : Option Kind :=
  match j with
  | .string name => all.find? fun k => k.jsonName == name
  | .object [(name, .null)] => all.find? fun k => k.jsonName == name
  | _ => none

@[simp] theorem ofJson?_jsonName (k : Kind) : ofJson? (.string k.jsonName) = some k := by
  cases k <;> rfl

end Kind

namespace Descriptor

/-- The JSON form of a descriptor: an object that names its form. -/
def toJson : Descriptor → Json
  | scalar kind => .object [("Primitive", .string kind.jsonName)]
  | list element => .object [("List", element.toJson)]
  | map element => .object [("Map", element.toJson)]
  | named typeName => .object [("Named", .string typeName)]
  | polymorphic typeName => .object [("Polymorphic", .string typeName)]

/-- The descriptor of a JSON form. -/
def ofJson? : Json → Option Descriptor
  | .object [("Primitive", j)] => (Kind.ofJson? j).map scalar
  | .object [("List", j)] => (ofJson? j).map list
  | .object [("Map", j)] => (ofJson? j).map map
  | .object [("Named", .string typeName)] => some (named typeName)
  | .object [("Polymorphic", .string typeName)] => some (polymorphic typeName)
  | _ => none

@[simp] theorem ofJson?_toJson (d : Descriptor) : ofJson? d.toJson = some d := by
  induction d with
  | scalar kind => simp [toJson, ofJson?]
  | list element ih => simp [toJson, ofJson?, ih]
  | map element ih => simp [toJson, ofJson?, ih]
  | named typeName => rfl
  | polymorphic typeName => rfl

end Descriptor

namespace FieldSpec

/-- The names of the parts of a field. -/
def partNames : List String := ["wire_key", "field_type", "required", "nullable"]

/-- The JSON form of a field. -/
def toJson (spec : FieldSpec) : Json := .object [
  ("wire_key", .string spec.wireKey),
  ("field_type", spec.shape.toJson),
  ("required", .bool spec.required),
  ("nullable", .bool spec.nullable)]

/-- The field of a JSON form. -/
def ofJson? (j : Json) : Option FieldSpec := do
  let wireKey ← (← j.part? partNames "wire_key").string?
  let shape ← Descriptor.ofJson? (← j.part? partNames "field_type")
  let required ← (← j.part? partNames "required").bool?
  let nullable ← (← j.part? partNames "nullable").bool?
  return { wireKey, shape, required, nullable }

@[simp] theorem ofJson?_toJson (spec : FieldSpec) : ofJson? spec.toJson = some spec := by
  simp [ofJson?, toJson, Json.part?, Members.get?, Json.string?, Json.bool?]

end FieldSpec

namespace Schema

/-- The names of the parts of a schema. -/
def partNames : List String :=
  ["type_name", "parents", "fields", "polymorphic", "discriminator", "media_type"]

/-- The JSON form of a schema. -/
def toJson (s : Schema) : Json := .object [
  ("type_name", .string s.typeName),
  ("parents", .array (s.parents.map .string)),
  ("fields", .object (s.fields.map fun (name, spec) => (name, spec.toJson))),
  ("polymorphic", .bool s.polymorphic),
  ("discriminator", .ofOption .string s.discriminator),
  ("media_type", .ofOption .string s.mediaType)]

/-- The schema of a JSON form. -/
def ofJson? (j : Json) : Option Schema := do
  let typeName ← (← j.part? partNames "type_name").string?
  let parents ← (← (← j.part? partNames "parents").items?).mapM Json.string?
  let fields ← (← (← j.part? partNames "fields").members?).mapM fun (name, spec) => do
    return (name, ← FieldSpec.ofJson? spec)
  let polymorphic ← (← j.part? partNames "polymorphic").bool?
  let discriminator ← Json.optionalString? (j.part? partNames "discriminator")
  let mediaType ← Json.optionalString? (j.part? partNames "media_type")
  return { typeName, parents, fields, polymorphic, discriminator, mediaType }

end Schema

end CloudDirector
