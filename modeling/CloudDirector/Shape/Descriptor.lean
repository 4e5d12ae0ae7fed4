/-!
# Shapes of values

A descriptor says which shape a value of the wire is to have: a scalar of some kind, a list or a
map of one shape, or a registered type, which for a polymorphic reference the payload itself
narrows down.
-/

namespace CloudDirector

/-- A kind of scalar. -/
inductive Kind where
  | int
  | float
  | bool
  | string
  /-- Binary data, base 64 on the wire. -/
  | bytes
  | date
  | dateTime
  /-- JSON passed through as it is. -/
  | json
  deriving DecidableEq, Repr

namespace Kind

/-- The name that messages and descriptors show. -/
def name : Kind → String
  | int => "int"
  | float => "float"
  | bool => "bool"
  | string => "string"
  | bytes => "bytes"
  | date => "date"
  | dateTime => "datetime"
  | json => "object"

/-- The kind of a name or of another spelling of it. -/
def ofString? : String → Option Kind
  | "int" | "integer" | "long" => some int
  | "float" | "double" => some float
  | "bool" | "boolean" => some bool
  | "string" | "str" => some string
  | "bytes" => some bytes
  | "date" => some date
  | "datetime" | "dateTime" => some dateTime
  | "object" | "opaque" => some json
  | _ => none

@[simp] theorem ofString?_name (k : Kind) : ofString? k.name = some k := by
  cases k <;> rfl

end Kind

/-- The shape of a value. -/
inductive Descriptor where
  | scalar (kind : Kind)
  | list (element : Descriptor)
  | map (element : Descriptor)
  /-- A registered type. -/
  | named (typeName : String)
  /-- A registered type or one derived from it, as the payload says. -/
  | polymorphic (typeName : String)
  deriving DecidableEq, Repr

namespace Descriptor

/-- The descriptor with its innermost part replaced, lists and maps around it kept. -/
def withLeaf (leaf : Descriptor) : Descriptor → Descriptor
  | list element => list (withLeaf leaf element)
  | map element => map (withLeaf leaf element)
  | _ => leaf

/-- The descriptor with the type that it names made polymorphic. -/
def toPolymorphic : Descriptor → Descriptor
  | list element => list element.toPolymorphic
  | map element => map element.toPolymorphic
  | named typeName => polymorphic typeName
  | d => d

/-- The registered type that a descriptor refers to, if it refers to one. -/
def reference? : Descriptor → Option String
  | scalar _ => none
  | list element => element.reference?
  | map element => element.reference?
  | named typeName => some typeName
  | polymorphic typeName => some typeName

/-- The characters of a descriptor's text. -/
def renderChars : Descriptor → List Char
  | scalar kind => kind.name.toList
  | list element => "list[".toList ++ element.renderChars ++ [']']
  | map element => "map(string, ".toList ++ element.renderChars ++ [')']
  | named typeName => typeName.toList
  | polymorphic typeName => typeName.toList ++ ['*']

/-- The text of a descriptor. -/
def render (d : Descriptor) : String := .ofList d.renderChars

end Descriptor

namespace TypeName

/-- The part of a text after its last `::`; `found` is the part after the last one in front. -/
def shortChars (found : List Char) : List Char → List Char
  | [] => found
  | c :: rest =>
    match c, rest with
    | ':', ':' :: after => shortChars after rest
    | _, _ => shortChars found rest

/-- A type name without the names of the spaces that it stands in. -/
def short (typeName : String) : String := .ofList (shortChars typeName.toList typeName.toList)

end TypeName

end CloudDirector
