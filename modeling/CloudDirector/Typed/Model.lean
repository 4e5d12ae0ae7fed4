import CloudDirector.Catalog.Schema
import CloudDirector.Typed.Declaration

/-!
# Models

A model is a declaration whose members have the types below; the model that it inherits from is
part of it.  Types name other models and enumerations, which are found in a library of
declarations, so that models may refer to each other.  The schema that is registered for a model
comes from its declaration alone.
-/

namespace CloudDirector

/-- The type of a typed value. -/
inductive FieldType where
  | text
  | flag
  | int64
  | int32
  | float
  | date
  | dateTime
  | json
  | binary
  | record
  /-- Any value, as it is. -/
  | any
  | optional (type : FieldType)
  | list (element : FieldType)
  | map (element : FieldType)
  | model (name : String)
  | enum (name : String)
  deriving DecidableEq

/-- A model. -/
inductive Model where
  | mk (header : Header) (members : List (Member FieldType Model))

namespace Model

/-- What is declared of the model as a whole. -/
def header : Model → Header
  | mk header _ => header

/-- The members in the order of their declaration. -/
def members : Model → List (Member FieldType Model)
  | mk _ members => members

/-- The name that the model is registered under. -/
def name (m : Model) : String := m.header.name

/-- The models that a model inherits from directly. -/
def parents (m : Model) : List Model := m.members.filterMap Member.parent?

/-- The fields that a model declares itself. -/
def ownFields (m : Model) : List (FieldDecl FieldType) := m.members.filterMap Member.field?

end Model

/-- The declarations that types may refer to, by name. -/
structure Models where
  models : List Model := []
  enums : List EnumDecl := []

namespace Models

/-- The model of a name. -/
def model? (ms : Models) (name : String) : Option Model := ms.models.find? fun m => m.name == name

/-- The enumeration of a name. -/
def enum? (ms : Models) (name : String) : Option EnumDecl := ms.enums.find? fun e => e.name == name

end Models

namespace FieldType

/-- The shape of a type's values. -/
def shape (ms : Models) : FieldType → Descriptor
  | text => .scalar .string
  | flag => .scalar .bool
  | int64 | int32 => .scalar .int
  | float => .scalar .float
  | date => .scalar .date
  | dateTime => .scalar .dateTime
  | json | record | any => .scalar .json
  | binary => .scalar .bytes
  | optional type => type.shape ms
  | list element => .list (element.shape ms)
  | map element => .map (element.shape ms)
  | model name =>
    match ms.model? name with
    | some m => if m.header.polymorphic then .polymorphic name else .named name
    | none => .named name
  | enum name => .named name

/-- Whether a field of the type has a value when it is not set. -/
def mayBeAbsent : FieldType → Bool
  | optional _ | list _ | map _ => true
  | _ => false

end FieldType

/-- How a declared field travels. -/
def FieldDecl.spec (ms : Models) (f : FieldDecl FieldType) : FieldSpec :=
  let shape := f.type.shape ms
  let shape := match f.leaf with
    | some typeName => .withLeaf (.named typeName) shape
    | none => shape
  let shape := match f.base with
    | some (some typeName) => .withLeaf (.polymorphic typeName) shape
    | some none => shape.toPolymorphic
    | none => shape
  { wireKey := f.wireKey, shape, required := !f.type.mayBeAbsent, nullable := f.nullable }

/-- The schema that is registered for a model. -/
def Model.schema (ms : Models) (m : Model) : Schema where
  typeName := m.name
  parents := m.parents.map Model.name
  fields := Members.ofPairs (m.ownFields.map fun f => (f.identifier, f.spec ms))
  polymorphic := m.header.polymorphic
  discriminator := m.header.discriminator
  mediaType := m.header.mediaType

/-- The mapping that is registered for an enumeration. -/
def EnumDecl.entry (e : EnumDecl) : EnumEntry where
  typeName := e.name
  values := Members.ofPairs (e.variants.map fun v => (v.wireText, v.identifier))

end CloudDirector
