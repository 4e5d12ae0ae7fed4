import CloudDirector.Failure
import CloudDirector.Members

/-!
# Schemas and enumerations

What is registered under the name of a type: the schema of a record, or the mapping of an
enumeration between texts of the wire and names of constants.
-/

namespace CloudDirector

/-- How a field travels. -/
structure FieldSpec where
  wireKey : String
  shape : Descriptor
  /-- A typed reading refuses a record without the field. -/
  required : Bool := false
  /-- Null is a value of its own and is kept. -/
  nullable : Bool := false
  deriving DecidableEq

/-- The schema of a record type. -/
structure Schema where
  typeName : String
  parents : List String := []
  fields : List (String × FieldSpec) := []
  /-- The payload says which type derived from this one a record has. -/
  polymorphic : Bool := false
  discriminator : Option String := none
  mediaType : Option String := none
  deriving DecidableEq

namespace Schema

/-- The discriminator by which a payload names the type. -/
def discriminatorValue (s : Schema) : String := s.discriminator.getD s.typeName

/-- The first field of a list whose wire key one of the `earlier` fields has, with that field and
the key. -/
def clashAfter (earlier : List (String × FieldSpec)) :
    List (String × FieldSpec) → Option (String × String × String)
  | [] => none
  | (name, spec) :: rest =>
    match earlier.find? fun (_, e) => e.wireKey == spec.wireKey with
    | some (first, _) => some (first, name, spec.wireKey)
    | none => clashAfter (earlier ++ [(name, spec)]) rest

/-- The first field of a list whose wire key is taken, with the field that has it and the key. -/
def clash? (fields : List (String × FieldSpec)) : Option (String × String × String) :=
  clashAfter [] fields

/-- Checks that the fields of a schema have different wire keys. -/
def check (s : Schema) : Result Unit :=
  match clash? s.fields with
  | some (first, second, key) => .failSetup (.sharedWireKey s.typeName first second key)
  | none => .ok ()

end Schema

/-- The mapping of an enumeration. -/
structure EnumEntry where
  typeName : String
  /-- Texts of the wire with the names of their constants. -/
  values : List (String × String) := []
  deriving DecidableEq

namespace EnumEntry

/-- The constant of a text of the wire. -/
def constant? (e : EnumEntry) (text : String) : Option String := Members.get? e.values text

/-- The first text of the wire that is mapped to a constant. -/
def text? (e : EnumEntry) (constant : String) : Option String :=
  (e.values.find? fun (_, c) => c == constant).map Prod.fst

end EnumEntry

/-- What is registered under a name. -/
inductive Entry where
  | schema (s : Schema)
  | enum (e : EnumEntry)
  deriving DecidableEq

namespace Entry

/-- The name that an entry is registered under. -/
def typeName : Entry → String
  | schema s => s.typeName
  | enum e => e.typeName

/-- Whether two lists of members differ in their order only. -/
def sameMembers {α : Type} [BEq α] (xs ys : List (String × α)) : Bool :=
  xs.length == ys.length && xs.all fun (key, x) => Members.get? ys key == some x

/-- Whether two entries differ in the order of fields or values only. -/
def same : Entry → Entry → Bool
  | schema s, schema t =>
    s.typeName == t.typeName && s.parents == t.parents && sameMembers s.fields t.fields &&
      s.polymorphic == t.polymorphic && s.discriminator == t.discriminator &&
      s.mediaType == t.mediaType
  | enum e, enum f => e.typeName == f.typeName && sameMembers e.values f.values
  | _, _ => false

end Entry

end CloudDirector
