import CloudDirector.Text.CamelCase

/-!
# Declarations of models and enumerations

A model is declared by a list of members, an enumeration by a list of variants.  How the type of a
member is given is left open: conversions use types of their own, while an expansion only copies the
tokens of a type.
-/

namespace CloudDirector

/-- A member that is a field of the record. -/
structure FieldDecl (τ : Type) where
  identifier : String
  type : τ
  /-- The wire key, if it is not the identifier in lower camel case. -/
  wire : Option String := none
  /-- The registered type that replaces the innermost part of the type's shape. -/
  leaf : Option String := none
  /-- Makes the shape polymorphic, with the given base if there is one. -/
  base : Option (Option String) := none
  nullable : Bool := false

/-- The wire key of a field. -/
def FieldDecl.wireKey {τ : Type} (f : FieldDecl τ) : String :=
  f.wire.getD (Text.lowerCamel f.identifier)

/-- A member of a model: a field, the model whose fields it inherits, or something that does not
belong to the record. -/
inductive Member (τ π : Type) where
  | field (f : FieldDecl τ)
  | parent (identifier : String) (model : π)
  | skipped (identifier : String)

namespace Member

variable {τ π : Type}

/-- The identifier of a member. -/
def identifier : Member τ π → String
  | field f => f.identifier
  | parent identifier _ => identifier
  | skipped identifier => identifier

/-- The field that a member is. -/
def field? : Member τ π → Option (FieldDecl τ)
  | field f => some f
  | _ => none

/-- The model that a member inherits from. -/
def parent? : Member τ π → Option π
  | parent _ model => some model
  | _ => none

end Member

/-- What a declaration says of a model as a whole. -/
structure Header where
  name : String
  polymorphic : Bool := false
  discriminator : Option String := none
  mediaType : Option String := none

/-- A variant of an enumeration that has no data. -/
structure Variant where
  identifier : String
  /-- The text of the wire, if it is not the identifier in lower camel case. -/
  wire : Option String := none

/-- The text of the wire of a variant. -/
def Variant.wireText (v : Variant) : String := v.wire.getD (Text.lowerCamel v.identifier)

/-- The declaration of an enumeration. -/
structure EnumDecl where
  name : String
  variants : List Variant
  /-- The variant that keeps texts that are not mapped, if there is one. -/
  unknown : Option String := none

end CloudDirector
