import CloudDirector.Derive.Options

/-!
# What an item defines

A struct with named fields defines a model, and an enumeration of plain variants defines an
enumeration of the wire, which may have one variant that holds the texts it does not know.  The
types of fields are lists of tokens here, and so is the parent.
-/

namespace CloudDirector.Derive

/-- Why an item defines nothing. -/
inductive Rejection where
  /-- The text declares no struct, enumeration or union. -/
  | noItem
  | option (fault : OptionFault)
  | notStruct
  | noNamedFields
  | unknownField
  | severalParents
  | notEnumeration
  | onlyName
  | unknownWithoutText
  | severalUnknown
  | notUnit
  deriving DecidableEq, Repr

/-- The message of a rejection. -/
def Rejection.message : Rejection → String
  | noItem => "expected one of: `struct`, `enum`, `union`"
  | option fault => fault.message
  | notStruct => "Model can only be derived for structs"
  | noNamedFields => "Model requires named fields"
  | unknownField => "`unknown` is only valid on enum variants"
  | severalParents => "Model supports at most one `#[model(parent)]` field"
  | notEnumeration => "ModelEnum can only be derived for enums"
  | onlyName => "ModelEnum only supports the `name` attribute"
  | unknownWithoutText => "`unknown` variant must be a tuple variant holding a String"
  | severalUnknown => "ModelEnum supports one `unknown` variant with a single String"
  | notUnit => "ModelEnum variants must be unit variants"

/-- A fault of the options rejects the item. -/
def liftOptions {α : Type} : Except OptionFault α → Except Rejection α := Except.mapError .option

/-! ## Models -/

/-- A member whose types are given as code. -/
abbrev CodeMember := Member (List Token) (List Token)

/-- A model that an item defines. -/
structure ModelDefinition where
  identifier : String
  generics : Generics
  header : Header
  members : List CodeMember

/-- The member that a field is.  A parent is one even if it is also to be skipped. -/
def NamedField.member (field : NamedField) : Except Rejection CodeMember := do
  let options ← liftOptions (MemberOptions.ofAttributes field.attributes)
  if options.unknown then throw .unknownField
  if options.parent then return .parent field.identifier field.type
  if options.skip then return .skipped field.identifier
  return .field
    { identifier := field.identifier, type := field.type, wire := options.wire,
      leaf := options.leaf, base := options.base, nullable := options.nullable }

/-- The model that an item defines. -/
def ModelDefinition.ofItem (item : Item) : Except Rejection ModelDefinition := do
  let .struct fields := item.body | throw .notStruct
  let .named fields := fields | throw .noNamedFields
  let header ← liftOptions item.header
  let members ← fields.mapM NamedField.member
  if (members.filterMap Member.parent?).length > 1 then throw .severalParents
  return ⟨item.identifier, item.generics, header, members⟩

/-! ## Enumerations -/

/-- An enumeration that an item defines. -/
structure EnumDefinition where
  identifier : String
  generics : Generics
  declaration : EnumDecl

/-- Adds a variant to a declaration. -/
def VariantItem.addTo (declaration : EnumDecl) (variant : VariantItem) :
    Except Rejection EnumDecl := do
  let options ← liftOptions (MemberOptions.ofAttributes variant.attributes)
  match options.unknown, variant.fields with
  | true, .tuple arity =>
    if arity ≠ 1 ∨ declaration.unknown.isSome then throw .severalUnknown
    return { declaration with unknown := some variant.identifier }
  | true, _ => throw .unknownWithoutText
  | false, .unit =>
    let added : Variant := { identifier := variant.identifier, wire := options.wire }
    return { declaration with variants := declaration.variants ++ [added] }
  | false, _ => throw .notUnit

/-- The enumeration that an item defines. -/
def EnumDefinition.ofItem (item : Item) : Except Rejection EnumDefinition := do
  let .enumeration variants := item.body | throw .notEnumeration
  let header ← liftOptions item.header
  if header.polymorphic ∨ header.discriminator.isSome ∨ header.mediaType.isSome then
    throw .onlyName
  let empty : EnumDecl := { name := header.name, variants := [] }
  let declaration ← variants.foldlM VariantItem.addTo empty
  return ⟨item.identifier, item.generics, declaration⟩

end CloudDirector.Derive
