import CloudDirector.Derive.Code
import CloudDirector.Derive.Definition

/-!
# Expansions

The code that a definition stands for: the schema of a model with the functions that write and
read its fields, or the entry of an enumeration with its two conversions, and in either case the
implementation that lets the type be the type of a field.
-/

namespace CloudDirector.Derive

open Token (parens braces)

/-! ## Models -/

/-- The descriptor of a field: that of its type, with a leaf of its own or made polymorphic. -/
def fieldDescriptor (f : FieldDecl (List Token)) : List Token :=
  let leaf (kind : String) (name : String) :=
    code ".with_leaf" ++
      [parens (code ("::vcd_sdk::schema::TypeDescriptor::" ++ kind) ++ [parens [.string name]])]
  asTrait f.type fieldTrait "::descriptor()" ++
  f.leaf.elim [] (leaf "named") ++
  match f.base with
  | some (some base) => leaf "polymorphic" base
  | some none => code ".into_polymorphic()"
  | none => []

/-- The call that declares a field of a schema. -/
def fieldEntry (f : FieldDecl (List Token)) : List Token :=
  let spec :=
    code "let spec = ::vcd_sdk::schema::FieldSpec::new" ++
    [parens (.string f.wireKey :: .mark ',' :: fieldDescriptor f), .mark ';'] ++
    code "let spec = if" ++ asTrait f.type fieldTrait "::absent().is_none()" ++
    [braces (code "spec.required()"), .word "else", braces (code "spec"), .mark ';'] ++
    (if f.nullable then code "let spec = spec.nullable();" else []) ++
    code "spec"
  code ".field" ++ [parens [.string f.identifier, .mark ',', braces spec]]

/-- The call that gives a schema a text. -/
def textEntry (method : String) (text : String) : List Token :=
  code ("." ++ method) ++ [parens [.string text]]

namespace ModelDefinition

/-- The fields of the record itself. -/
def fields (d : ModelDefinition) : List (FieldDecl (List Token)) :=
  d.members.filterMap Member.field?

/-- The body of the function that gives the schema. -/
def schema (d : ModelDefinition) : List Token :=
  code "::vcd_sdk::schema::SchemaEntry::builder" ++ [parens (ownName modelTrait ++ [.mark ','])] ++
  (d.members.filterMap Member.parent?).flatMap (fun model =>
    code ".parent" ++ [parens (asTrait model modelTrait "::TYPE_NAME")]) ++
  (if d.header.polymorphic then code ".polymorphic()" else []) ++
  d.header.discriminator.elim [] (textEntry "discriminator") ++
  d.header.mediaType.elim [] (textEntry "media_type") ++
  d.fields.flatMap fieldEntry ++
  code ".build()"

/-- The body of the function that writes the fields, those of the parent first. -/
def writing (d : ModelDefinition) : List Token :=
  let parent : CodeMember → List Token
    | .parent identifier model =>
      asTrait model modelTrait "::write_fields" ++
        [parens (code "&self." ++ .word identifier :: code ", fields"), .mark ';']
    | _ => []
  d.members.flatMap parent ++
  d.fields.flatMap fun f =>
    code "::vcd_sdk::model::write_field" ++
      [parens (code "fields," ++ .string f.identifier :: code ", &self." ++ [.word f.identifier]),
        .mark ';']

/-- What a member is set to when the fields are read. -/
def reading : CodeMember → List Token
  | .parent _ model => asTrait model modelTrait "::read_fields(fields)?"
  | .skipped _ => code "::core::default::Default::default()"
  | .field f =>
    code "::vcd_sdk::model::read_field" ++
      [parens (code "fields," ++ ownName modelTrait ++
        [.mark ',', .string f.identifier, .mark ',']), .mark '?']

/-- The body of the function that reads the fields, in the order of the members. -/
def readings (d : ModelDefinition) : List Token :=
  let inits := d.members.flatMap fun member =>
    .word member.identifier :: .mark ':' :: reading member ++ [.mark ',']
  [.word "Ok", parens [.word "Self", braces inits]]

/-- The code that a model stands for. -/
def expansion (d : ModelDefinition) : List Token :=
  implementation d.generics modelTrait d.identifier (
    nameConstant d.header.name ++
    function "fn schema() -> ::vcd_sdk::schema::SchemaEntry" d.schema ++
    function "fn write_fields(&self, fields: &mut ::vcd_sdk::model::Fields)" d.writing ++
    function ("fn read_fields(fields: &::vcd_sdk::model::Fields)" ++ selfResult) d.readings) ++
  fieldImplementation d.generics d.identifier
    (code (if d.header.polymorphic then
      "::vcd_sdk::schema::TypeDescriptor::polymorphic(Self::TYPE_NAME)"
    else "::vcd_sdk::schema::TypeDescriptor::named(Self::TYPE_NAME)"))
    (code "::vcd_sdk::model::ModelValue::Record" ++
      [parens (asTrait [.word "Self"] modelTrait "::to_record(self),")])
    (code "let record = ::vcd_sdk::model::expect_record" ++
      [parens (code "value," ++ ownName modelTrait ++ [.mark ',']), .mark '?', .mark ';'] ++
      asTrait [.word "Self"] modelTrait "::from_record(&record)")

end ModelDefinition

/-! ## Enumerations -/

namespace EnumDefinition

/-- The arguments of a call that names the enumeration and a constant, with a comma after each. -/
def ownArguments (constant : List Token) : Token :=
  parens (ownName enumTrait ++ .mark ',' :: constant ++ [.mark ','])

/-- The body of the function that gives the entry. -/
def entry (d : EnumDefinition) : List Token :=
  code "::vcd_sdk::schema::EnumEntry::new" ++ [parens (ownName enumTrait ++ [.mark ','])] ++
  d.declaration.variants.flatMap fun v =>
    code ".value" ++ [parens [.string v.wireText, .mark ',', .string v.identifier]]

/-- The body of the function that gives the value of a variant. -/
def writing (d : EnumDefinition) : List Token :=
  let known := d.declaration.variants.flatMap fun v =>
    code "Self::" ++ .word v.identifier :: code "=> ::vcd_sdk::model::EnumValue::known" ++
      [ownArguments [.string v.identifier], .mark ',']
  let unknown (identifier : String) :=
    code "Self::" ++ .word identifier :: code "(raw) => ::vcd_sdk::model::EnumValue::unknown" ++
      [ownArguments (code "raw.clone()"), .mark ',']
  code "match self" ++ [braces (known ++ d.declaration.unknown.elim [] unknown)]

/-- The body of the function that gives the variant of a value. -/
def reading (d : EnumDefinition) : List Token :=
  let unmapped (constant : String) :=
    code "::vcd_sdk::model::unmapped_constant" ++ [ownArguments [.word constant]]
  let known := d.declaration.variants.flatMap fun v =>
    .string v.identifier :: code "=> Ok" ++
      [parens (code "Self::" ++ [.word v.identifier]), .mark ',']
  let other := code "other => Err" ++ [parens (unmapped "other"), .mark ',']
  let unknown := match d.declaration.unknown with
    | some identifier =>
      code "Ok" ++ [parens (code "Self::" ++ .word identifier :: code "(raw.clone())")]
    | none => code "Err" ++ [parens (unmapped "raw" ++ [.mark ','])]
  code "match &value.constant" ++ [braces (
    code "::vcd_sdk::model::EnumConstant::Known(constant) => match constant.as_str()" ++
    [braces (known ++ other), .mark ','] ++
    code "::vcd_sdk::model::EnumConstant::Unknown(raw) =>" ++ unknown ++ [.mark ','])]

/-- The code that an enumeration stands for. -/
def expansion (d : EnumDefinition) : List Token :=
  implementation d.generics enumTrait d.identifier (
    nameConstant d.declaration.name ++
    function "fn entry() -> ::vcd_sdk::schema::EnumEntry" d.entry ++
    function "fn to_enum_value(&self) -> ::vcd_sdk::model::EnumValue" d.writing ++
    function ("fn from_enum_value(value: &::vcd_sdk::model::EnumValue,)" ++ selfResult)
      d.reading) ++
  fieldImplementation d.generics d.identifier
    (code "::vcd_sdk::schema::TypeDescriptor::named" ++
      [parens (ownName enumTrait ++ [.mark ','])])
    (code "::vcd_sdk::model::ModelValue::Enum" ++
      [parens (asTrait [.word "Self"] enumTrait "::to_enum_value(self),")])
    (code "let value = ::vcd_sdk::model::expect_enum" ++
      [parens (code "value," ++ ownName enumTrait ++ [.mark ',']), .mark '?', .mark ';'] ++
      asTrait [.word "Self"] enumTrait "::from_enum_value(&value)")

end EnumDefinition

/-! ## Items -/

/-- What an item may be expanded as. -/
inductive Expansion where
  | model
  | enumeration
  deriving DecidableEq, Repr

/-- The code that the item of a text stands for, or why there is none. -/
def Expansion.ofText (as : Expansion) (text : String) : Except Rejection (List Token) := do
  let some item := Item.ofString? text | throw .noItem
  match as with
  | model => return (← ModelDefinition.ofItem item).expansion
  | enumeration => return (← EnumDefinition.ofItem item).expansion

/-- The code that takes the place of an item's annotation: its expansion, or an error that is
reported when the code is compiled. -/
def Expansion.expand (as : Expansion) (text : String) : List Token :=
  match as.ofText text with
  | .ok tokens => tokens
  | .error rejection => compileError rejection.message

end CloudDirector.Derive
