import CloudDirector.Derive.Item

/-!
# Code that implementations share

The fixed parts of an implementation are given as text and cut into tokens; braces are groups, put
around what they hold.
-/

namespace CloudDirector.Derive

open Token (parens braces)

/-- The tokens of a fixed text. -/
def code (text : String) : List Token := (Token.ofString? text).getD []

/-- The path of the trait of models. -/
def modelTrait : List Token := code "::vcd_sdk::model::Model"

/-- The path of the trait of enumerations. -/
def enumTrait : List Token := code "::vcd_sdk::model::ModelEnum"

/-- The path of the trait of what may be the type of a field. -/
def fieldTrait : List Token := code "::vcd_sdk::model::ModelField"

/-- A type seen as an implementation of a trait, with an item of the trait. -/
def asTrait (type trait : List Token) (item : String) : List Token :=
  .mark '<' :: type ++ .word "as" :: trait ++ .mark '>' :: code item

/-- The registered name of the type that is implemented. -/
def ownName (trait : List Token) : List Token := asTrait [.word "Self"] trait "::TYPE_NAME"

/-- The constant that holds the registered name. -/
def nameConstant (name : String) : List Token :=
  code "const TYPE_NAME: &'static str =" ++ [.string name, .mark ';']

/-- A function with its body. -/
def function (signature : String) (body : List Token) : List Token :=
  code signature ++ [braces body]

/-- The end of the signature of a function that may fail to give the implemented type. -/
def selfResult : String := " -> ::vcd_sdk::error::Result<Self>"

/-- A trait implemented for an item. -/
def implementation (g : Generics) (trait : List Token) (identifier : String)
    (body : List Token) : List Token :=
  .word "impl" :: g.declaration ++ trait ++ [.word "for", .word identifier] ++ g.arguments ++
    g.condition ++ [braces body]

/-- What stands for an item that is rejected. -/
def compileError (message : String) : List Token :=
  code "::core::compile_error!" ++ [braces [.string message]]

/-- The trait of fields implemented for an item: its descriptor and the two conversions. -/
def fieldImplementation (g : Generics) (identifier : String)
    (descriptor toValue fromValue : List Token) : List Token :=
  implementation g fieldTrait identifier <|
    function "fn descriptor() -> ::vcd_sdk::schema::TypeDescriptor" descriptor ++
    function "fn to_model_value(&self) -> ::vcd_sdk::model::ModelValue" toValue ++
    function ("fn from_model_value(value: ::vcd_sdk::model::ModelValue,)" ++ selfResult) fromValue

end CloudDirector.Derive
