import CloudDirector.Derive.Item
import CloudDirector.Derive.Literal
import CloudDirector.Typed.Declaration

/-!
# Options

The attribute `#[model(...)]` gives options: keys, some of which are set to a string.  It may be
given several times, and of two values for one key the later one counts.  Other attributes say
nothing here.
-/

namespace CloudDirector.Derive

/-- What is wrong with the options. -/
inductive OptionFault where
  /-- A key that is not one of the options. -/
  | unsupported
  /-- The attribute without parentheses. -/
  | bare
  /-- The attribute set to a value. -/
  | valued
  /-- Something in the place of a key; a literal is named as such. -/
  | notKey (isLiteral : Bool)
  /-- Something else than what has to come next, or nothing at all. -/
  | expected (what : String) (atEnd : Bool)
  deriving DecidableEq, Repr

/-- The message of a fault. -/
def OptionFault.message : OptionFault → String
  | unsupported => "unsupported model attribute"
  | bare => "expected attribute arguments in parentheses: #[model(...)]"
  | valued => "expected parentheses: #[model(...)]"
  | notKey true => "unexpected literal in nested attribute, expected ident"
  | notKey false => "unexpected token in nested attribute, expected ident"
  | expected what false => "expected " ++ what
  | expected what true => "unexpected end of input, expected " ++ what

/-- Reads the string that a key is set to; `isLast` says whether the attribute ends after the
tokens. -/
def readText (isLast : Bool) : List Token → Except OptionFault (String × List Token)
  | .mark '=' :: .literal spelling :: rest =>
    match textOfLiteral? spelling with
    | some text => .ok (text, rest)
    | none => .error (.expected "string literal" false)
  | [.mark '='] => .error (.expected "string literal" isLast)
  | .mark '=' :: _ => .error (.expected "string literal" false)
  | [] => .error (.expected "`=`" isLast)
  | _ => .error (.expected "`=`" false)

/-- What reads an option after its key. -/
abbrev OptionReader (α : Type) := Bool → String → List Token → Except OptionFault (α × List Token)

/-- Reads one option. -/
def readOption {α : Type} (read : OptionReader α) (isLast : Bool) :
    List Token → Except OptionFault α
  | .word _ :: .mark ':' :: .mark ':' :: _ => .error .unsupported
  | .mark ':' :: .mark ':' :: .word _ :: _ => .error .unsupported
  | .word key :: rest => do
    let (option, rest) ← read isLast key rest
    if rest.isEmpty then return option else throw (.expected "`,`" false)
  | .literal _ :: _ => .error (.notKey true)
  | _ => .error (.notKey false)

/-- Reads the options of an attribute. -/
def readAttribute {α : Type} (read : OptionReader α) : Attribute → Except OptionFault (List α)
  | [.word "model", .group _ inside] =>
    (withCommas (splitCommas inside)).mapM fun (piece, comma) => readOption read (!comma) piece
  | [.word "model"] => .error .bare
  | .word "model" :: .mark '=' :: _ => .error .valued
  | _ => .ok []

/-- Reads the options of several attributes in order. -/
def readOptions {α : Type} (read : OptionReader α) (attributes : List Attribute) :
    Except OptionFault (List α) :=
  (attributes.mapM (readAttribute read)).map List.flatten

/-! ## Options of an item -/

/-- An option of a struct or an enumeration. -/
inductive ItemOption where
  | name (name : String)
  | polymorphic
  | discriminator (value : String)
  | mediaType (value : String)

/-- Reads an option of an item. -/
def ItemOption.read : OptionReader ItemOption
  | isLast, "name", rest => (readText isLast rest).map fun (s, rest) => (name s, rest)
  | _, "polymorphic", rest => .ok (polymorphic, rest)
  | isLast, "discriminator", rest =>
    (readText isLast rest).map fun (s, rest) => (discriminator s, rest)
  | isLast, "media_type", rest => (readText isLast rest).map fun (s, rest) => (mediaType s, rest)
  | _, _, _ => .error .unsupported

/-- What an option says of the item. -/
def ItemOption.apply (header : Header) : ItemOption → Header
  | name s => { header with name := s }
  | polymorphic => { header with polymorphic := true }
  | discriminator s => { header with discriminator := some s }
  | mediaType s => { header with mediaType := some s }

/-- What an item says of the model as a whole.  Its name is its identifier unless an option gives
one. -/
def Item.header (item : Item) : Except OptionFault Header :=
  (readOptions ItemOption.read item.attributes).map fun options =>
    options.foldl ItemOption.apply { name := item.identifier }

/-! ## Options of a field or a variant -/

/-- An option of a field or a variant. -/
inductive MemberOption where
  | wire (key : String)
  | named (type : String)
  | polymorphic (base : Option String)
  | nullable
  | parent
  | skip
  | unknown

/-- Reads an option of a field or a variant. -/
def MemberOption.read : OptionReader MemberOption
  | isLast, "wire", rest => (readText isLast rest).map fun (s, rest) => (wire s, rest)
  | isLast, "named", rest => (readText isLast rest).map fun (s, rest) => (named s, rest)
  | isLast, "polymorphic", .mark '=' :: rest =>
    (readText isLast (.mark '=' :: rest)).map fun (s, rest) => (polymorphic (some s), rest)
  | _, "polymorphic", rest => .ok (polymorphic none, rest)
  | _, "nullable", rest => .ok (nullable, rest)
  | _, "parent", rest => .ok (parent, rest)
  | _, "skip", rest => .ok (skip, rest)
  | _, "unknown", rest => .ok (unknown, rest)
  | _, _, _ => .error .unsupported

/-- The options of a field or a variant taken together. -/
structure MemberOptions where
  wire : Option String := none
  leaf : Option String := none
  base : Option (Option String) := none
  nullable : Bool := false
  parent : Bool := false
  skip : Bool := false
  unknown : Bool := false

/-- The options with one more. -/
def MemberOption.apply (options : MemberOptions) : MemberOption → MemberOptions
  | wire key => { options with wire := some key }
  | named type => { options with leaf := some type }
  | polymorphic base => { options with base := some base }
  | nullable => { options with nullable := true }
  | parent => { options with parent := true }
  | skip => { options with skip := true }
  | unknown => { options with unknown := true }

/-- The options that attributes give a field or a variant. -/
def MemberOptions.ofAttributes (attributes : List Attribute) : Except OptionFault MemberOptions :=
  (readOptions MemberOption.read attributes).map fun options => options.foldl MemberOption.apply {}

end CloudDirector.Derive
