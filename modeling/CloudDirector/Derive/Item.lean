import CloudDirector.Derive.Lexer

/-!
# Items

An item declares a struct, an enumeration or a union.  Only what an expansion needs is kept:
attributes and types stay lists of tokens, and of a tuple only the number of its fields is known.
-/

namespace CloudDirector.Derive

/-! ## Angle brackets

Angle brackets are marks, not groups, so a list of tokens is read with the number of those open.
The head of an arrow closes none. -/

/-- The number of open angle brackets after a token. -/
def angleDepth (depth : Nat) : Token → Nat
  | .mark '<' => depth + 1
  | .mark '>' => depth - 1
  | _ => depth

/-- The tokens up to the first one outside angle brackets that satisfies `stop`, and the tokens
from it on. -/
def spanOuter (stop : Token → Bool) (depth : Nat) : List Token → List Token × List Token
  | [] => ([], [])
  | .mark '-' :: .mark '>' :: rest =>
    let (before, after) := spanOuter stop depth rest
    (.mark '-' :: .mark '>' :: before, after)
  | token :: rest =>
    if depth = 0 ∧ stop token then ([], token :: rest)
    else
      let (before, after) := spanOuter stop (angleDepth depth token) rest
      (token :: before, after)

/-- What is found and what is left are the tokens read. -/
theorem spanOuter_append (stop : Token → Bool) (depth : Nat) (tokens : List Token) :
    (spanOuter stop depth tokens).1 ++ (spanOuter stop depth tokens).2 = tokens := by
  fun_induction spanOuter stop depth tokens with
  | case1 => rfl
  | case2 _ rest before after h ih =>
    rw [h] at ih
    exact congrArg (.mark '-' :: .mark '>' :: ·) ih
  | case3 => rfl
  | case4 _ token rest _ _ before after h ih =>
    rw [h] at ih
    exact congrArg (token :: ·) ih

/-- Puts a token in front of the first of several lists. -/
def consFirst (token : Token) : List (List Token) → List (List Token)
  | [] => [[token]]
  | first :: rest => (token :: first) :: rest

/-- The tokens split at each comma outside angle brackets. -/
def splitOuter (depth : Nat) : List Token → List (List Token)
  | [] => [[]]
  | .mark '-' :: .mark '>' :: rest =>
    consFirst (.mark '-') (consFirst (.mark '>') (splitOuter depth rest))
  | .mark ',' :: rest =>
    if depth = 0 then [] :: splitOuter 0 rest else consFirst (.mark ',') (splitOuter depth rest)
  | token :: rest => consFirst token (splitOuter (angleDepth depth token) rest)

/-- The tokens split at each comma. -/
def splitCommas : List Token → List (List Token)
  | [] => [[]]
  | .mark ',' :: rest => [] :: splitCommas rest
  | token :: rest => consFirst token (splitCommas rest)

/-- The pieces of a list whose last comma may be left out, each with whether a comma follows. -/
def withCommas : List (List Token) → List (List Token × Bool)
  | [] => []
  | [last] => if last.isEmpty then [] else [(last, false)]
  | piece :: rest => (piece, true) :: withCommas rest

/-- The elements of a list whose last comma may be left out. -/
def elements (pieces : List (List Token)) : List (List Token) := (withCommas pieces).map Prod.fst

/-! ## Attributes and visibility -/

/-- An attribute: the tokens between its square brackets. -/
abbrev Attribute := List Token

/-- The attributes in front, and what follows them. -/
def takeAttributes : List Token → List Attribute × List Token
  | .mark '#' :: .group .square inside :: rest =>
    let (attributes, rest) := takeAttributes rest
    (inside :: attributes, rest)
  | rest => ([], rest)

/-- The tokens of an attribute. -/
def Attribute.tokens (inside : Attribute) : List Token := [.mark '#', .group .square inside]

/-- Takes away a visibility in front. -/
def skipVisibility : List Token → List Token
  | .word "pub" :: .group .round _ :: rest => rest
  | .word "pub" :: rest => rest
  | rest => rest

/-! ## Fields and variants -/

/-- A field with a name. -/
structure NamedField where
  attributes : List Attribute
  identifier : String
  type : List Token

/-- A field from its tokens. -/
def NamedField.ofTokens? (tokens : List Token) : Option NamedField :=
  let (attributes, rest) := takeAttributes tokens
  match skipVisibility rest with
  | .word identifier :: .mark ':' :: type => some ⟨attributes, identifier, type⟩
  | _ => none

/-- The fields of a struct or of a variant. -/
inductive Fields where
  | unit
  | tuple (arity : Nat)
  | named (fields : List NamedField)

/-- The fields between braces. -/
def Fields.ofBraces? (inside : List Token) : Option Fields :=
  ((elements (splitOuter 0 inside)).mapM NamedField.ofTokens?).map named

/-- The fields between parentheses. -/
def Fields.ofParens (inside : List Token) : Fields := tuple (elements (splitOuter 0 inside)).length

/-- A variant of an enumeration. -/
structure VariantItem where
  attributes : List Attribute
  identifier : String
  fields : Fields

/-- A variant from its tokens.  Its discriminant is not kept. -/
def VariantItem.ofTokens? (tokens : List Token) : Option VariantItem :=
  let (attributes, rest) := takeAttributes tokens
  match skipVisibility rest with
  | .word identifier :: .group .curly inside :: _ =>
    (Fields.ofBraces? inside).map fun fields => ⟨attributes, identifier, fields⟩
  | .word identifier :: .group .round inside :: _ =>
    some ⟨attributes, identifier, .ofParens inside⟩
  | .word identifier :: _ => some ⟨attributes, identifier, .unit⟩
  | _ => none

/-! ## Generic parameters -/

/-- A parameter of an item. -/
inductive GenericParam where
  | lifetime (attributes : List Attribute) (name : String) (bounds : List Token)
  | type (attributes : List Attribute) (name : String) (bounds : List Token)
  | const (attributes : List Attribute) (name : String) (valueType : List Token)

namespace GenericParam

/-- Whether a parameter is a lifetime. -/
def isLifetime : GenericParam → Bool
  | lifetime .. => true
  | _ => false

/-- What stands before a default. -/
def beforeDefault (tokens : List Token) : List Token :=
  (spanOuter (fun token => token matches .mark '=') 0 tokens).1

/-- A parameter from its tokens.  Its default is not kept. -/
def ofTokens? (tokens : List Token) : Option GenericParam :=
  let (attributes, rest) := takeAttributes tokens
  match rest with
  | [.mark '\'', .word name] => some (lifetime attributes name [])
  | .mark '\'' :: .word name :: .mark ':' :: bounds => some (lifetime attributes name bounds)
  | .word "const" :: .word name :: .mark ':' :: rest =>
    some (const attributes name (beforeDefault rest))
  | .word name :: .mark ':' :: rest => some (type attributes name (beforeDefault rest))
  | [.word name] | .word name :: .mark '=' :: _ => some (type attributes name [])
  | _ => none

/-- Bounds with their colon, if there are any. -/
def bounded (bounds : List Token) : List Token := if bounds.isEmpty then [] else .mark ':' :: bounds

/-- A parameter as it is declared, without its default. -/
def declaration : GenericParam → List Token
  | lifetime attributes name bounds =>
    attributes.flatMap Attribute.tokens ++ [.mark '\'', .word name] ++ bounded bounds
  | type attributes name bounds =>
    attributes.flatMap Attribute.tokens ++ [.word name] ++ bounded bounds
  | const attributes name valueType =>
    attributes.flatMap Attribute.tokens ++ [.word "const", .word name, .mark ':'] ++ valueType

/-- A parameter as it is handed to the item. -/
def argument : GenericParam → List Token
  | lifetime _ name _ => [.mark '\'', .word name]
  | type _ name _ | const _ name _ => [.word name]

end GenericParam

/-- The generic parameters of an item, each with whether a comma follows, and its condition. -/
structure Generics where
  params : List (GenericParam × Bool)
  /-- The condition with its `where`, or nothing. -/
  condition : List Token

namespace Generics

/-- The parameters between angle brackets, each written by `write`: the lifetimes first, separated
from the others, and with the commas that were there. -/
def listed (write : GenericParam → List Token) (g : Generics) : List Token :=
  let element (param : GenericParam) (comma : Bool) :=
    write param ++ if comma then [.mark ','] else []
  let (lifetimes, others) := g.params.partition (·.1.isLifetime)
  if g.params.isEmpty then []
  else
    [.mark '<'] ++
      lifetimes.flatMap (fun (param, comma) => element param (comma || !others.isEmpty)) ++
      others.flatMap (fun (param, comma) => element param comma) ++ [.mark '>']

/-- The parameters as an implementation declares them. -/
def declaration : Generics → List Token := listed GenericParam.declaration

/-- The arguments that make the item's type. -/
def arguments : Generics → List Token := listed GenericParam.argument

end Generics

/-- The parameters in front, and what follows them. -/
def takeParams? : List Token → Option (List (GenericParam × Bool) × List Token)
  | .mark '<' :: rest =>
    match spanOuter (fun token => token matches .mark '>') 0 rest with
    | (inside, .mark '>' :: rest) => do
      let params ← (withCommas (splitOuter 0 inside)).mapM fun (piece, comma) =>
        (GenericParam.ofTokens? piece).map (·, comma)
      return (params, rest)
    | _ => none
  | rest => some ([], rest)

/-- The condition in front, and what follows it: the body in braces, or a semicolon.  A condition
that says nothing is none. -/
def takeCondition : List Token → List Token × List Token
  | .word "where" :: rest =>
    let (predicates, rest) :=
      spanOuter (fun token => token matches .group .curly _ | .mark ';') 0 rest
    (if predicates.isEmpty then [] else .word "where" :: predicates, rest)
  | rest => ([], rest)

/-! ## Items -/

/-- What an item is. -/
inductive Body where
  | struct (fields : Fields)
  | enumeration (variants : List VariantItem)
  | union

/-- An item. -/
structure Item where
  attributes : List Attribute
  identifier : String
  generics : Generics
  body : Body

namespace Item

/-- The rest of a struct after its parameters: its condition and its fields. -/
def structRest? (rest : List Token) : Option (List Token × Fields) :=
  match takeCondition rest with
  | (condition, [.group .curly inside]) => (Fields.ofBraces? inside).map (condition, ·)
  | (condition, [.mark ';']) => some (condition, .unit)
  | ([], .group .round inside :: rest) =>
    match takeCondition rest with
    | (condition, [.mark ';']) => some (condition, .ofParens inside)
    | _ => none
  | _ => none

/-- An item from its tokens. -/
def ofTokens? (tokens : List Token) : Option Item := do
  let (attributes, rest) := takeAttributes tokens
  match skipVisibility rest with
  | .word "struct" :: .word identifier :: rest =>
    let (params, rest) ← takeParams? rest
    let (condition, fields) ← structRest? rest
    return ⟨attributes, identifier, ⟨params, condition⟩, .struct fields⟩
  | .word "enum" :: .word identifier :: rest =>
    let (params, rest) ← takeParams? rest
    match takeCondition rest with
    | (condition, [.group .curly inside]) =>
      let variants ← (elements (splitCommas inside)).mapM VariantItem.ofTokens?
      return ⟨attributes, identifier, ⟨params, condition⟩, .enumeration variants⟩
    | _ => none
  | .word "union" :: .word identifier :: rest =>
    let (params, rest) ← takeParams? rest
    match takeCondition rest with
    | (condition, [.group .curly _]) =>
      return ⟨attributes, identifier, ⟨params, condition⟩, .union⟩
    | _ => none
  | _ => none

/-- The item that a text declares. -/
def ofString? (text : String) : Option Item := (Token.ofString? text).bind ofTokens?

end Item

end CloudDirector.Derive
