import CloudDirector.Catalog.Registry

/-!
# Validation of registries

A registry is valid when every parent is a registered schema, every type that a field refers to is
registered, no field is a polymorphic reference to an enumeration, and inheritance stays within its
limit, so that no type is its own ancestor.
-/

namespace CloudDirector

namespace Schema

/-- The parents of a schema that are no registered schemas, as messages name them. -/
def unresolvedParents (reg : Registry) (s : Schema) : List String :=
  s.parents.filterMap fun parent =>
    match reg.lookup? parent with
    | some (.schema _) => none
    | _ => some s!"{parent} (parent of {s.typeName})"

/-- What does not resolve in a field, as messages name it. -/
def unresolvedField (reg : Registry) (s : Schema) (name : String) (spec : FieldSpec) :
    List String :=
  (match spec.shape.reference? with
    | some reference =>
      if reg.isRegistered reference then []
      else [s!"{reference} (field `{name}` of {s.typeName})"]
    | none => []) ++
  (match spec.shape with
    | .polymorphic base =>
      if (reg.enum? base).isSome then [s!"{base} (enum used as polymorphic base)"] else []
    | _ => [])

/-- What does not resolve in a schema, as messages name it. -/
def unresolved (reg : Registry) (s : Schema) : List String :=
  s.unresolvedParents reg ++ s.fields.flatMap fun (name, spec) => s.unresolvedField reg name spec

end Schema

namespace Registry

/-- Drops an item that repeats the one before it. -/
def dropRepeats : List String → List String
  | [] => []
  | [x] => [x]
  | x :: y :: rest => if x = y then dropRepeats (y :: rest) else x :: dropRepeats (y :: rest)

/-- What does not resolve in a registry, in order and once each. -/
def unresolved (reg : Registry) : List String :=
  dropRepeats ((reg.schemas.flatMap (Schema.unresolved reg)).mergeSort fun s t => decide (s ≤ t))

/-- Checks that a registry is valid. -/
def validate (reg : Registry) : Result Unit :=
  match reg.unresolved with
  | [] => reg.schemas.forM fun s => (reg.resolvedFields s.typeName).map fun _ => ()
  | references => .failSetup (.unresolved references)

/-- The valid registry that the entries make, one after another. -/
def build (reg : Registry) (entries : List Entry) : Result Registry := do
  let reg ← reg.registerAll entries
  reg.validate
  return reg

end Registry

end CloudDirector
