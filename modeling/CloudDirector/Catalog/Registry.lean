import CloudDirector.Catalog.Schema

/-!
# Registries

A registry holds the entries by name, in the order in which they were registered, and an index from
discriminators to the types that they select.  A name keeps its first entry, and a discriminator its
first owner.  Fields and descent are read through the parents, up to a limit of steps.
-/

namespace CloudDirector

/-- The entries of all known types. -/
structure Registry where
  entries : List (String × Entry) := []
  /-- The type that each discriminator selects. -/
  discriminators : List (String × String) := []

namespace Registry

/-- The entry of a name. -/
def lookup? (reg : Registry) (typeName : String) : Option Entry :=
  Members.get? reg.entries typeName

/-- Whether a name has an entry. -/
def isRegistered (reg : Registry) (typeName : String) : Bool := (reg.lookup? typeName).isSome

/-- The schema of a name. -/
def schema (reg : Registry) (typeName : String) : Result Schema :=
  match reg.lookup? typeName with
  | some (.schema s) => .ok s
  | some (.enum _) => .failSetup (.notRecordType typeName)
  | none => .fail (.notRegistered typeName)

/-- The enumeration of a name. -/
def enum? (reg : Registry) (typeName : String) : Option EnumEntry :=
  match reg.lookup? typeName with
  | some (.enum e) => some e
  | _ => none

/-- The number of entries. -/
def size (reg : Registry) : Nat := reg.entries.length

/-- The names of all entries in order. -/
def typeNames (reg : Registry) : List String :=
  (Members.keys reg.entries).mergeSort fun s t => decide (s ≤ t)

/-- The schemas in the order of their registration. -/
def schemas (reg : Registry) : List Schema :=
  reg.entries.filterMap fun
    | (_, .schema s) => some s
    | _ => none

/-! ## Registering -/

/-- Adds an entry.  An entry that is there already changes nothing; another one under its name,
and a schema with the discriminator of another, are refused. -/
def register (reg : Registry) (entry : Entry) : Result Registry :=
  match entry with
  | .schema s =>
    match s.check with
    | .error r => .error r
    | .ok () =>
      match reg.lookup? s.typeName with
      | some existing =>
        if existing.same entry then .ok reg else .failSetup (.differentShape s.typeName)
      | none =>
        match Members.get? reg.discriminators s.discriminatorValue with
        | some owner => .failSetup (.sharedDiscriminator s.discriminatorValue s.typeName owner)
        | none => .ok {
            entries := reg.entries ++ [(s.typeName, entry)]
            discriminators := reg.discriminators ++ [(s.discriminatorValue, s.typeName)] }
  | .enum e =>
    match reg.lookup? e.typeName with
    | some existing =>
      if existing.same entry then .ok reg else .failSetup (.differentShape e.typeName)
    | none => .ok { reg with entries := reg.entries ++ [(e.typeName, entry)] }

/-- Adds entries one after another. -/
def registerAll (reg : Registry) : List Entry → Result Registry
  | [] => .ok reg
  | entry :: rest =>
    match reg.register entry with
    | .ok reg => registerAll reg rest
    | .error r => .error r

/-! ## Inheritance -/

/-- Sets the fields of a type over those given, ancestors first, along at most `steps` steps. -/
def collectFields (reg : Registry) :
    Nat → String → List (String × FieldSpec) → Result (List (String × FieldSpec))
  | 0, typeName, _ => .failSetup (.inheritance typeName)
  | steps + 1, typeName, fields =>
    match reg.schema typeName with
    | .error r => .error r
    | .ok s =>
      match s.parents.foldlM (fun acc parent => collectFields reg steps parent acc) fields with
      | .error r => .error r
      | .ok fields => .ok (Members.update fields s.fields)

/-- The fields of a type with those that it inherits.  A field that is declared again keeps its
place and takes the later declaration. -/
def resolvedFields (reg : Registry) (typeName : String) : Result (List (String × FieldSpec)) :=
  reg.collectFields (inheritanceLimit + 1) typeName []

/-- Whether at most `steps` steps lead from a type to an ancestor. -/
def reaches (reg : Registry) : Nat → String → String → Bool
  | 0, typeName, ancestor => typeName == ancestor
  | steps + 1, typeName, ancestor =>
    typeName == ancestor ||
      match reg.lookup? typeName with
      | some (.schema s) => s.parents.any fun parent => reaches reg steps parent ancestor
      | _ => false

/-- Whether a type is another one or derived from it. -/
def isDescendant (reg : Registry) (typeName ancestor : String) : Bool :=
  reg.reaches (inheritanceLimit + 1) typeName ancestor

/-- Whether the payload says which type derived from the given one a record has. -/
def isPolymorphic (reg : Registry) (typeName : String) : Bool :=
  match reg.lookup? typeName with
  | some (.schema s) => s.polymorphic
  | _ => false

/-- The schema that a discriminator selects where a base type is expected. -/
def resolveDiscriminator (reg : Registry) (base discriminator : String) : Result Schema :=
  match Members.get? reg.discriminators discriminator with
  | none =>
    .failSetup (.unregistered "discriminator" s!"`{discriminator}` (requested as `{base}`)")
  | some concrete =>
    if reg.isDescendant concrete base then reg.schema concrete
    else .failSetup (.notSubtype discriminator concrete base)

end Registry

end CloudDirector
