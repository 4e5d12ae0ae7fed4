import CloudDirector.Catalog.Registry
import CloudDirector.Payload.Scalar
import CloudDirector.Shape.Expression

/-!
# Payloads as values

Decoding goes by the shape that is expected.  A polymorphic reference reads the discriminator of
the payload and goes on with the type that it selects.  Members that a schema does not declare are
left out; a declared member that cannot be decoded makes the whole decoding fail, with the places
on the way to it.
-/

namespace CloudDirector

/-- The member of an object that names its type. -/
def discriminatorKey : String := "_type"

/-- The results of a function on the items of a list where it gives one, up to the first failure. -/
def gather {α β : Type} (f : α → Result (Option β)) : List α → Result (List β)
  | [] => .ok []
  | a :: rest =>
    match f a with
    | .error r => .error r
    | .ok found =>
      match gather f rest with
      | .error r => .error r
      | .ok bs => .ok (found.toList ++ bs)

namespace Payload

/-- How a value is decoded, once the types that its shape names have been looked up. -/
inductive Plan where
  | list (element : Descriptor)
  | map (element : Descriptor)
  | scalar (kind : Kind)
  | enum (entry : EnumEntry)
  | record (schema : Schema)

/-- The schema of a payload where a polymorphic type is expected: the one that its discriminator
selects, or the expected one. -/
def concreteSchema (reg : Registry) (j : Json) (base : Schema) : Result Schema :=
  match (j.member? discriminatorKey).bind Json.string? with
  | some value =>
    if value = base.discriminatorValue then .ok base
    else reg.resolveDiscriminator base.typeName value
  | none => .ok base

/-- How a payload is decoded as a shape. -/
def plan (reg : Registry) (j : Json) : Descriptor → Result Plan
  | .list element => .ok (.list element)
  | .map element => .ok (.map element)
  | .scalar kind => .ok (.scalar kind)
  | .named typeName =>
    match reg.lookup? typeName with
    | none => .fail (.notRegistered typeName)
    | some (.enum entry) => .ok (.enum entry)
    | some (.schema s) =>
      if s.polymorphic then (concreteSchema reg j s).map .record else .ok (.record s)
  | .polymorphic base =>
    match reg.schema base with
    | .error r => .error r
    | .ok s => (concreteSchema reg j s).map .record

mutual

/-- A payload as a value of a shape; null is no value. -/
def decode (reg : Registry) (j : Json) (shape : Descriptor) : Result (Option Value) :=
  if j.isNull then .ok none
  else match plan reg j shape with
    | .error r => .error r
    | .ok (.list element) =>
      match j with
      | .array items => (decodeItems reg element 0 items).map fun vs => some (.list vs)
      | _ => .failValue (.wrongShape shape j.kindName)
    | .ok (.map element) =>
      match j with
      | .object members => (decodeEntries reg element members).map fun vs => some (.map vs)
      | _ => .failValue (.wrongShape shape j.kindName)
    | .ok (.scalar kind) => (decodeScalar j kind).map some
    | .ok (.enum entry) => (decodeEnum j entry).map fun e => some (.enum e)
    | .ok (.record s) =>
      match j with
      | .object members =>
        match reg.resolvedFields s.typeName with
        | .error r => .error r
        | .ok fields =>
          (gather (fun field => decodeMember reg s.typeName field members) fields).map fun vs =>
            some (.record s.typeName vs)
      | _ => .failValue (.notObject s.typeName j.kindName)

/-- The items of an array, those after the first `i`, as values of a shape. -/
def decodeItems (reg : Registry) (element : Descriptor) (i : Nat) :
    List Json → Result (List Value)
  | [] => .ok []
  | j :: rest =>
    match (decode reg j element).passing (.listIndex i) with
    | .error r => .error r
    | .ok v => (decodeItems reg element (i + 1) rest).map fun vs => v.getD .null :: vs

/-- The members of an object as values of a shape. -/
def decodeEntries (reg : Registry) (element : Descriptor) :
    List (String × Json) → Result (List (String × Value))
  | [] => .ok []
  | (key, j) :: rest =>
    match (decode reg j element).passing (.mapKey key) with
    | .error r => .error r
    | .ok v => (decodeEntries reg element rest).map fun vs => (key, v.getD .null) :: vs

/-- The field of a record that one of the members is decoded into, if there is a value for it. -/
def decodeMember (reg : Registry) (typeName : String) (field : String × FieldSpec) :
    List (String × Json) → Result (Option (String × Value))
  | [] => .ok none
  | (key, j) :: rest =>
    if key = field.2.wireKey then
      if j.isNull then .ok (if field.2.nullable then some (field.1, .null) else none)
      else
        ((decode reg j field.2.shape).passing
          (.wireField typeName field.1 field.2.wireKey)).map fun v => v.map fun v => (field.1, v)
    else decodeMember reg typeName field rest

end

/-- A record of the schema's type, read from an object field by field. -/
def decodeRecord (reg : Registry) (j : Json) (s : Schema) : Result Record :=
  match j with
  | .object members =>
    match reg.resolvedFields s.typeName with
    | .error r => .error r
    | .ok specs =>
      (gather (fun field => decodeMember reg s.typeName field members) specs).map fun fields =>
        ⟨s.typeName, fields⟩
  | _ => .failValue (.notObject s.typeName j.kindName)

/-- A payload as a value of a target.  A target that names an unknown type is refused whatever the
payload holds. -/
def decodeTarget (reg : Registry) (j : Json) : Target → Result (Option Value)
  | .file => .failSetup .fileTarget
  | .decode shape =>
    match shape.reference? with
    | some reference =>
      if reg.isRegistered reference then decode reg j shape else .fail (.notRegistered reference)
    | none => decode reg j shape

/-- A payload as a value of the shape that an expression names. -/
def decodeAs (reg : Registry) (j : Json) (expression : String) : Result (Option Value) :=
  match Expression.parse expression with
  | .error r => .error r
  | .ok target => decodeTarget reg j target

end Payload

end CloudDirector
