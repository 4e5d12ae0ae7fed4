import CloudDirector.Payload.Decode

/-!
# Values as payloads

A record is written in the order of its fields, each under its wire key.  A field that is not set
is left out, and null is written only where the schema says that it means something.  A record of
a derived type where its base is declared carries its discriminator.
-/

namespace CloudDirector.Payload

/-- The members of a record's object.  `member` gives the member of a field, if there is one. -/
def recordMembers (reg : Registry) (typeName : String) (fields : List (String × Value))
    (member : String × FieldSpec → Result (Option (String × Json))) :
    Result (List (String × Json)) :=
  match reg.resolvedFields typeName with
  | .error r => .error r
  | .ok specs =>
    match fields.find? fun (name, _) => !Members.contains specs name with
    | some (name, _) => .failSetup (.undeclaredField typeName name)
    | none => (gather member specs).map Members.ofPairs

/-- The object of a record in a place where a type is declared. -/
def withDiscriminator (reg : Registry) (typeName declared : String)
    (members : List (String × Json)) : Result Json :=
  if typeName = declared then .ok (.object members)
  else match reg.schema typeName with
    | .error r => .error r
    | .ok s =>
      .ok (.object (Members.insert members discriminatorKey (.string s.discriminatorValue)))

mutual

/-- A value as a payload of a declared shape.  Where any JSON is declared, a value is written by
its own kind, and so are the parts of a list or a map there. -/
def encode (reg : Registry) (value : Value) (shape : Descriptor) : Result Json :=
  if value.isNull then .ok .null
  else match shape with
    | .scalar .json =>
      match value with
      | .enum e =>
        match reg.enum? e.typeName with
        | some entry => encodeEnum e entry
        | none => .fail (.notRegistered e.typeName)
      | .list items => (encodeItems reg (.scalar .json) 0 items).map .array
      | .map entries => (encodeEntries reg (.scalar .json) entries).map .object
      | .record typeName fields =>
        (recordMembers reg typeName fields fun field =>
          encodeMember reg typeName field fields).map .object
      | value => encodeScalar value .json
    | .scalar kind => encodeScalar value kind
    | .list element =>
      match value with
      | .list items => (encodeItems reg element 0 items).map .array
      | _ => .failValue (.shapeNotEncodable shape value.kindName)
    | .map element =>
      match value with
      | .map entries => (encodeEntries reg element entries).map .object
      | _ => .failValue (.shapeNotEncodable shape value.kindName)
    | .named declared | .polymorphic declared =>
      match reg.lookup? declared with
      | none => .fail (.notRegistered declared)
      | some (.enum entry) =>
        match value with
        | .enum e => encodeEnum e entry
        | .string text => .ok (.string text)
        | _ => .failValue (.shapeNotEncodable shape value.kindName)
      | some (.schema _) =>
        match value with
        | .record typeName fields =>
          if reg.isDescendant typeName declared then
            match recordMembers reg typeName fields fun field =>
                encodeMember reg typeName field fields with
            | .error r => .error r
            | .ok members => withDiscriminator reg typeName declared members
          else .failSetup (.wrongRecord typeName declared)
        | .map entries => (encodeEntries reg (.scalar .json) entries).map .object
        | .json j => .ok j
        | _ => .failValue (.shapeNotEncodable shape value.kindName)

/-- The items of a list, those after the first `i`, as payloads of a shape. -/
def encodeItems (reg : Registry) (element : Descriptor) (i : Nat) :
    List Value → Result (List Json)
  | [] => .ok []
  | v :: rest =>
    match (encode reg v element).passing (.listIndex i) with
    | .error r => .error r
    | .ok j => (encodeItems reg element (i + 1) rest).map fun js => j :: js

/-- The entries of a map as payloads of a shape. -/
def encodeEntries (reg : Registry) (element : Descriptor) :
    List (String × Value) → Result (List (String × Json))
  | [] => .ok []
  | (key, v) :: rest =>
    match (encode reg v element).passing (.mapKey key) with
    | .error r => .error r
    | .ok j => (encodeEntries reg element rest).map fun js => (key, j) :: js

/-- The member of a record's object that one of the fields is written as, if it is written. -/
def encodeMember (reg : Registry) (typeName : String) (field : String × FieldSpec) :
    List (String × Value) → Result (Option (String × Json))
  | [] => .ok none
  | (name, v) :: rest =>
    if name = field.1 then
      if v.isNull then .ok (if field.2.nullable then some (field.2.wireKey, .null) else none)
      else
        ((encode reg v field.2.shape).passing (.field typeName field.1)).map fun j =>
          some (field.2.wireKey, j)
    else encodeMember reg typeName field rest

end

/-- A value by its own kind. -/
def encodeValue (reg : Registry) (value : Value) : Result Json := encode reg value (.scalar .json)

/-- A record as an object. -/
def encodeRecord (reg : Registry) (r : Record) : Result Json := encodeValue reg (.ofRecord r)

end CloudDirector.Payload
