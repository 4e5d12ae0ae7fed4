import CloudDirector.Log.Notice
import CloudDirector.Payload.Decode

/-!
# What decoding tells

While a payload is decoded, notices tell of texts that an enumeration does not map, of types that
were narrowed down, and of members that a schema does not declare.  They come in the order of the
decoding and end where it fails.
-/

namespace CloudDirector.Payload

/-- The notices of decoding the text of a constant. -/
def enumNotices (j : Json) (entry : EnumEntry) : List Notice :=
  match j.string? with
  | some text => if (entry.constant? text).isSome then [] else [.unmappedText]
  | none => []

/-- The notices of items decoded one after another, up to the first that fails, and whether none
failed. -/
def gatherNotices {α β : Type} (decodeOne : α → Result β) (notices : α → List Notice) :
    List α → List Notice × Bool
  | [] => ([], true)
  | a :: rest =>
    match decodeOne a with
    | .error _ => (notices a, false)
    | .ok _ =>
      let (more, complete) := gatherNotices decodeOne notices rest
      (notices a ++ more, complete)

/-- The notices of members that no field is decoded from. -/
def undeclaredNotices (fields : List (String × FieldSpec)) (members : List (String × Json)) :
    List Notice :=
  (members.filter fun (key, _) =>
    key ≠ discriminatorKey ∧ fields.all fun (_, spec) => spec.wireKey ≠ key).map fun _ =>
      .undeclaredMember

mutual

/-- The notices of decoding a payload as a shape. -/
def notices (reg : Registry) (j : Json) (shape : Descriptor) : List Notice :=
  if j.isNull then []
  else match plan reg j shape with
    | .error _ => []
    | .ok (.scalar _) => []
    | .ok (.enum entry) => enumNotices j entry
    | .ok (.list element) =>
      match j with
      | .array items => itemNotices reg element items
      | _ => []
    | .ok (.map element) =>
      match j with
      | .object members => entryNotices reg element members
      | _ => []
    | .ok (.record s) =>
      (if shape.reference? = some s.typeName then [] else [.narrowedType]) ++
        match j with
        | .object members =>
          match reg.resolvedFields s.typeName with
          | .error _ => []
          | .ok fields =>
            let (told, complete) := gatherNotices
              (fun field => decodeMember reg s.typeName field members)
              (fun field => memberNotices reg field members) fields
            told ++ if complete then undeclaredNotices fields members else []
        | _ => []

/-- The notices of decoding the items of an array. -/
def itemNotices (reg : Registry) (element : Descriptor) : List Json → List Notice
  | [] => []
  | j :: rest =>
    notices reg j element ++
      match decode reg j element with
      | .ok _ => itemNotices reg element rest
      | .error _ => []

/-- The notices of decoding the members of an object as values of a map. -/
def entryNotices (reg : Registry) (element : Descriptor) : List (String × Json) → List Notice
  | [] => []
  | (_, j) :: rest =>
    notices reg j element ++
      match decode reg j element with
      | .ok _ => entryNotices reg element rest
      | .error _ => []

/-- The notices of decoding the member of a field. -/
def memberNotices (reg : Registry) (field : String × FieldSpec) : List (String × Json) → List Notice
  | [] => []
  | (key, j) :: rest =>
    if key = field.2.wireKey then notices reg j field.2.shape else memberNotices reg field rest

end

/-- The notices of decoding a payload as the shape that an expression names. -/
def noticesAs (reg : Registry) (j : Json) (expression : String) : List Notice :=
  match Expression.parse expression with
  | .ok (.decode shape) =>
    if shape.reference?.all fun reference => reg.isRegistered reference then notices reg j shape
    else []
  | _ => []

end CloudDirector.Payload
