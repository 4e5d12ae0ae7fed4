import CloudDirector.Catalog.Registry
import CloudDirector.Json.Printer
import CloudDirector.Text.Blank
import CloudDirector.Value.Basic

/-!
# Links

A link leads from a response to a related resource or action.  It is made by setting attributes
one after another, whether they come from a decoded record, from JSON or from a header; four of
them have fields of their own, and the relation is a list of words.
-/

namespace CloudDirector

/-- A link to a related resource or action. -/
structure Link where
  href : String := ""
  /-- The words of the relation. -/
  rel : List String := []
  mediaType : Option String := none
  name : Option String := none
  /-- The attributes without a field of their own. -/
  attributes : List (String × String) := []
  deriving DecidableEq

namespace Link

/-- Sets an attribute. -/
def setAttribute (l : Link) (key value : String) : Link :=
  match key with
  | "href" => { l with href := value }
  | "rel" => { l with rel := Text.words value }
  | "type" => { l with mediaType := some value }
  | "name" => { l with name := some value }
  | _ => { l with attributes := Members.insert l.attributes key value }

/-- Sets attributes one after another. -/
def setAttributes (l : Link) (pairs : List (String × String)) : Link :=
  pairs.foldl (fun l (key, value) => l.setAttribute key value) l

/-- Whether a word is one of the relation. -/
def hasRel (l : Link) (rel : String) : Bool := l.rel.contains rel

/-- The value of an attribute; an empty relation is no value. -/
def attribute? (l : Link) (key : String) : Option String :=
  match key with
  | "href" => some l.href
  | "rel" => if l.rel.isEmpty then none else some (" ".intercalate l.rel)
  | "type" => l.mediaType
  | "name" => l.name
  | _ => Members.get? l.attributes key

/-- Whether an attribute is as asked for.  Of a relation each word must be one of the link. -/
def agrees (l : Link) (key value : String) : Bool :=
  if key = "rel" then (Text.words value).all l.hasRel else l.attribute? key == some value

/-- Whether a link has a relation and attributes as asked for. -/
def isMatch (l : Link) (rel : String) (asked : List (String × String)) : Bool :=
  l.hasRel rel && asked.all fun (key, value) => l.agrees key value

/-- The first link with a relation and attributes as asked for. -/
def first? (links : List Link) (rel : String) (asked : List (String × String)) : Option Link :=
  links.find? fun l => l.isMatch rel asked

/-- The link that attributes make, unless it leads nowhere. -/
def ofAttributes? (pairs : List (String × String)) : Option Link :=
  let l := setAttributes {} pairs
  if l.href.isEmpty then none else some l

end Link

/-! ## From records and JSON -/

/-- The text of a value that an attribute may have. -/
def Value.attributeText? : Value → Option String
  | string s => some s
  | int i => some (toString i.toInt)
  | bool b => some (toString b)
  | enum e => some e.constant.text
  | _ => none

/-- The text of JSON that an attribute may have. -/
def Json.attributeText? : Json → Option String
  | string s => some s
  | number n => some n.render
  | bool b => some (toString b)
  | _ => none

namespace Link

/-- The link of a record.  The attributes are named by the wire keys of the fields. -/
def ofRecord? (reg : Registry) (r : Record) : Option Link :=
  match reg.resolvedFields r.typeName with
  | .error _ => none
  | .ok specs => ofAttributes? <| r.fields.filterMap fun (name, value) =>
    value.attributeText?.map fun text =>
      (((Members.get? specs name).map FieldSpec.wireKey).getD name, text)

/-- The link of a JSON object. -/
def ofJson? (j : Json) : Option Link :=
  j.members?.bind fun members => ofAttributes? <| members.filterMap fun (key, value) =>
    value.attributeText?.map fun text => (key, text)

end Link

end CloudDirector
