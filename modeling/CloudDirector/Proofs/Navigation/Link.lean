import CloudDirector.Proofs.Catalog.Builtin
import CloudDirector.Proofs.Json.DistinctKeys
import CloudDirector.Proofs.Navigation.Attributes
import CloudDirector.Proofs.Payload.Soundness

/-!
# Links of entries

An entry in the list of links of a body becomes a link in two ways: the record that it is decoded as
is read by the wire keys of its fields, or its members are read as they are.  Both set attributes
one after another, so both give the link that the texts of the entry spell, or none if these do not
say where it leads.
-/

namespace CloudDirector

/-- The text in a member. -/
def Json.text? (j : Json) (key : String) : Option String := (j.member? key).bind Json.string?

/-- The entry says where it leads. -/
def Json.leads (j : Json) : Bool := (j.text? "href").any fun href => !href.isEmpty

namespace Link

/-- The link that the texts of an entry spell. -/
structure Spells (j : Json) (l : Link) : Prop where
  href : l.href = (j.text? "href").getD ""
  rel : l.rel = ((j.text? "rel").map Text.words).getD []
  mediaType : l.mediaType = j.text? "type"
  name : l.name = j.text? "name"
  id : l.attribute? "id" = j.text? "id"
  model : l.attribute? "model" = j.text? "model"

/-- Two links that agree on all that a declared link has fields for. -/
structure Alike (l m : Link) : Prop where
  href : l.href = m.href
  rel : l.rel = m.rel
  mediaType : l.mediaType = m.mediaType
  name : l.name = m.name
  id : l.attribute? "id" = m.attribute? "id"
  model : l.attribute? "model" = m.attribute? "model"

lemma Spells.alike {j : Json} {l m : Link} (hl : Spells j l) (hm : Spells j m) : Alike l m where
  href := hl.href.trans hm.href.symm
  rel := hl.rel.trans hm.rel.symm
  mediaType := hl.mediaType.trans hm.mediaType.symm
  name := hl.name.trans hm.name.symm
  id := hl.id.trans hm.id.symm
  model := hl.model.trans hm.model.symm

/-! ## From attributes -/

/-- Pairs whose last values are the texts of an entry make the link that it spells. -/
lemma spells_setAttributes {j : Json} {pairs : List (String × String)}
    (h : ∀ key ∈ Builtin.linkKeys, Members.get? pairs.reverse key = j.text? key) :
    Spells j (setAttributes {} pairs) where
  href := by
    rw [get_setAttributes Link.href "href" id (fun _ _ => rfl) href_setAttribute_of_ne,
      h "href" (by decide), Option.map_id, id]
  rel := by
    rw [get_setAttributes Link.rel "rel" Text.words (fun _ _ => rfl) rel_setAttribute_of_ne,
      h "rel" (by decide)]
  mediaType := by
    rw [get?_setAttributes Link.mediaType "type" (fun _ _ => rfl) mediaType_setAttribute_of_ne,
      h "type" (by decide), Option.or_none]
  name := by
    rw [get?_setAttributes Link.name "name" (fun _ _ => rfl) name_setAttribute_of_ne,
      h "name" (by decide), Option.or_none]
  id := by
    rw [get?_setAttributes (attribute? · "id") "id" (fun _ _ => Members.get?_insert_self ..)
      fun l key value hne => attributes_setAttribute_of_ne l key value hne, h "id" (by decide)]
    exact Option.or_none
  model := by
    rw [get?_setAttributes (attribute? · "model") "model" (fun _ _ => Members.get?_insert_self ..)
      fun l key value hne => attributes_setAttribute_of_ne l key value hne, h "model" (by decide)]
    exact Option.or_none

/-- What becomes of an entry: no link if it leads nowhere, and else the one that it spells. -/
def ComesOf (j : Json) (found : Option Link) : Prop :=
  (j.leads = false ∧ found = none) ∨ (j.leads = true ∧ ∃ l, found = some l ∧ Spells j l)

lemma comesOf_ofAttributes? {j : Json} {pairs : List (String × String)}
    (h : ∀ key ∈ Builtin.linkKeys, Members.get? pairs.reverse key = j.text? key) :
    ComesOf j (ofAttributes? pairs) := by
  have hspells := spells_setAttributes h
  -- without an address, and with an empty one, the link that is made has an empty one
  have hleads : j.leads = !(setAttributes {} pairs).href.isEmpty := by
    rw [Json.leads, hspells.href]
    cases j.text? "href" with
    | none => rfl
    | some href => rfl
  rw [ComesOf, ofAttributes?, hleads]
  cases (setAttributes {} pairs).href.isEmpty with
  | true => exact Or.inl ⟨rfl, rfl⟩
  | false => exact Or.inr ⟨rfl, _, rfl, hspells⟩

/-! ## Entries that are decoded -/

section Texts

variable {reg : Registry} {typeName : String} {members : List (String × Json)}
  {specs : List (String × FieldSpec)} {fields : List (String × Value)}

/-- A field for a text is set to the text of its member, and the member has no other text that an
attribute may have. -/
lemma text_of_decodeMember {field : String × FieldSpec} {found : Option (String × Value)}
    (hshape : field.2.shape = .scalar .string) (hnullable : field.2.nullable = false)
    (h : Payload.decodeMember reg typeName field members = .ok found) :
    found = (((Json.object members).text? field.2.wireKey).map fun s => (field.1, .string s)) ∧
      (Members.get? members field.2.wireKey).bind Json.attributeText? =
        (Json.object members).text? field.2.wireKey := by
  have htext : (Json.object members).text? field.2.wireKey =
      (Members.get? members field.2.wireKey).bind Json.string? := rfl
  rw [htext]
  rcases Payload.decodeMember_cases h with ⟨hget, rfl⟩ | ⟨hget, rfl⟩ | ⟨j, v, hget, -, hdecode, rfl⟩
  · rw [hget]
    exact ⟨rfl, rfl⟩
  · rw [hget, hnullable]
    exact ⟨rfl, rfl⟩
  · rw [hshape] at hdecode
    cases Payload.decoded_of_decode hdecode with
    | scalar _ hscalar =>
      obtain ⟨s, hs, rfl⟩ := Result.map_eq_ok.1 hscalar
      have hj : j = .string s := by
        cases j with
        | string s' =>
          cases hs
          rfl
        | _ => cases hs
      subst hj
      rw [hget]
      exact ⟨rfl, rfl⟩
    | record hexpects => cases hexpects

variable (htexts : ∀ field ∈ specs, field.2.shape = .scalar .string ∧ field.2.nullable = false)
  (hkeys : specs.map (fun field => field.2.wireKey) = Builtin.linkKeys)
  (hwalk : gather (fun field => Payload.decodeMember reg typeName field members) specs = .ok fields)

include htexts hkeys hwalk

/-- A record whose fields are the texts of an entry gives the link of the entry. -/
lemma comesOf_ofRecord? (hspecs : reg.resolvedFields typeName = .ok specs) :
    ComesOf (.object members) (ofRecord? reg ⟨typeName, fields⟩) := by
  have hnames := Registry.nodup_keys_resolvedFields hspecs
  have hwire : (specs.map fun field => field.2.wireKey).Nodup := by
    rw [hkeys]
    decide
  obtain ⟨found, hfound, rfl⟩ := exists_of_gather_eq_ok hwalk
  -- each field contributes the text of its member under the key of the member
  let text (field : String × FieldSpec) : Option (String × String) :=
    ((Json.object members).text? field.2.wireKey).map fun s => (field.2.wireKey, s)
  have hpairs : ((specs.filterMap found).filterMap fun m => m.2.attributeText?.map fun text =>
      (((Members.get? specs m.1).map FieldSpec.wireKey).getD m.1, text)) =
        specs.filterMap text := by
    rw [List.filterMap_filterMap]
    refine List.filterMap_congr fun field hfield => ?_
    obtain ⟨hshape, hnullable⟩ := htexts field hfield
    rw [(text_of_decodeMember hshape hnullable (hfound field hfield)).1]
    have hget : Members.get? specs field.1 = some field.2 :=
      Members.get?_eq_some_of_mem hnames hfield
    cases htext : (Json.object members).text? field.2.wireKey with
    | none => simp only [text, htext, Option.map_none, Option.bind_none]
    | some s =>
      simp only [text, htext, Option.map_some, Option.bind_some, Value.attributeText?, hget,
        Option.getD_some]
  have hfst : ∀ field ∈ specs, ∀ m, text field = some m → m.1 = field.2.wireKey := by
    intro field _ m hm
    obtain ⟨s, -, rfl⟩ := Option.map_eq_some_iff.1 hm
    rfl
  rw [ofRecord?, hspecs]
  simp only
  rw [hpairs]
  refine comesOf_ofAttributes? fun key hkey => ?_
  rw [← hkeys] at hkey
  obtain ⟨field, hfield, rfl⟩ := List.mem_map.1 hkey
  have hnodup := Members.nodup_keys_filterMap hfst hwire
  rw [← Members.get?_perm (List.reverse_perm _).symm hnodup,
    Members.get?_filterMap hfst hwire hfield, Option.map_map]
  exact Option.map_id'

/-- The members of an entry whose texts are the fields of a record give the link of the entry. -/
lemma comesOf_ofJson? (hdistinct : (Json.object members).DistinctKeys) :
    ComesOf (.object members) (ofJson? (.object members)) := by
  cases hdistinct with
  | object hnodup _ =>
    obtain ⟨found, hfound, -⟩ := exists_of_gather_eq_ok hwalk
    have hpairs : (Members.keys (members.filterMap fun m =>
        m.2.attributeText?.map fun text => (m.1, text))).Nodup := by
      refine Members.nodup_keys_filterMap (fun m _ n hn => ?_) hnodup
      obtain ⟨text, -, rfl⟩ := Option.map_eq_some_iff.1 hn
      rfl
    refine comesOf_ofAttributes? fun key hkey => ?_
    rw [← hkeys] at hkey
    obtain ⟨field, hfield, rfl⟩ := List.mem_map.1 hkey
    obtain ⟨hshape, hnullable⟩ := htexts field hfield
    rw [← Members.get?_perm (List.reverse_perm _).symm hpairs, Members.get?_filterMap_snd hnodup]
    exact (text_of_decodeMember hshape hnullable (hfound field hfield)).2

end Texts

/-! ## Declared links -/

/-- The link of a value, which may be a record of a link. -/
def ofValue? (reg : Registry) (v : Value) : Option Link :=
  v.record?.bind fun r =>
    if reg.isDescendant r.typeName "Link" then ofRecord? reg r else none

lemma ofValue?_link (reg : Registry) (fields : List (String × Value)) :
    ofValue? reg (.record "Link" fields) = ofRecord? reg ⟨"Link", fields⟩ := by
  have hself : reg.isDescendant "Link" "Link" = true := by
    rw [Registry.isDescendant, Registry.reaches, beq_self_eq_true, Bool.true_or]
  simp only [ofValue?, Value.record?, Option.bind_some, hself, if_true]

/-- An entry that can be decoded as a link becomes the same link whether it is decoded or not. -/
lemma comesOf_of_decode {j : Json} {found : Option Value} (hdistinct : j.DistinctKeys)
    (h : Payload.decode Builtin.registry j (.named "Link") = .ok found) :
    ComesOf j (ofJson? j) ∧ ComesOf j (ofValue? Builtin.registry (found.getD .null)) := by
  cases found with
  | none =>
    obtain rfl := Json.eq_null_of_isNull (Payload.isNull_of_decode_eq_none h)
    exact ⟨Or.inl ⟨rfl, rfl⟩, Or.inl ⟨rfl, rfl⟩⟩
  | some v =>
    have hmem : Builtin.link ∈ Builtin.models.models := by simp [Builtin.models]
    obtain ⟨members, specs, fields, hspecs, hwalk, rfl, rfl⟩ :=
      Builtin.exists_record_of_decode Builtin.link hmem rfl h rfl
    obtain ⟨htexts, hkeys⟩ := Builtin.fields_link hspecs
    refine ⟨comesOf_ofJson? htexts hkeys hwalk hdistinct, ?_⟩
    rw [Option.getD_some, ofValue?_link]
    exact comesOf_ofRecord? htexts hkeys hwalk hspecs

end Link

end CloudDirector
