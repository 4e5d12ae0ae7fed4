import CloudDirector.Proofs.Payload.Faults

/-!
# Edits that decoding does not see

Servers add members to their objects and send members in any order.  Where an object is decoded as a
record, it is looked at under the discriminator's key and under the wire keys of the record's type
only, so that a member under another key and the order of the members make no difference: neither to
the value nor, if decoding fails, to the failure and its trail.  That is said of one edit, at any
depth, and then of any number of edits.
-/

namespace CloudDirector

/-- The fields of every type have wire keys that are different from each other. -/
def Registry.SeparatesWireKeys (reg : Registry) : Prop :=
  ∀ typeName specs, reg.resolvedFields typeName = .ok specs →
    (specs.map fun field => field.2.wireKey).Nodup

/-- The key is neither that of the discriminator nor the wire key of a field of the type. -/
def Registry.Ignores (reg : Registry) (typeName key : String) : Prop :=
  key ≠ discriminatorKey ∧ ∀ specs, reg.resolvedFields typeName = .ok specs →
    ∀ field ∈ specs, key ≠ field.2.wireKey

lemma Registry.separatesWireKeys_of_isValid {reg : Registry} (hreg : reg.IsValid)
    (hkeys : reg.DistinctWireKeys) : reg.SeparatesWireKeys := by
  intro typeName specs hspecs
  exact (List.nodup_cons.1 (Payload.nodup_wireKeys hreg hkeys hspecs)).2

lemma gather_congr {α β : Type} {f g : α → Result (Option β)} {xs : List α}
    (h : ∀ x ∈ xs, f x = g x) : gather f xs = gather g xs := by
  induction xs with
  | nil => rfl
  | cons x xs ih =>
    have hrest := ih fun y hy => h y (List.mem_cons_of_mem _ hy)
    rw [gather, gather, h x List.mem_cons_self, hrest]

namespace Payload

variable {reg : Registry} {shape element : Descriptor} {s : Schema} {j k : Json}
  {members members' : List (String × Json)}

/-! ## Edits -/

/-- The second payload is the first one with one edit in an object that is decoded as a record: a
member that the record's type ignores is inserted, or the members change their order.  Their keys
are different then, as in all JSON that is read. -/
inductive Edit (reg : Registry) : Descriptor → Json → Json → Prop
  | insert {shape : Descriptor} {before after : List (String × Json)} {s : Schema} {key : String}
      (planned : plan reg (.object (before ++ after)) shape = .ok (.record s))
      (ignored : reg.Ignores s.typeName key) (value : Json) :
      Edit reg shape (.object (before ++ after)) (.object (before ++ (key, value) :: after))
  | permute {shape : Descriptor} {members members' : List (String × Json)} {s : Schema}
      (planned : plan reg (.object members) shape = .ok (.record s))
      (distinct : (Members.keys members).Nodup) (order : members.Perm members') :
      Edit reg shape (.object members) (.object members')
  /-- The edit is in an item of a list. -/
  | item {element : Descriptor} {before after : List Json} {j k : Json}
      (edit : Edit reg element j k) :
      Edit reg (.list element) (.array (before ++ j :: after)) (.array (before ++ k :: after))
  /-- The edit is in an entry of a map. -/
  | entry {element : Descriptor} {before after : List (String × Json)} {key : String} {j k : Json}
      (edit : Edit reg element j k) :
      Edit reg (.map element) (.object (before ++ (key, j) :: after))
        (.object (before ++ (key, k) :: after))
  /-- The edit is in the member of a field. -/
  | field {shape : Descriptor} {before after : List (String × Json)} {s : Schema}
      {specs : List (String × FieldSpec)} {field : String × FieldSpec} {j k : Json}
      (planned : plan reg (.object (before ++ (field.2.wireKey, j) :: after)) shape =
        .ok (.record s))
      (resolved : reg.resolvedFields s.typeName = .ok specs) (declared : field ∈ specs)
      (edit : Edit reg field.2.shape j k) :
      Edit reg shape (.object (before ++ (field.2.wireKey, j) :: after))
        (.object (before ++ (field.2.wireKey, k) :: after))

lemma Edit.isNull (h : Edit reg shape j k) : j.isNull = false ∧ k.isNull = false := by
  cases h <;> exact ⟨rfl, rfl⟩

lemma Edit.string? (h : Edit reg shape j k) : j.string? = none ∧ k.string? = none := by
  cases h <;> exact ⟨rfl, rfl⟩

/-! ## What decoding looks at -/

lemma decode_array (items : List Json) (element : Descriptor) :
    decode reg (.array items) (.list element) =
      (decodeItems reg element 0 items).map fun vs => some (.list vs) := by
  rw [decode]
  rfl

lemma decode_entries (members : List (String × Json)) (element : Descriptor) :
    decode reg (.object members) (.map element) =
      (decodeEntries reg element members).map fun vs => some (.map vs) := by
  rw [decode]
  rfl

lemma decode_record (h : plan reg (.object members) shape = .ok (.record s)) :
    decode reg (.object members) shape =
      match reg.resolvedFields s.typeName with
      | .error r => .error r
      | .ok specs => (gather (fun field => decodeMember reg s.typeName field members) specs).map
          fun vs => some (.record s.typeName vs) := by
  rw [decode, h]
  rfl

/-- Planning looks at the text of the discriminator only. -/
lemma plan_congr (shape : Descriptor)
    (h : (Members.get? members' discriminatorKey).bind Json.string? =
      (Members.get? members discriminatorKey).bind Json.string?) :
    plan reg (.object members') shape = plan reg (.object members) shape := by
  have htext : ((Json.object members').member? discriminatorKey).bind Json.string? =
      ((Json.object members).member? discriminatorKey).bind Json.string? := h
  cases shape <;> simp only [plan, concreteSchema, htext]

/-- An object is decoded as a record by its plan and its fields. -/
lemma decode_record_congr (h : plan reg (.object members) shape = .ok (.record s))
    (hplan : plan reg (.object members') shape = plan reg (.object members) shape)
    (hfields : ∀ specs, reg.resolvedFields s.typeName = .ok specs → ∀ field ∈ specs,
      decodeMember reg s.typeName field members' = decodeMember reg s.typeName field members) :
    decode reg (.object members') shape = decode reg (.object members) shape := by
  rw [decode_record h, decode_record (hplan.trans h)]
  cases hspecs : reg.resolvedFields s.typeName with
  | error r => rfl
  | ok specs => simp only [gather_congr (hfields specs hspecs)]

/-- A field is decoded from what is found under its wire key. -/
lemma decodeMember_congr {typeName : String} {field : String × FieldSpec}
    (h : Members.get? members' field.2.wireKey = Members.get? members field.2.wireKey) :
    decodeMember reg typeName field members' = decodeMember reg typeName field members := by
  cases hget : Members.get? members field.2.wireKey with
  | none =>
    rw [hget] at h
    rw [decodeMember_of_get?_eq_none hget, decodeMember_of_get?_eq_none h]
  | some item =>
    rw [hget] at h
    rw [decodeMember_of_get?_eq_some hget, decodeMember_of_get?_eq_some h]

/-- Two objects in which the same is found under the keys that matter are decoded alike. -/
lemma decode_record_of_get? (h : plan reg (.object members) shape = .ok (.record s))
    (hget : ∀ key, ¬ reg.Ignores s.typeName key →
      Members.get? members' key = Members.get? members key) :
    decode reg (.object members') shape = decode reg (.object members) shape := by
  refine decode_record_congr h (plan_congr shape ?_) fun specs hspecs field hfield => ?_
  · rw [hget discriminatorKey fun hignores => hignores.1 rfl]
  · refine decodeMember_congr (hget field.2.wireKey fun hignores => ?_)
    exact hignores.2 specs hspecs field hfield rfl

lemma decodeItems_congr (h : decode reg k element = decode reg j element) (before after : List Json)
    (i : Nat) :
    decodeItems reg element i (before ++ k :: after) =
      decodeItems reg element i (before ++ j :: after) := by
  induction before generalizing i with
  | nil => simp only [List.nil_append, decodeItems, h]
  | cons item before ih => simp only [List.cons_append, decodeItems, ih]

lemma decodeEntries_congr (h : decode reg k element = decode reg j element)
    (before after : List (String × Json)) (key : String) :
    decodeEntries reg element (before ++ (key, k) :: after) =
      decodeEntries reg element (before ++ (key, j) :: after) := by
  induction before with
  | nil => simp only [List.nil_append, decodeEntries, h]
  | cons member before ih =>
    obtain ⟨key', item⟩ := member
    simp only [List.cons_append, decodeEntries, ih]

/-! ## One edit -/

/-- The discriminator is a text, and no edit makes or changes a text. -/
lemma Edit.discriminator (h : Edit reg shape j k) (before after : List (String × Json))
    (key : String) :
    (Members.get? (before ++ (key, k) :: after) discriminatorKey).bind Json.string? =
      (Members.get? (before ++ (key, j) :: after) discriminatorKey).bind Json.string? := by
  by_cases hkey : key = discriminatorKey
  · subst hkey
    rw [Members.get?_append_cons_self, Members.get?_append_cons_self]
    cases Members.get? before discriminatorKey with
    | none => exact h.string?.2.trans h.string?.1.symm
    | some item => rfl
  · rw [Members.get?_append_cons_of_ne hkey, Members.get?_append_cons_of_ne hkey]

/-- The field whose member is edited is decoded as before, if its shape is. -/
lemma Edit.decodeMember_eq {field : String × FieldSpec} (h : Edit reg field.2.shape j k)
    (hdecode : decode reg k field.2.shape = decode reg j field.2.shape) (typeName : String)
    (before after : List (String × Json)) :
    decodeMember reg typeName field (before ++ (field.2.wireKey, k) :: after) =
      decodeMember reg typeName field (before ++ (field.2.wireKey, j) :: after) := by
  obtain ⟨hj, hk⟩ := h.isNull
  rw [decodeMember_of_get?_eq_some (Members.get?_append_cons_self before after _ k),
    decodeMember_of_get?_eq_some (Members.get?_append_cons_self before after _ j)]
  cases Members.get? before field.2.wireKey with
  | none => simp only [Option.getD_none, hj, hk, hdecode]
  | some item => rfl

/-- One edit makes no difference to decoding. -/
lemma Edit.decode_eq (hkeys : reg.SeparatesWireKeys) (h : Edit reg shape j k) :
    decode reg k shape = decode reg j shape := by
  induction h with
  | @insert shape before after s key planned ignored value =>
    refine decode_record_of_get? planned fun other hother => ?_
    have hne : key ≠ other := by
      rintro rfl
      exact hother ignored
    exact Members.get?_append_cons_of_ne hne before after value
  | permute planned distinct order =>
    exact decode_record_of_get? planned fun key _ => (Members.get?_perm order distinct key).symm
  | item edit ih => rw [decode_array, decode_array, decodeItems_congr ih]
  | entry edit ih => rw [decode_entries, decode_entries, decodeEntries_congr ih]
  | @field shape before after s specs field j k planned resolved declared edit ih =>
    refine decode_record_congr planned (plan_congr shape (edit.discriminator before after _)) ?_
    intro specs' hspecs other hother
    obtain rfl := Except.ok.inj (resolved.symm.trans hspecs)
    by_cases hfield : other = field
    · subst hfield
      exact edit.decodeMember_eq ih s.typeName before after
    · -- another field has another wire key
      have hne : field.2.wireKey ≠ other.2.wireKey := by
        intro heq
        exact hfield (List.inj_on_of_nodup_map (hkeys _ _ resolved) hother declared heq.symm)
      refine decodeMember_congr ?_
      rw [Members.get?_append_cons_of_ne hne, Members.get?_append_cons_of_ne hne]

/-! ## Any number of edits -/

/-- Whatever is inserted that the types of the records ignore, and in whatever order the members of
the records are, at any depth: the payload is decoded as the same value, or refused with the same
failure and the same trail. -/
theorem decode_eq_of_edits (hkeys : reg.SeparatesWireKeys)
    (h : Relation.ReflTransGen (Edit reg shape) j k) : decode reg k shape = decode reg j shape := by
  induction h with
  | refl => rfl
  | tail _ hedit ih => rw [hedit.decode_eq hkeys, ih]

/-! ### An event in two spellings -/

namespace Sample

/-- The members of an organization in the place of its base. -/
def acmeMembers : List (String × Json) :=
  [("_type", .string "org"), ("createdAt", .null), ("name", .string "acme")]

/-- An event of the organization, with a ratio that is a text. -/
def spelled : Json := .object [("subject", .object acmeMembers),
  ("ratios", .array [.string "half"])]

/-- The event with a city of the organization, and in another order. -/
def respelled : Json := .object [("ratios", .array [.string "half"]),
  ("subject", .object (("city", .string "Palo Alto") :: acmeMembers))]

lemma separatesWireKeys_registry : registry.SeparatesWireKeys :=
  Registry.separatesWireKeys_of_isValid isValid_registry distinctWireKeys_registry

lemma ignores_city : registry.Ignores "Org" "city" := by
  refine ⟨by decide, fun specs hspecs => ?_⟩
  obtain rfl := Except.ok.inj (resolvedFields_org.symm.trans hspecs)
  decide

/-- The field for the subject of an event. -/
def subjectField : String × FieldSpec :=
  ("subject", { wireKey := "subject", shape := .named "Entity" })

lemma edits_spelled :
    Relation.ReflTransGen (Edit registry (.named "Event")) spelled respelled := by
  -- the city stands in the member of a field, in front of the other members there
  have hcity : Edit registry (.named "Entity") (.object acmeMembers)
      (.object (("city", .string "Palo Alto") :: acmeMembers)) :=
    @Edit.insert _ _ [] _ org _ rfl ignores_city _
  have hsubject : subjectField ∈ event.fields := by decide
  have hfield : Edit registry (.named "Event") spelled _ :=
    @Edit.field _ _ [] _ event _ subjectField _ _ rfl resolvedFields_event hsubject hcity
  have hswap : Edit registry (.named "Event") _ respelled :=
    @Edit.permute _ _ _ _ event rfl (by decide) (.swap _ _ [])
  exact .tail (.single hfield) hswap

/-- Both spellings are refused for the ratio, with the same trail. -/
theorem decode_respelled :
    registry.SeparatesWireKeys ∧
      Relation.ReflTransGen (Edit registry (.named "Event")) spelled respelled ∧
      decode registry respelled (.named "Event") = .error ⟨.value (.wrongJson .float "string"),
        [.wireField "Event" "ratios" "ratios", .listIndex 0]⟩ := by
  have heq : decode registry respelled (.named "Event") =
      decode registry spelled (.named "Event") :=
    decode_eq_of_edits separatesWireKeys_registry edits_spelled
  have hspelled : decode registry spelled (.named "Event") =
      .error ⟨.value (.wrongJson .float "string"),
        [.wireField "Event" "ratios" "ratios", .listIndex 0]⟩ := rfl
  exact ⟨separatesWireKeys_registry, edits_spelled, heq.trans hspelled⟩

end Sample

end Payload

end CloudDirector
