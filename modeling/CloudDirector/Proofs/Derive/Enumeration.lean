import CloudDirector.Derive.Definition
import CloudDirector.Proofs.Payload.Scalar
import CloudDirector.Typed.Conversion

/-!
# Texts of derived enumerations

The item of an enumeration declares one constant for each unit variant, with the text that an option
gives or the identifier in lower camel case.  The mapping is made by setting one text after another,
so where two variants have one text the later one takes it, and the earlier one has no text left to
be written as.  An item is accepted all the same.  So a variant comes back from the wire exactly if
no later one has its text, and all of them do exactly if their texts are different from each other.
-/

namespace CloudDirector

namespace EnumDecl

variable {e : EnumDecl} {v : Variant} {variants : List Variant} {text constant : String}

/-! ## The mapping -/

/-- The texts of variants with their identifiers, in order. -/
def texts (variants : List Variant) : List (String × String) :=
  variants.map fun v => (v.wireText, v.identifier)

lemma keys_texts : Members.keys (texts variants) = variants.map Variant.wireText := by
  rw [Members.keys, texts, List.map_map]
  rfl

lemma constant?_entry (e : EnumDecl) (text : String) :
    e.entry.constant? text = Members.get? (Members.ofPairs (texts e.variants)) text := rfl

lemma keyed_entry (e : EnumDecl) : (Entry.enum e.entry).Keyed :=
  Members.nodup_keys_update (show (Members.keys ([] : List (String × String))).Nodup from
    List.nodup_nil) (texts e.variants)

/-- What a text is mapped to is a variant that has the text. -/
lemma exists_variant_of_get?
    (h : Members.get? (Members.ofPairs (texts variants)) text = some constant) :
    ∃ v ∈ variants, v.wireText = text ∧ v.identifier = constant := by
  rw [Members.get?_ofPairs] at h
  obtain ⟨v, hv, heq⟩ := List.mem_map.1 (List.mem_reverse.1 (Members.mem_of_get?_eq_some h))
  obtain ⟨htext, hidentifier⟩ := Prod.mk.inj heq
  exact ⟨v, hv, htext, hidentifier⟩

lemma constant?_entry_eq_none_iff :
    e.entry.constant? text = none ↔ ∀ v ∈ e.variants, v.wireText ≠ text := by
  rw [constant?_entry, Members.get?_eq_none_iff, Members.mem_keys_ofPairs, keys_texts]
  simp

/-- The text of a variant is mapped to it exactly if no later variant has the text. -/
lemma constant?_wireText_iff (hdistinct : (e.variants.map Variant.identifier).Nodup)
    {before after : List Variant} (hsplit : e.variants = before ++ v :: after) :
    e.entry.constant? v.wireText = some v.identifier ↔ ∀ w ∈ after, w.wireText ≠ v.wireText := by
  have htexts : texts e.variants =
      texts before ++ (v.wireText, v.identifier) :: texts after := by
    rw [hsplit, texts, List.map_append, List.map_cons]
    rfl
  have hfresh : v.identifier ∉ after.map Variant.identifier := by
    rw [hsplit, List.map_append, List.map_cons, List.nodup_append] at hdistinct
    exact (List.nodup_cons.1 hdistinct.2.1).1
  rw [constant?_entry, htexts]
  constructor
  · intro h w hw htext
    -- the text is mapped to a later variant, which has another identifier
    have hmem : v.wireText ∈ Members.keys (texts after) := by
      rw [keys_texts, ← htext]
      exact List.mem_map_of_mem hw
    rw [← List.singleton_append, ← List.append_assoc,
      Members.get?_ofPairs_append_of_mem _ hmem] at h
    obtain ⟨u, hu, -, hidentifier⟩ := exists_variant_of_get? h
    exact hfresh (hidentifier ▸ List.mem_map_of_mem hu)
  · intro hlast
    refine Members.get?_ofPairs_append (m := (v.wireText, v.identifier)) ?_
    rw [keys_texts]
    simpa using hlast

/-! ## Constants on the wire -/

/-- A constant of a declared enumeration comes back from the wire: it is written as a text, the text
is read as the constant, and the declaration has it. -/
def Restores (e : EnumDecl) (c : EnumConstant) : Prop :=
  ∃ j, Payload.encodeEnum ⟨e.name, c⟩ e.entry = .ok j ∧
    Payload.decodeEnum j e.entry = .ok ⟨e.name, c⟩ ∧
    e.read ⟨e.name, c⟩ = .ok (.constant ⟨e.name, c⟩)

/-- A variant comes back exactly if its own text is mapped to it. -/
lemma restores_known_iff (hdistinct : (e.variants.map Variant.identifier).Nodup)
    (hv : v ∈ e.variants) :
    e.Restores (.known v.identifier) ↔ e.entry.constant? v.wireText = some v.identifier := by
  constructor
  · rintro ⟨j, hencode, -, -⟩
    simp only [Payload.encodeEnum] at hencode
    split at hencode
    · next text htext =>
      have hmapped := Payload.constant?_of_text? e.keyed_entry htext
      -- the text that is found is that of a variant with the identifier, which is this one
      obtain ⟨w, hw, rfl, hidentifier⟩ := exists_variant_of_get? hmapped
      obtain rfl := List.inj_on_of_nodup_map hdistinct hw hv hidentifier
      exact hmapped
    · cases hencode
  · intro hmapped
    obtain ⟨text, htext⟩ := Payload.exists_text?_of_constant? hmapped
    obtain ⟨text, hencode, hdecode⟩ := Payload.exists_encodeEnum e.keyed_entry
      (e := ⟨e.name, .known v.identifier⟩) rfl (.known htext)
    refine ⟨.string text, hencode, hdecode, ?_⟩
    have hany : (e.variants.any fun w => w.identifier == v.identifier) = true :=
      List.any_eq_true.2 ⟨v, hv, beq_self_eq_true _⟩
    simp only [read, hany, if_true]

/-- A text comes back as one that is not known exactly if there is a variant for such texts and the
text is that of no other variant. -/
lemma restores_unknown_iff :
    e.Restores (.unknown text) ↔
      e.unknown.isSome = true ∧ ∀ v ∈ e.variants, v.wireText ≠ text := by
  rw [← constant?_entry_eq_none_iff]
  constructor
  · rintro ⟨j, hencode, hdecode, hread⟩
    cases hencode
    refine ⟨?_, ?_⟩
    · by_contra hnone
      simp only [read, hnone, if_false] at hread
      cases hread
    · obtain ⟨_, ⟨⟩, ⟨constant, -, heq⟩ | ⟨hnone, -⟩⟩ := Payload.decodeEnum_cases hdecode
      · cases heq
      · exact hnone
  · rintro ⟨hunknown, hnone⟩
    obtain ⟨written, hencode, hdecode⟩ := Payload.exists_encodeEnum e.keyed_entry
      (e := ⟨e.name, .unknown text⟩) rfl (.unknown hnone)
    refine ⟨.string written, hencode, hdecode, ?_⟩
    simp only [read, hunknown, if_true]

/-- All variants come back exactly if their texts are different from each other. -/
lemma forall_restores_iff (hdistinct : (e.variants.map Variant.identifier).Nodup) :
    (∀ v ∈ e.variants, e.Restores (.known v.identifier)) ↔
      (e.variants.map Variant.wireText).Nodup := by
  constructor
  · intro h
    rw [List.nodup_map_iff_inj_on (List.Nodup.of_map _ hdistinct)]
    intro v hv w hw htext
    have hvmapped := (restores_known_iff hdistinct hv).1 (h v hv)
    have hwmapped := (restores_known_iff hdistinct hw).1 (h w hw)
    -- one text is mapped to both, so that they have one identifier
    rw [htext, hwmapped, Option.some.injEq] at hvmapped
    exact (List.inj_on_of_nodup_map hdistinct hw hv hvmapped).symm
  · intro hnodup v hv
    obtain ⟨before, after, hsplit⟩ := List.append_of_mem hv
    rw [restores_known_iff hdistinct hv, constant?_wireText_iff hdistinct hsplit]
    rw [hsplit, List.map_append, List.map_cons, List.nodup_append] at hnodup
    intro w hw htext
    exact (List.nodup_cons.1 hnodup.2.1).1 (htext ▸ List.mem_map_of_mem hw)

end EnumDecl

/-! ## Variants of an item -/

namespace Derive

namespace VariantItem

/-- A variant has no data. -/
def isUnit (item : VariantItem) : Bool := item.fields matches .unit

/-- The variant of a declaration that a variant of an item gives: it keeps its identifier, and its
text is the one that its options give. -/
def Declares (item : VariantItem) (v : Variant) : Prop :=
  ∃ options, MemberOptions.ofAttributes item.attributes = .ok options ∧
    v = { identifier := item.identifier, wire := options.wire }

/-- A variant is either declared, or it is the one that holds the texts that are not known. -/
lemma addTo_eq_ok {item : VariantItem} {declaration result : EnumDecl}
    (h : item.addTo declaration = .ok result) :
    (item.isUnit = true ∧ ∃ v, item.Declares v ∧
        result = { declaration with variants := declaration.variants ++ [v] }) ∨
      (item.isUnit = false ∧ result = { declaration with unknown := some item.identifier }) := by
  obtain ⟨attributes, identifier, fields⟩ := item
  cases hoptions : MemberOptions.ofAttributes attributes with
  | error fault =>
    simp only [addTo, liftOptions, hoptions, Except.mapError, bind, Except.bind] at h
    cases h
  | ok options =>
    simp only [addTo, liftOptions, hoptions, Except.mapError, bind, Except.bind] at h
    split at h
    · split at h
      · cases h
      · cases h
        exact .inr ⟨rfl, rfl⟩
    · cases h
    · cases h
      exact .inl ⟨rfl, _, ⟨options, hoptions, rfl⟩, rfl⟩
    · cases h

/-- Variants without data are declared one after another. -/
lemma foldlM_addTo {items : List VariantItem} {declaration result : EnumDecl}
    (h : items.foldlM addTo declaration = .ok result) :
    ∃ added, List.Forall₂ Declares (items.filter isUnit) added ∧
      result.variants = declaration.variants ++ added := by
  induction items generalizing declaration with
  | nil =>
    cases h
    exact ⟨[], .nil, (List.append_nil _).symm⟩
  | cons item items ih =>
    rw [List.foldlM_cons] at h
    cases hnext : item.addTo declaration with
    | error fault =>
      rw [hnext] at h
      cases h
    | ok next =>
      rw [hnext] at h
      obtain ⟨added, hadded, hvariants⟩ := ih h
      rcases addTo_eq_ok hnext with ⟨hunit, v, hv, rfl⟩ | ⟨hunit, rfl⟩
      · refine ⟨v :: added, ?_, by simpa using hvariants⟩
        rw [List.filter_cons_of_pos hunit]
        exact .cons hv hadded
      · refine ⟨added, ?_, hvariants⟩
        rwa [List.filter_cons_of_neg (by simp [hunit])]

lemma map_identifier_of_declares {items : List VariantItem} {variants : List Variant}
    (h : List.Forall₂ Declares items variants) :
    variants.map Variant.identifier = items.map VariantItem.identifier := by
  induction h with
  | nil => rfl
  | cons hv _ ih =>
    obtain ⟨options, -, rfl⟩ := hv
    rw [List.map_cons, List.map_cons, ih]

end VariantItem

/-- The variants of an enumeration that have no data. -/
def Body.unitVariants : Body → List VariantItem
  | enumeration variants => variants.filter VariantItem.isUnit
  | _ => []

namespace EnumDefinition

variable {item : Item} {d : EnumDefinition}

/-- An accepted item declares its variants without data, in their order. -/
lemma forall₂_declares (h : ofItem item = .ok d) :
    List.Forall₂ VariantItem.Declares item.body.unitVariants d.declaration.variants := by
  obtain ⟨attributes, identifier, generics, body⟩ := item
  cases body with
  | struct fields => cases h
  | union => cases h
  | enumeration variants =>
    simp only [ofItem, bind, Except.bind] at h
    split at h
    · cases h
    · split at h
      · cases h
      · split at h
        · cases h
        · next declaration hfold =>
          cases h
          obtain ⟨added, hadded, hvariants⟩ := VariantItem.foldlM_addTo hfold
          rw [List.nil_append] at hvariants
          exact hvariants ▸ hadded

/-- Which variants of an accepted item, and which other texts, come back from the wire. -/
theorem restores_iff (h : ofItem item = .ok d)
    (hdistinct : (item.body.unitVariants.map VariantItem.identifier).Nodup) :
    List.Forall₂ VariantItem.Declares item.body.unitVariants d.declaration.variants ∧
      (∀ before v after, d.declaration.variants = before ++ v :: after →
        (d.declaration.Restores (.known v.identifier) ↔
          ∀ w ∈ after, w.wireText ≠ v.wireText)) ∧
      ((∀ v ∈ d.declaration.variants, d.declaration.Restores (.known v.identifier)) ↔
        (d.declaration.variants.map Variant.wireText).Nodup) ∧
      ∀ text, d.declaration.Restores (.unknown text) ↔
        d.declaration.unknown.isSome = true ∧
          ∀ v ∈ d.declaration.variants, v.wireText ≠ text := by
  have hdeclares := forall₂_declares h
  rw [← VariantItem.map_identifier_of_declares hdeclares] at hdistinct
  refine ⟨hdeclares, fun before v after hsplit => ?_, EnumDecl.forall_restores_iff hdistinct,
    fun text => EnumDecl.restores_unknown_iff⟩
  have hv : v ∈ d.declaration.variants := hsplit ▸ List.mem_append_right _ List.mem_cons_self
  rw [EnumDecl.restores_known_iff hdistinct hv, EnumDecl.constant?_wireText_iff hdistinct hsplit]

namespace Sample

/-- The states of an operation, one of which has a text of its own. -/
def states : Item where
  attributes := []
  identifier := "State"
  generics := ⟨[], []⟩
  body := .enumeration [
    ⟨[], "Queued", .unit⟩,
    ⟨[[.word "model", .group .round [.word "wire", .mark '=', .literal "\"in progress\""]]],
      "Running", .unit⟩,
    ⟨[[.word "model", .group .round [.word "unknown"]]], "Other", .tuple 1⟩]

/-- What is declared of the states. -/
def stateDefinition : EnumDefinition where
  identifier := "State"
  generics := ⟨[], []⟩
  declaration :=
    { name := "State", variants := [⟨"Queued", none⟩, ⟨"Running", some "in progress"⟩],
      unknown := some "Other" }

/-- All states come back from the wire, and so does a text that is that of none of them. -/
theorem restores_states :
    ofItem states = .ok stateDefinition ∧
      (states.body.unitVariants.map VariantItem.identifier).Nodup ∧
      (∀ v ∈ stateDefinition.declaration.variants,
        stateDefinition.declaration.Restores (.known v.identifier)) ∧
      stateDefinition.declaration.Restores (.unknown "paused") := by
  have haccepted : ofItem states = .ok stateDefinition := by with_unfolding_all rfl
  have hdistinct : (states.body.unitVariants.map VariantItem.identifier).Nodup := by decide
  obtain ⟨-, -, hknown, hunknown⟩ := restores_iff haccepted hdistinct
  exact ⟨haccepted, hdistinct, hknown.2 (by decide +kernel),
    (hunknown "paused").2 (by decide +kernel)⟩

/-- Two protocols whose identifiers are the same in lower camel case. -/
def protocols : Item where
  attributes := []
  identifier := "Protocol"
  generics := ⟨[], []⟩
  body := .enumeration [⟨[], "HTTPServer", .unit⟩, ⟨[], "HttpServer", .unit⟩]

/-- What is declared of the protocols. -/
def protocolDefinition : EnumDefinition where
  identifier := "Protocol"
  generics := ⟨[], []⟩
  declaration := { name := "Protocol", variants := [⟨"HTTPServer", none⟩, ⟨"HttpServer", none⟩] }

/-- The item is accepted, yet the first protocol has no text to be written as. -/
theorem not_restores_protocol :
    ofItem protocols = .ok protocolDefinition ∧
      (protocols.body.unitVariants.map VariantItem.identifier).Nodup ∧
      Payload.encodeEnum ⟨"Protocol", .known "HTTPServer"⟩ protocolDefinition.declaration.entry =
        .failValue (.unmappedConstant "Protocol" "HTTPServer") ∧
      ¬protocolDefinition.declaration.Restores (.known "HTTPServer") := by
  have hrefused : Payload.encodeEnum ⟨"Protocol", .known "HTTPServer"⟩
      protocolDefinition.declaration.entry =
        .failValue (.unmappedConstant "Protocol" "HTTPServer") := rfl
  refine ⟨rfl, by decide, hrefused, ?_⟩
  rintro ⟨j, hencode, -⟩
  have := hrefused.symm.trans hencode
  cases this

end Sample

end EnumDefinition

end Derive

end CloudDirector
