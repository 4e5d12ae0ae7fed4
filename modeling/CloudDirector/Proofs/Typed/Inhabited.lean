import CloudDirector.Proofs.Payload.Objects
import CloudDirector.Proofs.Typed.RoundTrip

/-!
# Values that set their fields

A value of a type need not set its field: an option may be left out, a list and a map may be empty.
Where the names in a type are declared, enumerations have constants and no model needs a value of
itself, there is one that does, and it comes back from what it is written as.  A model then has a
value that sets all its fields.  It is made from the models of smaller rank, whose identifiers must
be different as well, or else what is written of one field is read as another.
-/

namespace CloudDirector

/-- Whether the enumeration has a constant. -/
def EnumDecl.hasConstant (e : EnumDecl) : Bool := !e.variants.isEmpty || e.unknown.isSome

lemma EnumDecl.exists_has {e : EnumDecl} (h : e.hasConstant = true) : ∃ c, e.Has c := by
  rw [hasConstant, Bool.or_eq_true, Bool.not_eq_true'] at h
  rcases h with hvariants | hunknown
  · obtain ⟨v, hv⟩ := List.exists_mem_of_ne_nil _ (List.isEmpty_eq_false_iff.1 hvariants)
    exact ⟨.known v.identifier, v, hv, rfl⟩
  · exact ⟨.unknown "", hunknown⟩

/-- The names in a type are declared, and an enumeration has a constant. -/
def FieldType.isDeclared (ms : Models) : FieldType → Bool
  | optional type | list type | map type => type.isDeclared ms
  | model name => (ms.model? name).isSome
  | enum name => (ms.enum? name).any EnumDecl.hasConstant
  | _ => true

namespace Model

variable {ms : Models} {m : Model}

/-- The fields of a model have different identifiers and declared types. -/
structure IsComplete (ms : Models) (m : Model) : Prop where
  distinct : (m.fields.map FieldDecl.identifier).Nodup
  declared : ∀ f ∈ m.fields, f.type.isDeclared ms = true

instance (ms : Models) (m : Model) : Decidable (m.IsComplete ms) :=
  decidable_of_iff ((m.fields.map FieldDecl.identifier).Nodup ∧
    ∀ f ∈ m.fields, f.type.isDeclared ms = true) ⟨fun h => ⟨h.1, h.2⟩, fun h => ⟨h.1, h.2⟩⟩

/-- Where a field of the model must be set to a value of another one, that one has a smaller
rank. -/
def Descends (rank : String → Nat) (m : Model) : Prop :=
  ∀ f ∈ m.fields, ∀ name, f.type = .model name → rank name < rank m.name

/-- Values can be made of a model and of all that its fields name: none of these models needs a
value of itself. -/
structure IsInhabited (ms : Models) (m : Model) : Prop where
  own : m.IsComplete ms
  reached : ∀ a, m.Reaches ms a → a.IsComplete ms
  finite : ∃ rank, ∀ a, m.Reaches ms a → a.Descends rank

/-- Where fields that name models are optional, lists or maps, no model needs a value of another. -/
lemma isInhabited_of_forall (hcomplete : ∀ a ∈ ms.models, a.IsComplete ms)
    (hfields : ∀ a ∈ ms.models, ∀ f ∈ a.fields, (f.type matches .model _) = false)
    (hm : m ∈ ms.models) : m.IsInhabited ms where
  own := hcomplete m hm
  reached a ha := hcomplete a ha.mem_models
  finite := by
    refine ⟨fun _ => 0, fun a ha f hf name htype => ?_⟩
    have hmodel := hfields a ha.mem_models f hf
    rw [htype] at hmodel
    cases hmodel

end Model

namespace Typed

variable {ms : Models} {type : FieldType} {t : Typed}

/-- A value of a field that comes back if it is written. -/
def ComesBack (ms : Models) (type : FieldType) (t : Typed) : Prop :=
  HasType ms type t ∧ (t.isAbsent = false → ofValue ms t.toValue type = .ok t)

/-- A value that sets its field to something else than null, and comes back. -/
structure Fills (ms : Models) (type : FieldType) (t : Typed) : Prop where
  present : t.isAbsent = false
  nonnull : t.toValue.isNull = false
  back : ofValue ms t.toValue type = .ok t

lemma Fills.comesBack (h : Fills ms type t) : ComesBack ms type t :=
  ⟨hasType_of_ofValue h.back, fun _ => h.back⟩

lemma isAbsent_of_absent? (h : type.absent? = .some t) : t.isAbsent = true := by
  cases type with
  | optional _ | list _ | map _ =>
    cases h
    rfl
  | _ => cases h

lemma comesBack_of_absent? (h : type.absent? = .some t) : ComesBack ms type t := by
  refine ⟨hasType_of_absent? h, fun hpresent => ?_⟩
  rw [isAbsent_of_absent? h] at hpresent
  cases hpresent

lemma isSome_absent? : type.absent?.isSome = type.mayBeAbsent := by
  cases type <;> rfl

end Typed

namespace Model

variable {ms : Models} {m : Model} {value : FieldDecl FieldType → Typed}

/-- The fields that are set by the values of declarations. -/
def setFields (m : Model) (value : FieldDecl FieldType → Typed) : List (String × Value) :=
  m.fields.filterMap fun f => Typed.writtenField (f, value f)

/-- Values of all fields that come back make a value of the model, which is read from the record
that they set. -/
lemma exists_value (hdistinct : (m.fields.map FieldDecl.identifier).Nodup)
    (hvalue : ∀ f ∈ m.fields, Typed.ComesBack ms f.type (value f)) :
    ∃ members inherited own, Assigns m.members members inherited own ∧
      (∀ p ∈ inherited ++ own, Typed.HasType ms p.1.type p.2) ∧
      (∀ p ∈ inherited ++ own, Typed.IsRead ms (m.setFields value) p.1 p.2) ∧
      ∀ name, (Typed.model name members).toValue = .record name (m.setFields value) := by
  obtain ⟨members, inherited, own, hassigns, hvalues⟩ := exists_assigns value m.members
  -- the pairs are all fields, each with the value of its declaration
  have hpairs : inherited ++ own = m.fields.map fun f => (f, value f) := by
    rw [← hassigns.map_fst_eq_fields, List.map_map]
    refine ((List.map_congr_left fun p hp => ?_).trans (List.map_id _)).symm
    exact Prod.ext rfl (hvalues p hp).symm
  have htype : ∀ p ∈ inherited ++ own, Typed.HasType ms p.1.type p.2 := fun p hp =>
    hvalues p hp ▸ (hvalue p.1 (hassigns.mem_fields hp)).1
  have hnodup := hassigns.nodup hdistinct
  have hset : (inherited ++ own).filterMap Typed.writtenField = m.setFields value := by
    rw [hpairs, List.filterMap_map]
    rfl
  refine ⟨members, inherited, own, hassigns, htype, ?_, fun name => ?_⟩
  · rw [← hset]
    refine Typed.isRead_written hnodup htype fun p hp hpresent => ?_
    have hback := (hvalue p.1 (hassigns.mem_fields hp)).2
    rw [← hvalues p hp] at hback
    exact hback hpresent
  · rw [← hset]
    exact hassigns.toValue_model (fun p hp => (htype p hp).isOwn) hnodup name

end Model

namespace Typed

variable {ms : Models} {type : FieldType}

/-- A type whose fields must be set has a value, as soon as the model that it may name has one. -/
lemma exists_fills_of_required (hrequired : type.mayBeAbsent = false)
    (hdeclared : type.isDeclared ms = true)
    (hmodel : ∀ name, type = .model name → ∃ t, Fills ms type t) : ∃ t, Fills ms type t := by
  cases type with
  | optional _ | list _ | map _ => cases hrequired
  | model name => exact hmodel name rfl
  | enum name =>
    obtain ⟨e, he, hconstant⟩ := (Option.any_eq_true ..).1 hdeclared
    obtain ⟨c, hc⟩ := EnumDecl.exists_has hconstant
    exact ⟨.constant ⟨e.name, c⟩, rfl, rfl, ofValue_of_readAs (.enum he hc)⟩
  | text => exact ⟨.text "", rfl, rfl, ofValue_of_readAs (.text "")⟩
  | flag => exact ⟨.flag true, rfl, rfl, ofValue_of_readAs (.flag true)⟩
  | int64 => exact ⟨.int64 0, rfl, rfl, ofValue_of_readAs (.int64 0)⟩
  | int32 => exact ⟨.int32 0, rfl, rfl, ofValue_of_readAs (.int32 0)⟩
  | float =>
    exact ⟨.float (.finite false .zero), rfl, rfl, ofValue_of_readAs (.float rfl)⟩
  | date =>
    obtain ⟨d⟩ := Payload.nonempty_date
    exact ⟨.date d, rfl, rfl, ofValue_of_readAs (.date d)⟩
  | dateTime =>
    obtain ⟨t⟩ := Payload.nonempty_dateTime
    exact ⟨.dateTime t, rfl, rfl, ofValue_of_readAs (.dateTime t)⟩
  | json => exact ⟨.json .null, rfl, rfl, ofValue_of_readAs (.json .null)⟩
  | binary => exact ⟨.binary [], rfl, rfl, ofValue_of_readAs (.binary [])⟩
  | record => exact ⟨.record ⟨"", []⟩, rfl, rfl, ofValue_of_readAs (.record "" [])⟩
  | any => exact ⟨.any (.bool true), rfl, rfl, ofValue_of_readAs (.any (.bool true))⟩

/-- The models that a type leads to are complete, and none needs a value of itself. -/
def LeadsToValues (ms : Models) (rank : String → Nat) (type : FieldType) : Prop :=
  ∀ name m, type.Reaches ms (.model name) → ms.model? name = .some m →
    m.IsComplete ms ∧ m.Descends rank

variable {rank : String → Nat}

/-- A declared model has a value: its optional fields are left unset, and the models that it needs
values of have a smaller rank. -/
lemma exists_fills_model {name : String} {m : Model} (hlookup : ms.model? name = .some m)
    (hvalues : LeadsToValues ms rank (.model name)) : ∃ t, Fills ms (.model name) t := by
  induction hn : rank name using Nat.strong_induction_on generalizing name m with
  | _ n ih =>
    have hname : m.name = name := by simpa using List.find?_some hlookup
    obtain ⟨hcomplete, hdescends⟩ := hvalues name m (.self _) hlookup
    have hfields : ∀ f ∈ m.fields, ∃ t, ComesBack ms f.type t := by
      intro f hf
      cases habsent : f.type.absent? with
      | some t => exact ⟨t, comesBack_of_absent? habsent⟩
      | none =>
        have hrequired : f.type.mayBeAbsent = false := by rw [← isSome_absent?, habsent]; rfl
        obtain ⟨t, ht⟩ := exists_fills_of_required hrequired (hcomplete.declared f hf)
          fun inner htype => by
            have hdeclared := hcomplete.declared f hf
            have hlt : rank inner < n := hn ▸ hname ▸ hdescends f hf inner htype
            have hinner : LeadsToValues ms rank (.model inner) := fun other a hreach =>
              hvalues other a (.field hlookup hf (htype ▸ hreach))
            rw [htype] at hdeclared ⊢
            obtain ⟨other, hother⟩ := Option.isSome_iff_exists.1 hdeclared
            exact ih _ hlt hother hinner rfl
        exact ⟨t, ht.comesBack⟩
    choose! value hvalue using hfields
    obtain ⟨members, inherited, own, hassigns, -, hread, hwritten⟩ :=
      Model.exists_value hcomplete.distinct hvalue
    refine ⟨.model name members, rfl, by rw [hwritten]; rfl, ?_⟩
    rw [hwritten]
    exact ofValue_of_readAs (.model hlookup hassigns hread)

/-- Every declared type has a value that sets its field and comes back. -/
lemma exists_fills (hdeclared : type.isDeclared ms = true) (hvalues : LeadsToValues ms rank type) :
    ∃ t, Fills ms type t := by
  induction type with
  | optional type ih =>
    obtain ⟨t, ht⟩ := ih hdeclared fun name m hreach => hvalues name m (.optional hreach)
    refine ⟨.some t, rfl, by rw [toValue]; exact ht.nonnull, ?_⟩
    rw [toValue]
    exact ofValue_of_readAs (.some ht.nonnull ht.back)
  | list element ih =>
    obtain ⟨t, ht⟩ := ih hdeclared fun name m hreach => hvalues name m (.list hreach)
    refine ⟨.list [t], rfl, by rw [toValue]; rfl, ?_⟩
    rw [toValue, toItems_eq_map]
    exact ofValue_of_readAs (.list (.cons ht.back .nil))
  | map element ih =>
    obtain ⟨t, ht⟩ := ih hdeclared fun name m hreach => hvalues name m (.map hreach)
    refine ⟨.map [("", t)], rfl, by rw [toValue]; rfl, ?_⟩
    rw [toValue, toEntries_eq_map]
    exact ofValue_of_readAs (.map (.cons ⟨rfl, ht.back⟩ .nil))
  | model name =>
    obtain ⟨m, hm⟩ := Option.isSome_iff_exists.1 hdeclared
    exact exists_fills_model hm hvalues
  | _ => exact exists_fills_of_required rfl hdeclared (by rintro _ ⟨⟩)

end Typed

namespace Model

variable {ms : Models} {m : Model}

/-- Where values can be made, one sets all fields and is read from its record. -/
lemma exists_full (h : m.IsInhabited ms) :
    ∃ t r, m.HasValue ms t ∧ t.toRecord? = some r ∧ m.ofRecord ms r = .ok t ∧
      Members.keys r.fields = m.fields.map FieldDecl.identifier := by
  obtain ⟨rank, hrank⟩ := h.finite
  have hfills : ∀ f ∈ m.fields, ∃ t, Typed.Fills ms f.type t := fun f hf =>
    Typed.exists_fills (h.own.declared f hf) fun name a hreach hlookup =>
      have ha : m.Reaches ms a := ⟨f, hf, name, hreach, hlookup⟩
      ⟨h.reached a ha, hrank a ha⟩
  choose! value hvalue using hfills
  obtain ⟨members, inherited, own, hassigns, htype, hread, hwritten⟩ :=
    exists_value h.own.distinct fun f hf => (hvalue f hf).comesBack
  refine ⟨.model m.name members, ⟨m.name, m.setFields value⟩,
    ⟨members, inherited, own, rfl, hassigns, htype⟩, by rw [Typed.toRecord?, hwritten]; rfl,
    ofRecord_eq_ok_iff.2 ⟨members, inherited, own, rfl, hassigns, hread⟩, ?_⟩
  have hset : m.setFields value = m.fields.map fun f => (f.identifier, (value f).toValue) := by
    rw [setFields, ← List.filterMap_eq_map]
    refine List.filterMap_congr fun f hf => ?_
    rw [Typed.writtenField, (hvalue f hf).present]
    rfl
  rw [hset, Members.keys, List.map_map]
  rfl

end Model

end CloudDirector
