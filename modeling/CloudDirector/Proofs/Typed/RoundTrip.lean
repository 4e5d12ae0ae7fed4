import CloudDirector.Proofs.Typed.Values
import CloudDirector.Typed.Builtin

/-!
# Typed values come back from their records

Writing leaves out the fields whose value means that they are not set, and reading gives a field
that is not set just that value.  All other fields are read from what they were written as, as long
as no two fields have one identifier and no type inside an option has null among its own values.
-/

namespace CloudDirector

namespace FieldType

/-- Whether a value of the type may be written as null. -/
def mayBeNull : FieldType → Bool
  | optional _ | any => true
  | _ => false

/-- No option stands directly around a type that may be null itself. -/
def isPlain : FieldType → Bool
  | optional type => type.isPlain && !type.mayBeNull
  | list element | map element => element.isPlain
  | _ => true

end FieldType

/-- The fields of a model have different identifiers and plain types. -/
structure Model.IsPlain (m : Model) : Prop where
  distinct : (m.fields.map FieldDecl.identifier).Nodup
  plain : ∀ f ∈ m.fields, f.type.isPlain = true

instance (m : Model) : Decidable m.IsPlain :=
  decidable_of_iff ((m.fields.map FieldDecl.identifier).Nodup ∧
    ∀ f ∈ m.fields, f.type.isPlain = true) ⟨fun h => ⟨h.1, h.2⟩, fun h => ⟨h.1, h.2⟩⟩

namespace Typed

variable {ms : Models} {type : FieldType} {t : Typed}

/-! ## Fields that come back -/

lemma absent?_of_isAbsent (h : HasType ms type t) (habsent : t.isAbsent = true) :
    type.absent? = .some t := by
  cases h with
  | none type => rfl
  | @list element items parts =>
    cases items with
    | nil => rfl
    | cons t rest => cases habsent
  | @map element entries parts =>
    cases entries with
    | nil => rfl
    | cons m rest => cases habsent
  | _ => cases habsent

lemma isNull_toValue (h : HasType ms type t) (hnull : type.mayBeNull = false) :
    t.toValue.isNull = false := by
  cases h with
  | none type | some inner | any v => cases hnull
  | _ =>
    rw [toValue]
    rfl

/-- Fields that are paired with values are read from what the pairs are written as. -/
lemma isRead_written {pairs : List (FieldDecl FieldType × Typed)}
    (hdistinct : (pairs.map fun p => p.1.identifier).Nodup)
    (htype : ∀ p ∈ pairs, HasType ms p.1.type p.2)
    (hback : ∀ p ∈ pairs, p.2.isAbsent = false → ofValue ms p.2.toValue p.1.type = .ok p.2) :
    ∀ p ∈ pairs, IsRead ms (pairs.filterMap writtenField) p.1 p.2 := by
  intro p hp
  have hget := get?_written hdistinct hp
  cases habsent : p.2.isAbsent with
  | true =>
    -- nothing is written, and the field is read as what it is when it is not set
    rw [habsent, if_pos rfl] at hget
    exact (isRead_of_get?_eq_none hget).2 (absent?_of_isAbsent (htype p hp) habsent)
  | false =>
    rw [habsent, if_neg Bool.false_ne_true] at hget
    exact (isRead_of_get?_eq_some hget).2 (hback p hp habsent)

/-- Where the values of all fields come back, the members of a model do. -/
lemma isRead_of_assigns {m : Model} (hm : m.IsPlain) {members : List (String × Typed)}
    {inherited own : List (FieldDecl FieldType × Typed)}
    (hassigns : Model.Assigns m.members members inherited own)
    (htype : ∀ p ∈ inherited ++ own, HasType ms p.1.type p.2)
    (hback : ∀ p ∈ inherited ++ own, p.1.type.isPlain = true →
      ofValue ms p.2.toValue p.1.type = .ok p.2) :
    ∃ fields, (∀ name, (Typed.model name members).toValue = .record name fields) ∧
      ∀ p ∈ inherited ++ own, IsRead ms fields p.1 p.2 := by
  have hnodup := hassigns.nodup hm.distinct
  exact ⟨_, hassigns.toValue_model (fun p hp => (htype p hp).isOwn) hnodup,
    isRead_written hnodup htype fun p hp _ => hback p hp (hm.plain p.1 (hassigns.mem_fields hp))⟩

/-- A value of a plain type is read from what it is written as, if the models that the type leads
to are plain. -/
lemma ofValue_toValue (h : HasType ms type t) (hplain : type.isPlain = true)
    (hmodels : ∀ name m, type.Reaches ms (.model name) → ms.model? name = .some m → m.IsPlain) :
    ofValue ms t.toValue type = .ok t := by
  induction h with
  | none type =>
    rw [toValue]
    exact ofValue_of_readAs (.none type)
  | @some type t inner ih =>
    rw [FieldType.isPlain, Bool.and_eq_true, Bool.not_eq_true'] at hplain
    rw [toValue]
    refine ofValue_of_readAs (.some (isNull_toValue inner hplain.2) (ih hplain.1 ?_))
    exact fun name m hreach => hmodels name m (.optional hreach)
  | list parts ih =>
    rw [toValue, toItems_eq_map]
    refine ofValue_of_readAs (.list ?_)
    rw [List.forall₂_map_left_iff, List.forall₂_same]
    exact fun u hu => ih u hu hplain fun name m hreach => hmodels name m (.list hreach)
  | map parts ih =>
    rw [toValue, toEntries_eq_map]
    refine ofValue_of_readAs (.map ?_)
    rw [List.forall₂_map_left_iff, List.forall₂_same]
    exact fun n hn => ⟨rfl, ih n hn hplain fun name m hreach => hmodels name m (.map hreach)⟩
  | enum lookup has =>
    rw [toValue]
    exact ofValue_of_readAs (.enum lookup has)
  | model lookup assigns parts ih =>
    obtain ⟨fields, hfields, hread⟩ :=
      isRead_of_assigns (hmodels _ _ (.self _) lookup) assigns parts fun p hp hfield =>
        ih p hp hfield fun name m hreach =>
          hmodels name m (.field lookup (assigns.mem_fields hp) hreach)
    rw [hfields]
    exact ofValue_of_readAs (.model lookup assigns hread)
  | float x =>
    rw [toValue]
    exact ofValue_of_readAs (.float rfl)
  | _ =>
    rw [toValue]
    exact ofValue_of_readAs (by constructor)

end Typed

namespace Model

variable {ms : Models} {m : Model} {t : Typed}

lemma ofRecord_of_hasValue (hm : m.IsPlain) (hms : ∀ a, m.Reaches ms a → a.IsPlain)
    (h : m.HasValue ms t) : ∃ r, t.toRecord? = some r ∧ m.ofRecord ms r = .ok t := by
  obtain ⟨members, inherited, own, rfl, hassigns, htype⟩ := h
  have hpart : ∀ p ∈ inherited ++ own, p.1.type.isPlain = true →
      Typed.ofValue ms p.2.toValue p.1.type = .ok p.2 := fun p hp hplain =>
    Typed.ofValue_toValue (htype p hp) hplain fun name a hreach hlookup =>
      hms a ⟨p.1, hassigns.mem_fields hp, name, hreach, hlookup⟩
  obtain ⟨fields, hfields, hread⟩ := Typed.isRead_of_assigns hm hassigns htype hpart
  refine ⟨⟨m.name, fields⟩, by rw [Typed.toRecord?, hfields, Value.record?], ?_⟩
  exact ofRecord_eq_ok_iff.2 ⟨members, inherited, own, rfl, hassigns, hread⟩

/-- A typed value is read from its record, and so is one that was read from some other record, if
the fields of the model, and those of all models that its field types lead to, have different
identifiers and plain types. -/
theorem ofRecord_toRecord (hm : m.IsPlain) (hms : ∀ a, m.Reaches ms a → a.IsPlain) :
    (∀ t, m.HasValue ms t → ∃ r, t.toRecord? = some r ∧ m.ofRecord ms r = .ok t) ∧
      ∀ r t, m.ofRecord ms r = .ok t →
        ∃ r', t.toRecord? = some r' ∧ m.ofRecord ms r' = .ok t :=
  ⟨fun _ h => ofRecord_of_hasValue hm hms h,
    fun _ _ h => ofRecord_of_hasValue hm hms (hasValue_of_ofRecord h)⟩

namespace Sample

/-- An organization with fields that are set to what they are when they are not set. -/
def acmeRecord : Record where
  typeName := "AdminOrg"
  fields := [("enabled", .bool true), ("full_name", .null), ("name", .string "acme"),
    ("link", .list []), ("href", .string "https://vcd/api/admin/org/1")]

/-- What it is as a typed value. -/
def acme : Typed :=
  .model "AdminOrg" [
    ("org", .inherited [
      ("entity", .inherited [
        ("resource", .inherited [("href", .some (.text "https://vcd/api/admin/org/1")),
          ("media_type", .none), ("link", .list [])]),
        ("name", .some (.text "acme")), ("description", .none), ("id", .none),
        ("operation_key", .none), ("tasks", .none)]),
      ("full_name", .none)]),
    ("enabled", .some (.flag true))]

/-- The organization comes back from its own record, which sets three fields. -/
theorem ofRecord_toRecord_acme :
    Builtin.adminOrg.IsPlain ∧ (∀ a, Builtin.adminOrg.Reaches Builtin.models a → a.IsPlain) ∧
      Builtin.adminOrg.ofRecord Builtin.models acmeRecord = .ok acme ∧
      acme.toRecord? = some ⟨"AdminOrg", [("href", .string "https://vcd/api/admin/org/1"),
        ("name", .string "acme"), ("enabled", .bool true)]⟩ ∧
      ∃ r, acme.toRecord? = some r ∧ Builtin.adminOrg.ofRecord Builtin.models r = .ok acme := by
  have horg : Builtin.adminOrg.IsPlain := by decide
  have hmodels : ∀ a, Builtin.adminOrg.Reaches Builtin.models a → a.IsPlain := by
    have hall : ∀ a ∈ Builtin.models.models, a.IsPlain := by decide
    exact fun a ha => hall a ha.mem_models
  have hread : Builtin.adminOrg.ofRecord Builtin.models acmeRecord = .ok acme := by cbv
  exact ⟨horg, hmodels, hread, by cbv, (ofRecord_toRecord horg hmodels).2 acmeRecord acme hread⟩

end Sample

namespace Overlap

/-- A model with a name. -/
def named : Model := .mk { name := "Named" } [.field { identifier := "name", type := .text }]

/-- A model that has a name of its own beside the one that it inherits. -/
def renamed : Model := .mk { name := "Renamed" } [
  .parent "named" named, .field { identifier := "name", type := .text }]

/-- A model with a field of the model with two names. -/
def holder : Model := .mk { name := "Holder" } [
  .field { identifier := "item", type := .model "Renamed" }]

/-- The three models. -/
def models : Models where
  models := [named, renamed, holder]

/-- A value whose names are given. -/
def held (inherited own : String) : Typed := .model "Holder" [
  ("item", .model "Renamed" [
    ("named", .inherited [("name", .text inherited)]), ("name", .text own)])]

lemma hasValue_held (inherited own : String) : holder.HasValue models (held inherited own) := by
  refine ⟨_, _, _, rfl, .field _ _ .nil, fun p hp => ?_⟩
  obtain rfl := List.mem_singleton.1 hp
  refine .model rfl (.parent _ _ (.field _ _ .nil) (.field _ _ .nil)) fun p hp => ?_
  simp only [List.nil_append, List.append_nil, List.singleton_append, List.mem_cons,
    List.not_mem_nil, or_false] at hp
  rcases hp with rfl | rfl
  · exact .text inherited
  · exact .text own

/-- The record of a value with two names has one of them only, and reading it gives the same for
both. -/
theorem ofRecord_toRecord_holder :
    holder.IsPlain ∧ holder.HasValue models (held "x" "y") ∧
      ∃ r, (held "x" "y").toRecord? = some r ∧ holder.ofRecord models r = .ok (held "y" "y") ∧
        held "y" "y" ≠ held "x" "y" := by
  refine ⟨by decide, hasValue_held _ _,
    ⟨"Holder", [("item", .record "Renamed" [("name", .string "y")])]⟩, by cbv, by cbv, ?_⟩
  simp [held]

end Overlap

end Model

end CloudDirector
