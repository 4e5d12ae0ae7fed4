import CloudDirector.Proofs.Payload.Walks
import CloudDirector.Typed.Conversion

/-!
# Typed values and their records

The members of a model make a tree, as those of the model that it inherits from are one of them,
while a record has all fields in one list.  So the values of members are paired with the fields that
have them, inherited ones first: writing goes through these pairs, and reading succeeds exactly if
it does for each of them.  One level of reading is a relation, from which follows what the values of
a type are.
-/

namespace CloudDirector

/-! ## Fields of a model -/

namespace Model

mutual

/-- All fields of a model, in the order in which they are written: those of the first ancestor
come first. -/
def fields : Model → List (FieldDecl FieldType)
  | .mk _ members => inheritedDecls members ++ members.filterMap Member.field?

/-- The fields that are inherited through members. -/
def inheritedDecls : List (Member FieldType Model) → List (FieldDecl FieldType)
  | [] => []
  | member :: rest => inheritedThrough member ++ inheritedDecls rest

/-- The fields that are inherited through a member. -/
def inheritedThrough : Member FieldType Model → List (FieldDecl FieldType)
  | .parent _ m => m.fields
  | .field _ | .skipped _ => []

end

lemma fields_eq (m : Model) : m.fields = inheritedDecls m.members ++ m.ownFields := by
  cases m
  rfl

end Model

/-- A type is part of another one: it is that type, the type inside an option, a list or a map, or
part of the type of a field of the model that is named. -/
inductive FieldType.Reaches (ms : Models) : FieldType → FieldType → Prop
  | self (type : FieldType) : Reaches ms type type
  | optional {type part : FieldType} (rest : Reaches ms type part) :
      Reaches ms (.optional type) part
  | list {element part : FieldType} (rest : Reaches ms element part) :
      Reaches ms (.list element) part
  | map {element part : FieldType} (rest : Reaches ms element part) : Reaches ms (.map element) part
  | field {name : String} {m : Model} {f : FieldDecl FieldType} {part : FieldType}
      (lookup : ms.model? name = some m) (mem : f ∈ m.fields) (rest : Reaches ms f.type part) :
      Reaches ms (.model name) part

namespace Model

/-- The fields of a model name another one, directly or through the fields of models that they
name. -/
def Reaches (ms : Models) (m a : Model) : Prop :=
  ∃ f ∈ m.fields, ∃ name, f.type.Reaches ms (.model name) ∧ ms.model? name = some a

lemma Reaches.mem_models {ms : Models} {m a : Model} (h : m.Reaches ms a) : a ∈ ms.models := by
  obtain ⟨f, -, name, -, hlookup⟩ := h
  exact List.mem_of_find?_eq_some hlookup

/-- Members with their values: the fields that are inherited and those that are not, each paired
with the value that it has. -/
inductive Assigns : List (Member FieldType Model) → List (String × Typed) →
    List (FieldDecl FieldType × Typed) → List (FieldDecl FieldType × Typed) → Prop
  | nil : Assigns [] [] [] []
  | field {rest : List (Member FieldType Model)} {ts : List (String × Typed)}
      {inherited own : List (FieldDecl FieldType × Typed)} (f : FieldDecl FieldType) (t : Typed)
      (tail : Assigns rest ts inherited own) :
      Assigns (.field f :: rest) ((f.identifier, t) :: ts) inherited ((f, t) :: own)
  | parent {members rest : List (Member FieldType Model)} {ms ts : List (String × Typed)}
      {inherited own inherited' own' : List (FieldDecl FieldType × Typed)} (identifier : String)
      (header : Header) (inner : Assigns members ms inherited own)
      (tail : Assigns rest ts inherited' own') :
      Assigns (.parent identifier (.mk header members) :: rest)
        ((identifier, .inherited ms) :: ts) (inherited ++ own ++ inherited') own'
  | skipped {rest : List (Member FieldType Model)} {ts : List (String × Typed)}
      {inherited own : List (FieldDecl FieldType × Typed)} (identifier : String)
      (tail : Assigns rest ts inherited own) :
      Assigns (.skipped identifier :: rest) ((identifier, .skipped) :: ts) inherited own

namespace Assigns

variable {members : List (Member FieldType Model)} {ts : List (String × Typed)}
  {inherited own : List (FieldDecl FieldType × Typed)}

lemma map_fst (h : Assigns members ts inherited own) :
    inherited.map Prod.fst = inheritedDecls members ∧
      own.map Prod.fst = members.filterMap Member.field? := by
  induction h with
  | nil => exact ⟨rfl, rfl⟩
  | field f t _ ih => exact ⟨ih.1, by rw [List.map_cons, ih.2]; rfl⟩
  | parent identifier header _ _ ihinner ih =>
    refine ⟨?_, ih.2⟩
    rw [List.map_append, List.map_append, ihinner.1, ihinner.2, ih.1]
    rfl
  | skipped identifier _ ih => exact ih

lemma map_fst_eq_fields {m : Model} (h : Assigns m.members ts inherited own) :
    (inherited ++ own).map Prod.fst = m.fields := by
  rw [List.map_append, h.map_fst.1, h.map_fst.2, fields_eq]
  rfl

lemma mem_fields {m : Model} (h : Assigns m.members ts inherited own)
    {p : FieldDecl FieldType × Typed} (hp : p ∈ inherited ++ own) : p.1 ∈ m.fields :=
  h.map_fst_eq_fields ▸ List.mem_map_of_mem hp

/-- The pairs are different fields. -/
lemma nodup {m : Model} (h : Assigns m.members ts inherited own)
    (hdistinct : (m.fields.map FieldDecl.identifier).Nodup) :
    ((inherited ++ own).map fun p => p.1.identifier).Nodup := by
  rwa [← h.map_fst_eq_fields, List.map_map] at hdistinct

/-- Every field has a value. -/
lemma exists_of_mem_fields {m : Model} (h : Assigns m.members ts inherited own)
    {f : FieldDecl FieldType} (hf : f ∈ m.fields) : ∃ t, (f, t) ∈ inherited ++ own := by
  rw [← h.map_fst_eq_fields] at hf
  obtain ⟨⟨f, t⟩, hp, rfl⟩ := List.mem_map.1 hf
  exact ⟨t, hp⟩

end Assigns

/-- Values of the fields, each by its declaration, are the values of the members. -/
lemma exists_assigns (value : FieldDecl FieldType → Typed) :
    ∀ members : List (Member FieldType Model), ∃ ts inherited own,
      Assigns members ts inherited own ∧ ∀ p ∈ inherited ++ own, p.2 = value p.1
  | [] => ⟨[], [], [], .nil, by simp⟩
  | .field f :: rest => by
    obtain ⟨ts, inherited, own, htail, hvalues⟩ := exists_assigns value rest
    refine ⟨_, _, _, .field f (value f) htail, ?_⟩
    simp only [List.perm_middle.mem_iff, List.forall_mem_cons]
    exact ⟨trivial, hvalues⟩
  | .parent identifier (.mk header members) :: rest => by
    obtain ⟨ms, inherited, own, hinner, hvalues⟩ := exists_assigns value members
    obtain ⟨ts, inherited', own', htail, hvalues'⟩ := exists_assigns value rest
    refine ⟨_, _, _, .parent identifier header hinner htail, ?_⟩
    rw [List.append_assoc, List.forall_mem_append]
    exact ⟨hvalues, hvalues'⟩
  | .skipped identifier :: rest => by
    obtain ⟨ts, inherited, own, htail, hvalues⟩ := exists_assigns value rest
    exact ⟨_, _, _, .skipped identifier htail, hvalues⟩

end Model

/-! ## Writing -/

namespace Typed

/-- A value that a field may have: not what is inherited, and not a member that is skipped. -/
def isOwn : Typed → Bool
  | inherited _ | skipped => false
  | _ => true

lemma toItems_eq_map (items : List Typed) : toItems items = items.map toValue := by
  induction items with
  | nil => rw [toItems]; rfl
  | cons t rest ih => rw [toItems, ih, List.map_cons]

lemma toEntries_eq_map (entries : List (String × Typed)) :
    toEntries entries = entries.map fun m => (m.1, m.2.toValue) := by
  induction entries with
  | nil => rw [toEntries]; rfl
  | cons m rest ih => rw [toEntries, ih, List.map_cons]

/-- What a field is written as, if its value does not leave it unset. -/
def writtenField (p : FieldDecl FieldType × Typed) : Option (String × Value) :=
  if p.2.isAbsent then .none else .some (p.1.identifier, p.2.toValue)

lemma writtenField_eq_some_iff {p : FieldDecl FieldType × Typed} {m : String × Value} :
    writtenField p = .some m ↔ p.2.isAbsent = false ∧ m = (p.1.identifier, p.2.toValue) := by
  rw [writtenField]
  cases p.2.isAbsent <;> simp [eq_comm]

lemma fst_of_writtenField {p : FieldDecl FieldType × Typed} {m : String × Value}
    (h : writtenField p = .some m) : m.1 = p.1.identifier := by
  rw [(writtenField_eq_some_iff.1 h).2]

lemma mem_written_iff {pairs : List (FieldDecl FieldType × Typed)} {m : String × Value} :
    m ∈ pairs.filterMap writtenField ↔
      ∃ p ∈ pairs, p.2.isAbsent = false ∧ m = (p.1.identifier, p.2.toValue) := by
  simp only [List.mem_filterMap, writtenField_eq_some_iff]

lemma get?_written {pairs : List (FieldDecl FieldType × Typed)}
    (hdistinct : (pairs.map fun p => p.1.identifier).Nodup) {p : FieldDecl FieldType × Typed}
    (hp : p ∈ pairs) :
    Members.get? (pairs.filterMap writtenField) p.1.identifier =
      if p.2.isAbsent then .none else .some p.2.toValue := by
  rw [Members.get?_filterMap (fun p _ m hm => fst_of_writtenField hm) hdistinct hp, writtenField]
  cases p.2.isAbsent <;> rfl

lemma inheritedFields_cons_of_isOwn {identifier : String} {t : Typed} (h : t.isOwn = true)
    (rest : List (String × Typed)) :
    inheritedFields ((identifier, t) :: rest) = inheritedFields rest := by
  cases t with
  | inherited _ | skipped => cases h
  | _ => rw [inheritedFields]; simp

lemma ownFields_cons_of_isOwn {identifier : String} {t : Typed} (h : t.isOwn = true)
    (rest : List (String × Typed)) :
    ownFields ((identifier, t) :: rest) =
      if t.isAbsent then ownFields rest else (identifier, t.toValue) :: ownFields rest := by
  cases t with
  | inherited _ | skipped => cases h
  | _ => rw [ownFields] <;> simp

end Typed

namespace Model.Assigns

variable {members : List (Member FieldType Model)} {ts : List (String × Typed)}
  {inherited own : List (FieldDecl FieldType × Typed)}

/-- The fields of members are written from the values that they are paired with. -/
lemma fields_eq (h : Assigns members ts inherited own)
    (hown : ∀ p ∈ inherited ++ own, p.2.isOwn = true) :
    Typed.inheritedFields ts = inherited.filterMap Typed.writtenField ∧
      Typed.ownFields ts = own.filterMap Typed.writtenField := by
  induction h with
  | nil => exact ⟨by rw [Typed.inheritedFields]; rfl, by rw [Typed.ownFields]; rfl⟩
  | field f t _ ih =>
    simp only [List.perm_middle.mem_iff, List.forall_mem_cons] at hown
    obtain ⟨ht, hown⟩ := hown
    obtain ⟨hinherited, hrest⟩ := ih hown
    -- the field is among those of this model, and left out there if its value leaves it unset
    refine ⟨by rw [Typed.inheritedFields_cons_of_isOwn ht, hinherited], ?_⟩
    rw [Typed.ownFields_cons_of_isOwn ht, hrest, List.filterMap_cons, Typed.writtenField]
    cases t.isAbsent <;> rfl
  | parent identifier header _ _ ihinner ih =>
    rw [List.append_assoc, List.forall_mem_append] at hown
    obtain ⟨hinner, hinnerOwn⟩ := ihinner hown.1
    obtain ⟨hinherited, hrest⟩ := ih hown.2
    refine ⟨?_, by rw [Typed.ownFields, hrest]⟩
    rw [Typed.inheritedFields, hinner, hinnerOwn, hinherited, List.filterMap_append,
      List.filterMap_append]
  | skipped identifier _ ih =>
    obtain ⟨hinherited, hrest⟩ := ih hown
    exact ⟨by rw [Typed.inheritedFields, hinherited]; simp, by rw [Typed.ownFields, hrest]⟩

/-- The record of members sets the fields that they are paired with, in their order. -/
lemma toValue_model (h : Assigns members ts inherited own)
    (hown : ∀ p ∈ inherited ++ own, p.2.isOwn = true)
    (hdistinct : ((inherited ++ own).map fun p => p.1.identifier).Nodup) (name : String) :
    (Typed.model name ts).toValue =
      .record name ((inherited ++ own).filterMap Typed.writtenField) := by
  obtain ⟨hinherited, hrest⟩ := h.fields_eq hown
  rw [Typed.toValue, hinherited, hrest, ← List.filterMap_append, Members.ofPairs_eq_self]
  exact Members.nodup_keys_filterMap (fun p _ m hm => Typed.fst_of_writtenField hm) hdistinct

end Model.Assigns

/-! ## Reading members -/

namespace Typed

variable {ms : Models} {fields : List (String × Value)} {f : FieldDecl FieldType} {t : Typed}

/-- A typed value is what a declared field is read as among the fields of a record. -/
def IsRead (ms : Models) (fields : List (String × Value)) (f : FieldDecl FieldType) (t : Typed) :
    Prop :=
  match Members.get? fields f.identifier with
  | .some v => ofValue ms v f.type = .ok t
  | .none => f.type.absent? = .some t

lemma isRead_of_get?_eq_some {v : Value} (h : Members.get? fields f.identifier = .some v) :
    IsRead ms fields f t ↔ ofValue ms v f.type = .ok t := by
  rw [IsRead, h]

lemma isRead_of_get?_eq_none (h : Members.get? fields f.identifier = .none) :
    IsRead ms fields f t ↔ f.type.absent? = .some t := by
  rw [IsRead, h]

lemma isRead_iff :
    IsRead ms fields f t ↔
      (∃ v, Members.get? fields f.identifier = .some v ∧ ofValue ms v f.type = .ok t) ∨
        (Members.get? fields f.identifier = .none ∧ f.type.absent? = .some t) := by
  cases hget : Members.get? fields f.identifier with
  | some v => simp [isRead_of_get?_eq_some hget]
  | none => simp [isRead_of_get?_eq_none hget]

/-- A field is read from the first value of its identifier, if there is one. -/
lemma ofField_eq (owner : String) :
    ofField ms owner f fields =
      match Members.get? fields f.identifier with
      | .some v => (ofValue ms v f.type).passing (.field owner f.identifier)
      | .none =>
        match f.type.absent? with
        | .some t => .ok t
        | .none => .failValue (.missingField owner f.identifier) := by
  induction fields with
  | nil => rw [ofField]; rfl
  | cons m rest ih =>
    obtain ⟨name, v⟩ := m
    by_cases hname : name = f.identifier
    · subst hname
      rw [ofField, if_pos rfl, Members.get?_cons_self]
    · rw [ofField, if_neg hname, ih, Members.get?_cons_of_ne hname]

lemma ofField_eq_ok_iff {owner : String} :
    ofField ms owner f fields = .ok t ↔ IsRead ms fields f t := by
  rw [ofField_eq, IsRead]
  split
  · exact Result.passing_eq_ok
  · cases f.type.absent? with
    | none => simp [Result.failValue, Result.fail]
    | some u => simp

end Typed

namespace Model

variable {ms : Models} {read : String → FieldDecl FieldType → Result Typed}
  {R : FieldDecl FieldType → Typed → Prop}

/-- Members are read exactly if each field is, the result being paired with it. -/
lemma readMembers_eq_ok_iff (hread : ∀ owner f t, read owner f = .ok t ↔ R f t)
    {owner : String} {members : List (Member FieldType Model)} {ts : List (String × Typed)} :
    readMembers owner read members = .ok ts ↔
      ∃ inherited own, Assigns members ts inherited own ∧ ∀ p ∈ inherited ++ own, R p.1 p.2 := by
  constructor
  · intro h
    -- the cases are those of reading: a field or an ancestor is refused, or the rest is read
    induction owner, members using readMembers.induct read generalizing ts with
    | case1 owner =>
      rw [readMembers] at h
      cases h
      exact ⟨[], [], .nil, by simp⟩
    | case2 owner f rest r hf =>
      rw [readMembers, hf] at h
      cases h
    | case3 owner f rest t hf ih =>
      rw [readMembers, hf] at h
      obtain ⟨ts, hrest, rfl⟩ := Result.map_eq_ok.1 h
      obtain ⟨inherited, own, htail, hall⟩ := ih hrest
      refine ⟨inherited, (f, t) :: own, .field f t htail, ?_⟩
      simp only [List.perm_middle.mem_iff, List.forall_mem_cons]
      exact ⟨(hread owner f t).1 hf, hall⟩
    | case4 owner identifier header members rest r hparent _ =>
      rw [readMembers, hparent] at h
      cases h
    | case5 owner identifier header members rest ms hparent ihparent ih =>
      rw [readMembers, hparent] at h
      obtain ⟨ts, hrest, rfl⟩ := Result.map_eq_ok.1 h
      obtain ⟨inherited, own, hinner, hinnerAll⟩ := ihparent hparent
      obtain ⟨inherited', own', htail, hall⟩ := ih hrest
      refine ⟨_, _, .parent identifier header hinner htail, ?_⟩
      rw [List.append_assoc, List.forall_mem_append]
      exact ⟨hinnerAll, hall⟩
    | case6 owner identifier rest ih =>
      rw [readMembers] at h
      obtain ⟨ts, hrest, rfl⟩ := Result.map_eq_ok.1 h
      obtain ⟨inherited, own, htail, hall⟩ := ih hrest
      exact ⟨inherited, own, .skipped identifier htail, hall⟩
  · rintro ⟨inherited, own, h, hall⟩
    induction h generalizing owner with
    | nil => rw [readMembers]
    | field f t _ ih =>
      simp only [List.perm_middle.mem_iff, List.forall_mem_cons] at hall
      have hf : read owner f = .ok t := (hread owner f t).2 hall.1
      simp only [readMembers, hf, @ih owner hall.2, Result.map_ok]
    | parent identifier header _ _ ihinner ih =>
      rw [List.append_assoc, List.forall_mem_append] at hall
      simp only [readMembers, @ihinner header.name hall.1, @ih owner hall.2, Result.map_ok]
    | skipped identifier _ ih => rw [readMembers, @ih owner hall, Result.map_ok]

/-- Members are read in one way where each of their fields is. -/
lemma readMembers_congr {read' : String → FieldDecl FieldType → Result Typed} (owner : String) :
    ∀ members : List (Member FieldType Model),
      (∀ owner, ∀ f ∈ inheritedDecls members ++ members.filterMap Member.field?,
        read owner f = read' owner f) →
      readMembers owner read members = readMembers owner read' members
  | [], _ => by rw [readMembers, readMembers]
  | .field f :: rest, h => by
    have hrest := readMembers_congr owner rest fun owner g hg =>
      h owner g (List.perm_middle.mem_iff.2 (List.mem_cons_of_mem _ hg))
    rw [readMembers, readMembers, h owner f (List.mem_append_right _ List.mem_cons_self), hrest]
  | .parent identifier (.mk header members) :: rest, h => by
    have hinner := readMembers_congr header.name members fun owner g hg =>
      h owner g (List.mem_append_left _ (List.mem_append_left _ hg))
    have hrest := readMembers_congr owner rest fun owner g hg => h owner g (by
      rcases List.mem_append.1 hg with hg | hg
      · exact List.mem_append_left _ (List.mem_append_right _ hg)
      · exact List.mem_append_right _ hg)
    rw [readMembers, readMembers, hinner, hrest]
  | .skipped identifier :: rest, h => by
    rw [readMembers, readMembers, readMembers_congr owner rest h]

/-- The members of a model are read from the fields of a record exactly if each field is. -/
lemma readWith_eq_ok_iff {m : Model} {fields : List (String × Value)}
    {ts : List (String × Typed)} :
    (m.readWith fun owner f => Typed.ofField ms owner f fields) = .ok ts ↔
      ∃ inherited own, Assigns m.members ts inherited own ∧
        ∀ p ∈ inherited ++ own, Typed.IsRead ms fields p.1 p.2 :=
  readMembers_eq_ok_iff (R := Typed.IsRead ms fields) fun _ _ _ => Typed.ofField_eq_ok_iff

/-- A record is read exactly if every field of the model is. -/
lemma ofRecord_eq_ok_iff {m : Model} {r : Record} {t : Typed} :
    m.ofRecord ms r = .ok t ↔ ∃ members inherited own, t = .model m.name members ∧
      Assigns m.members members inherited own ∧
      ∀ p ∈ inherited ++ own, Typed.IsRead ms r.fields p.1 p.2 := by
  rw [ofRecord, Result.map_eq_ok]
  constructor
  · rintro ⟨members, h, rfl⟩
    obtain ⟨inherited, own, hassigns, hall⟩ := readWith_eq_ok_iff.1 (Result.passing_eq_ok.1 h)
    exact ⟨members, inherited, own, rfl, hassigns, hall⟩
  · rintro ⟨members, inherited, own, rfl, hassigns, hall⟩
    exact ⟨members, Result.passing_eq_ok.2 (readWith_eq_ok_iff.2 ⟨inherited, own, hassigns, hall⟩),
      rfl⟩

/-- Fields that agree on those of the model are read in one way. -/
lemma readWith_congr {m : Model} {fields fields' : List (String × Value)}
    (h : ∀ f ∈ m.fields, Members.get? fields f.identifier = Members.get? fields' f.identifier) :
    (m.readWith fun owner f => Typed.ofField ms owner f fields) =
      m.readWith fun owner f => Typed.ofField ms owner f fields' := by
  refine readMembers_congr m.name m.members fun owner f hf => ?_
  rw [Typed.ofField_eq, Typed.ofField_eq, h f (fields_eq m ▸ hf)]

/-- Records that agree on the fields of the model are read in one way. -/
lemma ofRecord_congr {m : Model} {r r' : Record} (htype : r.typeName = r'.typeName)
    (h : ∀ f ∈ m.fields, r.get? f.identifier = r'.get? f.identifier) :
    m.ofRecord ms r = m.ofRecord ms r' := by
  rw [ofRecord, ofRecord, htype, readWith_congr h]

lemma exists_ofRecord_iff {m : Model} {r : Record} :
    (∃ t, m.ofRecord ms r = .ok t) ↔ ∀ f ∈ m.fields, ∃ t, Typed.IsRead ms r.fields f t := by
  constructor
  · rintro ⟨t, ht⟩ f hf
    obtain ⟨members, inherited, own, -, h, hall⟩ := ofRecord_eq_ok_iff.1 ht
    obtain ⟨u, hu⟩ := h.exists_of_mem_fields hf
    exact ⟨u, hall _ hu⟩
  · intro h
    choose! value hvalue using h
    obtain ⟨members, inherited, own, hassigns, hvalues⟩ := exists_assigns value m.members
    refine ⟨_, ofRecord_eq_ok_iff.2 ⟨members, inherited, own, rfl, hassigns, fun p hp => ?_⟩⟩
    rw [hvalues p hp]
    exact hvalue p.1 (hassigns.mem_fields hp)

end Model

/-! ## One level of reading -/

/-- A constant is one of a declared enumeration. -/
def EnumDecl.Has (e : EnumDecl) : EnumConstant → Prop
  | .known name => ∃ v ∈ e.variants, v.identifier = name
  | .unknown _ => e.unknown.isSome = true

lemma EnumDecl.read_eq_ok_iff {e : EnumDecl} {value : EnumValue} {t : Typed} :
    e.read value = .ok t ↔ e.Has value.constant ∧ t = .constant ⟨e.name, value.constant⟩ := by
  obtain ⟨typeName, constant⟩ := value
  cases constant with
  | known name =>
    by_cases h : (e.variants.any fun v => v.identifier == name) = true
    · have hhas : e.Has (.known name) := by simpa [EnumDecl.Has] using h
      simp only [EnumDecl.read, h, hhas, if_true, true_and, Except.ok.injEq]
      exact eq_comm
    · have hhas : ¬e.Has (.known name) := by simpa [EnumDecl.Has] using h
      simp [EnumDecl.read, h, hhas, Result.failValue, Result.fail]
  | unknown text =>
    by_cases h : e.unknown.isSome = true
    · simp only [EnumDecl.read, EnumDecl.Has, h, if_true, true_and, Except.ok.injEq]
      exact eq_comm
    · simp [EnumDecl.read, EnumDecl.Has, h, Result.failValue, Result.fail]

namespace Typed

variable {ms : Models} {v : Value} {type element : FieldType} {t : Typed}

lemma readInt32_eq_ok_iff {i : Int64} :
    readInt32 i = .ok t ↔ ∃ n : Int32, n.toInt64 = i ∧ t = .int32 n := by
  rw [readInt32]
  constructor
  · intro h
    split at h
    · cases h
    · split at h
      · cases h
      · cases h
        refine ⟨_, ?_, rfl⟩
        rw [← Int64.toInt_inj, Int32.toInt_toInt64, Int32.toInt_ofInt_of_le (by omega) (by omega)]
  · rintro ⟨n, rfl, rfl⟩
    have hle := n.le_toInt
    have hlt := n.toInt_lt
    rw [Int32.toInt_toInt64, if_neg (by omega), if_neg (by omega), Int32.ofInt_toInt]

/-- One level of reading a value as one of a type. -/
inductive ReadAs (ms : Models) : Value → FieldType → Typed → Prop
  | text (s : String) : ReadAs ms (.string s) .text (.text s)
  | flag (b : Bool) : ReadAs ms (.bool b) .flag (.flag b)
  | int64 (i : Int64) : ReadAs ms (.int i) .int64 (.int64 i)
  | int32 (i : Int32) : ReadAs ms (.int i.toInt64) .int32 (.int32 i)
  | float {v : Value} {x : Binary64} (widened : v.binary64? = .some x) :
      ReadAs ms v .float (.float x)
  | date (d : Date) : ReadAs ms (.date d) .date (.date d)
  | dateTime (t : DateTime) : ReadAs ms (.dateTime t) .dateTime (.dateTime t)
  | json (j : Json) : ReadAs ms (.json j) .json (.json j)
  | jsonNull : ReadAs ms .null .json (.json .null)
  | binary (bytes : List UInt8) : ReadAs ms (.bytes bytes) .binary (.binary bytes)
  | record (typeName : String) (fields : List (String × Value)) :
      ReadAs ms (.record typeName fields) .record (.record ⟨typeName, fields⟩)
  | any (v : Value) : ReadAs ms v .any (.any v)
  | none (type : FieldType) : ReadAs ms .null (.optional type) .none
  | some {v : Value} {type : FieldType} {t : Typed} (nonnull : v.isNull = false)
      (walk : ofValue ms v type = .ok t) : ReadAs ms v (.optional type) (.some t)
  | list {element : FieldType} {items : List Value} {ts : List Typed}
      (parts : List.Forall₂ (fun v t => ofValue ms v element = .ok t) items ts) :
      ReadAs ms (.list items) (.list element) (.list ts)
  | map {element : FieldType} {entries : List (String × Value)} {ts : List (String × Typed)}
      (parts : List.Forall₂ (fun m n => n.1 = m.1 ∧ ofValue ms m.2 element = .ok n.2)
        entries ts) :
      ReadAs ms (.map entries) (.map element) (.map ts)
  | enum {name typeName : String} {e : EnumDecl} {c : EnumConstant}
      (lookup : ms.enum? name = .some e) (has : e.Has c) :
      ReadAs ms (.enum ⟨typeName, c⟩) (.enum name) (.constant ⟨e.name, c⟩)
  | model {name typeName : String} {fields : List (String × Value)} {m : Model}
      {members : List (String × Typed)} {inherited own : List (FieldDecl FieldType × Typed)}
      (lookup : ms.model? name = .some m)
      (assigns : Model.Assigns m.members members inherited own)
      (parts : ∀ p ∈ inherited ++ own, IsRead ms fields p.1 p.2) :
      ReadAs ms (.record typeName fields) (.model name) (.model name members)

lemma ofItems_eq_ok_iff {i : Nat} {items : List Value} {ts : List Typed} :
    ofItems ms element i items = .ok ts ↔
      List.Forall₂ (fun v t => ofValue ms v element = .ok t) items ts := by
  induction items generalizing i ts with
  | nil =>
    rw [ofItems, List.forall₂_nil_left_iff]
    simp [eq_comm]
  | cons v items ih =>
    rw [ofItems, List.forall₂_cons_left_iff]
    constructor
    · intro h
      split at h
      · cases h
      · next t ht =>
        obtain ⟨rest, hrest, rfl⟩ := Result.map_eq_ok.1 h
        exact ⟨t, rest, Result.passing_eq_ok.1 ht, ih.1 hrest, rfl⟩
    · rintro ⟨t, rest, ht, hrest, rfl⟩
      rw [ht, Result.passing_ok]
      simp only [ih.2 hrest, Result.map_ok]

lemma ofEntries_eq_ok_iff {entries : List (String × Value)} {ts : List (String × Typed)} :
    ofEntries ms element entries = .ok ts ↔
      List.Forall₂ (fun m n => n.1 = m.1 ∧ ofValue ms m.2 element = .ok n.2) entries ts := by
  induction entries generalizing ts with
  | nil =>
    rw [ofEntries, List.forall₂_nil_left_iff]
    simp [eq_comm]
  | cons m entries ih =>
    obtain ⟨key, v⟩ := m
    rw [ofEntries, List.forall₂_cons_left_iff]
    constructor
    · intro h
      split at h
      · cases h
      · next t ht =>
        obtain ⟨rest, hrest, rfl⟩ := Result.map_eq_ok.1 h
        exact ⟨(key, t), rest, ⟨rfl, Result.passing_eq_ok.1 ht⟩, ih.1 hrest, rfl⟩
    · rintro ⟨⟨key', t⟩, rest, ⟨rfl, ht⟩, hrest, rfl⟩
      rw [ht, Result.passing_ok]
      simp only [ih.2 hrest, Result.map_ok]

lemma ofValue_optional :
    ofValue ms v (.optional type) =
      if v.isNull then .ok .none else (ofValue ms v type).map .some := by
  rw [ofValue.eq_def, FieldType.orNull]
  simp only [ofValue.eq_def ms v type]

lemma readAs_of_ofValue (h : ofValue ms v type = .ok t) : ReadAs ms v type t := by
  cases type with
  | optional type =>
    rw [ofValue_optional] at h
    split at h
    · next hnull =>
      obtain rfl : v = .null := by cases v <;> first | rfl | cases hnull
      cases h
      exact .none type
    · next hnull =>
      obtain ⟨u, hu, rfl⟩ := Result.map_eq_ok.1 h
      exact .some (Bool.eq_false_iff.2 hnull) hu
  | any =>
    simp only [ofValue.eq_def, FieldType.orNull] at h
    cases h
    exact .any v
  | int32 =>
    simp only [ofValue.eq_def, FieldType.orNull] at h
    cases v with
    | int i =>
      obtain ⟨n, rfl, rfl⟩ := readInt32_eq_ok_iff.1 h
      exact .int32 n
    | _ => cases h
  | float =>
    simp only [ofValue.eq_def, FieldType.orNull] at h
    cases hwidened : v.binary64? with
    | some x =>
      simp only [hwidened] at h
      cases h
      exact .float hwidened
    | none =>
      simp only [hwidened] at h
      cases h
  | list element =>
    simp only [ofValue.eq_def, FieldType.orNull] at h
    cases v with
    | list items =>
      obtain ⟨ts, hts, rfl⟩ := Result.map_eq_ok.1 h
      exact .list (ofItems_eq_ok_iff.1 hts)
    | _ => cases h
  | map element =>
    simp only [ofValue.eq_def, FieldType.orNull] at h
    cases v with
    | map entries =>
      obtain ⟨ts, hts, rfl⟩ := Result.map_eq_ok.1 h
      exact .map (ofEntries_eq_ok_iff.1 hts)
    | _ => cases h
  | enum name =>
    simp only [ofValue.eq_def, FieldType.orNull] at h
    cases v with
    | enum e =>
      cases hlookup : ms.enum? name with
      | some decl =>
        simp only [hlookup] at h
        obtain ⟨hhas, rfl⟩ := EnumDecl.read_eq_ok_iff.1 h
        exact .enum hlookup hhas
      | none =>
        simp only [hlookup] at h
        cases h
    | _ => cases h
  | model name =>
    simp only [ofValue.eq_def, FieldType.orNull] at h
    cases v with
    | record typeName fields =>
      cases hlookup : ms.model? name with
      | some m =>
        simp only [hlookup] at h
        obtain ⟨members, hmembers, rfl⟩ := Result.map_eq_ok.1 h
        obtain ⟨inherited, own, hassigns, hall⟩ :=
          Model.readWith_eq_ok_iff.1 (Result.passing_eq_ok.1 hmembers)
        exact .model hlookup hassigns hall
      | none =>
        simp only [hlookup] at h
        cases h
    | _ => cases h
  | _ =>
    -- a scalar has one kind of value, null standing for the null of JSON
    simp only [ofValue.eq_def, FieldType.orNull] at h
    cases v <;> cases h <;> constructor

lemma ofValue_of_readAs (h : ReadAs ms v type t) : ofValue ms v type = .ok t := by
  cases h with
  | none =>
    rw [ofValue_optional]
    rfl
  | some nonnull walk =>
    rw [ofValue_optional, nonnull, walk]
    rfl
  | int32 i =>
    simp only [ofValue.eq_def, FieldType.orNull]
    exact readInt32_eq_ok_iff.2 ⟨i, rfl, rfl⟩
  | float widened => simp only [ofValue.eq_def, FieldType.orNull, widened]
  | list parts =>
    simp only [ofValue.eq_def, FieldType.orNull, ofItems_eq_ok_iff.2 parts, Result.map_ok]
  | map parts =>
    simp only [ofValue.eq_def, FieldType.orNull, ofEntries_eq_ok_iff.2 parts, Result.map_ok]
  | enum lookup has =>
    simp only [ofValue.eq_def, FieldType.orNull, lookup]
    exact EnumDecl.read_eq_ok_iff.2 ⟨has, rfl⟩
  | model lookup assigns parts =>
    have hread := Model.readWith_eq_ok_iff.2 ⟨_, _, assigns, parts⟩
    simp only [ofValue.eq_def, FieldType.orNull, lookup, hread, Result.passing_ok, Result.map_ok]
  | _ => simp only [ofValue.eq_def, FieldType.orNull]

end Typed

/-! ## Values of a type -/

namespace Typed

variable {ms : Models} {type : FieldType} {t : Typed}

/-- The typed values of a type. -/
inductive HasType (ms : Models) : FieldType → Typed → Prop
  | text (s : String) : HasType ms .text (.text s)
  | flag (b : Bool) : HasType ms .flag (.flag b)
  | int64 (i : Int64) : HasType ms .int64 (.int64 i)
  | int32 (i : Int32) : HasType ms .int32 (.int32 i)
  | float (x : Binary64) : HasType ms .float (.float x)
  | date (d : Date) : HasType ms .date (.date d)
  | dateTime (t : DateTime) : HasType ms .dateTime (.dateTime t)
  | json (j : Json) : HasType ms .json (.json j)
  | binary (bytes : List UInt8) : HasType ms .binary (.binary bytes)
  | record (r : Record) : HasType ms .record (.record r)
  | any (v : Value) : HasType ms .any (.any v)
  | none (type : FieldType) : HasType ms (.optional type) .none
  | some {type : FieldType} {t : Typed} (inner : HasType ms type t) :
      HasType ms (.optional type) (.some t)
  | list {element : FieldType} {items : List Typed} (parts : ∀ t ∈ items, HasType ms element t) :
      HasType ms (.list element) (.list items)
  | map {element : FieldType} {entries : List (String × Typed)}
      (parts : ∀ m ∈ entries, HasType ms element m.2) : HasType ms (.map element) (.map entries)
  | enum {name : String} {e : EnumDecl} {c : EnumConstant} (lookup : ms.enum? name = .some e)
      (has : e.Has c) : HasType ms (.enum name) (.constant ⟨e.name, c⟩)
  | model {name : String} {m : Model} {members : List (String × Typed)}
      {inherited own : List (FieldDecl FieldType × Typed)} (lookup : ms.model? name = .some m)
      (assigns : Model.Assigns m.members members inherited own)
      (parts : ∀ p ∈ inherited ++ own, HasType ms p.1.type p.2) :
      HasType ms (.model name) (.model name members)

lemma HasType.isOwn (h : HasType ms type t) : t.isOwn = true := by
  cases h <;> rfl

lemma hasType_of_absent? (h : type.absent? = .some t) : HasType ms type t := by
  cases type with
  | optional type =>
    cases h
    exact .none type
  | list element =>
    cases h
    exact .list (by simp)
  | map element =>
    cases h
    exact .map (by simp)
  | _ => cases h

/-- What is read as a type is a value of it. -/
lemma hasType_of_ofValue {v : Value} (h : ofValue ms v type = .ok t) : HasType ms type t := by
  induction v using Value.induction generalizing type t with
  | step v ih =>
    -- an optional type is read from the value itself, every other one from its parts
    induction type generalizing t with
    | optional type ihtype =>
      cases readAs_of_ofValue h with
      | none => exact .none type
      | some nonnull walk => exact .some (ihtype walk)
    | list element =>
      cases readAs_of_ofValue h with
      | list parts =>
        refine .list fun u hu => ?_
        obtain ⟨w, hw, hread⟩ := exists_of_forall₂_of_mem parts hu
        exact ih w (.item hw) hread
    | map element =>
      cases readAs_of_ofValue h with
      | map parts =>
        refine .map fun n hn => ?_
        obtain ⟨m, hm, -, hread⟩ := exists_of_forall₂_of_mem parts hn
        exact ih m.2 (.entry hm) hread
    | enum name =>
      cases readAs_of_ofValue h with
      | enum lookup has => exact .enum lookup has
    | model name =>
      cases readAs_of_ofValue h with
      | model lookup assigns parts =>
        refine .model lookup assigns fun p hp => ?_
        rcases isRead_iff.1 (parts p hp) with ⟨w, hw, hread⟩ | ⟨-, habsent⟩
        · exact ih w (.field (Members.mem_of_get?_eq_some hw)) hread
        · exact hasType_of_absent? habsent
    | _ => cases readAs_of_ofValue h <;> constructor

lemma IsRead.hasType {fields : List (String × Value)} {f : FieldDecl FieldType}
    (h : IsRead ms fields f t) : HasType ms f.type t := by
  rcases isRead_iff.1 h with ⟨v, -, hread⟩ | ⟨-, habsent⟩
  · exact hasType_of_ofValue hread
  · exact hasType_of_absent? habsent

end Typed

/-- The typed values of a model. -/
def Model.HasValue (ms : Models) (m : Model) (t : Typed) : Prop :=
  ∃ members inherited own, t = .model m.name members ∧
    Assigns m.members members inherited own ∧
    ∀ p ∈ inherited ++ own, Typed.HasType ms p.1.type p.2

lemma Model.hasValue_of_ofRecord {ms : Models} {m : Model} {r : Record} {t : Typed}
    (h : m.ofRecord ms r = .ok t) : m.HasValue ms t := by
  obtain ⟨members, inherited, own, rfl, hassigns, hall⟩ := ofRecord_eq_ok_iff.1 h
  exact ⟨members, inherited, own, rfl, hassigns, fun p hp => (hall p hp).hasType⟩

end CloudDirector
