import CloudDirector.Proofs.Typed.Wire

/-!
# Tasks on the wire

Tasks have links, references and an error, and the tasks that are running for them are tasks again.
None of their types leaves open what its values hold, so that of all that occurs in a task, however
deep, only dates with times and states must have a written form that keeps them.
-/

namespace CloudDirector

/-- A type whose values are settled: they are neither open nor scalars that may be written in a form
that loses them, dates with times and constants apart. -/
def FieldType.isSettled : FieldType → Bool
  | float | date | json | record | any => false
  | optional type | list type | map type => type.isSettled
  | _ => true

/-- Declarations with settled types only, whose enumerations map all of their variants. -/
structure Models.IsSettled (ms : Models) : Prop where
  settled : ∀ m ∈ ms.models, ∀ f ∈ m.fields, f.type.isSettled = true
  distinct : (ms.enums.map EnumDecl.name).Nodup
  mapped : ∀ e ∈ ms.enums, ∀ v ∈ e.variants, (e.entry.text? v.identifier).isSome = true

namespace Model

/-- What occurs in the value of a member occurs in the value of a field that it is, or brings in. -/
lemma Assigns.exists_of_within {members : List (Member FieldType Model)}
    {ts : List (String × Typed)} {inherited own : List (FieldDecl FieldType × Typed)}
    (h : Assigns members ts inherited own) {q : String × Typed} (hq : q ∈ ts) {u : Typed}
    (hu : u.Within q.2) (hown : u.isOwn = true) : ∃ p ∈ inherited ++ own, u.Within p.2 := by
  induction h generalizing q with
  | nil => cases hq
  | field f t _ ih =>
    simp only [List.perm_middle.mem_iff, List.exists_mem_cons_iff]
    rcases List.mem_cons.1 hq with rfl | hq
    · exact .inl hu
    · exact .inr (ih hq hu)
  | parent identifier header _ _ ihinner ih =>
    rw [List.append_assoc]
    rcases List.mem_cons.1 hq with rfl | hq
    · -- what is inherited is not the value of a field, so that the value occurs inside it
      cases hu with
      | self => cases hown
      | inherited mem within =>
        obtain ⟨p, hp, hwithin⟩ := ihinner mem within
        exact ⟨p, List.mem_append_left _ hp, hwithin⟩
    · obtain ⟨p, hp, hwithin⟩ := ih hq hu
      exact ⟨p, List.mem_append_right _ hp, hwithin⟩
  | skipped identifier _ ih =>
    rcases List.mem_cons.1 hq with rfl | hq
    · cases hu
      cases hown
    · exact ih hq hu

lemma hasType_of_hasValue {ms : Models} {m : Model} {t : Typed}
    (hlookup : ms.model? m.name = some m) (h : m.HasValue ms t) :
    Typed.HasType ms (.model m.name) t := by
  obtain ⟨members, inherited, own, rfl, hassigns, htype⟩ := h
  exact .model hlookup hassigns htype

end Model

namespace Typed

variable {ms : Models} {type : FieldType} {t u : Typed}

/-- What occurs in a value of a settled type has a settled type as well. -/
lemma HasType.exists_of_within (hms : ms.IsSettled) (h : HasType ms type t)
    (htype : type.isSettled = true) (hu : u.Within t) (hown : u.isOwn = true) :
    ∃ part : FieldType, part.isSettled = true ∧ HasType ms part u := by
  induction h with
  | @some type t inner ih =>
    cases hu with
    | self => exact ⟨_, htype, .some inner⟩
    | some within => exact ih htype within
  | list parts ih =>
    cases hu with
    | self => exact ⟨_, htype, .list parts⟩
    | item mem within => exact ih _ mem htype within
  | map parts ih =>
    cases hu with
    | self => exact ⟨_, htype, .map parts⟩
    | entry mem within => exact ih _ mem htype within
  | @model name m members inherited own lookup assigns parts ih =>
    cases hu with
    | self => exact ⟨_, htype, .model lookup assigns parts⟩
    | member mem within =>
      obtain ⟨p, hp, hwithin⟩ := assigns.exists_of_within mem within hown
      have hpart := hms.settled m (List.mem_of_find?_eq_some lookup) p.1 (assigns.mem_fields hp)
      exact ih p hp hpart hwithin
  | _ =>
    -- a value without parts, in which only the value itself occurs
    cases hu
    exact ⟨_, htype, by constructor <;> assumption⟩

/-- Values of other types do not occur in one of a settled type. -/
lemma HasType.not_within (hms : ms.IsSettled) (h : HasType ms type t)
    (htype : type.isSettled = true) (hown : u.isOwn = true)
    (hu : ∀ part, HasType ms part u → part.isSettled = false) : ¬u.Within t := by
  intro hwithin
  obtain ⟨part, hpart, hvalue⟩ := h.exists_of_within hms htype hwithin hown
  rw [hu part hvalue] at hpart
  cases hpart

lemma HasType.exists_enum {v : EnumValue} (h : HasType ms type (.constant v)) :
    ∃ e ∈ ms.enums, e.name = v.typeName ∧ e.Has v.constant := by
  cases h with
  | enum lookup has => exact ⟨_, List.mem_of_find?_eq_some lookup, rfl, has⟩

/-- In a value of a settled type, only dates with times and texts of unknown constants may fail to
have a written form that keeps them. -/
lemma keeps_of_hasType (hms : ms.IsSettled) (h : HasType ms type t) (htype : type.isSettled = true)
    (hdateTime : ∀ d, (dateTime d).Within t →
      d.date.HasPlainYear ∧ d.HasWholeMinutes ∧ d.HasPlainSecond)
    (hunknown : ∀ e ∈ ms.enums, ∀ text, (constant ⟨e.name, .unknown text⟩).Within t →
      e.entry.constant? text = .none) : t.Keeps ms where
  dateTime := hdateTime
  closed u hu hopen := by
    rcases hopen with ⟨r, rfl⟩ | ⟨v, rfl⟩
    · exact h.not_within hms htype rfl (by rintro part ⟨⟩; rfl) hu
    · exact h.not_within hms htype rfl (by rintro part ⟨⟩; rfl) hu
  float x hx := absurd hx (h.not_within hms htype rfl (by rintro part ⟨⟩; rfl))
  date d hd := absurd hd (h.not_within hms htype rfl (by rintro part ⟨⟩; rfl))
  json j hj := absurd hj (h.not_within hms htype rfl (by rintro part ⟨⟩; rfl))
  constant e he c hc := by
    obtain ⟨part, -, hconstant⟩ := h.exists_of_within hms htype hc rfl
    obtain ⟨e', he', hname, hhas⟩ := hconstant.exists_enum
    obtain rfl : e' = e := List.inj_on_of_nodup_map hms.distinct he' he hname
    cases c with
    | known identifier =>
      obtain ⟨v, hv, rfl⟩ := hhas
      obtain ⟨text, htext⟩ := Option.isSome_iff_exists.1 (hms.mapped e' he v hv)
      exact .known htext
    | unknown text => exact .unknown (hunknown e' he text hc)

end Typed

/-! ## Parts of a value -/

namespace Typed

mutual

/-- All that occurs in a typed value. -/
def parts : Typed → List Typed
  | some t => some t :: t.parts
  | list items => list items :: partsOfItems items
  | map entries => map entries :: partsOfMembers entries
  | model name members => model name members :: partsOfMembers members
  | inherited members => inherited members :: partsOfMembers members
  | t => [t]

/-- All that occurs in the items of a list. -/
def partsOfItems : List Typed → List Typed
  | [] => []
  | t :: rest => t.parts ++ partsOfItems rest

/-- All that occurs in entries or members. -/
def partsOfMembers : List (String × Typed) → List Typed
  | [] => []
  | (_, t) :: rest => t.parts ++ partsOfMembers rest

end

lemma mem_parts_self (t : Typed) : t ∈ t.parts := by
  cases t <;> simp [parts]

lemma mem_partsOfItems {items : List Typed} {t u : Typed} (ht : t ∈ items) (hu : u ∈ t.parts) :
    u ∈ partsOfItems items := by
  induction items with
  | nil => cases ht
  | cons first rest ih =>
    rw [partsOfItems, List.mem_append]
    rcases List.mem_cons.1 ht with rfl | ht
    · exact .inl hu
    · exact .inr (ih ht)

lemma mem_partsOfMembers {members : List (String × Typed)} {m : String × Typed} {u : Typed}
    (hm : m ∈ members) (hu : u ∈ m.2.parts) : u ∈ partsOfMembers members := by
  induction members with
  | nil => cases hm
  | cons first rest ih =>
    obtain ⟨name, t⟩ := first
    rw [partsOfMembers, List.mem_append]
    rcases List.mem_cons.1 hm with rfl | hm
    · exact .inl hu
    · exact .inr (ih hm)

lemma Within.mem_parts {t u : Typed} (h : u.Within t) : u ∈ t.parts := by
  induction h with
  | self => exact mem_parts_self _
  | some _ ih => exact List.mem_cons_of_mem _ ih
  | item mem _ ih => exact List.mem_cons_of_mem _ (mem_partsOfItems mem ih)
  | entry mem _ ih => exact List.mem_cons_of_mem _ (mem_partsOfMembers mem ih)
  | member mem _ ih => exact List.mem_cons_of_mem _ (mem_partsOfMembers mem ih)
  | inherited mem _ ih => exact List.mem_cons_of_mem _ (mem_partsOfMembers mem ih)

/-- The date with a time that a value is. -/
def dateTime? : Typed → Option DateTime
  | dateTime d => .some d
  | _ => .none

/-- The constant that a value is. -/
def constant? : Typed → Option EnumValue
  | constant v => .some v
  | _ => .none

lemma Within.mem_dateTimes {d : DateTime} {t : Typed} (h : (dateTime d).Within t) :
    d ∈ t.parts.filterMap dateTime? :=
  List.mem_filterMap.2 ⟨_, h.mem_parts, rfl⟩

lemma Within.mem_constants {v : EnumValue} {t : Typed} (h : (constant v).Within t) :
    v ∈ t.parts.filterMap constant? :=
  List.mem_filterMap.2 ⟨_, h.mem_parts, rfl⟩

end Typed

/-! ## The built-in models -/

namespace Builtin

lemma registeredIn_models : models.RegisteredIn registry where
  valid := isValid_registry
  wireKeys := distinctWireKeys_registry
  models := isRegistered_models
  enums := by
    intro e he
    obtain rfl := List.mem_singleton.1 he
    rfl
  plain := by decide
  ownShape := by decide

lemma isSettled_models : models.IsSettled where
  settled := by decide
  distinct := by decide
  mapped := by decide

/-- A task is written as a payload and read back from it, with all the tasks that occur in it, if
dates with times have years of four digits, offsets of whole minutes and leap seconds at the end of
a minute only, and unknown states are not the texts of known ones. -/
theorem decode_encode_task {t : Typed} (ht : task.HasValue models t)
    (hdateTime : ∀ d, (Typed.dateTime d).Within t →
      d.date.HasPlainYear ∧ d.HasWholeMinutes ∧ d.HasPlainSecond)
    (hstatus : ∀ text, (Typed.constant ⟨"TaskStatus", .unknown text⟩).Within t →
      taskStatus.entry.constant? text = none) :
    ∃ r j, t.toRecord? = some r ∧ Payload.encodeRecord registry r = .ok j ∧
      Payload.decode registry j (.named "Task") = .ok (some (.ofRecord r)) ∧
      task.ofRecord models r = .ok t := by
  have hkeeps : t.Keeps models := by
    refine Typed.keeps_of_hasType isSettled_models (Model.hasType_of_hasValue rfl ht) rfl hdateTime
      fun e he => ?_
    obtain rfl := List.mem_singleton.1 he
    exact hstatus
  exact Model.decode_encode_toRecord registeredIn_models (by simp [models]) ht hkeeps

namespace Sample

open Payload (midMinuteLeap halfPastNext)

/-- The first of January 2024 in a place that is two hours ahead of UTC. -/
def newYear : DateTime where
  date := ⟨2024, 1, 1, by decide, by decide⟩
  time := .midnight
  offset := 7200
  offset_lt := by decide

/-- A task in a state that is not known, for which another task is running. -/
def pausedRecord : Record where
  typeName := "Task"
  fields := [
    ("href", .string "https://vcd/api/task/1"),
    ("link", .list [.record "Link" [("href", .string "https://vcd/api/task/1/cancel")]]),
    ("tasks", .record "TasksInProgress" [("task", .list [
      .record "Task" [
        ("status", .enum ⟨"TaskStatus", .known "Running"⟩),
        ("operation", .string "power on")]])]),
    ("status", .enum ⟨"TaskStatus", .unknown "paused"⟩),
    ("start_time", .dateTime newYear)]

/-- The task of the record. -/
def paused : Typed :=
  match task.ofRecord models pausedRecord with
  | .ok t => t
  | .error _ => .none

/-- The task comes back with the task in it. -/
theorem decode_encode_task_paused :
    task.ofRecord models pausedRecord = .ok paused ∧
      ∃ r j, paused.toRecord? = some r ∧ Payload.encodeRecord registry r = .ok j ∧
        Payload.decode registry j (.named "Task") = .ok (some (.ofRecord r)) ∧
        task.ofRecord models r = .ok paused := by
  have hread : task.ofRecord models pausedRecord = .ok paused := by cbv
  have hdates : paused.parts.filterMap Typed.dateTime? = [newYear] := by cbv
  have hconstants : paused.parts.filterMap Typed.constant? =
      [⟨"TaskStatus", .known "Running"⟩, ⟨"TaskStatus", .unknown "paused"⟩] := by cbv
  refine ⟨hread, decode_encode_task (Model.hasValue_of_ofRecord hread) ?_ ?_⟩
  · intro d hd
    obtain rfl := List.mem_singleton.1 (hdates ▸ hd.mem_dateTimes)
    exact ⟨⟨by decide, by decide⟩, rfl, DateTime.hasPlainSecond_of_isLeap_eq_false rfl⟩
  · intro text htext
    have hmem := htext.mem_constants
    rw [hconstants] at hmem
    obtain rfl : text = "paused" := by simpa using hmem
    rfl

/-- A task with no more than the time at which it started. -/
def startedRecord (start : DateTime) : Record where
  typeName := "Task"
  fields := [("start_time", .dateTime start)]

/-- The task of the record. -/
def started (start : DateTime) : Typed :=
  match task.ofRecord models (startedRecord start) with
  | .ok t => t
  | .error _ => .none

lemma ofRecord_startedRecord (start : DateTime) :
    task.ofRecord models (startedRecord start) = .ok (started start) := by
  cbv

/-- A task that started in a leap second in the middle of a minute comes back as one that started
later. -/
theorem decode_encode_task_midMinuteLeap :
    task.HasValue models (started midMinuteLeap) ∧
      (∀ d, (Typed.dateTime d).Within (started midMinuteLeap) →
        d.date.HasPlainYear ∧ d.HasWholeMinutes) ∧
      (∀ v, ¬(Typed.constant v).Within (started midMinuteLeap)) ∧
      ∃ r j r', (started midMinuteLeap).toRecord? = some r ∧
        Payload.encodeRecord registry r = .ok j ∧
        Payload.decode registry j (.named "Task") = .ok (some (.ofRecord r')) ∧
        task.ofRecord models r' = .ok (started halfPastNext) ∧
        started halfPastNext ≠ started midMinuteLeap := by
  have hdates : (started midMinuteLeap).parts.filterMap Typed.dateTime? = [midMinuteLeap] := by cbv
  have hconstants : (started midMinuteLeap).parts.filterMap Typed.constant? = [] := by cbv
  refine ⟨Model.hasValue_of_ofRecord (ofRecord_startedRecord _), ?_, ?_, ?_⟩
  · intro d hd
    obtain rfl := List.mem_singleton.1 (hdates ▸ hd.mem_dateTimes)
    exact ⟨⟨by decide, by decide⟩, rfl⟩
  · intro v hv
    exact List.not_mem_nil (hconstants ▸ hv.mem_constants)
  · obtain ⟨j, hencode, hdecode⟩ := Payload.exists_encodeRecord_dateTime isValid_registry
      distinctWireKeys_registry "Task" "start_time" rfl (by decide) (by decide)
      Payload.decodeDateTime_render_midMinuteLeap
    refine ⟨startedRecord midMinuteLeap, j, startedRecord halfPastNext, by cbv, hencode, hdecode,
      ofRecord_startedRecord _, fun heq => ?_⟩
    have hdates' : (started halfPastNext).parts.filterMap Typed.dateTime? = [halfPastNext] := by cbv
    rw [heq, hdates] at hdates'
    cases hdates'

end Sample

end Builtin

end CloudDirector
