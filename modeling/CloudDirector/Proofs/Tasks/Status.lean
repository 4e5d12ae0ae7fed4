import CloudDirector.Proofs.Members
import CloudDirector.Tasks.Task

/-!
# States that records report

The record of a task reports its state in one field, as a constant of the enumeration of states or
as the text of the wire.  A constant without a state, a value of another kind and a missing field
report nothing.  A task that has ended is a result if it has succeeded, and a failure otherwise.
-/

namespace CloudDirector

namespace TaskStatus

variable {status : TaskStatus} {v : Value} {name text : String}

/-- The known states with their names and the texts of the wire. -/
def spelled : List (TaskStatus × String × String) := [
  (queued, "Queued", "queued"), (preRunning, "PreRunning", "preRunning"),
  (running, "Running", "running"), (success, "Success", "success"), (error, "Error", "error"),
  (canceled, "Canceled", "canceled"), (aborted, "Aborted", "aborted")]

/-- A value reports a state. -/
inductive ReportedBy : TaskStatus → Value → Prop
  | constant {status : TaskStatus} {name text : String} (typeName : String)
      (mem : (status, name, text) ∈ spelled) : ReportedBy status (.enum ⟨typeName, .known name⟩)
  | unknownConstant (typeName text : String) :
      ReportedBy (unknown text) (.enum ⟨typeName, .unknown text⟩)
  | wire {status : TaskStatus} {name text : String} (mem : (status, name, text) ∈ spelled) :
      ReportedBy status (.string text)
  | unknownWire {text : String} (unspelled : ∀ s ∈ spelled, s.2.2 ≠ text) :
      ReportedBy (unknown text) (.string text)

/-- The state of a known constant is the one with its name. -/
lemma ofConstant?_known : ofConstant? (.known name) = some status ↔
    ∃ text, (status, name, text) ∈ spelled := by
  constructor
  · intro h
    rw [ofConstant?] at h
    have hname : status.text = name := by simpa using List.find?_some h
    have hmem : status ∈ all := List.mem_of_find?_eq_some h
    subst hname
    simp only [all, List.mem_cons, List.not_mem_nil, or_false] at hmem
    rcases hmem with rfl | rfl | rfl | rfl | rfl | rfl | rfl <;> simp [spelled, TaskStatus.text]
  · rintro ⟨text, hmem⟩
    simp only [spelled, List.mem_cons, List.not_mem_nil, or_false, Prod.mk.injEq] at hmem
    rcases hmem with ⟨rfl, rfl, -⟩ | ⟨rfl, rfl, -⟩ | ⟨rfl, rfl, -⟩ | ⟨rfl, rfl, -⟩ |
      ⟨rfl, rfl, -⟩ | ⟨rfl, rfl, -⟩ | ⟨rfl, rfl, -⟩ <;> rfl

/-- The texts of the wire are mapped to the names of the states. -/
lemma values_taskStatus :
    Builtin.taskStatus.entry.values = spelled.map fun s => (s.2.2, s.2.1) := by
  decide +kernel

lemma ofWire_of_mem (h : (status, name, text) ∈ spelled) : ofWire text = status := by
  have hconstant : Builtin.taskStatus.entry.constant? text = some name := by
    rw [EnumEntry.constant?, values_taskStatus]
    exact Members.get?_eq_some_of_mem (by decide) (List.mem_map_of_mem h)
  rw [ofWire, hconstant, Option.bind_some, ofConstant?_known.2 ⟨text, h⟩, Option.getD_some]

lemma ofWire_of_unspelled (h : ∀ s ∈ spelled, s.2.2 ≠ text) : ofWire text = unknown text := by
  have hconstant : Builtin.taskStatus.entry.constant? text = none := by
    rw [EnumEntry.constant?, values_taskStatus, Members.get?_eq_none_iff]
    intro hmem
    obtain ⟨name, hname⟩ := Members.mem_keys_iff.1 hmem
    obtain ⟨s, hs, heq⟩ := List.mem_map.1 hname
    exact h s hs (congrArg Prod.fst heq)
  rw [ofWire, hconstant, Option.bind_none, Option.getD_none]

/-- A value has the state that it reports. -/
lemma ofValue?_eq_some_iff : ofValue? v = some status ↔ status.ReportedBy v := by
  constructor
  · intro h
    cases v with
    | enum e =>
      obtain ⟨typeName, constant⟩ := e
      cases constant with
      | known name =>
        obtain ⟨text, hmem⟩ := ofConstant?_known.1 h
        exact .constant typeName hmem
      | unknown text =>
        cases h
        exact .unknownConstant typeName text
    | string text =>
      obtain rfl := Option.some.inj h
      by_cases hspelled : ∃ s ∈ spelled, s.2.2 = text
      · obtain ⟨⟨status, name, _⟩, hmem, rfl⟩ := hspelled
        rw [ofWire_of_mem hmem]
        exact .wire hmem
      · have hunspelled : ∀ s ∈ spelled, s.2.2 ≠ text := fun s hs heq => hspelled ⟨s, hs, heq⟩
        rw [ofWire_of_unspelled hunspelled]
        exact .unknownWire hunspelled
    | _ => cases h
  · intro h
    cases h with
    | constant typeName mem => exact ofConstant?_known.2 ⟨_, mem⟩
    | unknownConstant typeName text => rfl
    | wire mem => exact congrArg some (ofWire_of_mem mem)
    | unknownWire unspelled => exact congrArg some (ofWire_of_unspelled unspelled)

end TaskStatus

namespace Task

variable {t u : Task} {status status' : TaskStatus}

/-- The record of the task reports the state. -/
def Reports (t : Task) (status : TaskStatus) : Prop :=
  ∃ v, t.record.get? "status" = some v ∧ status.ReportedBy v

lemma status?_eq_some_iff : t.status? = some status ↔ t.Reports status := by
  rw [status?, Option.bind_eq_some_iff]
  exact exists_congr fun v => and_congr_right fun _ => TaskStatus.ofValue?_eq_some_iff

lemma Reports.unique (h : t.Reports status) (h' : t.Reports status') : status = status' :=
  Option.some.inj ((status?_eq_some_iff.2 h).symm.trans (status?_eq_some_iff.2 h'))

/-- The task reports one of the states in which it will not change again. -/
def HasEnded (t : Task) : Prop :=
  ∃ status ∈ [TaskStatus.success, .error, .canceled, .aborted], t.Reports status

lemma isTerminal_iff : t.isTerminal = true ↔ t.HasEnded := by
  have hstates : ∀ status : TaskStatus,
      status.isTerminal = true ↔ status ∈ [TaskStatus.success, .error, .canceled, .aborted] := by
    intro status
    cases status <;> simp [TaskStatus.isTerminal]
  rw [isTerminal, Option.any_eq_true]
  refine exists_congr fun status => ?_
  rw [status?_eq_some_iff, hstates, and_comm]

lemma not_hasEnded (h : t.isTerminal = false) : ¬t.HasEnded := by
  rw [← isTerminal_iff, h]
  exact Bool.false_ne_true

lemma Reports.hasEnded (h : t.Reports status)
    (hmem : status ∈ [TaskStatus.error, .canceled, .aborted]) : t.HasEnded :=
  ⟨status, List.mem_cons_of_mem _ hmem, h⟩

/-- A task that has failed is a failure, with the message of its error or else with its state. -/
lemma result_of_failed (h : t.Reports status)
    (hmem : status ∈ [TaskStatus.error, .canceled, .aborted]) :
    t.result = .error ⟨.transport "complete task"
      (t.errorMessage?.getD s!"task ended with status {status.text}"), [.task t.href]⟩ := by
  have hfailed : status.isFailed = true := by
    simp only [List.mem_cons, List.not_mem_nil, or_false] at hmem
    rcases hmem with rfl | rfl | rfl <;> rfl
  rw [result, status?_eq_some_iff.2 h]
  simp only [hfailed, if_true]
  rfl

/-- A task that has ended is a result exactly if it has succeeded. -/
lemma result_eq_ok_iff (hend : t.HasEnded) : t.result = .ok u ↔ u = t ∧ u.Reports .success := by
  obtain ⟨status, hmem, hstatus⟩ := hend
  rcases List.mem_cons.1 hmem with rfl | hfailed
  · rw [result, status?_eq_some_iff.2 hstatus]
    constructor
    · rintro ⟨⟩
      exact ⟨rfl, hstatus⟩
    · rintro ⟨rfl, -⟩
      rfl
  · rw [result_of_failed hstatus hfailed]
    refine iff_of_false nofun ?_
    rintro ⟨rfl, hsuccess⟩
    obtain rfl := hstatus.unique hsuccess
    simp at hfailed

end Task

end CloudDirector
