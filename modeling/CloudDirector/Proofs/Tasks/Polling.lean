import CloudDirector.Proofs.Tasks.Status
import CloudDirector.Tasks.Polling
import Mathlib.Data.List.Basic

/-!
# How waiting ends

Waiting asks for one task at one address, and every answer but the last one says that the task has
not ended.  Its course is a relation of the readings of the clock and the answers, one step for each
time that the clock is looked at; what is done on the way follows from it, because the pauses and
the questions can be recorded without a change of the result.
-/

namespace CloudDirector

/-! ## What is done while waiting -/

/-- Something that is done while waiting. -/
inductive WaitingStep where
  | slept (time : Nat)
  | asked (href : String) (outcome : Result Task)

/-- The surroundings with a record of what is done. -/
def Surroundings.recorded {σ : Type} (w : Surroundings σ) :
    Surroundings (σ × List WaitingStep) where
  sleep time s := (w.sleep time s.1, s.2 ++ [.slept time])
  fetch href s :=
    ((w.fetch href s.1).1, (w.fetch href s.1).2, s.2 ++ [.asked href (w.fetch href s.1).1])

namespace Task

variable {σ : Type} {t : Task} {m : Polling} {w : Surroundings σ} {polls : UInt32}
  {readings : List Nat} {outcomes : List (Result Task)} {waiting : Waiting Task}

/-- The steps that lead to the outcomes: each time the clock has been looked at, a pause and a
question. -/
def steps (t : Task) (m : Polling) (readings : List Nat) (outcomes : List (Result Task)) :
    List WaitingStep :=
  (readings.zip outcomes).flatMap fun (elapsed, outcome) =>
    [.slept (min m.interval (m.timeout - elapsed)), .asked t.href outcome]

/-- The course of asking for a task: the outcomes of the questions between the readings of the
clock, and what it comes to. -/
inductive Course (t : Task) (m : Polling) :
    UInt32 → List Nat → List (Result Task) → Waiting Task → Prop
  | pending {polls : UInt32} : Course t m polls [] [] .pending
  | late {polls : UInt32} {elapsed : Nat} {readings : List Nat} (h : m.timeout ≤ elapsed) :
      Course t m polls (elapsed :: readings) [] (.done (t.timedOut m polls))
  | refused {polls : UInt32} {elapsed : Nat} {readings : List Nat} {r : Report}
      (h : elapsed < m.timeout) :
      Course t m polls (elapsed :: readings) [.error r] (.done (.error r))
  | ended {polls : UInt32} {elapsed : Nat} {readings : List Nat} {u : Task}
      (h : elapsed < m.timeout) (hend : u.isTerminal = true) :
      Course t m polls (elapsed :: readings) [.ok u] (.done (.ok u))
  | running {polls : UInt32} {elapsed : Nat} {readings : List Nat} {u : Task}
      {outcomes : List (Result Task)} {waiting : Waiting Task} (h : elapsed < m.timeout)
      (hrun : u.isTerminal = false)
      (rest : Course t m (polls + 1) readings outcomes waiting) :
      Course t m polls (elapsed :: readings) (.ok u :: outcomes) waiting

/-! ### One look at the clock -/

section Reading

variable {elapsed : Nat} {s s' : σ} {r : Report} {u : Task}

lemma poll_of_le (h : m.timeout ≤ elapsed) :
    t.poll m w polls (elapsed :: readings) s = (.done (t.timedOut m polls), s) := by
  rw [poll, if_pos h]

/-- Before the time is up, some is left. -/
lemma timeLeft?_of_lt (h : elapsed < m.timeout) :
    m.timeLeft? elapsed = some (m.timeout - elapsed) :=
  if_pos (Nat.le_of_lt h)

lemma poll_of_refused (h : elapsed < m.timeout)
    (hfetch : w.fetch t.href (w.sleep (min m.interval (m.timeout - elapsed)) s) = (.error r, s')) :
    t.poll m w polls (elapsed :: readings) s = (.done (.error r), s') := by
  rw [poll, if_neg (Nat.not_le_of_lt h), timeLeft?_of_lt h]
  simp only [hfetch]

lemma poll_of_ended (h : elapsed < m.timeout)
    (hfetch : w.fetch t.href (w.sleep (min m.interval (m.timeout - elapsed)) s) = (.ok u, s'))
    (hend : u.isTerminal = true) :
    t.poll m w polls (elapsed :: readings) s = (.done (.ok u), s') := by
  rw [poll, if_neg (Nat.not_le_of_lt h), timeLeft?_of_lt h]
  simp only [hfetch, hend, if_true]

lemma poll_of_running (h : elapsed < m.timeout)
    (hfetch : w.fetch t.href (w.sleep (min m.interval (m.timeout - elapsed)) s) = (.ok u, s'))
    (hrun : u.isTerminal = false) :
    t.poll m w polls (elapsed :: readings) s = t.poll m w (polls + 1) readings s' := by
  rw [poll, if_neg (Nat.not_le_of_lt h), timeLeft?_of_lt h]
  simp only [hfetch, hrun, Bool.false_eq_true, if_false]

/-- A pause and a question are recorded behind what was done before. -/
lemma fetch_recorded {time : Nat} {href : String} {outcome : Result Task} (log : List WaitingStep)
    (h : w.fetch href (w.sleep time s) = (outcome, s')) :
    w.recorded.fetch href (w.recorded.sleep time (s, log)) =
      (outcome, s', log ++ [.slept time, .asked href outcome]) := by
  simp [Surroundings.recorded, h]

end Reading

/-- Asking for a task takes its course, and the record of it adds the steps of that course. -/
lemma exists_course_poll (t : Task) (m : Polling) (w : Surroundings σ) (polls : UInt32)
    (readings : List Nat) (s : σ) (log : List WaitingStep) :
    ∃ outcomes, t.Course m polls readings outcomes (t.poll m w polls readings s).1 ∧
      t.poll m w.recorded polls readings (s, log) =
        ((t.poll m w polls readings s).1, (t.poll m w polls readings s).2,
          log ++ t.steps m readings outcomes) := by
  induction readings generalizing polls s log with
  | nil => exact ⟨[], .pending, by simp [poll, steps]⟩
  | cons elapsed readings ih =>
    by_cases h : m.timeout ≤ elapsed
    · rw [poll_of_le h, poll_of_le h]
      exact ⟨[], .late h, by simp [steps]⟩
    · rw [Nat.not_le] at h
      obtain ⟨outcome, s', hfetch⟩ : ∃ outcome s',
          w.fetch t.href (w.sleep (min m.interval (m.timeout - elapsed)) s) = (outcome, s') :=
        ⟨_, _, rfl⟩
      have hrecorded := fetch_recorded log hfetch
      cases outcome with
      | error r =>
        rw [poll_of_refused h hfetch, poll_of_refused h hrecorded]
        exact ⟨[.error r], .refused h, by simp [steps]⟩
      | ok u =>
        cases hend : u.isTerminal with
        | true =>
          rw [poll_of_ended h hfetch hend, poll_of_ended h hrecorded hend]
          exact ⟨[.ok u], .ended h hend, by simp [steps]⟩
        | false =>
          rw [poll_of_running h hfetch hend, poll_of_running h hrecorded hend]
          obtain ⟨outcomes, hcourse, hlog⟩ :=
            ih (polls + 1) s' (log ++ [.slept (min m.interval (m.timeout - elapsed)),
              .asked t.href (.ok u)])
          refine ⟨.ok u :: outcomes, .running h hend hcourse, ?_⟩
          rw [hlog]
          simp [steps]

/-! ### Whole courses -/

/-- The outcomes of questions all say that the task has not ended. -/
def Running (outcomes : List (Result Task)) : Prop :=
  ∀ o ∈ outcomes, ∃ u : Task, o = .ok u ∧ ¬u.HasEnded

/-- The time was not up at any of the readings that were followed by a question. -/
lemma Course.lt_timeout (h : t.Course m polls readings outcomes waiting) :
    ∀ i < outcomes.length, ∃ elapsed, readings[i]? = some elapsed ∧ elapsed < m.timeout := by
  induction h with
  | pending | late => intro i hi; cases hi
  | refused h | ended h =>
    intro i hi
    obtain rfl := Nat.lt_one_iff.1 hi
    exact ⟨_, rfl, h⟩
  | running h _ _ ih =>
    intro i hi
    cases i with
    | zero => exact ⟨_, rfl, h⟩
    | succ i => exact ih i (Nat.lt_of_succ_lt_succ hi)

/-- A course ends with a question that is refused, with the task when it has ended, when the time is
up, or with the readings. -/
lemma Course.cases (h : t.Course m polls readings outcomes waiting) :
    ∃ before, Running before ∧
      ((∃ r, outcomes = before ++ [.error r] ∧ waiting = .done (.error r)) ∨
      (∃ u : Task, u.HasEnded ∧ outcomes = before ++ [.ok u] ∧ waiting = .done (.ok u)) ∨
      (∃ elapsed, outcomes = before ∧ readings[before.length]? = some elapsed ∧
        m.timeout ≤ elapsed ∧ waiting = .done (t.timedOut m (polls + .ofNat before.length))) ∨
      (outcomes = before ∧ readings.length = before.length ∧ waiting = .pending)) := by
  induction h with
  | pending => exact ⟨[], by simp [Running], .inr (.inr (.inr ⟨rfl, rfl, rfl⟩))⟩
  | @late polls elapsed readings h =>
    refine ⟨[], by simp [Running], .inr (.inr (.inl ⟨elapsed, rfl, rfl, h, ?_⟩))⟩
    rw [List.length_nil, show UInt32.ofNat 0 = 0 from rfl, UInt32.add_zero]
  | @refused polls elapsed readings r h =>
    exact ⟨[], by simp [Running], .inl ⟨r, rfl, rfl⟩⟩
  | @ended polls elapsed readings u h hend =>
    exact ⟨[], by simp [Running], .inr (.inl ⟨u, isTerminal_iff.1 hend, rfl, rfl⟩)⟩
  | @running polls elapsed readings u outcomes waiting h hrun rest ih =>
    obtain ⟨before, hbefore, hcases⟩ := ih
    refine ⟨.ok u :: before, ?_, ?_⟩
    · intro o ho
      rcases List.mem_cons.1 ho with rfl | ho
      · exact ⟨u, rfl, not_hasEnded hrun⟩
      · exact hbefore o ho
    · rcases hcases with ⟨r, rfl, rfl⟩ | ⟨v, hv, rfl, rfl⟩ | ⟨e, rfl, he, hlate, rfl⟩ |
        ⟨rfl, hlen, rfl⟩
      · exact .inl ⟨r, rfl, rfl⟩
      · exact .inr (.inl ⟨v, hv, rfl, rfl⟩)
      · refine .inr (.inr (.inl ⟨e, rfl, by simpa using he, hlate, ?_⟩))
        -- the count goes on from the numbers of 32 bits
        rw [List.length_cons, UInt32.ofNat_add, UInt32.add_assoc, UInt32.add_comm 1]
        rfl
      · exact .inr (.inr (.inr ⟨rfl, by simp [hlen], rfl⟩))

/-! ### Waiting -/

/-- The task that decides how waiting ends: the given one if it was never asked for, and the last
answer otherwise. -/
def Decides (t : Task) (outcomes : List (Result Task)) (u : Task) : Prop :=
  (outcomes = [] ∧ u = t) ∨ outcomes.getLast? = some (.ok u)

/-- How waiting goes with the readings of the clock and the outcomes of the questions, and what it
comes to. -/
structure Waited (t : Task) (m : Polling) (readings : List Nat) (outcomes : List (Result Task))
    (waiting : Waiting Task) : Prop where
  /-- A task that has ended is not asked for. -/
  unasked : t.HasEnded → outcomes = []
  /-- It is asked for again only when the answer was that it has not ended. -/
  again : Running outcomes.dropLast
  /-- It is asked for only while the time is not up. -/
  inTime : ∀ i < outcomes.length, ∃ elapsed, readings[i]? = some elapsed ∧ elapsed < m.timeout
  /-- Unless an answer ends it, waiting ends when a reading says that the time is up. -/
  late : ¬t.HasEnded → Running outcomes →
    ∀ elapsed, readings[outcomes.length]? = some elapsed → m.timeout ≤ elapsed ∧
      ∃ details, waiting = .done (.error ⟨.transport "wait for task" details,
        [.polls (.ofNat outcomes.length), .task t.href]⟩)
  /-- Waiting goes on behind the last reading only if nothing has ended it. -/
  pending : waiting = .pending →
    ¬t.HasEnded ∧ Running outcomes ∧ readings.length = outcomes.length
  /-- The result is the task that decides, if it has succeeded. -/
  success : ∀ u, waiting = .done (.ok u) ↔ Decides t outcomes u ∧ u.Reports .success
  /-- A task that decides and has failed is a failure. -/
  failed : ∀ u status, Decides t outcomes u → u.Reports status →
    status ∈ [TaskStatus.error, .canceled, .aborted] →
    ∃ details, waiting = .done (.error ⟨.transport "complete task" details, [.task u.href]⟩)
  /-- A question that is refused ends the waiting with its report. -/
  refused : ∀ r, outcomes.getLast? = some (.error r) → waiting = .done (.error r)
  /-- The time that has passed is never more than there is. -/
  covered : waiting ≠ .overdrawn

lemma decides_concat {u : Task} {o : Result Task} :
    Decides t (outcomes ++ [o]) u ↔ o = .ok u := by
  simp [Decides]

lemma not_hasEnded_of_decides {u : Task} (hrun : ¬t.HasEnded) (h : Running outcomes)
    (hdecides : Decides t outcomes u) : ¬u.HasEnded := by
  rcases hdecides with ⟨-, rfl⟩ | hlast
  · exact hrun
  · obtain ⟨v, hv, hvrun⟩ := h _ (List.mem_of_getLast? hlast)
    cases hv
    exact hvrun

/-- A task that has ended already is not asked for. -/
lemma waited_of_hasEnded (h : t.HasEnded) : Waited t m readings [] (.done t.result) where
  unasked _ := rfl
  again := by simp [Running]
  inTime i hi := by cases hi
  late hrun := absurd h hrun
  pending := nofun
  success u := by
    simp only [Waiting.done.injEq, result_eq_ok_iff h, Decides, List.getLast?_nil, reduceCtorEq,
      or_false, true_and]
  failed u status hdecides hstatus hmem := by
    obtain ⟨-, rfl⟩ | hlast := hdecides
    · exact ⟨_, congrArg Waiting.done (result_of_failed hstatus hmem)⟩
    · cases hlast
  refused r hlast := by cases hlast
  covered := nofun

section Endings

variable {before : List (Result Task)} (hrun : ¬t.HasEnded)

include hrun

/-- The last question was refused. -/
lemma waited_of_refused {r : Report} (hbefore : Running before)
    (hearly : ∀ i < (before ++ [Except.error r]).length,
      ∃ elapsed, readings[i]? = some elapsed ∧ elapsed < m.timeout) :
    Waited t m readings (before ++ [.error r]) (.done (.error r)) where
  unasked h := absurd h hrun
  again := by rwa [List.dropLast_concat]
  inTime := hearly
  late _ hrunning := by
    obtain ⟨u, ⟨⟩, -⟩ := hrunning (Except.error r) (by simp)
  pending := nofun
  success u := iff_of_false nofun fun h => nomatch decides_concat.1 h.1
  failed u status hdecides := nomatch decides_concat.1 hdecides
  refused r' hlast := by
    rw [List.getLast?_concat] at hlast
    cases hlast
    rfl
  covered := nofun

/-- The last answer is that the task has ended. -/
lemma waited_of_ended {u : Task} (hbefore : Running before) (hend : u.HasEnded)
    (hearly : ∀ i < (before ++ [Except.ok u]).length,
      ∃ elapsed, readings[i]? = some elapsed ∧ elapsed < m.timeout) :
    Waited t m readings (before ++ [.ok u]) (.done u.result) where
  unasked h := absurd h hrun
  again := by rwa [List.dropLast_concat]
  inTime := hearly
  late _ hrunning := by
    obtain ⟨v, ⟨⟩, hv⟩ := hrunning (Except.ok u) (by simp)
    exact absurd hend hv
  pending := nofun
  success v := by
    rw [decides_concat, Except.ok.injEq, Waiting.done.injEq, result_eq_ok_iff hend, eq_comm]
  failed v status hdecides hstatus hmem := by
    obtain rfl := Except.ok.inj (decides_concat.1 hdecides)
    exact ⟨_, congrArg Waiting.done (result_of_failed hstatus hmem)⟩
  refused r hlast := by
    rw [List.getLast?_concat] at hlast
    cases hlast
  covered := nofun

/-- All answers are that the task has not ended, and waiting comes to no task. -/
lemma waited_of_running (hrunning : Running outcomes)
    (hearly : ∀ i < outcomes.length, ∃ elapsed, readings[i]? = some elapsed ∧ elapsed < m.timeout)
    (hlate : ∀ elapsed, readings[outcomes.length]? = some elapsed → m.timeout ≤ elapsed ∧
      ∃ details, waiting = .done (.error ⟨.transport "wait for task" details,
        [.polls (.ofNat outcomes.length), .task t.href]⟩))
    (hpending : waiting = .pending → readings.length = outcomes.length)
    (hnone : ∀ u, waiting ≠ .done (.ok u)) (hcovered : waiting ≠ .overdrawn) :
    Waited t m readings outcomes waiting where
  unasked h := absurd h hrun
  again o ho := hrunning o (List.dropLast_subset _ ho)
  inTime := hearly
  late _ _ := hlate
  pending h := ⟨hrun, hrunning, hpending h⟩
  success u := by
    refine iff_of_false (hnone u) ?_
    rintro ⟨hdecides, hstatus⟩
    exact not_hasEnded_of_decides hrun hrunning hdecides ⟨_, List.mem_cons_self, hstatus⟩
  failed u status hdecides hstatus hmem :=
    absurd (hstatus.hasEnded hmem) (not_hasEnded_of_decides hrun hrunning hdecides)
  refused r hlast := by
    obtain ⟨u, ⟨⟩, -⟩ := hrunning _ (List.mem_of_getLast? hlast)
  covered := hcovered

/-- What a course comes to, once a task that has failed counts as a failure. -/
lemma waited_of_course (h : t.Course m 0 readings outcomes waiting) :
    Waited t m readings outcomes (waiting.map fun result => result.bind Task.result) := by
  have hearly := h.lt_timeout
  obtain ⟨before, hbefore, ⟨r, rfl, rfl⟩ | ⟨u, hend, rfl, rfl⟩ |
    ⟨elapsed, rfl, hreading, hlate, rfl⟩ | ⟨rfl, hlength, rfl⟩⟩ := h.cases
  · exact waited_of_refused hrun hbefore hearly
  · exact waited_of_ended hrun hbefore hend hearly
  · refine waited_of_running hrun hbefore hearly ?_ nofun nofun nofun
    intro elapsed' hreading'
    rw [hreading] at hreading'
    cases hreading'
    rw [UInt32.zero_add]
    exact ⟨hlate, _, rfl⟩
  · refine waited_of_running hrun hbefore hearly ?_ (fun _ => hlength) nofun nofun
    intro elapsed hreading
    rw [← hlength, List.getElem?_eq_none (Nat.le_refl _)] at hreading
    cases hreading

end Endings

/-- Waiting for a task asks for that task only, until an answer or the clock ends it, and comes to
the task if it has succeeded.  What is done on the way is a pause and a question for each outcome,
and a record of it changes nothing. -/
theorem exists_waited (t : Task) (m : Polling) (w : Surroundings σ) (readings : List Nat) (s : σ) :
    ∃ outcomes, Waited t m readings outcomes (t.wait m w readings s).1 ∧
      t.wait m w.recorded readings (s, []) =
        ((t.wait m w readings s).1, (t.wait m w readings s).2, t.steps m readings outcomes) := by
  cases hend : t.isTerminal with
  | true =>
    refine ⟨[], ?_, ?_⟩
    · rw [wait, untilTerminal, if_pos hend]
      exact waited_of_hasEnded (isTerminal_iff.1 hend)
    · rw [wait, untilTerminal, if_pos hend, wait, untilTerminal, if_pos hend]
      simp [steps]
  | false =>
    obtain ⟨outcomes, hcourse, hrecorded⟩ := exists_course_poll t m w 0 readings s []
    have hne : ¬ t.isTerminal = true := Bool.eq_false_iff.1 hend
    refine ⟨outcomes, ?_, ?_⟩
    · rw [wait, untilTerminal, if_neg hne]
      exact waited_of_course (not_hasEnded hend) hcourse
    · rw [wait, untilTerminal, if_neg hne, hrecorded, wait, untilTerminal, if_neg hne]
      simp

namespace Sample

/-- A task whose status is given. -/
def withStatus (status : Value) : Task where
  href := "https://vcd/api/task/1"
  record := ⟨"Task", [("status", status)]⟩

/-- A running task, as its payload is decoded. -/
def running : Task := withStatus (.enum ⟨"TaskStatus", .known "Running"⟩)

/-- What asks for tasks gives the listed outcomes, one after the other. -/
def answering : Surroundings (List (Result Task)) where
  sleep _ outcomes := outcomes
  fetch _ outcomes :=
    (outcomes.headD (.fail (.transport "send request" "no answer")), outcomes.tail)

/-- What waiting for a running task comes to when the first answer is that it runs, and the second
one has the given status. -/
def waitFor (status : Value) : Waiting Task :=
  (running.wait {} answering [0, 5000000000] [.ok running, .ok (withStatus status)]).1

/-- A canceled task has no error whose message could be told. -/
lemma result_canceled : (withStatus (.enum ⟨"TaskStatus", .known "Canceled"⟩)).result =
    .error ⟨.transport "complete task" "task ended with status Canceled",
      [.task "https://vcd/api/task/1"]⟩ := by
  have hreports : (withStatus (.enum ⟨"TaskStatus", .known "Canceled"⟩)).Reports .canceled :=
    status?_eq_some_iff.1 rfl
  have hmessage : (withStatus (.enum ⟨"TaskStatus", .known "Canceled"⟩)).errorMessage? = none := by
    cbv
  have hdetails : s!"task ended with status {TaskStatus.canceled.text}" =
      "task ended with status Canceled" := by decide +kernel
  rw [result_of_failed hreports (by simp), hmessage, Option.getD_none, hdetails]
  rfl

/-- A task that succeeds, by the text of the wire, is the result, and one that is canceled, by its
constant, is a failure.  Either is asked for twice, each time after a pause. -/
theorem exists_waited_running :
    (waitFor (.string "success") = .done (.ok (withStatus (.string "success"))) ∧
      ∃ outcomes, Waited running {} [0, 5000000000] outcomes (waitFor (.string "success"))) ∧
    waitFor (.enum ⟨"TaskStatus", .known "Canceled"⟩) =
        .done (.error ⟨.transport "complete task" "task ended with status Canceled",
          [.task "https://vcd/api/task/1"]⟩) ∧
      ∃ outcomes, Waited running {} [0, 5000000000] outcomes
          (waitFor (.enum ⟨"TaskStatus", .known "Canceled"⟩)) ∧
        running.steps {} [0, 5000000000] outcomes = [
          .slept 5000000000, .asked running.href (.ok running), .slept 5000000000,
          .asked running.href (.ok (withStatus (.enum ⟨"TaskStatus", .known "Canceled"⟩)))] := by
  have hsucceeded := exists_waited running {} answering [0, 5000000000]
    [.ok running, .ok (withStatus (.string "success"))]
  have hcanceled := exists_waited running {} answering [0, 5000000000]
    [.ok running, .ok (withStatus (.enum ⟨"TaskStatus", .known "Canceled"⟩))]
  obtain ⟨outcomes, hwaited, -⟩ := hsucceeded
  obtain ⟨outcomes', hwaited', hlog⟩ := hcanceled
  refine ⟨⟨rfl, outcomes, hwaited⟩, ?_, outcomes', hwaited', ?_⟩
  · exact congrArg Waiting.done result_canceled
  · exact (congrArg (fun p => p.2.2) hlog).symm.trans rfl

example : waitFor (.enum ⟨"TaskStatus", .known "Success"⟩) =
    .done (.ok (withStatus (.enum ⟨"TaskStatus", .known "Success"⟩))) := by rfl

example : waitFor (.string "paused") = .pending := by rfl

end Sample

end Task

end CloudDirector
