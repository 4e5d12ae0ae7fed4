import CloudDirector.Tasks.Task

/-!
# Waiting for tasks

A task is asked for again and again until it has ended or the time is up, with a pause before each
time.  What sleeps and asks is left open, as something that changes a state, and so is the clock:
it is a list of readings, one for each time that it is looked at.  All times are whole nanoseconds,
the readings since the waiting began.
-/

namespace CloudDirector

/-- What waiting has come to. -/
inductive Waiting (α : Type) where
  | done (result : Result α)
  /-- The readings of the clock ended first. -/
  | pending
  /-- More time was taken from what there is to wait than there is. -/
  | overdrawn

namespace Waiting

/-- What waiting has come to, its result changed. -/
def map {α β : Type} (f : Result α → Result β) : Waiting α → Waiting β
  | done result => done (f result)
  | pending => pending
  | overdrawn => overdrawn

end Waiting

/-- What waiting needs from outside. -/
structure Surroundings (σ : Type) where
  /-- Lets some time pass. -/
  sleep : Nat → σ → σ
  /-- Asks for the task at an address. -/
  fetch : String → σ → Result Task × σ

/-- How a task is waited for: with a pause before each time that it is asked for, and not longer than
a time. -/
structure Polling where
  interval : Nat := 5000000000
  timeout : Nat := 600000000000

namespace Polling

/-- The time that is left to wait; none if more time has passed than there is. -/
def timeLeft? (m : Polling) (elapsed : Nat) : Option Nat :=
  if elapsed ≤ m.timeout then some (m.timeout - elapsed) else none

end Polling

namespace Task

/-- The failure to end in time. -/
def timedOut (t : Task) (m : Polling) (polls : UInt32) : Result Task :=
  ((Result.fail (.transport "wait for task" s!"timed out after {m.timeout / 1000000000}s")).passing
    (.task t.href)).passing (.polls polls)

/-- Asks for a task, which `polls` times has not ended yet.  The count has 32 bits, and starts again
after the last number. -/
def poll {σ : Type} (t : Task) (m : Polling) (w : Surroundings σ) :
    (polls : UInt32) → (readings : List Nat) → σ → Waiting Task × σ
  | _, [], s => (.pending, s)
  | polls, elapsed :: readings, s =>
    if m.timeout ≤ elapsed then (.done (t.timedOut m polls), s)
    else match m.timeLeft? elapsed with
      | none => (.overdrawn, s)
      | some left =>
        match w.fetch t.href (w.sleep (min m.interval left) s) with
        | (.error r, s) => (.done (.error r), s)
        | (.ok current, s) =>
          if current.isTerminal then (.done (.ok current), s)
          else poll t m w (polls + 1) readings s

/-- Waits for the end of a task. -/
def untilTerminal {σ : Type} (t : Task) (m : Polling) (w : Surroundings σ) (readings : List Nat)
    (s : σ) : Waiting Task × σ :=
  if t.isTerminal then (.done (.ok t), s) else t.poll m w 0 readings s

/-- Waits for the end of a task; one that fails is a failure. -/
def wait {σ : Type} (t : Task) (m : Polling) (w : Surroundings σ) (readings : List Nat) (s : σ) :
    Waiting Task × σ :=
  match t.untilTerminal m w readings s with
  | (waiting, s) => (waiting.map fun result => result.bind Task.result, s)

end Task

end CloudDirector
