/-!
# Tables of characters

Character classes of a standard are kept as tables of scalar values: closed ranges, runs with a
step, and runs whose members are moved by a distance.
-/

namespace CloudDirector.Text

/-- Whether a scalar value lies in one of the closed ranges. -/
def inRanges (ranges : List (Nat × Nat)) (n : Nat) : Bool :=
  ranges.any fun (first, last) => first ≤ n && n ≤ last

/-- Whether a scalar value is met by a run from `first` to `last` in steps of `step`. -/
def inRun (first last step n : Nat) : Bool :=
  first ≤ n && n ≤ last && (n - first) % step == 0

/-- Whether a scalar value is met by one of the runs. -/
def inRuns (runs : List (Nat × Nat × Nat)) (n : Nat) : Bool :=
  runs.any fun (first, last, step) => inRun first last step n

/-- A scalar value moved by the distance of the first run that meets it, or itself. -/
def shifted (shifts : List (Nat × Nat × Nat × Int)) (n : Nat) : Nat :=
  match shifts.find? fun (first, last, step, _) => inRun first last step n with
  | some (_, _, _, distance) => (n + distance).toNat
  | none => n

end CloudDirector.Text
