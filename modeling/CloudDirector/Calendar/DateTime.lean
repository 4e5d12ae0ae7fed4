import CloudDirector.Calendar.Date

/-!
# Dates with a time of day

A date and time is kept as the clock of its place shows it, together with the distance of that
clock from UTC in seconds.  A leap second is the second before it with a further second in the
nanoseconds.  Any second can have one, although clocks only have them at the end of a minute.
-/

namespace CloudDirector

/-- The nanoseconds of a second. -/
def TimeOfDay.nanosPerSecond : Nat := 1000000000

/-- A time of day.  From one second on the nanoseconds belong to a leap second. -/
structure TimeOfDay where
  seconds : Nat
  nanos : Nat
  seconds_lt : seconds < 86400
  nanos_lt : nanos < 2 * TimeOfDay.nanosPerSecond
  deriving DecidableEq

namespace TimeOfDay

/-- The time of day of the given parts, if they are in range. -/
def ofParts? (seconds nanos : Nat) : Option TimeOfDay :=
  if h : seconds < 86400 ∧ nanos < 2 * nanosPerSecond then some ⟨seconds, nanos, h.1, h.2⟩ else none

/-- The start of a day. -/
def midnight : TimeOfDay := ⟨0, 0, by decide, by decide⟩

/-- Whether the time is in a leap second. -/
def isLeap (t : TimeOfDay) : Bool := nanosPerSecond ≤ t.nanos

end TimeOfDay

/-- A date and time with its distance from UTC. -/
structure DateTime where
  date : Date
  time : TimeOfDay
  offset : Int
  offset_lt : -86400 < offset ∧ offset < 86400
  deriving DecidableEq

namespace DateTime

/-- The date and time of the given parts, if the offset is in range. -/
def ofParts? (date : Date) (time : TimeOfDay) (offset : Int) : Option DateTime :=
  if h : -86400 < offset ∧ offset < 86400 then some ⟨date, time, offset, h⟩ else none

/-- The seconds from the start of 1970 in UTC. -/
def unixSeconds (t : DateTime) : Int := t.date.toDays * 86400 + t.time.seconds - t.offset

/-- The day in UTC, by its number. -/
def utcDay (t : DateTime) : Int := t.unixSeconds / 86400

/-- The date and time at an instant, as a clock at the given distance from UTC shows it.  Here a leap
second has to end a minute of UTC. -/
def ofUnix? (seconds : Int) (nanos : Nat) (offset : Int) : Option DateTime := do
  if TimeOfDay.nanosPerSecond ≤ nanos ∧ seconds % 60 ≠ 59 then none
  let onClock := seconds + offset
  let date ← Date.ofDays? (onClock / 86400)
  let time ← TimeOfDay.ofParts? (onClock % 86400).toNat nanos
  ofParts? date time offset

/-- Whether two dates and times are the same instant. -/
def sameInstant (t u : DateTime) : Bool :=
  t.unixSeconds == u.unixSeconds && t.time.nanos == u.time.nanos

@[simp] theorem ofParts?_self (t : DateTime) : ofParts? t.date t.time t.offset = some t := by
  rw [ofParts?, dif_pos t.offset_lt]

end DateTime

end CloudDirector
