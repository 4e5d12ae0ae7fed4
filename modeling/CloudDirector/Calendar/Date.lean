/-!
# Calendar dates

Days of the Gregorian calendar extended to all years, year 0 being the one before year 1.  Days are
numbered from 1 January 1970.
-/

namespace CloudDirector

namespace Calendar

/-- Whether a year has 366 days. -/
def isLeapYear (year : Int) : Bool :=
  year % 4 == 0 && (year % 100 != 0 || year % 400 == 0)

/-- The lengths of the months of a year. -/
def monthLengths (year : Int) : List Nat :=
  [31, if isLeapYear year then 29 else 28, 31, 30, 31, 30, 31, 31, 30, 31, 30, 31]

/-- The length of a month, which is numbered from 1; zero for a number that is no month. -/
def monthLength (year : Int) (month : Nat) : Nat :=
  if month = 0 then 0 else (monthLengths year).getD (month - 1) 0

/-- The days from 1 January of year 1 to 1 January of a year. -/
def daysBeforeYear (year : Int) : Int :=
  365 * (year - 1) + (year - 1) / 4 - (year - 1) / 100 + (year - 1) / 400

/-- The days from 1 January of year 1 to 1 January 1970. -/
def epoch : Int := 719162

end Calendar

open Calendar

/-- A day of the calendar. -/
structure Date where
  year : Int
  month : Nat
  day : Nat
  day_pos : 1 ≤ day
  day_le : day ≤ monthLength year month
  deriving DecidableEq

namespace Date

/-- The day of a year, a month and a day of the month, if there is one. -/
def ofParts? (year : Int) (month day : Nat) : Option Date :=
  if h : 1 ≤ day ∧ day ≤ monthLength year month then some ⟨year, month, day, h.1, h.2⟩ else none

/-- Whether a day is in the years that dates are read for. -/
def isSupported (d : Date) : Bool := -262143 ≤ d.year && d.year ≤ 262142

/-- The number of a day. -/
def toDays (d : Date) : Int :=
  let before : Nat := ((monthLengths d.year).take (d.month - 1)).foldl (· + ·) 0
  daysBeforeYear d.year + before + (d.day - 1 : Nat) - epoch

/-- The month and the day of the month that the given number of days, below the sum of the lengths,
lead to, if `month` is the first of them. -/
def locate (month : Nat) : List Nat → Nat → Nat × Nat
  | [], days => (month, days + 1)
  | length :: rest, days =>
    if days < length then (month, days + 1) else locate (month + 1) rest (days - length)

/-- The day of a number. -/
def ofDays? (days : Int) : Option Date :=
  let n := days + epoch
  let rest := (n % 146097).toNat
  let century := min (rest / 36524) 3
  let rest := rest - century * 36524
  let quad := rest / 1461
  let rest := rest % 1461
  let single := min (rest / 365) 3
  let year := n / 146097 * 400 + century * 100 + quad * 4 + single + 1
  let (month, day) := locate 1 (monthLengths year) (rest - single * 365)
  ofParts? year month day

@[simp] theorem ofParts?_self (d : Date) : ofParts? d.year d.month d.day = some d := by
  rw [ofParts?, dif_pos ⟨d.day_pos, d.day_le⟩]

end Date

end CloudDirector
