import CloudDirector.Calendar.DateTime
import CloudDirector.Text.Blank

/-!
# Layouts of dates and times

A layout lists the parts of a written date or time.  Numbers are read leniently: blanks may stand
in front, they may be shorter than usual, and a year with a sign may have any number of digits.  A
layout has been followed when all its parts were found and nothing is left.
-/

namespace CloudDirector.Calendar

open Text

/-- A part of a layout. -/
inductive Part where
  | year | month | day | hour | minute | second
  /-- Digits after a point, if there is a point. -/
  | fraction
  /-- Sign, hours and minutes, the colon between them being optional. -/
  | offset
  /-- The given character. -/
  | mark (c : Char)
  /-- Any number of blanks. -/
  | gap
  deriving DecidableEq

/-- What has been read. -/
structure Fields where
  year : Int := 0
  month : Nat := 0
  day : Nat := 0
  hour : Nat := 0
  minute : Nat := 0
  second : Nat := 0
  nanos : Nat := 0
  offset : Int := 0

/-- The value of a decimal digit. -/
def digit? (c : Char) : Option Nat := if c.isDigit then some (c.toNat - 48) else none

/-- Reads at most `limit` digits into a number that starts as `n`.  Gives the number, how many
digits were read, and what follows them. -/
def readDigits (n : Nat) : (limit : Nat) → List Char → Nat × Nat × List Char
  | 0, cs => (n, 0, cs)
  | _, [] => (n, 0, [])
  | limit + 1, c :: rest =>
    match digit? c with
    | some d => let (m, count, after) := readDigits (n * 10 + d) limit rest; (m, count + 1, after)
    | none => (n, 0, c :: rest)

/-- A number of at least one and at most `limit` digits. -/
def readNumber (limit : Nat) (cs : List Char) : Option (Nat × List Char) :=
  match readDigits 0 limit cs with
  | (_, 0, _) => none
  | (n, _, rest) => some (n, rest)

/-- A number of exactly `width` digits. -/
def readFixed (width : Nat) (cs : List Char) : Option (Nat × List Char) :=
  match readDigits 0 width cs with
  | (n, count, rest) => if count = width then some (n, rest) else none

/-- A year: at most four digits, or a sign and any number of them. -/
def readYear : List Char → Option (Int × List Char)
  | '-' :: rest => (readNumber rest.length rest).map fun (n, after) => (-n, after)
  | '+' :: rest => (readNumber rest.length rest).map fun (n, after) => (n, after)
  | cs => (readNumber 4 cs).map fun (n, after) => (n, after)

/-- The nanoseconds of the digits after a point; digits after the ninth do not count. -/
def readNanos (cs : List Char) : Option (Nat × List Char) :=
  match readDigits 0 9 cs with
  | (_, 0, _) => none
  | (n, count, rest) => some (n * Nat.pow 10 (9 - count), rest.dropWhile Char.isDigit)

/-- Two digits. -/
def readTwo : List Char → Option (Nat × List Char)
  | a :: b :: rest => do return ((← digit? a) * 10 + (← digit? b), rest)
  | _ => none

/-- A distance from UTC in seconds: a sign, which may be the true minus sign, two digits of hours,
what `separator` takes away, and two digits of minutes below 60. -/
def readOffset (separator : List Char → Option (List Char)) :
    List Char → Option (Int × List Char)
  | [] => none
  | c :: rest => do
    let sign : Int ← if c = '+' then some 1 else if c = '-' ∨ c = '−' then some (-1) else none
    let (hours, rest) ← readTwo rest
    let (minutes, rest) ← readTwo (← separator rest)
    if 60 ≤ minutes then none
    return (sign * (hours * 3600 + minutes * 60), rest)

/-- Takes away colons and blanks. -/
def looseSeparator (cs : List Char) : Option (List Char) :=
  some (cs.dropWhile fun c => c == ':' || isBlank c)

/-- Reads one part. -/
def Part.read (part : Part) (fields : Fields) (cs : List Char) : Option (Fields × List Char) :=
  match part with
  | .year => (readYear (trimLeft cs)).map fun (n, rest) => ({ fields with year := n }, rest)
  | .month => (readNumber 2 (trimLeft cs)).map fun (n, rest) => ({ fields with month := n }, rest)
  | .day => (readNumber 2 (trimLeft cs)).map fun (n, rest) => ({ fields with day := n }, rest)
  | .hour => (readNumber 2 (trimLeft cs)).map fun (n, rest) => ({ fields with hour := n }, rest)
  | .minute => (readNumber 2 (trimLeft cs)).map fun (n, rest) => ({ fields with minute := n }, rest)
  | .second => (readNumber 2 (trimLeft cs)).map fun (n, rest) => ({ fields with second := n }, rest)
  | .fraction =>
    match cs with
    | '.' :: rest => (readNanos rest).map fun (n, after) => ({ fields with nanos := n }, after)
    | _ => some (fields, cs)
  | .offset =>
    (readOffset looseSeparator (trimLeft cs)).map fun (n, rest) =>
      ({ fields with offset := n }, rest)
  | .mark m =>
    match cs with
    | c :: rest => if c = m then some (fields, rest) else none
    | [] => none
  | .gap => some (fields, trimLeft cs)

/-- Reads parts one after another. -/
def readParts : List Part → Fields → List Char → Option (Fields × List Char)
  | [], fields, cs => some (fields, cs)
  | part :: parts, fields, cs => do
    let (fields, rest) ← part.read fields cs
    readParts parts fields rest

/-- Reads a whole text by a layout. -/
def readLayout (layout : List Part) (cs : List Char) : Option Fields :=
  match readParts layout {} cs with
  | some (fields, []) => some fields
  | _ => none

namespace Fields

/-- The date that was read, if there is such a day in the supported years. -/
def date? (f : Fields) : Option Date := do
  let d ← Date.ofParts? f.year f.month f.day
  if d.isSupported then some d else none

/-- The time of day that was read, if there is such a time.  A second 60 is a leap second. -/
def time? (f : Fields) : Option TimeOfDay :=
  if f.hour < 24 ∧ f.minute < 60 ∧ f.second ≤ 60 then
    let start := f.hour * 3600 + f.minute * 60
    if f.second = 60 then TimeOfDay.ofParts? (start + 59) (f.nanos + TimeOfDay.nanosPerSecond)
    else TimeOfDay.ofParts? (start + f.second) f.nanos
  else none

/-- The date and time that were read, if there are such and the day in UTC is in the supported years
too. -/
def dateTime? (f : Fields) : Option DateTime := do
  let t ← DateTime.ofParts? (← f.date?) (← f.time?) f.offset
  let day ← Date.ofDays? t.utcDay
  if day.isSupported then some t else none

end Fields

end CloudDirector.Calendar
