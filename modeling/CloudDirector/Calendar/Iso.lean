import CloudDirector.Calendar.Layout

/-!
# Dates and times as text

Reading accepts the internet format of RFC 3339 and a list of layouts near ISO 8601.  A date and
time without a distance from UTC is one of UTC, and a date alone is its midnight.  Writing gives
the internet format with as many digits of the fraction as are needed, in groups of three.
-/

namespace CloudDirector

namespace Calendar

open Text

/-! ## Reading -/

/-- Takes away one colon. -/
def colonSeparator : List Char → Option (List Char)
  | ':' :: rest => some rest
  | _ => none

/-- Takes a given character away. -/
def skip (m : Char) : List Char → Option (List Char)
  | c :: rest => if c = m then some rest else none
  | [] => none

/-- Takes away the character between a date and a time. -/
def skipBetween : List Char → Option (List Char)
  | c :: rest => if c = 'T' ∨ c = 't' ∨ c = ' ' then some rest else none
  | [] => none

/-- Reads the digits after a point, if there is a point. -/
def readFraction : List Char → Option (Nat × List Char)
  | '.' :: rest => readNanos rest
  | cs => some (0, cs)

/-- Reads a distance from UTC that is `Z` or has a colon. -/
def readZone : List Char → Option (Int × List Char)
  | 'Z' :: rest => some (0, rest)
  | 'z' :: rest => some (0, rest)
  | cs => readOffset colonSeparator cs

/-- Reads three numbers with marks between them, the first of a given width and the others of two
digits. -/
def readTriple (width : Nat) (m : Char) (cs : List Char) :
    Option ((Nat × Nat × Nat) × List Char) := do
  let (a, cs) ← readFixed width cs
  let (b, cs) ← readFixed 2 (← skip m cs)
  let (c, cs) ← readFixed 2 (← skip m cs)
  return ((a, b, c), cs)

/-- Reads the internet format: numbers of fixed width, a fraction only with digits, and a distance
from UTC that is `Z` or has a colon. -/
def readInternet (cs : List Char) : Option Fields := do
  let ((year, month, day), cs) ← readTriple 4 '-' cs
  let ((hour, minute, second), cs) ← readTriple 2 ':' (← skipBetween cs)
  let (nanos, cs) ← readFraction cs
  let (offset, cs) ← readZone cs
  match cs with
  | [] => some { year, month, day, hour, minute, second, nanos, offset }
  | _ => none

/-- Year, month and day with dashes. -/
def dashedDate : List Part := [.year, .mark '-', .month, .mark '-', .day]

/-- Year, month and day without anything between them. -/
def plainDate : List Part := [.year, .month, .day]

/-- Hours and minutes with a colon. -/
def colonMinutes : List Part := [.hour, .mark ':', .minute]

/-- Hours, minutes and seconds with colons, and a fraction. -/
def colonSeconds : List Part := [.hour, .mark ':', .minute, .mark ':', .second, .fraction]

/-- Hours, minutes and seconds without anything between them, and a fraction. -/
def plainSeconds : List Part := [.hour, .minute, .second, .fraction]

/-- The layouts with a distance from UTC, in the order in which they are tried. -/
def offsetLayouts : List (List Part) := [
  dashedDate ++ [.mark 'T'] ++ colonMinutes ++ [.offset],
  dashedDate ++ [.mark 'T'] ++ colonSeconds ++ [.offset],
  dashedDate ++ [.gap] ++ colonSeconds ++ [.offset],
  plainDate ++ [.mark 'T'] ++ plainSeconds ++ [.offset]]

/-- The layouts without a distance from UTC, in the order in which they are tried. -/
def localLayouts : List (List Part) := [
  dashedDate ++ [.mark 'T'] ++ colonSeconds,
  dashedDate ++ [.mark 'T'] ++ colonMinutes,
  dashedDate ++ [.gap] ++ colonSeconds,
  dashedDate ++ [.gap] ++ colonMinutes,
  plainDate ++ [.mark 'T'] ++ plainSeconds]

/-- The layouts of a date alone, in the order in which they are tried. -/
def dateLayouts : List (List Part) := [dashedDate, plainDate]

/-- The text with a final `Z` spelled as a distance of zero. -/
def spellZulu (cs : List Char) : List Char :=
  match cs.getLast? with
  | some c => if c = 'Z' ∨ c = 'z' then cs.dropLast ++ "+00:00".toList else cs
  | none => cs

/-- Reads a date alone. -/
def readDateOnly (cs : List Char) : Option Date :=
  dateLayouts.findSome? fun layout => (readLayout layout cs).bind Fields.date?

/-- The start of a day in UTC. -/
def atMidnight (date : Date) : DateTime where
  date := date
  time := .midnight
  offset := 0
  offset_lt := by decide

/-- Reads a date and time, without blanks around it. -/
def readDateTime (cs : List Char) : Option DateTime :=
  let follow (text : List Char) (layout : List Part) :=
    (readLayout layout text).bind Fields.dateTime?
  ((readInternet cs).bind Fields.dateTime?)
  <|> offsetLayouts.findSome? (follow (spellZulu cs))
  <|> localLayouts.findSome? (follow cs)
  <|> (readDateOnly cs).map atMidnight

end Calendar

namespace DateTime

open Calendar Text

/-- The date and time that a text spells, if it spells one. -/
def ofString? (s : String) : Option DateTime := readDateTime (trim s.toList)

end DateTime

namespace Date

open Calendar Text

/-- The date that a text spells alone or as the date of a date and time. -/
def ofString? (s : String) : Option Date :=
  readDateOnly (trim s.toList) <|> (readDateTime (trim s.toList)).map DateTime.date

end Date

namespace Calendar

/-! ## Writing -/

/-- A number with zeros in front up to a width. -/
def padded (width n : Nat) : List Char :=
  let digits := Nat.toDigits 10 n
  List.replicate (width - digits.length) '0' ++ digits

/-- A year: four digits, or a sign and at least four. -/
def renderYear (year : Int) : List Char :=
  if 0 ≤ year ∧ year ≤ 9999 then padded 4 year.toNat
  else (if year < 0 then '-' else '+') :: padded 4 year.natAbs

/-- A fraction in as many groups of three digits as it needs. -/
def renderFraction (nanos : Nat) : List Char :=
  if nanos = 0 then []
  else if nanos % 1000000 = 0 then '.' :: padded 3 (nanos / 1000000)
  else if nanos % 1000 = 0 then '.' :: padded 6 (nanos / 1000)
  else '.' :: padded 9 nanos

/-- A distance from UTC in hours and minutes, to the nearest minute; none is written `Z`. -/
def renderOffset (offset : Int) : List Char :=
  if offset = 0 then ['Z']
  else
    let minutes := (offset.natAbs + 30) / 60
    (if offset < 0 then '-' else '+') :: padded 2 (minutes / 60) ++ ':' :: padded 2 (minutes % 60)

end Calendar

open Calendar

/-- A date in numbers with dashes. -/
def Date.renderChars (d : Date) : List Char :=
  renderYear d.year ++ '-' :: padded 2 d.month ++ '-' :: padded 2 d.day

/-- A date in numbers with dashes. -/
def Date.render (d : Date) : String := .ofList d.renderChars

/-- A time of day; a leap second counts on from the second before it. -/
def TimeOfDay.renderChars (t : TimeOfDay) : List Char :=
  let leap := if t.isLeap then 1 else 0
  padded 2 (t.seconds / 3600) ++ ':' :: padded 2 (t.seconds / 60 % 60) ++
    ':' :: padded 2 (t.seconds % 60 + leap) ++ renderFraction (t.nanos - leap * nanosPerSecond)

/-- A date and time in the internet format. -/
def DateTime.renderChars (t : DateTime) : List Char :=
  t.date.renderChars ++ 'T' :: t.time.renderChars ++ renderOffset t.offset

/-- A date and time in the internet format. -/
def DateTime.render (t : DateTime) : String := .ofList t.renderChars

end CloudDirector
