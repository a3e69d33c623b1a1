import QueryFeed.Calendar.Timestamp
import QueryFeed.Text.Blank

/-!
**Reading dates and times.**

The forms are those of ISO 8601: `2024-02-29`, `23:59:60.5`, the two joined by `T`, and the joined
form with an offset from universal time.  A year of more than four digits has a sign, seconds may be
left out of a bare time of day, and blanks may stand before a number.  A number out of its range is
refused at once, a date that is not in the calendar only when all of the text was read, and after that
a moment that is not in the calendar in universal time.

Main definitions: `CalendarError`, `Date.parse`, `TimeOfDay.parse`, `Timestamp.parse`,
`Timestamp.parseWithOffset`.
-/

set_option autoImplicit false

namespace QueryFeed

/-- Why a text is no date or time. -/
inductive CalendarError where
  | outOfRange
  | invalid
  | tooShort
  | tooLong
  | impossible
  deriving DecidableEq

/-- The wording of a refusal. -/
def CalendarError.message : CalendarError → String
  | outOfRange => "input is out of range"
  | invalid => "input contains invalid characters"
  | tooShort => "premature end of input"
  | tooLong => "trailing input"
  | impossible => "no possible date and time matching input"

namespace CalendarReader

/-- Drops blanks in front. -/
def skipBlanks (text : List Char) : List Char := text.dropWhile Text.isBlank

/-- Reads a number of at least one and at most `width` digits. -/
def number (width : Nat) (text : List Char) : Except CalendarError (Nat × List Char) :=
  let digits := (text.take width).takeWhile Text.isDigit
  if text.isEmpty then .error .tooShort
  else if digits.isEmpty then .error .invalid
  else .ok (Text.numeralValue 10 digits, text.drop digits.length)

/-- Reads a number after blanks and checks its range. -/
def field (width low high : Nat) (text : List Char) : Except CalendarError (Nat × List Char) := do
  let (value, rest) ← number width (skipBlanks text)
  if low ≤ value ∧ value ≤ high then return (value, rest) else throw .outOfRange

/-- Reads one fixed character. -/
def literal (expected : Char) : List Char → Except CalendarError (List Char)
  | [] => .error .tooShort
  | c :: rest => if c = expected then .ok rest else .error .invalid

/-- Reads a year: up to four digits, or a sign and any number of digits. -/
def year (text : List Char) : Except CalendarError (Int × List Char) := do
  let text := skipBlanks text
  let (value, rest) ←
    match text with
    | '-' :: rest => (number rest.length rest).map fun (value, rest) => (-(value : Int), rest)
    | '+' :: rest => (number rest.length rest).map fun (value, rest) => ((value : Int), rest)
    | rest => (number 4 rest).map fun (value, rest) => ((value : Int), rest)
  if -2147483648 ≤ value ∧ value ≤ 2147483647 then return (value, rest) else throw .outOfRange

/-- Reads year, month and day. -/
def date (text : List Char) : Except CalendarError ((Int × Nat × Nat) × List Char) := do
  let (year, rest) ← year text
  let rest ← literal '-' (skipBlanks rest)
  let (month, rest) ← field 2 1 12 rest
  let rest ← literal '-' (skipBlanks rest)
  let (day, rest) ← field 2 1 31 rest
  return ((year, month, day), rest)

/-- The date with a year, a month and a day. -/
def resolve (parts : Int × Nat × Nat) : Except CalendarError Date :=
  match Date.of? parts.1 parts.2.1 parts.2.2 with
  | some date => .ok date
  | none => .error .outOfRange

/-- Reads a fraction of a second, if there is one; places after the ninth are dropped. -/
def fraction : List Char → Except CalendarError (Nat × List Char)
  | '.' :: rest => do
      let digits := rest.takeWhile Text.isDigit
      let kept := digits.take 9
      if rest.isEmpty then throw .tooShort
      else if digits.isEmpty then throw .invalid
      else
        return (Text.numeralValue 10 kept * Nat.pow 10 (9 - kept.length), rest.drop digits.length)
  | rest => .ok (0, rest)

/-- Reads a colon, seconds and their fraction. -/
def seconds (text : List Char) : Except CalendarError ((Nat × Nat) × List Char) := do
  let rest ← literal ':' (skipBlanks text)
  let (second, rest) ← field 2 0 60 rest
  let (nanos, rest) ← fraction rest
  return ((second, nanos), rest)

/-- The time of day with these parts; second 60 is the leap second. -/
def assemble (hour minute second nanos : Nat) : Except CalendarError TimeOfDay :=
  let time :=
    if second = 60 then TimeOfDay.of? hour minute 59 (nanos + nanosPerSecond)
    else TimeOfDay.of? hour minute second nanos
  match time with
  | some time => .ok time
  | none => .error .outOfRange

/-- Reads hours and minutes. -/
def hourAndMinute (text : List Char) : Except CalendarError ((Nat × Nat) × List Char) := do
  let (hour, rest) ← field 2 0 23 text
  let rest ← literal ':' (skipBlanks rest)
  let (minute, rest) ← field 2 0 59 rest
  return ((hour, minute), rest)

/-- Reads hours, minutes and seconds. -/
def time (text : List Char) : Except CalendarError (TimeOfDay × List Char) := do
  let ((hour, minute), rest) ← hourAndMinute text
  let ((second, nanos), rest) ← seconds rest
  let time ← assemble hour minute second nanos
  return (time, rest)

/-- Reads two digits. -/
def twoDigits : List Char → Except CalendarError (Nat × List Char)
  | first :: second :: rest =>
      if Text.isDigit first && Text.isDigit second then
        .ok (Text.numeralValue 10 [first, second], rest)
      else .error .invalid
  | [c] => if c.utf8Size = 1 then .error .tooShort else .error .invalid
  | [] => .error .tooShort

/-- Reads the hours and minutes of an offset, in seconds. -/
def offsetSize (text : List Char) : Except CalendarError (Int × List Char) := do
  let (hours, rest) ← twoDigits text
  let (minutes, rest) ← twoDigits (rest.dropWhile fun c => c = ':' || Text.isBlank c)
  if 59 < minutes then throw .outOfRange
  return (hours * 3600 + minutes * 60, rest)

/-- Reads an offset from universal time, in seconds. -/
def offset (text : List Char) : Except CalendarError (Int × List Char) :=
  if (text.take 3).map Char.toUpper = ['U', 'T', 'C'] then .ok (0, text.drop 3)
  else
    match text with
    | [] => .error .tooShort
    | c :: rest =>
        if c = 'Z' ∨ c = 'z' then .ok (0, rest)
        else if c = '+' then offsetSize rest
        else if c = '-' ∨ c = '−' then (offsetSize rest).map fun (size, rest) => (-size, rest)
        else .error .invalid

/-- Requires that nothing but blanks is left. -/
def finish {α : Type} (step : Except CalendarError (α × List Char)) : Except CalendarError α := do
  let (value, rest) ← step
  if (skipBlanks rest).isEmpty then return value else throw .tooLong

end CalendarReader

/-- Reads a date. -/
def Date.parse (text : String) : Except CalendarError Date := do
  let parts ← CalendarReader.finish (CalendarReader.date text.toList)
  CalendarReader.resolve parts

/-- Reads a time of day, whose seconds may be missing. -/
def TimeOfDay.parse (text : String) : Except CalendarError TimeOfDay := do
  let ((hour, minute), rest) ← CalendarReader.hourAndMinute text.toList
  let ((second, nanos), rest) := match CalendarReader.seconds rest with
    | .ok found => found
    | .error _ => ((0, 0), rest)
  let _ ← CalendarReader.finish (.ok ((), rest))
  CalendarReader.assemble hour minute second nanos

/-- Reads a date and a time of day joined by `T`. -/
def Timestamp.parse (text : String) : Except CalendarError Timestamp := do
  let (parts, rest) ← CalendarReader.date text.toList
  let rest ← CalendarReader.literal 'T' (CalendarReader.skipBlanks rest)
  let time ← CalendarReader.finish (CalendarReader.time rest)
  let date ← CalendarReader.resolve parts
  return ⟨date, time⟩

/-- Reads a date, a time of day and an offset, and gives the moment in universal time. -/
def Timestamp.parseWithOffset (text : String) : Except CalendarError Timestamp := do
  let (parts, rest) ← CalendarReader.date text.toList
  let rest ← match rest with
    | [] => throw .tooShort
    | c :: rest => if c = 'T' ∨ c = 't' ∨ c = ' ' then pure rest else throw .invalid
  let (time, rest) ← CalendarReader.time rest
  let offset ← CalendarReader.finish (CalendarReader.offset (CalendarReader.skipBlanks rest))
  let date ← CalendarReader.resolve parts
  if 86400 ≤ offset.natAbs then throw .outOfRange
  match Timestamp.plusSeconds? ⟨date, time⟩ (-offset) with
  | some moment => return moment
  | none => throw .impossible

end QueryFeed
