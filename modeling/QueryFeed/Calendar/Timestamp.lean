import QueryFeed.Calendar.Date
import QueryFeed.Calendar.TimeOfDay

/-!
**Moments: a date and a time of day.**

Main definitions:

* `Timestamp` — the type;
* `Timestamp.spacedText`, `Timestamp.joinedText`, `Timestamp.offsetText`, `Timestamp.zuluText` — the
  four ways of writing one;
* `Timestamp.microseconds`, `Timestamp.ofMicroseconds?` — microseconds from 1 January 2000 on.
-/

set_option autoImplicit false

namespace QueryFeed

/-- A date and a time of day. -/
structure Timestamp where
  date : Date
  time : TimeOfDay
  deriving DecidableEq

namespace Timestamp

/-! ### Text -/

/-- Date and time with one blank between them. -/
def spacedText (moment : Timestamp) : String :=
  String.ofList (moment.date.chars ++ ' ' :: moment.time.chars)

/-- Date and time with the letter `T` between them. -/
def joinedText (moment : Timestamp) : String :=
  String.ofList (moment.date.chars ++ 'T' :: moment.time.chars)

/-- The joined text, then the offset of universal time in hours and minutes. -/
def offsetText (moment : Timestamp) : String := moment.joinedText ++ "+00:00"

/-- The joined text, then the letter `Z` for universal time. -/
def zuluText (moment : Timestamp) : String := moment.joinedText ++ "Z"

/-! ### Counting microseconds -/

/-- The day number of 1 January 2000. -/
def millennium : Int := 10957

/-- The microseconds of a day. -/
def microsPerDay : Int := 86400000000

/-- The nanoseconds from 1 January 2000 on. -/
def nanoseconds (moment : Timestamp) : Int :=
  (moment.date.dayNumber - millennium) * microsPerDay * 1000 + moment.time.nanoseconds

/-- The whole microseconds from 1 January 2000 on, rounded toward that day. -/
def microseconds (moment : Timestamp) : Int := moment.nanoseconds.tdiv 1000

/-- The moment a number of microseconds after 1 January 2000, if the calendar reaches that far. -/
def ofMicroseconds? (count : Int) : Option Timestamp := do
  let date ← Date.ofDayNumber? (millennium + count / microsPerDay)
  return ⟨date, TimeOfDay.ofMicroseconds (count % microsPerDay).toNat⟩

/-- A moment some seconds later, with the same fraction of a second. -/
def plusSeconds? (moment : Timestamp) (seconds : Int) : Option Timestamp := do
  let total := moment.date.dayNumber * 86400 + moment.time.secondOfDay + seconds
  let date ← Date.ofDayNumber? (total / 86400)
  let second := (total % 86400).toNat
  let start ← TimeOfDay.of? (second / 3600) (second / 60 % 60) (second % 60) 0
  return ⟨date, ← start.withNano? moment.time.nano⟩

end Timestamp

end QueryFeed
