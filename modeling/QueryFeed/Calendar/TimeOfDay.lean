import QueryFeed.Text.Numeral

/-!
**Times of day.**

A time of day is given to the nanosecond.  The nanoseconds may run on past a thousand million: that is a
leap second, and it is shown as the second after the one that it follows.  A leap second that is read
follows second 59 and is shown as second 60; but the fraction of a time can be replaced by any other one,
and then it may run on past any second.

Main definitions:

* `TimeOfDay` — the times;
* `TimeOfDay.of?`, `TimeOfDay.withNano?` — the time with given parts, and the same second with another
  fraction;
* `TimeOfDay.text` — hours, minutes and seconds, then as many of 3, 6 or 9 places as are needed;
* `TimeOfDay.microseconds`, `TimeOfDay.ofMicroseconds` — microseconds since midnight.
-/

set_option autoImplicit false

namespace QueryFeed

/-- The nanoseconds of a second. -/
def nanosPerSecond : Nat := 1000000000

/-- Whether an hour, a minute, a second and nanoseconds name a time of day. -/
def IsTimeOfDay (hour minute second nano : Nat) : Prop :=
  hour < 24 ∧ minute < 60 ∧ second < 60 ∧ nano < 2 * nanosPerSecond

instance (hour minute second nano : Nat) : Decidable (IsTimeOfDay hour minute second nano) :=
  inferInstanceAs (Decidable (_ ∧ _))

/-- A time of day. -/
structure TimeOfDay where
  hour : Nat
  minute : Nat
  second : Nat
  nano : Nat
  isTime : IsTimeOfDay hour minute second nano
  deriving DecidableEq

namespace TimeOfDay

/-- The time with these parts, if there is one; a leap second follows second 59. -/
def of? (hour minute second nano : Nat) : Option TimeOfDay :=
  if h : IsTimeOfDay hour minute second nano ∧ (nanosPerSecond ≤ nano → second = 59) then
    some ⟨hour, minute, second, nano, h.1⟩
  else none

/-- The same second with another fraction, which may run on past any second. -/
def withNano? (time : TimeOfDay) (nano : Nat) : Option TimeOfDay :=
  if h : nano < 2 * nanosPerSecond then
    some ⟨time.hour, time.minute, time.second, nano,
      ⟨time.isTime.1, time.isTime.2.1, time.isTime.2.2.1, h⟩⟩
  else none

/-- The first moment of a day. -/
def midnight : TimeOfDay := ⟨0, 0, 0, 0, by decide⟩

/-- The seconds since midnight, without the leap second. -/
def secondOfDay (time : TimeOfDay) : Nat := time.hour * 3600 + time.minute * 60 + time.second

/-- The nanoseconds since midnight. -/
def nanoseconds (time : TimeOfDay) : Nat := time.secondOfDay * nanosPerSecond + time.nano

/-- The whole microseconds since midnight. -/
def microseconds (time : TimeOfDay) : Nat := time.nanoseconds / 1000

/-- The time a number of microseconds after midnight, counted around the day. -/
def ofMicroseconds (count : Nat) : TimeOfDay :=
  let seconds := count / 1000000 % 86400
  (of? (seconds / 3600) (seconds / 60 % 60) (seconds % 60) (count % 1000000 * 1000)).getD midnight

/-! ### Text -/

/-- The places of a fraction of a second: none, 3, 6 or 9 of them, whichever is exact first. -/
def fractionText (nanos : Nat) : List Char :=
  if nanos = 0 then []
  else if nanos % 1000000 = 0 then '.' :: Text.padded 3 (nanos / 1000000)
  else if nanos % 1000 = 0 then '.' :: Text.padded 6 (nanos / 1000)
  else '.' :: Text.padded 9 nanos

/-- The characters of a time of day. -/
def chars (time : TimeOfDay) : List Char :=
  let leap := nanosPerSecond ≤ time.nano
  let second := if leap then time.second + 1 else time.second
  let nanos := if leap then time.nano - nanosPerSecond else time.nano
  Text.padded 2 time.hour ++ ':' :: Text.padded 2 time.minute ++ ':' :: Text.padded 2 second ++
    fractionText nanos

/-- The text of a time of day. -/
def text (time : TimeOfDay) : String := String.ofList time.chars

end TimeOfDay

end QueryFeed
