import QueryFeed.Text.Numeral

/-!
**Spans of time.**

Spans of time are counted in nanoseconds.  A span is written in the greatest unit of which it holds at
least one, with as many places as it needs; no time at all is zero nanoseconds.

Main definitions: `ofMilliseconds`, `Text.duration`.
-/

set_option autoImplicit false

namespace QueryFeed

/-- A number of milliseconds, in nanoseconds. -/
def ofMilliseconds (count : Nat) : Nat := count * 1000000

namespace Text

/-- What stands after the point for a part of a unit, without zeros at the end. -/
def places (width n : Nat) : List Char :=
  let digits := ((padded width n).reverse.dropWhile (· = '0')).reverse
  if digits.isEmpty then [] else '.' :: digits

/-- A span of time. -/
def duration (nanos : Nat) : String :=
  String.ofList (
    if nanos < 1000 then decimal nanos ++ "ns".toList
    else if nanos < 1000000 then
      decimal (nanos / 1000) ++ places 3 (nanos % 1000) ++ "µs".toList
    else if nanos < 1000000000 then
      decimal (nanos / 1000000) ++ places 6 (nanos % 1000000) ++ "ms".toList
    else decimal (nanos / 1000000000) ++ places 9 (nanos % 1000000000) ++ "s".toList)

end Text

end QueryFeed
