import QueryFeed.Number.FloatFormat
import QueryFeed.Text.Numeral

/-!
**The shortest decimal that reads back.**

The reals nearest to a floating-point number form an interval around it, whose ends belong to it
when the significand is even.  Among the decimals of that interval those with the fewest digits are
taken, and of them the one nearest to the number.  Two of them may be equally near; which one is taken
then, and how the digits are laid out, is a separate matter, given by a `FloatLayout`.

Main definitions:

* `RoundingInterval`, `FloatFormat.roundingInterval` — the reals that round to a number;
* `DecimalFloat`, `FloatFormat.shortest` — the shortest decimal among them;
* `TieRule`, `FloatLayout`, `DecimalFloat.layOut` — positional and scientific notation.
-/

set_option autoImplicit false

namespace QueryFeed

/-- A positive decimal `digits * 10 ^ exponent`. -/
structure DecimalFloat where
  digits : Nat
  exponent : Int
  deriving DecidableEq

/-- Which of two equally near decimals is taken. -/
inductive TieRule where
  /-- The one with an even last digit. -/
  | toEven
  /-- The greater one. -/
  | upwards
  deriving DecidableEq

/-- The reals that round to one number.  All three bounds are in units of `2 ^ unit`. -/
structure RoundingInterval where
  unit : Int
  low : Nat
  middle : Nat
  high : Nat
  closed : Bool
  deriving DecidableEq

namespace FloatFormat

/-- The reals that round to `significand * 2 ^ exponent`.  Below a power of two the numbers lie twice
as close as above it. -/
def roundingInterval (format : FloatFormat) (significand : Nat) (exponent : Int) :
    RoundingInterval :=
  let atPower := significand = Nat.pow 2 format.fractionBits ∧ format.minExponent < exponent
  { unit := exponent - 2
    low := 4 * significand - (if atPower then 1 else 2)
    middle := 4 * significand
    high := 4 * significand + 2
    closed := significand % 2 = 0 }

end FloatFormat

namespace RoundingInterval

/-- Where a decimal lies: its position and the units, over one denominator. -/
def onCommonScale (interval : RoundingInterval) (decimal : DecimalFloat) : Nat × Nat :=
  let (n, d) := scaleByPowerOfTen decimal.digits 1 decimal.exponent
  scaleByPowerOfTwo n d (-interval.unit)

/-- Whether a decimal rounds to the number of the interval. -/
def contains (interval : RoundingInterval) (decimal : DecimalFloat) : Bool :=
  let (position, unit) := interval.onCommonScale decimal
  if interval.closed then interval.low * unit ≤ position && position ≤ interval.high * unit
  else interval.low * unit < position && position < interval.high * unit

/-- How far a decimal lies from the number, in units over the denominator of its power of ten. -/
def distance (interval : RoundingInterval) (decimal : DecimalFloat) : Nat :=
  let (position, unit) := interval.onCommonScale decimal
  if position ≤ interval.middle * unit then interval.middle * unit - position
  else position - interval.middle * unit

/-- The greatest `e` with `10 ^ e` at most the number. -/
def floorLog10 (interval : RoundingInterval) : Int :=
  let estimate := ((Nat.log2 interval.middle : Int) + interval.unit) * 30103 / 100000
  let reaches (e : Int) : Bool :=
    let (position, unit) := interval.onCommonScale ⟨1, e⟩
    position ≤ interval.middle * unit
  if reaches (estimate + 1) then estimate + 1
  else if reaches estimate then estimate
  else estimate - 1

/-- The nearest decimal of the interval on the grid of multiples of `10 ^ exponent`. -/
def onGrid (interval : RoundingInterval) (tie : TieRule) (exponent : Int) : Option DecimalFloat :=
  let (n, d) := scaleByPowerOfTwo interval.middle 1 interval.unit
  let (n, d) := scaleByPowerOfTen n d (-exponent)
  let below : DecimalFloat := ⟨n / d, exponent⟩
  let above : DecimalFloat := ⟨n / d + 1, exponent⟩
  match interval.contains below, interval.contains above with
  | true, true =>
      let first := interval.distance below
      let second := interval.distance above
      if first < second then some below
      else if second < first then some above
      else if tie = .toEven ∧ below.digits % 2 = 0 then some below else some above
  | true, false => some below
  | false, true => some above
  | false, false => none

/-- The first grid, from the coarsest on, on which the interval has a decimal. -/
def firstOnGrid (interval : RoundingInterval) (tie : TieRule) : List Int → Option DecimalFloat
  | [] => none
  | exponent :: finer =>
      (interval.onGrid tie exponent).orElse fun _ => firstOnGrid interval tie finer

end RoundingInterval

/-- Removes the zeros at the end of the digits; the digits themselves bound the recursion. -/
def DecimalFloat.strip : Nat → DecimalFloat → DecimalFloat
  | 0, decimal => decimal
  | steps + 1, decimal =>
      if decimal.digits ≠ 0 ∧ decimal.digits % 10 = 0 then
        DecimalFloat.strip steps ⟨decimal.digits / 10, decimal.exponent + 1⟩
      else decimal

/-- The decimal with the fewest digits that rounds to `significand * 2 ^ exponent`, a positive number
of the format.  A double needs at most seventeen digits. -/
def FloatFormat.shortest (format : FloatFormat) (tie : TieRule) (significand : Nat)
    (exponent : Int) : DecimalFloat :=
  let interval := format.roundingInterval significand exponent
  let top := interval.floorLog10
  let grids := (List.range 18).map fun (place : Nat) => top - (place : Int)
  let decimal := (interval.firstOnGrid tie grids).getD ⟨0, 0⟩
  decimal.strip 20

/-! ### Notation -/

/-- How a number is written: between the two orders of magnitude positionally, outside them with an
exponent.  A whole number that is written positionally may have a zero after a point. -/
structure FloatLayout where
  lowestPositional : Int
  highestPositional : Int
  plusInExponent : Bool
  zeroAfterPoint : Bool
  tie : TieRule

/-- What follows the digits of a whole number. -/
def FloatLayout.wholeEnding (layout : FloatLayout) : List Char :=
  if layout.zeroAfterPoint then ['.', '0'] else []

/-- The text of a positive decimal. -/
def DecimalFloat.layOut (layout : FloatLayout) (decimal : DecimalFloat) : List Char :=
  let digits := Text.decimal decimal.digits
  let order := decimal.exponent + digits.length - 1
  if layout.lowestPositional ≤ order ∧ order ≤ layout.highestPositional then
    if 0 ≤ decimal.exponent then
      digits ++ List.replicate decimal.exponent.toNat '0' ++ layout.wholeEnding
    else if 0 ≤ order then
      digits.take (order.toNat + 1) ++ '.' :: digits.drop (order.toNat + 1)
    else '0' :: '.' :: List.replicate (-order - 1).toNat '0' ++ digits
  else
    let mantissa := match digits with
      | first :: second :: rest => first :: '.' :: second :: rest
      | short => short
    let sign := if order < 0 then ['-'] else if layout.plusInExponent then ['+'] else []
    mantissa ++ 'e' :: sign ++ Text.decimal order.natAbs

/-- The text of a finite number of a format with its sign. -/
def FloatFormat.render (format : FloatFormat) (layout : FloatLayout) (negative : Bool)
    (significand : Nat) (exponent : Int) : List Char :=
  let magnitude :=
    if significand = 0 then '0' :: layout.wholeEnding
    else (format.shortest layout.tie significand exponent).layOut layout
  if negative then '-' :: magnitude else magnitude

end QueryFeed
