import QueryFeed.Number.FloatFormat
import QueryFeed.Text.Numeral

/-!
**Decimals with a scale.**

A decimal is a sign, a whole number of units, and a scale: the units are tenths, hundredths and so on,
as many places as the scale says.  The scale is kept, so `1.0` and `1.00` are different decimals that
are numerically equal, and there is a negative zero.

Main definitions:

* `Decimal`, `Decimal.text`, `Decimal.equals`;
* `Decimal.fit?` — a decimal with no more digits than there is room for;
* `Decimal.rescale` — a decimal with other places.
-/

set_option autoImplicit false

namespace QueryFeed

/-- The number `units * 10 ^ (-scale)` with a sign, written with `scale` places. -/
structure Decimal where
  negative : Bool
  units : Nat
  scale : Nat
  deriving DecidableEq

namespace Decimal

/-- The greatest number of units. -/
def maxUnits : Nat := Nat.pow 2 96 - 1

/-- The greatest scale. -/
def maxScale : Nat := 28

/-- The decimal of a signed number of units; zero has no sign. -/
def ofUnits (units : Int) (scale : Nat) : Decimal := ⟨decide (units < 0), units.natAbs, scale⟩

/-- The number of units with its sign. -/
def signedUnits (x : Decimal) : Int := if x.negative then -(x.units : Int) else x.units

/-! ### Text -/

/-- The digits of a number of units with a point before the last `scale` of them. -/
def unitsText (units scale : Nat) : List Char :=
  let digits := Text.padded (scale + 1) units
  let whole := digits.take (digits.length - scale)
  if scale = 0 then whole else whole ++ '.' :: digits.drop (digits.length - scale)

/-- The text of a decimal: its sign, its digits, and all its places. -/
def text (x : Decimal) : String :=
  let digits := unitsText x.units x.scale
  String.ofList (if x.negative then '-' :: digits else digits)

/-- Numerical equality, whatever the scales. -/
def equals (x y : Decimal) : Bool :=
  decide (x.signedUnits * Nat.pow 10 y.scale = y.signedUnits * Nat.pow 10 x.scale)

/-! ### Changing the scale -/

/-- The units at a scale that has room for them: as many places are dropped as must be, a half going to
the even neighbour.  There is nothing when the whole part alone is too great. -/
def fit? (units : Nat) : Nat → Option (Nat × Nat)
  | 0 => if units ≤ maxUnits then some (units, 0) else none
  | scale + 1 => if units ≤ maxUnits then some (units, scale + 1) else fitBelow units scale 1
where
  /-- The units at a lower scale, `dropped` places being dropped already. -/
  fitBelow (units : Nat) : Nat → Nat → Option (Nat × Nat)
    | 0, dropped =>
        let rounded := roundHalfEven units (Nat.pow 10 dropped)
        if rounded ≤ maxUnits then some (rounded, 0) else none
    | scale + 1, dropped =>
        let rounded := roundHalfEven units (Nat.pow 10 dropped)
        if rounded ≤ maxUnits then some (rounded, scale + 1)
        else fitBelow units scale (dropped + 1)

/-- Adds places as long as there is room for the digits. -/
def addPlaces : Nat → Nat → Nat → Nat × Nat
  | 0, units, scale => (units, scale)
  | places + 1, units, scale =>
      if units * 10 ≤ maxUnits then addPlaces places (units * 10) (scale + 1) else (units, scale)

/-- The decimal with other places.  Places that are dropped are rounded away, a half away from zero;
places are added as long as there is room for the digits. -/
def rescale (x : Decimal) (scale : Nat) : Decimal :=
  if x.units = 0 then { x with scale := scale }
  else if scale < x.scale then
    let last := Nat.pow 10 (x.scale - scale - 1)
    { x with
      units := x.units / (10 * last) + (if 5 ≤ x.units / last % 10 then 1 else 0)
      scale := scale }
  else
    let (units, scale) := addPlaces (scale - x.scale) x.units x.scale
    { x with units := units, scale := scale }

end Decimal

end QueryFeed
