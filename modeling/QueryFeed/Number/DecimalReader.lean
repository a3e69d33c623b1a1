import QueryFeed.Number.Decimal

/-!
**Reading decimals.**

A decimal is read from a sign, digits with at most one point among or beside them, and underscores after
the first digit or point that had a digit before it.  Places for which there is no room are not kept:
the first of them rounds the others, a half away from zero.  In scientific notation the exponent moves
the point.

Main definitions: `Decimal.ofPlain?`, `Decimal.ofScientific?`, `Decimal.ofText?`.
-/

set_option autoImplicit false

namespace QueryFeed.Decimal

/-- What was read of a decimal: its units, its places, and whether there was a point and a digit. -/
structure Reading where
  units : Nat
  scale : Nat
  afterPoint : Bool
  hasDigit : Bool

namespace Reading

/-- Nothing was read yet. -/
def empty : Reading := ⟨0, 0, false, false⟩

/-- Rounds by the places for which there is no room; they are digits and underscores. -/
def roundBy (reading : Reading) (tail : List Char) : Option (Nat × Nat) := do
  guard (tail.all fun c => Text.isDigit c || c = '_')
  let digit := ((tail.find? Text.isDigit).bind Text.digitValue?).getD 0
  let units := if 5 ≤ digit then reading.units + 1 else reading.units
  if units ≤ maxUnits then return (units, reading.scale)
  else if reading.scale = 0 then none
  else return ((units + 4) / 10, reading.scale - 1)

/-- Reads the rest of a decimal: its units and its scale. -/
def finish? (reading : Reading) : List Char → Option (Nat × Nat)
  | [] => if reading.hasDigit then some (reading.units, reading.scale) else none
  | c :: rest =>
      if maxScale ≤ reading.scale then reading.roundBy (c :: rest)
      else if Text.isDigit c then
        let units := reading.units * 10 + (Text.digitValue? c).getD 0
        if units ≤ maxUnits then
          finish? ⟨units, if reading.afterPoint then reading.scale + 1 else 0,
            reading.afterPoint, true⟩ rest
        else if reading.afterPoint then reading.roundBy (c :: rest)
        else none
      else if c = '.' && !reading.afterPoint then finish? { reading with afterPoint := true } rest
      else if c = '_' && reading.hasDigit then finish? reading rest
      else none

end Reading

/-- Splits a sign off a text. -/
def splitSign : List Char → Bool × List Char
  | '-' :: rest => (true, rest)
  | '+' :: rest => (false, rest)
  | rest => (false, rest)

/-- Reads a decimal without an exponent; zero has no sign. -/
def ofPlain? (text : List Char) : Option Decimal := do
  let (negative, rest) := splitSign text
  let (units, scale) ← Reading.empty.finish? rest
  return ⟨negative && units != 0, units, scale⟩

/-- The exponents are words of 32 bits. -/
def exponentLimit : Nat := 4294967296

/-- Reads an exponent without a minus sign. -/
def magnitude? (text : List Char) : Option Nat := do
  let digits := match text with
    | '+' :: rest => rest
    | rest => rest
  let value ← Text.numeral? 10 digits
  if value < exponentLimit then return value else none

/-- Moves the point of a decimal to the right, by no more places than a decimal may have. -/
def shiftUp? (x : Decimal) (places : Nat) : Option Decimal :=
  if places ≤ x.scale then some { x with scale := x.scale - places }
  else if maxScale < places then none
  else
    let units := x.units * Nat.pow 10 (places - x.scale)
    if units ≤ maxUnits then some { x with units := units, scale := 0 } else none

/-- Moves the point of a decimal to the left, by no more places than a decimal may have; the places for
which there is no room are rounded away first. -/
def shiftDown? (x : Decimal) (places : Nat) : Option Decimal :=
  if maxScale < places then none
  else if x.scale + places ≤ maxScale then some { x with scale := x.scale + places }
  else some { x.rescale (maxScale - places) with scale := maxScale }

/-- Reads a decimal with an exponent. -/
def ofScientific? (text : List Char) : Option Decimal := do
  let isMark (c : Char) : Bool := c = 'e' || c = 'E'
  let base ← ofPlain? (text.takeWhile (!isMark ·))
  match text.dropWhile (!isMark ·) with
  | [] => none
  | _ :: '-' :: exponent => (magnitude? exponent).bind base.shiftDown?
  | _ :: exponent => (magnitude? exponent).bind base.shiftUp?

/-- Reads a decimal in either notation. -/
def ofText? (text : List Char) : Option Decimal := (ofPlain? text).or (ofScientific? text)

end QueryFeed.Decimal
