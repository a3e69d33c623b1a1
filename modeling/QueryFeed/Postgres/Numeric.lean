import QueryFeed.Number.Decimal
import QueryFeed.Postgres.Word

/-!
**Numerics on the wire.**

A numeric is a header of four words and then digits in base 10000, the first of them with a given weight.
The header counts the digits, and gives the weight, the sign, and the places that are displayed.

Main definitions: `Numeric`, `Numeric.ofBytes?`, `Numeric.toDecimal?`, `Numeric.ofDecimal`,
`Numeric.bytes`.
-/

set_option autoImplicit false

namespace QueryFeed.Postgres

/-- A numeric as it is sent: the digit at place `i` counts `10000 ^ (weight - i)`. -/
structure Numeric where
  negative : Bool
  weight : Int
  places : Nat
  digits : List Nat
  deriving DecidableEq

namespace Numeric

/-- The word that marks a negative number. -/
def negativeMark : Nat := 0x4000

/-- The least word that marks what is no finite number. -/
def unusualMark : Nat := 0xC000

/-! ### Reading -/

/-- Reads a number of digits; what is left over does not matter. -/
def readDigits : Nat → List UInt8 → Option (List Nat)
  | 0, _ => some []
  | count + 1, a :: b :: rest => (readDigits count rest).map (Word.value [a, b] :: ·)
  | _ + 1, _ => none

/-- Reads a numeric that is a number. -/
def ofBytes? : List UInt8 → Option Numeric
  | n₁ :: n₂ :: w₁ :: w₂ :: s₁ :: s₂ :: p₁ :: p₂ :: rest => do
      let digits ← readDigits (Word.value [n₁, n₂]) rest
      let mark := Word.value [s₁, s₂]
      guard (mark < unusualMark)
      return ⟨mark = negativeMark, Word.signedValue [w₁, w₂], Word.value [p₁, p₂], digits⟩
  | _ => none

/-- Appends digits to a number, as long as it fits. -/
def appendDigits (units : Nat) : List Nat → Option Nat
  | [] => some units
  | digit :: rest =>
      let next := units * 10000 + digit
      if next ≤ Decimal.maxUnits then appendDigits next rest else none

/-- The whole part: the digits before the point, and zeros up to it. -/
def wholePart? (count : Nat) (digits : List Nat) : Option Nat := do
  let units ← appendDigits 0 (digits.take count)
  let zeros := count - digits.length
  guard (zeros ≤ 7)
  let filled := units * Nat.pow 10000 zeros
  guard (filled ≤ Decimal.maxUnits)
  return filled

/-- Adds some units at a place after the point, and rounds to what there is room for. -/
def addAt? (units scale digit place : Nat) : Option (Nat × Nat) :=
  let common := max scale place
  Decimal.fit? (units * Nat.pow 10 (common - scale) + digit * Nat.pow 10 (common - place)) common

/-- Adds the digits after the point, the first of which ends at the given place.  A digit beyond the
last place rounds, and the ones behind it do not matter. -/
def addFraction (units scale place : Nat) : List Nat → Option (Nat × Nat)
  | [] => some (units, scale)
  | digit :: rest =>
      let added :=
        if digit = 0 then some (units, scale)
        else if place ≤ Decimal.maxScale then addAt? units scale digit place
        else if place = Decimal.maxScale + 4 ∧ 5000 ≤ digit then
          addAt? units scale 1 Decimal.maxScale
        else some (units, scale)
      added.bind fun (units, scale) => addFraction units scale (place + 4) rest

/-- The decimal with the displayed places, if it has room for the digits. -/
def toDecimal? (x : Numeric) : Option Decimal := do
  let count := (x.weight + 1).toNat
  let whole ← wholePart? count x.digits
  let gap := (-x.weight - 1).toNat
  let (units, scale) ← addFraction whole 0 (4 * (gap + 1)) (x.digits.drop count)
  return Decimal.rescale ⟨x.negative, units, scale⟩ (min x.places Decimal.maxScale)

/-! ### Writing -/

/-- Puts the digits of a number in base 10000 in front of others; the number itself bounds the
recursion. -/
def digitsOnto : Nat → Nat → List Nat → List Nat
  | 0, _, tail => tail
  | steps + 1, n, tail => if n = 0 then tail else digitsOnto steps (n / 10000) (n % 10000 :: tail)

/-- The digits of a number in base 10000; zero has none. -/
def digitsOf (n : Nat) : List Nat := digitsOnto n n []

/-- The numeric of a decimal.  Zero loses its sign and its places, and zeros at the end of the places are
not sent. -/
def ofDecimal (x : Decimal) : Numeric :=
  if x.units = 0 then ⟨false, 0, 0, []⟩
  else
    let groups := (x.scale + 3) / 4
    let digits := digitsOf (x.units * Nat.pow 10 (4 * groups - x.scale))
    let whole := digits.length - groups
    let fraction := ((digits.drop whole).reverse.dropWhile (· = 0)).reverse
    ⟨x.negative, (digits.length : Int) - groups - 1, x.scale,
      if digits.length ≤ groups then digits else digits.take whole ++ fraction⟩

/-- The bytes of a numeric. -/
def bytes (x : Numeric) : List UInt8 :=
  Word.bytes 2 x.digits.length ++ Word.signedBytes 2 x.weight ++
    Word.bytes 2 (if x.negative then negativeMark else 0) ++ Word.bytes 2 x.places ++
    x.digits.flatMap (Word.bytes 2)

end Numeric

end QueryFeed.Postgres
