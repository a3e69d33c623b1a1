/-!
**Binary floating point in exact arithmetic.**

A floating-point format is given by the widths of its fraction and exponent fields.  A number of the
format is a word: sign, exponent, fraction.  Everything here is arithmetic on natural numbers, so
that a rounding is a definite value of the logic and not an operation of the machine.

Main definitions:

* `FloatFormat`, `FloatFormat.binary64`, `FloatFormat.binary32`;
* `FloatShape`, `FloatFormat.shape` — what a word stands for;
* `roundHalfEven` — the nearest whole number to a quotient;
* `FloatFormat.nearest` — the word nearest to a quotient, a tie going to the even one.
-/

set_option autoImplicit false

namespace QueryFeed

/-- The widths of the fields of a binary floating-point format. -/
structure FloatFormat where
  fractionBits : Nat
  exponentBits : Nat
  deriving DecidableEq

/-- What a floating-point word stands for: a finite number is `significand * 2 ^ exponent`. -/
inductive FloatShape where
  | nan
  | infinite (negative : Bool)
  | finite (negative : Bool) (significand : Nat) (exponent : Int)
  deriving DecidableEq

/-- The whole number nearest to a quotient; halfway between two, the even one. -/
def roundHalfEven (numerator denominator : Nat) : Nat :=
  let quotient := numerator / denominator
  let twice := 2 * (numerator % denominator)
  if twice < denominator then quotient
  else if denominator < twice then quotient + 1
  else quotient + quotient % 2

/-- A quotient times a power of two, as a quotient. -/
def scaleByPowerOfTwo (numerator denominator : Nat) : Int → Nat × Nat
  | .ofNat k => (numerator * Nat.pow 2 k, denominator)
  | .negSucc k => (numerator, denominator * Nat.pow 2 (k + 1))

/-- A quotient times a power of ten, as a quotient. -/
def scaleByPowerOfTen (numerator denominator : Nat) : Int → Nat × Nat
  | .ofNat k => (numerator * Nat.pow 10 k, denominator)
  | .negSucc k => (numerator, denominator * Nat.pow 10 (k + 1))

/-- The greatest `e` with `2 ^ e` at most the quotient of two positive numbers. -/
def floorLog2 (numerator denominator : Nat) : Int :=
  let estimate : Int := (Nat.log2 numerator : Int) - Nat.log2 denominator
  let (low, high) := scaleByPowerOfTwo numerator denominator (-estimate)
  if high ≤ low then estimate else estimate - 1

namespace FloatFormat

/-- Double precision. -/
def binary64 : FloatFormat := ⟨52, 11⟩

/-- Single precision. -/
def binary32 : FloatFormat := ⟨23, 8⟩

/-- The exponent of the last place of the smallest numbers. -/
def minExponent (format : FloatFormat) : Int :=
  2 - (Nat.pow 2 (format.exponentBits - 1) : Nat) - (format.fractionBits : Int)

/-- The greatest value of the exponent field, which marks infinities and what is not a number. -/
def exponentLimit (format : FloatFormat) : Nat := Nat.pow 2 format.exponentBits - 1

/-- The word of positive infinity. -/
def infinityWord (format : FloatFormat) : Nat := format.exponentLimit * Nat.pow 2 format.fractionBits

/-- The weight of the sign bit. -/
def signWeight (format : FloatFormat) : Nat := Nat.pow 2 (format.fractionBits + format.exponentBits)

/-- A quiet word that is not a number. -/
def nanWord (format : FloatFormat) : Nat := format.infinityWord + Nat.pow 2 (format.fractionBits - 1)

/-- A magnitude with a sign. -/
def signed (format : FloatFormat) (negative : Bool) (magnitude : Nat) : Nat :=
  if negative then format.signWeight + magnitude else magnitude

/-- What a word of the format stands for. -/
def shape (format : FloatFormat) (word : Nat) : FloatShape :=
  let negative := decide (format.signWeight ≤ word)
  let field := word / Nat.pow 2 format.fractionBits % Nat.pow 2 format.exponentBits
  let fraction := word % Nat.pow 2 format.fractionBits
  if field = format.exponentLimit then
    if fraction = 0 then .infinite negative else .nan
  else if field = 0 then .finite negative fraction format.minExponent
  else .finite negative (Nat.pow 2 format.fractionBits + fraction) (format.minExponent + (field - 1))

/-- The word without sign that is nearest to a quotient.  Halfway between two words the even one is
taken, and beyond the greatest number the result is infinity. -/
def nearest (format : FloatFormat) (numerator denominator : Nat) : Nat :=
  if numerator = 0 then 0
  else
    let lastPlace := max (floorLog2 numerator denominator - format.fractionBits) format.minExponent
    let (n, d) := scaleByPowerOfTwo numerator denominator (-lastPlace)
    let word := (lastPlace - format.minExponent).toNat * Nat.pow 2 format.fractionBits + roundHalfEven n d
    min word format.infinityWord

/-- The word without sign that is nearest to `digits * 10 ^ exponent`.  An exponent so great or so
small that the result is infinite or zero anyway is not computed with. -/
def nearestDecimal (format : FloatFormat) (digits : Nat) (exponent : Int) : Nat :=
  let magnitude : Int := (Nat.log2 digits : Int) * 3 / 10 + exponent
  if digits = 0 || magnitude < -2000 then 0
  else if 2000 < magnitude then format.infinityWord
  else
    let (n, d) := scaleByPowerOfTen digits 1 exponent
    format.nearest n d

end FloatFormat

end QueryFeed
