/-!
**Punycode.**

A label of any characters is written with letters, digits and hyphens: first its ASCII characters, then,
after a hyphen, numbers that say where the others go.  The others are put in one by one, in ascending
order and from left to right.  Each number counts the places that were passed over since the last one,
of which there is one after each character that is there already, for every code point.

Numbers are written in digits of 36 values, the least digit first.  A digit below a threshold is the
last one; the thresholds follow a bias, which adapts to the numbers that came before.

Main definitions: `Punycode.encode`, `Punycode.decode?`.
-/

set_option autoImplicit false

namespace QueryFeed.Url.Punycode

/-! ### Digits -/

/-- The digit of a value. -/
def digit (value : Nat) : Char := Char.ofNat (if value < 26 then 97 + value else 22 + value)

/-- The value of a digit in lower case. -/
def digitValue? (c : Char) : Option Nat :=
  if c.isLower then some (c.toNat - 97) else if c.isDigit then some (c.toNat - 22) else none

/-- The threshold for a digit; `weight` is 36 for the first digit, 72 for the second, and so on. -/
def threshold (bias weight : Nat) : Nat := min 26 (max 1 (weight - bias))

/-- The bias before the first number. -/
def firstBias : Nat := 72

/-- The bias after a number that was scaled to the number of characters. -/
def settle (scaled : Nat) : Nat :=
  if 455 < scaled then 36 + settle (scaled / 35) else 36 * scaled / (scaled + 38)
termination_by scaled
decreasing_by exact Nat.div_lt_self (by omega) (by omega)

/-- The bias after a number, when there are `count` characters.  The first number is much greater than
the others. -/
def adapted (number count : Nat) (isFirst : Bool) : Nat :=
  let scaled := if isFirst then number / 700 else number / 2
  settle (scaled + scaled / count)

/-- The digits of a number. -/
def digitsOf (bias weight number : Nat) : List Char :=
  let limit := threshold bias weight
  if number < limit then [digit number]
  else
    digit (limit + (number - limit) % (36 - limit)) ::
      digitsOf bias (weight + 36) ((number - limit) / (36 - limit))
termination_by number
decreasing_by
  have hlimit : 1 ≤ threshold bias weight := by unfold threshold; omega
  have hle : (number - threshold bias weight) / (36 - threshold bias weight) ≤
      number - threshold bias weight := Nat.div_le_self _ _
  omega

/-! ### Writing -/

/-- Whether a character is written as it is. -/
def isBasic (c : Char) : Bool := decide (c.toNat < 0x80)

/-- What was written: the digits in reverse, the places passed over, the bias, and the number of
characters that are there. -/
structure Progress where
  digits : List Char
  passed : Nat
  bias : Nat
  count : Nat

/-- Passes over the places of one character, in the turn of the code point `turn`; that code point itself
is put in. -/
def visit (basics turn : Nat) (progress : Progress) (c : Char) : Progress :=
  if c.toNat < turn then { progress with passed := progress.passed + 1 }
  else if c.toNat = turn then
    { digits := (digitsOf progress.bias 36 progress.passed).reverse ++ progress.digits
      passed := 0
      bias := adapted progress.passed (progress.count + 1) (progress.count = basics)
      count := progress.count + 1 }
  else progress

/-- Takes the turns of code points in ascending order, the next turn being `next`. -/
def takeTurns (text : List Char) (basics : Nat) (next : Nat) (progress : Progress) :
    List Nat → Progress
  | [] => progress
  | turn :: turns =>
      let skipped := { progress with passed := progress.passed + (turn - next) * (progress.count + 1) }
      let visited := text.foldl (visit basics turn) skipped
      takeTurns text basics (turn + 1) { visited with passed := visited.passed + 1 } turns

/-- The written form of a text. -/
def encode (text : List Char) : List Char :=
  let basic := text.filter isBasic
  let turns := ((text.filter (!isBasic ·)).map Char.toNat).mergeSort.eraseDups
  let progress := takeTurns text basic.length 0x80 ⟨[], 0, firstBias, basic.length⟩ turns
  (if basic.isEmpty then [] else basic ++ ['-']) ++ progress.digits.reverse

/-! ### Reading -/

/-- Reads a number; `unit` is what its next digit counts. -/
def readNumber? (bias weight unit number : Nat) : List Char → Option (Nat × List Char)
  | [] => none
  | c :: rest => do
      let value ← digitValue? c
      let number := number + value * unit
      let limit := threshold bias weight
      if value < limit then return (number, rest)
      else readNumber? bias (weight + 36) (unit * (36 - limit)) number rest

/-- Whether a number is the code point of a character. -/
def isCodePoint (n : Nat) : Bool := n < 0xd800 || (0xdfff < n && n < 0x110000)

/-- Puts in characters; the next one is at least `next`, and goes at `place` or behind.  `steps` bounds
their number. -/
def putIn : Nat → Nat → Nat → Nat → Bool → List Char → List Char → Option (List Char)
  | _, _, _, _, _, text, [] => some text
  | 0, _, _, _, _, _, _ => none
  | steps + 1, bias, next, place, isFirst, text, digits => do
      let (number, digits) ← readNumber? bias 36 1 0 digits
      let count := text.length + 1
      let found := next + (place + number) / count
      let place := (place + number) % count
      guard (isCodePoint found)
      putIn steps (adapted number count isFirst) found (place + 1) false
        (text.take place ++ Char.ofNat found :: text.drop place) digits

/-- The text of a written form. -/
def decode? (written : List Char) : Option (List Char) :=
  let tail := (written.reverse.takeWhile (· != '-')).reverse
  let head := written.take (written.length - tail.length)
  let (basic, digits) := if head.length ≤ 1 then ([], head ++ tail) else (head.dropLast, tail)
  if written.all isBasic then putIn digits.length firstBias 0x80 0 true basic digits else none

end QueryFeed.Url.Punycode
