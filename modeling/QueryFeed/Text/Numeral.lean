/-!
**Numerals.**

A natural number is written in a base between 2 and 16, most significant digit first, without
leading zeros; zero is the single digit `0`.

Main definitions:

* `numeral`, `decimal`, `padded` — writing;
* `digitValue?`, `numeralValue` — reading;
* `signedDecimal` — a whole number with its sign.
-/

set_option autoImplicit false

namespace QueryFeed.Text

/-! ### Digits -/

/-- The digit of a value below 16, in lower case. -/
def digitChar (value : Nat) : Char :=
  if value < 10 then Char.ofNat ('0'.toNat + value) else Char.ofNat ('a'.toNat + (value - 10))

/-- The value of a digit of base 16, in either case. -/
def digitValue? (c : Char) : Option Nat :=
  if '0' ≤ c ∧ c ≤ '9' then some (c.toNat - '0'.toNat)
  else if 'a' ≤ c ∧ c ≤ 'f' then some (c.toNat - 'a'.toNat + 10)
  else if 'A' ≤ c ∧ c ≤ 'F' then some (c.toNat - 'A'.toNat + 10)
  else none

/-- Whether a character is a decimal digit of ASCII. -/
def isDigit (c : Char) : Bool := decide ('0' ≤ c ∧ c ≤ '9')

/-! ### Writing -/

/-- The recursion behind `numeral`: puts the digits of `n` in front of `tail`.  A number has fewer
digits than its value, so the value itself bounds the recursion. -/
def numeralOnto (base : Nat) : Nat → Nat → List Char → List Char
  | 0, _, tail => tail
  | steps + 1, n, tail =>
      let tail := digitChar (n % base) :: tail
      if n < base then tail else numeralOnto base steps (n / base) tail

/-- The digits of a number in a base, most significant first. -/
def numeral (base n : Nat) : List Char := numeralOnto base (n + 1) n []

/-- The decimal digits of a number. -/
def decimal (n : Nat) : List Char := numeral 10 n

/-- The hexadecimal digits of a number, in lower case. -/
def hexadecimal (n : Nat) : List Char := numeral 16 n

/-- Fills a text on the left with zeros up to a width. -/
def zeroFilled (width : Nat) (digits : List Char) : List Char :=
  List.replicate (width - digits.length) '0' ++ digits

/-- The decimal digits of a number, at least `width` of them. -/
def padded (width n : Nat) : List Char := zeroFilled width (decimal n)

/-- A whole number in decimal, with a minus sign in front when it is negative. -/
def signedDecimal : Int → List Char
  | .ofNat n => decimal n
  | .negSucc n => '-' :: decimal (n + 1)

/-! ### Reading -/

/-- The value of a list of digits in a base; a character that is no digit counts as zero. -/
def numeralValue (base : Nat) (digits : List Char) : Nat :=
  digits.foldl (fun value c => value * base + (digitValue? c).getD 0) 0

/-- The number that a nonempty list of digits of the base stands for. -/
def numeral? (base : Nat) (digits : List Char) : Option Nat :=
  let fits (c : Char) : Bool := match digitValue? c with
    | some value => value < base
    | none => false
  if digits.isEmpty || !digits.all fits then none else some (numeralValue base digits)

end QueryFeed.Text
