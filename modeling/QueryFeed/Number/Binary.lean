import QueryFeed.Number.Shortest

/-!
**Double and single precision numbers.**

A number is its word.  Two numbers may be equal although their words differ, for the two zeros are
equal, and a word that is not a number equals nothing.

Main definitions:

* `Binary64`, `Binary32` — the types;
* `Binary64.ofQuotient`, `Binary64.ofDecimal`, `Binary64.ofInt`, `Binary32.ofInt` — correctly
  rounded values;
* `Binary64.mul`, `Binary64.div` — correctly rounded products and quotients;
* `Binary64.equals` — equality of numbers;
* `Binary32.widen` — the same number in double precision;
* `Binary64.ofText?` — decimal text, the names of infinity, and `NaN`.
-/

set_option autoImplicit false

namespace QueryFeed

/-- A number of double precision. -/
structure Binary64 where
  word : UInt64
  deriving DecidableEq

/-- A number of single precision. -/
structure Binary32 where
  word : UInt32
  deriving DecidableEq

/-! ### Double precision -/

namespace Binary64

/-- What the word stands for. -/
def shape (x : Binary64) : FloatShape := FloatFormat.binary64.shape x.word.toNat

/-- The number with a given sign and word without sign. -/
def ofMagnitude (negative : Bool) (magnitude : Nat) : Binary64 :=
  ⟨UInt64.ofNat (FloatFormat.binary64.signed negative magnitude)⟩

/-- Positive or negative zero. -/
def zero (negative : Bool) : Binary64 := ofMagnitude negative 0

/-- Positive or negative infinity. -/
def infinity (negative : Bool) : Binary64 :=
  ofMagnitude negative FloatFormat.binary64.infinityWord

/-- The value that is not a number. -/
def nan : Binary64 := ofMagnitude false FloatFormat.binary64.nanWord

/-- The number nearest to a quotient. -/
def ofQuotient (negative : Bool) (numerator denominator : Nat) : Binary64 :=
  ofMagnitude negative (FloatFormat.binary64.nearest numerator denominator)

/-- The number nearest to `digits * 10 ^ exponent`. -/
def ofDecimal (negative : Bool) (digits : Nat) (exponent : Int) : Binary64 :=
  ofMagnitude negative (FloatFormat.binary64.nearestDecimal digits exponent)

/-- The number nearest to a whole number. -/
def ofInt (n : Int) : Binary64 := ofQuotient (decide (n < 0)) n.natAbs 1

/-- Whether the number is neither infinite nor missing. -/
def isFinite (x : Binary64) : Bool :=
  match x.shape with
  | .finite _ _ _ => true
  | _ => false

/-- Whether the number is infinite. -/
def isInfinite (x : Binary64) : Bool :=
  match x.shape with
  | .infinite _ => true
  | _ => false

/-- Equality of numbers: the zeros are equal, and what is not a number differs from everything. -/
def equals (x y : Binary64) : Bool :=
  match x.shape, y.shape with
  | .nan, _ => false
  | _, .nan => false
  | .finite _ 0 _, .finite _ 0 _ => true
  | _, _ => x.word == y.word

/-- The product of two finite numbers, correctly rounded; anything else is passed through. -/
def mul (x y : Binary64) : Binary64 :=
  match x.shape, y.shape with
  | .finite s m e, .finite t n f =>
      let (num, den) := scaleByPowerOfTwo (m * n) 1 (e + f)
      ofQuotient (s != t) num den
  | .nan, _ => nan
  | .finite _ _ _, _ => y
  | .infinite _, _ => x

/-- The quotient of two finite numbers, the second not zero, correctly rounded; anything else is
passed through. -/
def div (x y : Binary64) : Binary64 :=
  match x.shape, y.shape with
  | .finite s m e, .finite t n f =>
      if n = 0 then nan
      else
        let (num, den) := scaleByPowerOfTwo m n (e - f)
        ofQuotient (s != t) num den
  | _, _ => x

/-- The quotient of two counts, each first brought to double precision. -/
def ratio (numerator denominator : Nat) : Binary64 :=
  div (ofInt numerator) (ofInt denominator)

/-- The number with the other sign. -/
def neg (x : Binary64) : Binary64 :=
  let weight := FloatFormat.binary64.signWeight
  if weight ≤ x.word.toNat then ⟨UInt64.ofNat (x.word.toNat - weight)⟩
  else ⟨UInt64.ofNat (weight + x.word.toNat)⟩

/-- The text of a finite number in a layout; nothing for the others. -/
def render? (layout : FloatLayout) (x : Binary64) : Option (List Char) :=
  match x.shape with
  | .finite negative significand exponent =>
      some (FloatFormat.binary64.render layout negative significand exponent)
  | _ => none

end Binary64

/-! ### Single precision -/

namespace Binary32

/-- What the word stands for. -/
def shape (x : Binary32) : FloatShape := FloatFormat.binary32.shape x.word.toNat

/-- The number with a given sign and word without sign. -/
def ofMagnitude (negative : Bool) (magnitude : Nat) : Binary32 :=
  ⟨UInt32.ofNat (FloatFormat.binary32.signed negative magnitude)⟩

/-- The number nearest to a whole number. -/
def ofInt (n : Int) : Binary32 :=
  ofMagnitude (decide (n < 0)) (FloatFormat.binary32.nearest n.natAbs 1)

/-- The number nearest to `digits * 10 ^ exponent`. -/
def ofDecimal (negative : Bool) (digits : Nat) (exponent : Int) : Binary32 :=
  ofMagnitude negative (FloatFormat.binary32.nearestDecimal digits exponent)

/-- Positive or negative infinity. -/
def infinity (negative : Bool) : Binary32 :=
  ofMagnitude negative FloatFormat.binary32.infinityWord

/-- The value that is not a number. -/
def nan : Binary32 := ofMagnitude false FloatFormat.binary32.nanWord

/-- The same number in double precision. -/
def widen (x : Binary32) : Binary64 :=
  match x.shape with
  | .nan => .nan
  | .infinite negative => .infinity negative
  | .finite negative significand exponent =>
      let (num, den) := scaleByPowerOfTwo significand 1 exponent
      .ofQuotient negative num den

/-- The number of single precision nearest to one of double precision. -/
def ofBinary64 (x : Binary64) : Binary32 :=
  match x.shape with
  | .nan => nan
  | .infinite negative => infinity negative
  | .finite negative significand exponent =>
      let (num, den) := scaleByPowerOfTwo significand 1 exponent
      ofMagnitude negative (FloatFormat.binary32.nearest num den)

/-- Equality of numbers. -/
def equals (x y : Binary32) : Bool := x.widen.equals y.widen

/-- The text of a finite number in a layout; nothing for the others. -/
def render? (layout : FloatLayout) (x : Binary32) : Option (List Char) :=
  match x.shape with
  | .finite negative significand exponent =>
      some (FloatFormat.binary32.render layout negative significand exponent)
  | _ => none

end Binary32

/-! ### Reading -/

/-- A number as it is written: a decimal with its sign, or one of the three names. -/
inductive FloatLiteral where
  | nan
  | infinite (negative : Bool)
  | decimal (negative : Bool) (digits : Nat) (exponent : Int)
  deriving DecidableEq

namespace FloatLiteral

/-- Reads an exponent: an optional sign and at least one digit. -/
def exponent? (text : List Char) : Option Int :=
  match text with
  | '-' :: rest => (Text.numeral? 10 rest).map fun n => -(n : Int)
  | '+' :: rest => (Text.numeral? 10 rest).map fun n => (n : Int)
  | rest => (Text.numeral? 10 rest).map fun n => (n : Int)

/-- Reads a decimal without sign: digits with at most one point among or beside them, then perhaps
an exponent. -/
def unsigned? (negative : Bool) (text : List Char) : Option FloatLiteral := do
  let whole := text.takeWhile Text.isDigit
  let rest := text.dropWhile Text.isDigit
  let (fraction, rest) := match rest with
    | '.' :: after => (after.takeWhile Text.isDigit, after.dropWhile Text.isDigit)
    | after => ([], after)
  if whole.isEmpty && fraction.isEmpty then none
  else
    let exponent ← match rest with
      | [] => some 0
      | c :: after => if c = 'e' ∨ c = 'E' then exponent? after else none
    return .decimal negative (Text.numeralValue 10 (whole ++ fraction)) (exponent - fraction.length)

/-- Reads a number with an optional sign. -/
def ofText? (text : List Char) : Option FloatLiteral :=
  let (negative, rest) := match text with
    | '-' :: rest => (true, rest)
    | '+' :: rest => (false, rest)
    | rest => (false, rest)
  let name := rest.map Char.toLower
  if name = "nan".toList then some .nan
  else if name = "inf".toList ∨ name = "infinity".toList then some (.infinite negative)
  else unsigned? negative rest

/-- The nearest number of double precision. -/
def toBinary64 : FloatLiteral → Binary64
  | .nan => .nan
  | .infinite negative => .infinity negative
  | .decimal negative digits exponent => .ofDecimal negative digits exponent

/-- The nearest number of single precision. -/
def toBinary32 : FloatLiteral → Binary32
  | .nan => .nan
  | .infinite negative => .infinity negative
  | .decimal negative digits exponent => .ofDecimal negative digits exponent

end FloatLiteral

end QueryFeed
