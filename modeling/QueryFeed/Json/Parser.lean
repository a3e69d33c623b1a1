import QueryFeed.Json.Basic

/-!
**Reading JSON.**

The reader takes the grammar of JSON, with blanks between the parts.  Nesting is limited, a repeated
key keeps its first place and takes its last value, and a surrogate that has no partner is refused.

A whole number that fits 64 bits, with or without sign, stays whole; any other number becomes a
double.  Its digits are gathered as far as they fit 64 bits, and the result is scaled by one power of
ten, which is rounded once more.  So it may differ in its last place from the nearest double.

Main definitions: `Json.Parser.value`, `Json.parse?`.
-/

set_option autoImplicit false

namespace QueryFeed.Json

namespace Parser

/-- The deepest nesting of arrays and objects. -/
def depthLimit : Nat := 127

/-- Whether a character may stand between the parts of a text. -/
def isSpace (c : Char) : Bool := c = ' ' || c = '\t' || c = '\n' || c = '\r'

/-- Drops the blanks in front. -/
def skipSpace (text : List Char) : List Char := text.dropWhile isSpace

/-! ### Numbers -/

/-- Digits gathered as far as they fit 64 bits. -/
structure Gathered where
  significand : Nat
  used : Nat
  overflowed : Bool

/-- Adds digits to a significand until the next one would not fit 64 bits. -/
def gather (significand : Nat) : List Char → Gathered
  | [] => ⟨significand, 0, false⟩
  | c :: rest =>
      let next := significand * 10 + (Text.digitValue? c).getD 0
      if Nat.pow 2 64 ≤ next then ⟨significand, 0, true⟩
      else
        let gathered := gather next rest
        { gathered with used := gathered.used + 1 }

/-- Scales a number by a power of ten; the result overflows or is scaled in several steps where the
power itself is no double.  The exponent bounds the recursion. -/
def scale : Nat → Binary64 → Int → Option Binary64
  | 0, x, _ => some x
  | steps + 1, x, exponent =>
      if exponent.natAbs ≤ 308 then
        let power := Binary64.ofDecimal false 1 exponent.natAbs
        if 0 ≤ exponent then
          let scaled := x.mul power
          if scaled.isInfinite then none else some scaled
        else some (x.div power)
      else if x.equals (.zero false) then some x
      else if 0 ≤ exponent then none
      else scale steps (x.div (.ofDecimal false 1 308)) (exponent + 308)

/-- The double of a significand and an exponent. -/
def double? (negative : Bool) (significand : Nat) (exponent : Int) : Option Json := do
  let x ← scale (exponent.natAbs / 308 + 1) (.ofInt significand) exponent
  return .double (if negative then x.neg else x)

/-- The value of an exponent; beyond nine digits it is out of any range. -/
def exponentValue (digits : List Char) : Int := min (Text.numeralValue 10 digits : Nat) 2000000000

/-- The number of the digits before the point, those after it, and the exponent. -/
def numberOf (negative : Bool) (whole : List Char) (fraction : Option (List Char))
    (exponent : Option Int) : Option Json :=
  let first := gather 0 whole
  match fraction, exponent with
  | none, none =>
      if first.overflowed then double? negative first.significand (whole.length - first.used : Nat)
      else if !negative then some (.int first.significand)
      else if first.significand = 0 || Nat.pow 2 63 < first.significand then
        double? true first.significand 0
      else some (.int (-(first.significand : Int)))
  | _, _ =>
      let dropped : Int := (whole.length - first.used : Nat)
      let digits := fraction.getD []
      let second := gather first.significand digits
      double? negative second.significand (dropped - second.used + exponent.getD 0)

/-- Reads a number. -/
def number (text : List Char) : Option (Json × List Char) := do
  let (negative, text) := match text with
    | '-' :: rest => (true, rest)
    | rest => (false, rest)
  let whole := text.takeWhile Text.isDigit
  let rest := text.dropWhile Text.isDigit
  guard (!whole.isEmpty && (whole.length = 1 || whole.head? != some '0'))
  let (fraction, rest) ← match rest with
    | '.' :: after =>
        let digits := after.takeWhile Text.isDigit
        if digits.isEmpty then none
        else some (some digits, after.dropWhile Text.isDigit)
    | after => some (none, after)
  let (exponent, rest) ← match rest with
    | c :: after =>
        if c = 'e' ∨ c = 'E' then
          let (negativeExponent, after) := match after with
            | '-' :: after => (true, after)
            | '+' :: after => (false, after)
            | after => (false, after)
          let digits := after.takeWhile Text.isDigit
          if digits.isEmpty then none
          else
            let value := exponentValue digits
            some (some (if negativeExponent then -value else value), after.dropWhile Text.isDigit)
        else some (none, c :: after)
    | [] => some (none, [])
  let value ← numberOf negative whole fraction exponent
  return (value, rest)

/-! ### Strings -/

/-- Reads four hexadecimal digits. -/
def hex4 : List Char → Option (Nat × List Char)
  | a :: b :: c :: d :: rest => do
      let value ← Text.numeral? 16 [a, b, c, d]
      return (value, rest)
  | _ => none

/-- The character of a code point that is no surrogate. -/
def charOf? (code : Nat) : Option Char :=
  if code.isValidChar then some (Char.ofNat code) else none

/-- Reads what follows `\u`: a code unit, or the two units of a pair. -/
def unicodeEscape (text : List Char) : Option (Char × List Char) := do
  let (first, rest) ← hex4 text
  if 0xd800 ≤ first ∧ first < 0xdc00 then
    match rest with
    | '\\' :: 'u' :: rest =>
        let (second, rest) ← hex4 rest
        guard (0xdc00 ≤ second ∧ second < 0xe000)
        let c ← charOf? (0x10000 + (first - 0xd800) * 0x400 + (second - 0xdc00))
        return (c, rest)
    | _ => none
  else
    let c ← charOf? first
    return (c, rest)

/-- The character of a short escape. -/
def shortEscape? : Char → Option Char
  | '"' => some '"'
  | '\\' => some '\\'
  | '/' => some '/'
  | 'b' => some '\x08'
  | 'f' => some '\x0c'
  | 'n' => some '\n'
  | 'r' => some '\r'
  | 't' => some '\t'
  | _ => none

/-- Reads the characters of a string up to its closing mark; the length of the text bounds the
recursion.  The characters read so far are kept in reverse. -/
def stringTail : Nat → List Char → List Char → Option (String × List Char)
  | 0, _, _ => none
  | steps + 1, read, text =>
      match text with
      | [] => none
      | '"' :: rest => some (String.ofList read.reverse, rest)
      | '\\' :: 'u' :: rest => do
          let (c, rest) ← unicodeEscape rest
          stringTail steps (c :: read) rest
      | '\\' :: c :: rest => do
          let c ← shortEscape? c
          stringTail steps (c :: read) rest
      | c :: rest => if c.toNat < 0x20 then none else stringTail steps (c :: read) rest

/-! ### Values -/

/-- Takes a fixed word off the front. -/
def word (expected : String) (value : Json) (text : List Char) : Option (Json × List Char) :=
  if expected.toList.isPrefixOf text then some (value, text.drop expected.length) else none

mutual

/-- Reads a value with at most `depth` further levels of nesting. -/
def value : Nat → Nat → List Char → Option (Json × List Char)
  | 0, _, _ => none
  | steps + 1, depth, text =>
      match skipSpace text with
      | [] => none
      | c :: rest =>
          if c = 'n' then word "null" .null (c :: rest)
          else if c = 't' then word "true" (.bool true) (c :: rest)
          else if c = 'f' then word "false" (.bool false) (c :: rest)
          else if c = '"' then
            (stringTail (rest.length + 1) [] rest).map fun (text, rest) => (.str text, rest)
          else if c = '[' then
            match depth with
            | 0 => none
            | depth + 1 =>
                match skipSpace rest with
                | ']' :: rest => some (.arr [], rest)
                | rest => (items steps depth rest).map fun (found, rest) => (.arr found, rest)
          else if c = '\x7b' then
            match depth with
            | 0 => none
            | depth + 1 =>
                match skipSpace rest with
                | '\x7d' :: rest => some (.obj [], rest)
                | rest =>
                    (members steps depth rest).map fun (found, rest) => (.ofEntries found, rest)
          else number (c :: rest)

/-- Reads the items of an array up to its closing bracket. -/
def items : Nat → Nat → List Char → Option (List Json × List Char)
  | 0, _, _ => none
  | steps + 1, depth, text => do
      let (first, rest) ← value steps depth text
      match skipSpace rest with
      | ',' :: rest =>
          let (others, rest) ← items steps depth rest
          return (first :: others, rest)
      | ']' :: rest => return ([first], rest)
      | _ => none

/-- Reads the members of an object up to its closing brace. -/
def members : Nat → Nat → List Char → Option (List (String × Json) × List Char)
  | 0, _, _ => none
  | steps + 1, depth, text =>
      match skipSpace text with
      | '"' :: rest => do
          let (key, rest) ← stringTail (rest.length + 1) [] rest
          match skipSpace rest with
          | ':' :: rest =>
              let (first, rest) ← value steps depth rest
              match skipSpace rest with
              | ',' :: rest =>
                  let (others, rest) ← members steps depth rest
                  return ((key, first) :: others, rest)
              | '\x7d' :: rest => return ([(key, first)], rest)
              | _ => none
          | _ => none
      | _ => none

end

end Parser

/-- The value that a whole text is; nothing when the text is not JSON. -/
def parse? (text : String) : Option Json := do
  let chars := text.toList
  let (value, rest) ← Parser.value (2 * chars.length + 2) Parser.depthLimit chars
  guard (Parser.skipSpace rest).isEmpty
  return value

end QueryFeed.Json
