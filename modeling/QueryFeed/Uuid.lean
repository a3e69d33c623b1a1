import QueryFeed.Text.Numeral

/-!
**Universally unique identifiers.**

An identifier is a word of 128 bits.  It is written as 32 hexadecimal digits in groups of 8, 4, 4, 4
and 12.  A text that is none is refused for its length if it is longer than any identifier, or else for
its first character that is neither a digit nor a hyphen, the number of its groups, or the first group
of the wrong length.

Main definitions: `Uuid`, `Uuid.text`, `Uuid.ofText?`, `UuidFault`, `Uuid.parse`.
-/

set_option autoImplicit false

namespace QueryFeed

/-- An identifier of 128 bits. -/
structure Uuid where
  bits : BitVec 128
  deriving DecidableEq

namespace Uuid

/-- Puts hyphens between the groups of a list of digits. -/
def grouped (digits : List Char) : List Char :=
  digits.take 8 ++ '-' :: (digits.drop 8).take 4 ++ '-' :: (digits.drop 12).take 4 ++
    '-' :: (digits.drop 16).take 4 ++ '-' :: digits.drop 20

/-- The 32 digits of an identifier. -/
def digits (id : Uuid) : List Char := Text.zeroFilled 32 (Text.hexadecimal id.bits.toNat)

/-- The text of an identifier, in lower case. -/
def text (id : Uuid) : String := String.ofList (grouped id.digits)

/-- The identifier that 32 digits of either case stand for. -/
def ofDigits? (digits : List Char) : Option Uuid := do
  guard (digits.length = 32)
  let value ← Text.numeral? 16 digits
  return ⟨BitVec.ofNat 128 value⟩

/-- Whether a text begins like the name of a resource, in either case. -/
def isResourceName (text : List Char) : Bool :=
  (text.take 9).map Char.toLower == "urn:uuid:".toList

/-- Reads an identifier with its hyphens, without them, in braces, or as a resource name. -/
def ofText? (text : String) : Option Uuid :=
  let chars := text.toList
  let digits := chars.filter (· != '-')
  if chars.length = 32 then ofDigits? chars
  else if chars.length = 36 then
    if chars = grouped digits then ofDigits? digits else none
  else if chars.length = 38 then
    if chars = '\x7b' :: grouped (digits.drop 1 |>.take 32) ++ ['\x7d'] then
      ofDigits? (digits.drop 1 |>.take 32)
    else none
  else if isResourceName chars then
    let digits := digits.drop 9
    if chars.drop 9 = grouped digits then ofDigits? digits else none
  else none

end Uuid

/-! ### Refusals -/

/-- Why a text is no identifier.  Places and groups are counted from zero on. -/
inductive UuidFault where
  | character (found : Char) (place : Nat)
  | length (found : Nat)
  | groupCount (found : Nat)
  | groupLength (group expected found : Nat)
  deriving DecidableEq

namespace UuidFault

/-- The wording of a refusal. -/
def message : UuidFault → String
  | character found place =>
      "invalid character: found \x60" ++ found.toString ++ "\x60 at " ++ count place
  | length found => "invalid length: found " ++ count found
  | groupCount found => "invalid group count: expected 5, found " ++ count found
  | groupLength group expected found =>
      "invalid group length in group " ++ count group ++ ": expected " ++ count expected ++
        ", found " ++ count found
where
  /-- The digits of a number. -/
  count (n : Nat) : String := String.ofList (Text.decimal n)

end UuidFault

namespace Uuid

/-- The lengths of the groups between hyphens. -/
def groupLengths : List Char → List Nat
  | [] => [0]
  | c :: rest =>
      match groupLengths rest with
      | [] => []
      | length :: lengths =>
          if c = '-' then 0 :: length :: lengths else (length + 1) :: lengths

/-- Whether a character may stand in an identifier. -/
def isAllowed (c : Char) : Bool := c = '-' || (Text.numeral? 16 [c]).isSome

/-- What stands between braces or after the name of the resource, and where it starts. -/
def unwrap (text : List Char) : Option (List Char × Nat) :=
  if text.head? = some '\x7b' ∧ text.getLast? = some '\x7d' ∧ 2 ≤ text.length then
    some (text.tail.dropLast, 1)
  else if isResourceName text then some (text.drop 9, 9)
  else none

/-- The number of bytes of the longest form of an identifier. -/
def lengthLimit : Nat := 45

/-- Why a text of no more than the greatest length is refused. -/
def shapeFault (text : List Char) : UuidFault :=
  let (inner, start) := (unwrap text).getD (text, 0)
  match inner.find? (!isAllowed ·) with
  | some found => .character found (start + (inner.takeWhile isAllowed).length)
  | none =>
      let lengths := groupLengths inner
      if lengths.length = 1 ∧ unwrap text = none then .length text.length
      else if lengths.length ≠ 5 then .groupCount lengths.length
      else
        let groups := ([8, 4, 4, 4].zip lengths).zipIdx
        match groups.find? fun group => group.1.1 != group.1.2 with
        | some ((expected, found), group) => .groupLength group expected found
        | none => .groupLength 4 12 (text.length - 24)

/-- Why a text that is no identifier is refused. -/
def fault (text : String) : UuidFault :=
  if lengthLimit < text.utf8ByteSize then .length text.utf8ByteSize else shapeFault text.toList

/-- Reads an identifier, or says why there is none. -/
def parse (text : String) : Except UuidFault Uuid :=
  match ofText? text with
  | some id => .ok id
  | none => .error (fault text)

end Uuid

end QueryFeed
