import QueryFeed.Url.Domain
import QueryFeed.Url.Escape

/-!
**Hosts of resource locators.**

A host in brackets is an address of eight groups of sixteen bits.  Of a scheme with an authority by
rule, any other host is a name without regard to case, or an address of four bytes; of all other schemes
it is an opaque text.

Main definitions: `Url.Address`, `Url.addressOfText?`, `Url.Host`, `Url.hostOfText?`.
-/

set_option autoImplicit false

namespace QueryFeed.Url

/-! ### Addresses -/

/-- An address as its groups of sixteen bits. -/
abbrev Address := List Nat

/-- A group of one to four hexadecimal digits. -/
def groupOfText? (text : List Char) : Option Nat :=
  if text.length ≤ 4 then Text.numeral? 16 text else none

/-- A byte in decimal without needless zeros. -/
def byteOfText? (text : List Char) : Option Nat := do
  let value ← Text.numeral? 10 text
  guard (value ≤ 255 && text = Text.decimal value)
  return value

/-- The two groups of an address written as four bytes. -/
def dottedGroups? (text : List Char) : Option (List Nat) :=
  match splitAt '.' text with
  | [a, b, c, d] => do
      let a ← byteOfText? a
      let b ← byteOfText? b
      let c ← byteOfText? c
      let d ← byteOfText? d
      return [a * 256 + b, c * 256 + d]
  | _ => none

/-- The groups of a part of an address; the last of them may be given as four bytes. -/
def groups? : List (List Char) → Option (List Nat)
  | [] => some []
  | [last] => (dottedGroups? last).or ((groupOfText? last).map ([·]))
  | first :: rest => do
      let group ← groupOfText? first
      let others ← groups? rest
      return group :: others

/-- The groups of a part that may be empty. -/
def partGroups? (text : List Char) : Option (List Nat) :=
  if text.isEmpty then some [] else groups? (splitAt ':' text)

/-- The address that a text stands for.  Two colons stand for as many zeros as are missing. -/
def addressOfText? (text : List Char) : Option Address :=
  match cutAt? [':', ':'] text with
  | none => do
      let groups ← partGroups? text
      guard (groups.length = 8)
      return groups
  | some (before, after) => do
      let head ← partGroups? before
      let tail ← partGroups? after
      guard (head.length + tail.length ≤ 7 && !before.contains '.')
      return head ++ List.replicate (8 - (head.length + tail.length)) 0 ++ tail

/-- The longest run of zeros in an address: its place and its length, the first one of several. -/
def longestZeros (groups : Address) (place best bestLength : Nat) : Nat × Nat :=
  match groups with
  | [] => (best, bestLength)
  | _ :: rest =>
      let here := (groups.takeWhile (· = 0)).length
      if bestLength < here then longestZeros rest (place + 1) place here
      else longestZeros rest (place + 1) best bestLength

/-- Groups with colons between them. -/
def groupsText (groups : List Nat) : List Char :=
  [':'].intercalate (groups.map Text.hexadecimal)

/-- The text of an address, with its longest run of two or more zeros left out. -/
def addressText (address : Address) : List Char :=
  let (place, length) := longestZeros address 0 0 0
  if length < 2 then groupsText address
  else groupsText (address.take place) ++ [':', ':'] ++ groupsText (address.drop (place + length))

/-! ### Hosts -/

/-- A host. -/
inductive Host where
  | address (groups : Address)
  | name (text : List Char)
  deriving DecidableEq

/-- The text of a host. -/
def Host.text : Host → List Char
  | address groups => '[' :: addressText groups ++ [']']
  | name text => text

/-- Characters that no host may have. -/
def forbiddenInHost : List Char :=
  ['\x00', '\t', '\n', '\r', ' ', '#', '/', ':', '<', '>', '?', '@', '[', '\\', ']', '^', '|']

/-- Whether a character may not stand in the name of a domain. -/
def isForbiddenInDomain (c : Char) : Bool :=
  forbiddenInHost.contains c || c = '%' || c.toNat < 0x20 || c.toNat = 0x7f

/-- A part of an address of four bytes, in decimal, octal or hexadecimal. -/
def ipv4Part? (text : List Char) : Option Nat :=
  match text with
  | '0' :: 'x' :: digits | '0' :: 'X' :: digits =>
      if digits.isEmpty then some 0 else Text.numeral? 16 digits
  | '0' :: c :: digits => Text.numeral? 8 (c :: digits)
  | digits => Text.numeral? 10 digits

/-- The value of an address of four bytes, the last part filling all places that are left. -/
def ipv4Value? (parts : List Nat) : Option Nat := do
  let last ← parts.getLast?
  let heads := parts.dropLast
  guard (parts.length ≤ 4 && heads.all (· ≤ 255) && last < Nat.pow 256 (5 - parts.length))
  let high := (List.range heads.length).foldl
    (fun sum i => sum + heads.getD i 0 * Nat.pow 256 (3 - i)) 0
  return high + last

/-- The four bytes of an address with points between them. -/
def ipv4Text (value : Nat) : List Char :=
  ['.'].intercalate ([value / 16777216 % 256, value / 65536 % 256, value / 256 % 256,
    value % 256].map Text.decimal)

/-- The written name of a domain; one whose last part is a number must be an address. -/
def domainOfText? (text : List Char) : Option (List Char) := do
  let decoded ← Text.textOfUtf8? (unescape text)
  let name ← Domain.written? decoded.toList
  guard (!name.isEmpty && !name.any isForbiddenInDomain)
  let parts := splitAt '.' name
  let parts := if parts.getLast? = some [] && 1 < parts.length then parts.dropLast else parts
  let last := parts.getLast?.getD []
  let numeric := !last.isEmpty && (last.all Text.isDigit || (ipv4Part? last).isSome)
  if numeric then
    let values ← parts.mapM ipv4Part?
    let value ← ipv4Value? values
    return ipv4Text value
  else return name

/-- The host that a text stands for. -/
def hostOfText? (isSpecial : Bool) (text : List Char) : Option Host :=
  match text with
  | '[' :: rest =>
      if rest.getLast? = some ']' then (addressOfText? rest.dropLast).map .address else none
  | _ =>
      if isSpecial then (domainOfText? text).map .name
      else if text.any forbiddenInHost.contains then none
      else some (.name (escape controls text))

end QueryFeed.Url
