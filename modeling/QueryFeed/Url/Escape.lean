import QueryFeed.Text.Bytes

/-!
**Percent-encoding.**

A character that may not stand in a part of a resource locator is written as the bytes of its UTF-8
form, each as a percent sign and two capital hexadecimal digits.

Main definitions: `Url.EscapeSet`, `Url.escape`, `Url.unescape`.
-/

set_option autoImplicit false

namespace QueryFeed.Url

/-- The ASCII characters that are escaped in a part, besides the control characters. -/
abbrev EscapeSet := List Char

/-- Escaped in a host and in a path without segments: only what is escaped everywhere. -/
def controls : EscapeSet := []

/-- Escaped in a fragment. -/
def fragmentSet : EscapeSet := [' ', '"', '<', '>', '\x60']

/-- Escaped in a query. -/
def querySet : EscapeSet := [' ', '"', '#', '<', '>']

/-- Escaped in a query of a scheme that has an authority by rule. -/
def specialQuerySet : EscapeSet := '\'' :: querySet

/-- Escaped in a segment of a path. -/
def pathSet : EscapeSet := ['#', '?', '\x7b', '\x7d'] ++ fragmentSet

/-- Escaped in a user name and a password. -/
def userSet : EscapeSet := ['/', ':', ';', '=', '@', '[', '\\', ']', '^', '|'] ++ pathSet

/-- Whether a character is escaped. -/
def isEscaped (escaped : EscapeSet) (c : Char) : Bool :=
  decide (c.toNat < 0x20 ∨ 0x7e < c.toNat) || escaped.contains c

/-- A byte as a percent sign and two capital digits. -/
def escapeByte (byte : UInt8) : List Char := '%' :: (Text.hexOfByte byte).map Char.toUpper

/-- How a character stands in a part. -/
def escapeChar (escaped : EscapeSet) (c : Char) : List Char :=
  if isEscaped escaped c then (Text.utf8 (String.singleton c)).flatMap escapeByte else [c]

/-- A text with the characters of a set escaped. -/
def escape (escaped : EscapeSet) (text : List Char) : List Char :=
  text.flatMap (escapeChar escaped)

/-- The bytes of a text in which the escaped bytes are put back. -/
def unescape : List Char → List UInt8
  | [] => []
  | '%' :: high :: low :: rest =>
      match Text.digitValue? high, Text.digitValue? low with
      | some h, some l => UInt8.ofNat (h * 16 + l) :: unescape rest
      | _, _ => UInt8.ofNat '%'.toNat :: unescape (high :: low :: rest)
  | c :: rest => Text.utf8 (String.singleton c) ++ unescape rest

end QueryFeed.Url
