import QueryFeed.Text.Numeral

/-!
**Bytes as text.**

Bytes are written in hexadecimal, in base 64 with padding, or, where they are the UTF-8 form of a
text, as that text.

Main definitions:

* `hexOfBytes`, `bytesOfHex?` — two digits a byte;
* `base64` — three bytes to four characters, the last group filled with `=`;
* `utf8`, `textOfUtf8?` — the bytes of a text and back.
-/

set_option autoImplicit false

namespace QueryFeed.Text

/-! ### Hexadecimal -/

/-- The two hexadecimal digits of a byte. -/
def hexOfByte (byte : UInt8) : List Char :=
  [digitChar (byte.toNat / 16), digitChar (byte.toNat % 16)]

/-- The hexadecimal digits of a list of bytes, in lower case. -/
def hexOfBytes (bytes : List UInt8) : List Char := bytes.flatMap hexOfByte

/-- The bytes that an even number of hexadecimal digits of either case stands for. -/
def bytesOfHex? : List Char → Option (List UInt8)
  | [] => some []
  | [_] => none
  | high :: low :: rest => do
      let h ← digitValue? high
      let l ← digitValue? low
      let bytes ← bytesOfHex? rest
      return UInt8.ofNat (h * 16 + l) :: bytes

/-! ### Base 64 -/

/-- The sixty-four characters, in the order of their values. -/
def base64Alphabet : List Char :=
  "ABCDEFGHIJKLMNOPQRSTUVWXYZabcdefghijklmnopqrstuvwxyz0123456789+/".toList

/-- The character of a value below 64. -/
def base64Char (value : Nat) : Char := base64Alphabet.getD value '='

/-- Bytes in base 64: each group of three bytes gives four characters of six bits; a last group of
one or two bytes is filled up with `=`. -/
def base64 : List UInt8 → List Char
  | [] => []
  | [a] =>
      [base64Char (a.toNat / 4), base64Char (a.toNat % 4 * 16), '=', '=']
  | [a, b] =>
      [base64Char (a.toNat / 4), base64Char (a.toNat % 4 * 16 + b.toNat / 16),
        base64Char (b.toNat % 16 * 4), '=']
  | a :: b :: c :: rest =>
      base64Char (a.toNat / 4) :: base64Char (a.toNat % 4 * 16 + b.toNat / 16) ::
        base64Char (b.toNat % 16 * 4 + c.toNat / 64) :: base64Char (c.toNat % 64) :: base64 rest

/-! ### UTF-8 -/

/-- The bytes of a text. -/
def utf8 (text : String) : List UInt8 := text.toUTF8.toList

/-- The text with these bytes, if they are well-formed UTF-8. -/
def textOfUtf8? (bytes : List UInt8) : Option String := String.fromUTF8? ⟨bytes.toArray⟩

end QueryFeed.Text
