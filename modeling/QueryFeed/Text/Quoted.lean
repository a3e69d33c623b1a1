import QueryFeed.Text.GraphemeExtend
import QueryFeed.Text.Numeral
import QueryFeed.Text.Unprintable

/-!
**Quoted text for people.**

Logs and diagnostics show a text between quotation marks, in such a way that it can be read off
unambiguously: a quotation mark and a backslash are escaped, the usual control characters have a
letter, and a character that is not printed or would be drawn on its neighbour is given by number.

Main definitions: `quoteChar`, `quote`.
-/

set_option autoImplicit false

namespace QueryFeed.Text

/-- How a character stands inside quoted text. -/
def quoteChar (c : Char) : List Char :=
  if c = '\x00' then ['\\', '0']
  else if c = '\t' then ['\\', 't']
  else if c = '\r' then ['\\', 'r']
  else if c = '\n' then ['\\', 'n']
  else if c = '\\' then ['\\', '\\']
  else if c = '"' then ['\\', '"']
  else if isGraphemeExtender c || isUnprintable c then
    ['\\', 'u', '\x7b'] ++ hexadecimal c.toNat ++ ['\x7d']
  else [c]

/-- A text between quotation marks. -/
def quote (text : String) : String :=
  String.ofList ('"' :: text.toList.flatMap quoteChar ++ ['"'])

/-- An optional text: `None`, or `Some` around the quoted text. -/
def quoteOption : Option String → String
  | none => "None"
  | some text => "Some(" ++ quote text ++ ")"

end QueryFeed.Text
