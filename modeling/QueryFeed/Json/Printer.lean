import QueryFeed.Json.Basic

/-!
**JSON as compact text.**

The text has no blanks between its parts.  In a string the quotation mark, the backslash and the
control characters are escaped and nothing else is, so that a printed value never holds a line
break.

Main definitions: `Json.escapeChar`, `Json.render`, `Json.compact`.
-/

set_option autoImplicit false

namespace QueryFeed.Json

/-- Doubles are positional and have a fraction from `0.00001` on and below `10 ^ 16`; outside they
have an exponent with its sign. -/
def doubleLayout : FloatLayout := ⟨-5, 15, true, true, .toEven⟩

/-- Numbers of single precision are positional from `0.000001` on and below `10 ^ 13`. -/
def singleLayout : FloatLayout := ⟨-6, 12, true, true, .toEven⟩

/-- How a character stands inside a string. -/
def escapeChar (c : Char) : List Char :=
  if c = '"' then ['\\', '"']
  else if c = '\\' then ['\\', '\\']
  else if c = '\x08' then ['\\', 'b']
  else if c = '\x0c' then ['\\', 'f']
  else if c = '\n' then ['\\', 'n']
  else if c = '\r' then ['\\', 'r']
  else if c = '\t' then ['\\', 't']
  else if c.toNat < 0x20 then
    ['\\', 'u', '0', '0', Text.digitChar (c.toNat / 16), Text.digitChar (c.toNat % 16)]
  else [c]

/-- A text between quotation marks. -/
def renderString (text : String) : List Char :=
  '"' :: text.toList.flatMap escapeChar ++ ['"']

/-- Puts commas between texts. -/
def commaSeparated : List (List Char) → List Char
  | [] => []
  | [text] => text
  | text :: rest => text ++ ',' :: commaSeparated rest

mutual

/-- The characters of a value. -/
def render : Json → List Char
  | null => "null".toList
  | bool true => "true".toList
  | bool false => "false".toList
  | int n => Text.signedDecimal n
  | double x => (x.render? doubleLayout).getD "null".toList
  | str text => renderString text
  | arr items => '[' :: commaSeparated (renderItems items) ++ [']']
  | obj members => '\x7b' :: commaSeparated (renderMembers members) ++ ['\x7d']

/-- The texts of the items of an array. -/
def renderItems : List Json → List (List Char)
  | [] => []
  | item :: rest => render item :: renderItems rest

/-- The texts of the members of an object. -/
def renderMembers : List (String × Json) → List (List Char)
  | [] => []
  | (key, value) :: rest => (renderString key ++ ':' :: render value) :: renderMembers rest

end

/-- The compact text of a value. -/
def compact (value : Json) : String := String.ofList (render value)

end QueryFeed.Json
