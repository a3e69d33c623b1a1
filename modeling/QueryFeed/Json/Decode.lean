import QueryFeed.Json.Printer
import QueryFeed.Text.Quoted

/-!
**Reading typed values out of JSON.**

A value that is not what was asked for is refused with a description of what was found and what was
expected.

Main definitions:

* `Found`, `DecodeError`, `DecodeError.message` — the refusals and their wording;
* `IntegerRange` — the whole numbers of a machine type;
* `Json.asText`, `Json.asBool`, `Json.asInteger`, `Json.asDouble`, `Json.asItems`, `Json.asMembers`,
  `Json.asOption` — the decoders.
-/

set_option autoImplicit false

namespace QueryFeed

/-- What was found where something else was expected. -/
inductive Found where
  | null
  | bool (value : Bool)
  | integer (value : Int)
  | floating (value : Binary64)
  | text (value : String)
  | sequence
  | map
  | unitVariant

/-- Why a JSON value could not be read as a value of some type. -/
inductive DecodeError where
  | invalidType (found : Found) (expected : String)
  | invalidValue (found : Found) (expected : String)
  | invalidLength (length : Nat) (expected : String)
  | missingField (name : String)
  | unknownField (name : String) (known : List String)
  | unknownVariant (name : String) (known : List String)
  | duplicateField (name : String)
  | malformed (reason : String)

namespace Found

/-- The wording of what was found. -/
def message : Found → String
  | null => "null"
  | bool value => "boolean \x60" ++ (if value then "true" else "false") ++ "\x60"
  | integer value => "integer \x60" ++ String.ofList (Text.signedDecimal value) ++ "\x60"
  | floating value => "floating point \x60" ++ (Json.double value).compact ++ "\x60"
  | text value => "string " ++ Text.quote value
  | sequence => "sequence"
  | map => "map"
  | unitVariant => "unit variant"

end Found

namespace DecodeError

/-- A name between grave accents. -/
def named (name : String) : String := "\x60" ++ name ++ "\x60"

/-- The names that would have been known. -/
def alternatives : List String → String
  | [] => "there are no fields"
  | [name] => "expected " ++ named name
  | [first, second] => "expected " ++ named first ++ " or " ++ named second
  | names => "expected one of " ++ ", ".intercalate (names.map named)

/-- The wording of a refusal. -/
def message : DecodeError → String
  | invalidType found expected => "invalid type: " ++ found.message ++ ", expected " ++ expected
  | invalidValue found expected => "invalid value: " ++ found.message ++ ", expected " ++ expected
  | invalidLength length expected =>
      "invalid length " ++ String.ofList (Text.decimal length) ++ ", expected " ++ expected
  | missingField name => "missing field " ++ named name
  | unknownField name known => "unknown field " ++ named name ++ ", " ++ alternatives known
  | unknownVariant name known => "unknown variant " ++ named name ++ ", " ++ alternatives known
  | duplicateField name => "duplicate field " ++ named name
  | malformed reason => reason

end DecodeError

/-- The whole numbers of a machine type. -/
structure IntegerRange where
  name : String
  low : Int
  high : Int

namespace IntegerRange

/-- Eight bits without sign. -/
def u8 : IntegerRange := ⟨"u8", 0, 255⟩

/-- Sixteen bits with sign. -/
def i16 : IntegerRange := ⟨"i16", -32768, 32767⟩

/-- Thirty-two bits with sign. -/
def i32 : IntegerRange := ⟨"i32", -2147483648, 2147483647⟩

/-- Sixty-four bits with sign. -/
def i64 : IntegerRange := ⟨"i64", -9223372036854775808, 9223372036854775807⟩

/-- Sixty-four bits without sign. -/
def u64 : IntegerRange := ⟨"u64", 0, 18446744073709551615⟩

end IntegerRange

namespace Json

/-- What a value is, for the description of a refusal. -/
def found : Json → Found
  | null => .null
  | bool value => .bool value
  | int value => .integer value
  | double value => .floating value
  | str value => .text value
  | arr _ => .sequence
  | obj _ => .map

/-- Refuses a value that is of the wrong kind. -/
def refuse {α : Type} (value : Json) (expected : String) : Except DecodeError α :=
  .error (.invalidType value.found expected)

/-- Reads a text. -/
def asText : Json → Except DecodeError String
  | str value => .ok value
  | other => other.refuse "a string"

/-- Reads a truth value. -/
def asBool : Json → Except DecodeError Bool
  | bool value => .ok value
  | other => other.refuse "a boolean"

/-- Reads a whole number of a machine type; a double is never one. -/
def asInteger (range : IntegerRange) : Json → Except DecodeError Int
  | int value =>
      if range.low ≤ value ∧ value ≤ range.high then .ok value
      else .error (.invalidValue (.integer value) range.name)
  | other => other.refuse range.name

/-- Reads a number as a double. -/
def asDouble (name : String) : Json → Except DecodeError Binary64
  | int value => .ok (.ofInt value)
  | double value => .ok value
  | other => other.refuse name

/-- Reads the items of an array. -/
def asItems : Json → Except DecodeError (List Json)
  | arr items => .ok items
  | other => other.refuse "a sequence"

/-- Reads the members of an object. -/
def asMembers : Json → Except DecodeError (List (String × Json))
  | obj members => .ok members
  | other => other.refuse "a map"

/-- Reads a value that may be missing. -/
def asOption {α : Type} (decode : Json → Except DecodeError α) : Json → Except DecodeError (Option α)
  | null => .ok none
  | other => (decode other).map some

end Json

end QueryFeed
