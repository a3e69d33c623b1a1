import QueryFeed.Calendar.Timestamp
import QueryFeed.Json.Printer
import QueryFeed.Number.Decimal
import QueryFeed.Text.Bytes
import QueryFeed.Text.Quoted
import QueryFeed.Uuid

/-!
**Column values.**

A value is what a column of a row holds or a parameter of a query binds.

Main definitions:

* `Value` — the values;
* `Value.variantName` — the name of the kind of a value;
* `Value.toJson` — the JSON form;
* `Value.equals` — equality of values of the same kind;
* `Value.describe` — the form in diagnostics.
-/

set_option autoImplicit false

namespace QueryFeed

/-- A column value. -/
inductive Value where
  | null
  | bool (value : Bool)
  | int16 (value : Int16)
  | int32 (value : Int32)
  | int64 (value : Int64)
  | float32 (value : Binary32)
  | float64 (value : Binary64)
  | decimal (value : Decimal)
  | text (value : String)
  | bytes (value : List UInt8)
  | date (value : Date)
  | time (value : TimeOfDay)
  | timestamp (value : Timestamp)
  | timestampTz (value : Timestamp)
  | uuid (value : Uuid)
  | json (value : Json)
  | array (items : List Value)

namespace Value

instance : Inhabited Value := ⟨null⟩

/-- The name of the kind of a value. -/
def variantName : Value → String
  | null => "Null"
  | bool _ => "Bool"
  | int16 _ => "Int16"
  | int32 _ => "Int32"
  | int64 _ => "Int64"
  | float32 _ => "Float32"
  | float64 _ => "Float64"
  | decimal _ => "Decimal"
  | text _ => "String"
  | bytes _ => "Bytes"
  | date _ => "Date"
  | time _ => "Time"
  | timestamp _ => "DateTime"
  | timestampTz _ => "DateTimeTz"
  | uuid _ => "Uuid"
  | json _ => "Json"
  | array _ => "Array"

/-- The text of a text value. -/
def text? : Value → Option String
  | text value => some value
  | _ => none

/-! ### JSON -/

mutual

/-- The JSON form of a value.  Decimals, dates and times are the texts that show them, and bytes are texts
in base 64. -/
def toJson : Value → Json
  | null => .null
  | bool value => .bool value
  | int16 value => .int value.toInt
  | int32 value => .int value.toInt
  | int64 value => .int value.toInt
  | float32 value => .ofBinary64 value.widen
  | float64 value => .ofBinary64 value
  | decimal value => .str value.text
  | text value => .str value
  | bytes value => .str (String.ofList (Text.base64 value))
  | date value => .str value.text
  | time value => .str value.text
  | timestamp value => .str value.spacedText
  | timestampTz value => .str value.offsetText
  | uuid value => .str value.text
  | json value => value
  | array items => .arr (itemsToJson items)

/-- The JSON forms of the items of an array. -/
def itemsToJson : List Value → List Json
  | [] => []
  | item :: rest => toJson item :: itemsToJson rest

end

/-! ### Equality -/

mutual

/-- Equality of values: both are of one kind, and equal as what they are.  Decimals are compared as
numbers, and what is not a number equals nothing. -/
def equals : Value → Value → Bool
  | null, null => true
  | bool a, bool b => a == b
  | int16 a, int16 b => a == b
  | int32 a, int32 b => a == b
  | int64 a, int64 b => a == b
  | float32 a, float32 b => a.equals b
  | float64 a, float64 b => a.equals b
  | decimal a, decimal b => a.equals b
  | text a, text b => a == b
  | bytes a, bytes b => a == b
  | date a, date b => a == b
  | time a, time b => a == b
  | timestamp a, timestamp b => a == b
  | timestampTz a, timestampTz b => a == b
  | uuid a, uuid b => a == b
  | json a, json b => a.equals b
  | array as, array bs => itemsEqual as bs
  | _, _ => false

/-- Equality of the items of two arrays, in order. -/
def itemsEqual : List Value → List Value → Bool
  | [], [] => true
  | a :: as, b :: bs => equals a b && itemsEqual as bs
  | _, _ => false

end

/-! ### Diagnostics -/

/-- Numbers in diagnostics are positional from `0.0001` on and below `10 ^ 16`; of two equally near
decimals the greater is shown. -/
def diagnosticLayout : FloatLayout := ⟨-4, 15, false, true, .upwards⟩

/-- The name of a number that is infinite or missing. -/
def unusualNumber : FloatShape → List Char
  | .infinite true => "-inf".toList
  | .infinite false => "inf".toList
  | _ => "NaN".toList

/-- Texts between brackets, with commas and blanks. -/
def bracketed (items : List String) : String := "[" ++ ", ".intercalate items ++ "]"

/-- A double in diagnostics. -/
def describeBinary64 (x : Binary64) : String :=
  String.ofList ((x.render? diagnosticLayout).getD (unusualNumber x.shape))

/-- A number of single precision in diagnostics. -/
def describeBinary32 (x : Binary32) : String :=
  String.ofList ((x.render? diagnosticLayout).getD (unusualNumber x.shape))

mutual

/-- A JSON value in diagnostics. -/
def describeJson : Json → String
  | .null => "Null"
  | .bool value => "Bool(" ++ (if value then "true" else "false") ++ ")"
  | .int value => "Number(" ++ String.ofList (Text.signedDecimal value) ++ ")"
  | .double value => "Number(" ++ (Json.double value).compact ++ ")"
  | .str value => "String(" ++ Text.quote value ++ ")"
  | .arr items => "Array " ++ bracketed (describeJsonItems items)
  | .obj members => "Object \x7b" ++ ", ".intercalate (describeJsonMembers members) ++ "\x7d"

/-- The items of a JSON array in diagnostics. -/
def describeJsonItems : List Json → List String
  | [] => []
  | item :: rest => describeJson item :: describeJsonItems rest

/-- The members of a JSON object in diagnostics. -/
def describeJsonMembers : List (String × Json) → List String
  | [] => []
  | (key, value) :: rest => (Text.quote key ++ ": " ++ describeJson value) :: describeJsonMembers rest

end

mutual

/-- A value in diagnostics: its kind around its content. -/
def describe : Value → String
  | null => "Null"
  | bool value => "Bool(" ++ (if value then "true" else "false") ++ ")"
  | int16 value => "Int16(" ++ String.ofList (Text.signedDecimal value.toInt) ++ ")"
  | int32 value => "Int32(" ++ String.ofList (Text.signedDecimal value.toInt) ++ ")"
  | int64 value => "Int64(" ++ String.ofList (Text.signedDecimal value.toInt) ++ ")"
  | float32 value => "Float32(" ++ describeBinary32 value ++ ")"
  | float64 value => "Float64(" ++ describeBinary64 value ++ ")"
  | decimal value => "Decimal(" ++ value.text ++ ")"
  | text value => "String(" ++ Text.quote value ++ ")"
  | bytes value =>
      "Bytes(" ++ bracketed (value.map fun byte => String.ofList (Text.decimal byte.toNat)) ++ ")"
  | date value => "Date(" ++ value.text ++ ")"
  | time value => "Time(" ++ value.text ++ ")"
  | timestamp value => "DateTime(" ++ value.joinedText ++ ")"
  | timestampTz value => "DateTimeTz(" ++ value.zuluText ++ ")"
  | uuid value => "Uuid(" ++ value.text ++ ")"
  | json value => "Json(" ++ describeJson value ++ ")"
  | array items => "Array(" ++ bracketed (describeItems items) ++ ")"

/-- The items of an array in diagnostics. -/
def describeItems : List Value → List String
  | [] => []
  | item :: rest => describe item :: describeItems rest

end

end Value

end QueryFeed
