import QueryFeed.Calendar.Reader
import QueryFeed.Json.Decode
import QueryFeed.Number.DecimalReader
import QueryFeed.Value.Basic

/-!
**Values with the name of their kind.**

In the tagged form a value is an object with one member, whose key is the kind and whose value is the
content; the null value is the bare name of its kind.  Unlike the plain JSON form it can be read back.

Main definitions: `Value.renderTagged`, `Value.ofTagged`.
-/

set_option autoImplicit false

namespace QueryFeed.Value

/-! ### Writing -/

/-- The text of a number of single precision: its own shortest digits. -/
def renderBinary32 (x : Binary32) : List Char :=
  (x.render? Json.singleLayout).getD "null".toList

/-- An object with one member. -/
def singleMember (kind : String) (content : List Char) : List Char :=
  '\x7b' :: Json.renderString kind ++ ':' :: content ++ ['\x7d']

mutual

/-- The characters of the tagged form. -/
def renderTagged : Value → List Char
  | null => Json.renderString "Null"
  | bool value => singleMember "Bool" (Json.bool value).render
  | int16 value => singleMember "Int16" (Text.signedDecimal value.toInt)
  | int32 value => singleMember "Int32" (Text.signedDecimal value.toInt)
  | int64 value => singleMember "Int64" (Text.signedDecimal value.toInt)
  | float32 value => singleMember "Float32" (renderBinary32 value)
  | float64 value => singleMember "Float64" (Json.double value).render
  | decimal value => singleMember "Decimal" (Json.renderString value.text)
  | text value => singleMember "String" (Json.renderString value)
  | bytes value =>
      singleMember "Bytes"
        ('[' :: Json.commaSeparated (value.map fun byte => Text.decimal byte.toNat) ++ [']'])
  | date value => singleMember "Date" (Json.renderString value.text)
  | time value => singleMember "Time" (Json.renderString value.text)
  | timestamp value => singleMember "DateTime" (Json.renderString value.joinedText)
  | timestampTz value => singleMember "DateTimeTz" (Json.renderString value.zuluText)
  | uuid value => singleMember "Uuid" (Json.renderString value.text)
  | json value => singleMember "Json" value.render
  | array items => singleMember "Array" ('[' :: Json.commaSeparated (renderTaggedItems items) ++ [']'])

/-- The characters of the tagged forms of the items of an array. -/
def renderTaggedItems : List Value → List (List Char)
  | [] => []
  | item :: rest => renderTagged item :: renderTaggedItems rest

end

/-- The characters of a table of values in their tagged form, in the order of the names. -/
def renderTaggedTable (table : Table Value) : List Char :=
  let entries := (Table.sorted table).map fun entry =>
    Json.renderString entry.1 ++ ':' :: renderTagged entry.2
  '\x7b' :: Json.commaSeparated entries ++ ['\x7d']

/-- The text of the tagged form. -/
def taggedText (value : Value) : String := String.ofList value.renderTagged

/-! ### Reading -/

/-- The names of the kinds, in their order. -/
def variantNames : List String :=
  ["Null", "Bool", "Int16", "Int32", "Int64", "Float32", "Float64", "Decimal", "String", "Bytes",
   "Date", "Time", "DateTime", "DateTimeTz", "Uuid", "Json", "Array"]

/-- Reads a text of the calendar. -/
def readCalendar {α : Type} (parse : String → Except CalendarError α) (expected : String) :
    Json → Except DecodeError α
  | .str content => (parse content).mapError fun e => .malformed e.message
  | other => other.refuse expected

/-- What a decimal is called in a refusal. -/
def decimalExpected : String := "a Decimal type representing a fixed-point number"

/-- The layout in which a double is read as a decimal: all its digits and nothing else. -/
def plainLayout : FloatLayout := ⟨-400, 400, false, false, .upwards⟩

/-- Reads a decimal from its text or from a number. -/
def readDecimal : Json → Except DecodeError Decimal
  | .int value =>
      if value.natAbs ≤ Decimal.maxUnits then .ok (.ofUnits value 0)
      else .error (.invalidValue (.integer value) decimalExpected)
  | .double value =>
      match (value.render? plainLayout).bind Decimal.ofPlain? with
      | some found => .ok found
      | none => .error (.invalidValue (.floating value) decimalExpected)
  | .str content =>
      match Decimal.ofText? content.toList with
      | some found => .ok found
      | none => .error (.invalidValue (.text content) decimalExpected)
  | other => other.refuse decimalExpected

/-- Reads a number of single precision.  A whole number is rounded once, not by way of a double. -/
def readBinary32 : Json → Except DecodeError Binary32
  | .int value => .ok (.ofInt value)
  | other => (other.asDouble "f32").map .ofBinary64

/-- Reads an identifier. -/
def readUuid : Json → Except DecodeError Uuid
  | .str content =>
      (Uuid.parse content).mapError fun fault =>
        .malformed ("UUID parsing failed: " ++ fault.message)
  | other => other.refuse "a formatted UUID string"

/-- Reads the content of a value of a scalar kind. -/
def readScalar (kind : String) (content : Json) : Except DecodeError Value :=
  match kind with
  | "Null" => if let .null := content then .ok null else content.refuse "unit"
  | "Bool" => content.asBool.map bool
  | "Int16" => (content.asInteger .i16).map fun n => int16 (Int16.ofInt n)
  | "Int32" => (content.asInteger .i32).map fun n => int32 (Int32.ofInt n)
  | "Int64" => (content.asInteger .i64).map fun n => int64 (Int64.ofInt n)
  | "Float32" => (readBinary32 content).map float32
  | "Float64" => (content.asDouble "f64").map float64
  | "Decimal" => (readDecimal content).map decimal
  | "String" => content.asText.map text
  | "Bytes" => do
      let items ← content.asItems
      let found ← items.mapM (Json.asInteger .u8)
      return bytes (found.map fun n => UInt8.ofNat n.toNat)
  | "Date" => (readCalendar Date.parse "a formatted date string" content).map date
  | "Time" => (readCalendar TimeOfDay.parse "a formatted time string" content).map time
  | "DateTime" =>
      (readCalendar Timestamp.parse "a formatted date and time string" content).map timestamp
  | "DateTimeTz" =>
      (readCalendar Timestamp.parseWithOffset "an RFC 3339 formatted date and time string"
        content).map timestampTz
  | "Uuid" => (readUuid content).map uuid
  | "Json" => .ok (json content)
  | other => .error (.unknownVariant other variantNames)

mutual

/-- Reads a value in its tagged form. -/
def ofTagged : Json → Except DecodeError Value
  | .str kind =>
      if kind = "Null" then .ok null
      else if kind ∈ variantNames then .error (.invalidType .unitVariant "newtype variant")
      else .error (.unknownVariant kind variantNames)
  | .obj [(kind, content)] => ofContent kind content
  | .obj _ => .error (.invalidValue .map "map with a single key")
  | other => other.refuse "string or map"

/-- Reads the content of a value of a given kind. -/
def ofContent (kind : String) : Json → Except DecodeError Value
  | .arr items =>
      if kind = "Array" then (ofTaggedItems items).map array else readScalar kind (.arr items)
  | content => if kind = "Array" then content.refuse "a sequence" else readScalar kind content

/-- Reads the items of an array. -/
def ofTaggedItems : List Json → Except DecodeError (List Value)
  | [] => .ok []
  | item :: rest => do
      let first ← ofTagged item
      let others ← ofTaggedItems rest
      return first :: others

end

end QueryFeed.Value
