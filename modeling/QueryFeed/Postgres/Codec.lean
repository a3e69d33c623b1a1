import QueryFeed.Json.Parser
import QueryFeed.Postgres.Numeric
import QueryFeed.Text.Ranges
import QueryFeed.Value.Basic

/-!
**Values on the wire.**

The server names the type of a column or a parameter by a number.  A column is decoded by its type;
bytes that are no value of the type count as null.  A parameter is sent only if its kind suits the type.
A null parameter suits four-byte integers and nothing else.

Main definitions:

* `WireType`, `WireType.ofNumber` — the types;
* `WireType.isFamiliar` — which numbers need no explanation;
* `WireType.decode?`, `WireType.read` — from bytes to values;
* `WireType.encode?` — from values to bytes.
-/

set_option autoImplicit false

namespace QueryFeed.Postgres

/-- The types of columns and parameters. -/
inductive WireType where
  | boolean
  | int2
  | int4
  | int8
  | float4
  | float8
  | numeric
  /-- Text of any of the usual types. -/
  | text
  /-- Text of a type that the server does not know. -/
  | unknown
  | bytea
  | date
  | time
  | timestamp
  | timestampTz
  | uuid
  | json
  | jsonBinary
  | other
  deriving DecidableEq

namespace WireType

/-- The type that the server names by a number. -/
def ofNumber : Nat → WireType
  | 16 => boolean
  | 17 => bytea
  | 19 => text
  | 20 => int8
  | 21 => int2
  | 23 => int4
  | 25 => text
  | 114 => json
  | 700 => float4
  | 701 => float8
  | 705 => unknown
  | 1042 => text
  | 1043 => text
  | 1082 => date
  | 1083 => time
  | 1114 => timestamp
  | 1184 => timestampTz
  | 1700 => numeric
  | 2950 => uuid
  | 3802 => jsonBinary
  | _ => other

/-! ### Familiar types -/

/-- The ranges of numbers that name the usual types, in ascending order, both ends included. -/
def familiarNumbers : List (Nat × Nat) :=
  [(16, 30), (32, 32), (114, 114), (142, 143), (194, 194), (199, 199), (269, 269), (271, 271),
   (325, 325), (600, 604), (628, 629), (650, 651), (700, 701), (705, 705), (718, 719),
   (774, 775), (790, 791), (829, 829), (869, 869), (1000, 1003), (1005, 1022), (1027, 1028),
   (1033, 1034), (1040, 1043), (1082, 1083), (1114, 1115), (1182, 1187), (1231, 1231),
   (1263, 1263), (1266, 1266), (1270, 1270), (1560, 1563), (1700, 1700), (1790, 1790),
   (2201, 2211), (2249, 2249), (2275, 2281), (2283, 2283), (2287, 2287), (2776, 2776),
   (2949, 2951), (2970, 2970), (3115, 3115), (3220, 3221), (3310, 3310), (3361, 3361),
   (3402, 3402), (3500, 3500), (3614, 3615), (3642, 3645), (3734, 3735), (3769, 3770),
   (3802, 3802), (3807, 3807), (3831, 3831), (3838, 3838), (3904, 3913), (3926, 3927),
   (4072, 4073), (4089, 4090), (4096, 4097), (4191, 4192), (4451, 4451), (4532, 4538),
   (4600, 4601), (5017, 5017), (5038, 5039), (5069, 5069), (5077, 5080), (6150, 6153),
   (6155, 6155), (6157, 6157)]

/-- Whether a number names a usual type. -/
def isFamiliar (number : Nat) : Bool := Text.inRanges number familiarNumbers

/-- The query by which a client asks for the type with a number. -/
def question : String :=
  "SELECT t.typname, t.typtype, t.typelem, r.rngsubtype, t.typbasetype, n.nspname, t.typrelid\n" ++
  "FROM pg_catalog.pg_type t\n" ++
  "LEFT OUTER JOIN pg_catalog.pg_range r ON r.rngtypid = t.oid\n" ++
  "INNER JOIN pg_catalog.pg_namespace n ON t.typnamespace = n.oid\n" ++
  "WHERE t.oid = $1\n"

/-- The query by which a client asks a server that knows no ranges. -/
def simplerQuestion : String :=
  "SELECT t.typname, t.typtype, t.typelem, NULL::OID, t.typbasetype, n.nspname, t.typrelid\n" ++
  "FROM pg_catalog.pg_type t\n" ++
  "INNER JOIN pg_catalog.pg_namespace n ON t.typnamespace = n.oid\n" ++
  "WHERE t.oid = $1\n"

/-! ### Columns -/

/-- The version of the binary form of JSON. -/
def jsonVersion : UInt8 := 1

/-- Reads a JSON text. -/
def decodeJson? (bytes : List UInt8) : Option Value := do
  let text ← Text.textOfUtf8? bytes
  return .json (← Json.parse? text)

/-- Reads a word of exactly the given width, without a sign. -/
def word? (width : Nat) (bytes : List UInt8) : Option Nat :=
  if bytes.length = width then some (Word.value bytes) else none

/-- The value that bytes are in a type. -/
def decode? : WireType → List UInt8 → Option Value
  | boolean, bytes => (word? 1 bytes).map fun n => .bool (n != 0)
  | int2, bytes => (Word.ofWidth? 2 bytes).map fun n => .int16 (Int16.ofInt n)
  | int4, bytes => (Word.ofWidth? 4 bytes).map fun n => .int32 (Int32.ofInt n)
  | int8, bytes => (Word.ofWidth? 8 bytes).map fun n => .int64 (Int64.ofInt n)
  | float4, bytes => (word? 4 bytes).map fun n => .float32 ⟨UInt32.ofNat n⟩
  | float8, bytes => (word? 8 bytes).map fun n => .float64 ⟨UInt64.ofNat n⟩
  | numeric, bytes => ((Numeric.ofBytes? bytes).bind Numeric.toDecimal?).map .decimal
  | text, bytes => (Text.textOfUtf8? bytes).map .text
  | unknown, bytes => (Text.textOfUtf8? bytes).map .text
  | bytea, bytes => some (.bytes bytes)
  | date, bytes => do
      let days ← Word.ofWidth? 4 bytes
      return .date (← Date.ofDayNumber? (Timestamp.millennium + days))
  | time, bytes => do
      let micros ← Word.ofWidth? 8 bytes
      return .time (.ofMicroseconds (micros % Timestamp.microsPerDay).toNat)
  | timestamp, bytes => do
      let micros ← Word.ofWidth? 8 bytes
      return .timestamp (← Timestamp.ofMicroseconds? micros)
  | timestampTz, bytes => do
      let micros ← Word.ofWidth? 8 bytes
      return .timestampTz (← Timestamp.ofMicroseconds? micros)
  | uuid, bytes => (word? 16 bytes).map fun n => .uuid ⟨BitVec.ofNat 128 n⟩
  | json, bytes => decodeJson? bytes
  | jsonBinary, version :: bytes => if version = jsonVersion then decodeJson? bytes else none
  | jsonBinary, [] => none
  | other, _ => none

/-- The value of a column, which may be missing. -/
def read (type : WireType) (column : Option (List UInt8)) : Value :=
  (column.bind type.decode?).getD .null

/-! ### Parameters -/

/-- The bytes of a JSON value in one of the two types of JSON. -/
def encodeJson? (type : WireType) (value : Json) : Option (List UInt8) :=
  match type with
  | json => some (Text.utf8 value.compact)
  | jsonBinary => some (jsonVersion :: Text.utf8 value.compact)
  | _ => none

/-- The bytes, if a type is the one that is needed. -/
def only (needed type : WireType) (bytes : List UInt8) : Option (List UInt8) :=
  if type = needed then some bytes else none

/-- The bytes of a value that is not null, if it suits the type. -/
def encodeValue? (type : WireType) : Value → Option (List UInt8)
  | .null => none
  | .bool value => only boolean type [if value then 1 else 0]
  | .int16 value => only int2 type (Word.signedBytes 2 value.toInt)
  | .int32 value => only int4 type (Word.signedBytes 4 value.toInt)
  | .int64 value => only int8 type (Word.signedBytes 8 value.toInt)
  | .float32 value => only float4 type (Word.bytes 4 value.word.toNat)
  | .float64 value => only float8 type (Word.bytes 8 value.word.toNat)
  | .decimal value => only numeric type (Numeric.ofDecimal value).bytes
  | .text value => (only text type (Text.utf8 value)).or (only unknown type (Text.utf8 value))
  | .bytes value => only bytea type value
  | .date value =>
      only date type (Word.signedBytes 4 (value.dayNumber - Timestamp.millennium))
  | .time value => only time type (Word.bytes 8 value.microseconds)
  | .timestamp value => only timestamp type (Word.signedBytes 8 value.microseconds)
  | .timestampTz value => only timestampTz type (Word.signedBytes 8 value.microseconds)
  | .uuid value => only uuid type (Word.bytes 16 value.bits.toNat)
  | .json value => encodeJson? type value
  | .array items => encodeJson? type (Value.array items).toJson

/-- What is sent for a parameter, if it suits the type: bytes, or null. -/
def encode? (type : WireType) : Value → Option (Option (List UInt8))
  | .null => if type = int4 then some none else none
  | value => (type.encodeValue? value).map some

end WireType

end QueryFeed.Postgres
