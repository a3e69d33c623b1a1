import QueryFeed.Json.Decode
import QueryFeed.Row.Mapper

/-!
**Mapping rows to records.**

An entity is described by its shape: a record with named fields, a map from names to whole numbers, or
anything at all.  A row is matched to it by column name, through the JSON object of the row.  The
columns are visited in their order and the first one that does not fit decides the error; only then
are missing fields looked for, in the order of the shape.

Main definitions: `FieldKind`, `Field`, `Entity`, `Entity.read`, `RowMapper.entity`.
-/

set_option autoImplicit false

namespace QueryFeed

/-- What a field holds. -/
inductive FieldKind where
  | integer (range : IntegerRange)
  | text
  | boolean
  | double
  | texts

/-- What stands for a field that is missing. -/
inductive Presence where
  | required
  | optional
  | defaulted (value : Json)

/-- A field of a record. -/
structure Field where
  name : String
  kind : FieldKind
  presence : Presence

/-- The shape of what a row is mapped to. -/
inductive Entity where
  | record (fields : List Field) (closed : Bool)
  | integers
  | anything

/-- Reads the content of a field. -/
def FieldKind.read : FieldKind → Json → Except DecodeError Json
  | integer range, value => (value.asInteger range).map Json.int
  | text, value => value.asText.map Json.str
  | boolean, value => value.asBool.map Json.bool
  | double, value => (value.asDouble "f64").map Json.ofBinary64
  | texts, value => do
      let items ← value.asItems
      let found ← items.mapM Json.asText
      return Json.ofTexts found

namespace Field

/-- Reads the value of a field; `null` stands for an optional value that is absent. -/
def read (field : Field) (value : Json) : Except DecodeError Json :=
  match field.presence, value with
  | .optional, .null => .ok .null
  | _, _ => field.kind.read value

/-- What stands for a field that no column has. -/
def absent (field : Field) : Except DecodeError Json :=
  match field.presence with
  | .required => .error (.missingField field.name)
  | .optional => .ok .null
  | .defaulted value => .ok value

end Field

namespace Entity

/-- Reads the members that are fields, in the order of the members. -/
def visit (fields : List Field) (closed : Bool) :
    List (String × Json) → Except DecodeError (Table Json)
  | [] => .ok []
  | (name, value) :: rest =>
      match fields.find? (·.name = name) with
      | none =>
          if closed then .error (.unknownField name (fields.map (·.name)))
          else visit fields closed rest
      | some field => do
          let first ← field.read value
          let others ← visit fields closed rest
          return (name, first) :: others

/-- The fields of a record in the order of its shape. -/
def assemble (found : Table Json) : List Field → Except DecodeError (List (String × Json))
  | [] => .ok []
  | field :: rest => do
      let value ← match Table.get? found field.name with
        | some value => pure value
        | none => field.absent
      let others ← assemble found rest
      return (field.name, value) :: others

/-- Reads an entity out of an object. -/
def read : Entity → Json → Except DecodeError Json
  | record fields closed, value => do
      let members ← value.asMembers
      let found ← visit fields closed members
      let values ← assemble found fields
      return .obj values
  | integers, value => do
      let members ← value.asMembers
      let found ← members.mapM fun member =>
        (member.2.asInteger .i64).map fun n => (member.1, Json.int n)
      return .obj (Table.sorted found)
  | anything, value => .ok value

end Entity

/-- Maps a row to an entity; `typeName` is what a refusal calls it. -/
def RowMapper.entity (typeName : String) (shape : Entity) : RowMapper Json := fun row =>
  (shape.read row.toJson).mapError fun e =>
    .mapping ("cannot map row to " ++ typeName ++ ": " ++ e.message) (some e.message)

end QueryFeed
