import QueryFeed.Database.Error
import QueryFeed.Row.Basic

/-!
**Mapping rows to payloads.**

A mapper turns a row into a payload, or refuses it with an error of the database.

Main definitions: `RowMapper`, and the mappers `RowMapper.columns`, `RowMapper.json`, `RowMapper.raw`,
`RowMapper.single`.
-/

set_option autoImplicit false

namespace QueryFeed

/-- Turns a row into a payload. -/
abbrev RowMapper (τ : Type) := Row → Except Database.Error τ

namespace RowMapper

/-- The values by column name. -/
def columns : RowMapper (Table Value) := fun row => .ok row.toTable

/-- The row as a JSON object. -/
def json : RowMapper Json := fun row => .ok row.toJson

/-- The row itself. -/
def raw : RowMapper Row := fun row => .ok row

/-- The value of the only column. -/
def single : RowMapper Value := fun row =>
  match row.cells with
  | [cell] => .ok cell.2
  | _ =>
      .error (.mapping ("expected a single column, got " ++ String.ofList (Text.decimal row.width) ++
        " (" ++ ", ".intercalate row.columns ++ ")") none)

end RowMapper

end QueryFeed
