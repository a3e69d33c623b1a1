import QueryFeed.Value.Basic

/-!
**Rows.**

A row is a list of cells, each a column name with a value.  A name may occur more than once: reading
by name takes the first cell whose name agrees up to the case of ASCII letters, while the map and the
JSON object of a row keep the last cell of a name.

Main definitions: `Row`, `Row.getByName?`, `Row.toTable`, `Row.toJson`.
-/

set_option autoImplicit false

namespace QueryFeed

/-- A row of a result: column names with their values, in the order of the columns. -/
structure Row where
  cells : List (String × Value)

namespace Row

/-- The column names. -/
def columns (row : Row) : List String := row.cells.map Prod.fst

/-- The values in the order of the columns. -/
def values (row : Row) : List Value := row.cells.map Prod.snd

/-- The number of columns. -/
def width (row : Row) : Nat := row.cells.length

/-- The value in a column, counted from zero. -/
def get? (row : Row) (index : Nat) : Option Value := row.values[index]?

/-- Whether two texts agree up to the case of ASCII letters. -/
def sameName (first second : String) : Bool :=
  first.toList.map Char.toLower == second.toList.map Char.toLower

/-- The value of the first column with a name, whatever the case of its ASCII letters. -/
def getByName? (row : Row) (name : String) : Option Value :=
  (row.cells.find? fun cell => sameName cell.1 name).map Prod.snd

/-- The values by exact column name, the last one of a repeated name. -/
def toTable (row : Row) : Table Value := Table.ofEntries row.cells

/-- The row as a JSON object, with a repeated name in its first place and with its last value. -/
def toJson (row : Row) : Json :=
  .ofEntries (row.cells.map fun cell => (cell.1, cell.2.toJson))

end Row

end QueryFeed
