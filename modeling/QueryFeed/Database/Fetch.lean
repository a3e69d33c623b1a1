import QueryFeed.Database.Reading
import QueryFeed.Row.Mapper

/-!
**Fetching rows.**

A connection answers a query with an error, or with rows, among which further errors may come.  A fetch
is a query that waits to be run.  It asks for the only row, for the first row, or for all rows.

Main definitions:

* `Answer` — what a connection says to a query;
* `Reading.only`, `Reading.front` — the readers of the only row and of the first row;
* `Answer.one`, `Answer.first`, `Answer.all` — the three ways of reading one;
* `Ask` — how a connection answers;
* `Fetch` — a query with its parameters and its mapper.
-/

set_option autoImplicit false

namespace QueryFeed.Database

/-- What a connection says to a query: it refuses it, or it sends rows and errors. -/
abbrev Answer := Except Error (List (Except Error Row))

variable {κ τ : Type}

/-- Maps the row of an item. -/
def Answer.mapItem (mapper : RowMapper τ) (item : Except Error Row) : Except Error τ := item >>= mapper

/-- Reads the only row.  A second one is an error, whether or not the first one can be mapped; a row is
not mapped before the end of the rows has come. -/
def Reading.only (mapper : RowMapper τ) : Reading (Except Error Row) (Except Error (Option τ)) :=
  .ask fun
    | none => .done (.ok none)
    | some (.error e) => .done (.error e)
    | some (.ok row) => .ask fun
        | none => .done ((mapper row).map some)
        | some (.error e) => .done (.error e)
        | some (.ok _) => .done (.error (.resultSize 1 2))

/-- Reads the first row. -/
def Reading.front (mapper : RowMapper τ) : Reading (Except Error Row) (Except Error (Option τ)) :=
  .ask fun
    | none => .done (.ok none)
    | some item => .done ((Answer.mapItem mapper item).map some)

namespace Answer

/-- The only row. -/
def one (mapper : RowMapper τ) : Answer → Except Error (Option τ)
  | .error e => .error e
  | .ok items => (Reading.only mapper).run items

/-- The first row. -/
def first (mapper : RowMapper τ) : Answer → Except Error (Option τ)
  | .error e => .error e
  | .ok items => (Reading.front mapper).run items

/-- All rows in their order.  A refusal is the only item, and an error does not end the rows. -/
def all (mapper : RowMapper τ) : Answer → List (Except Error τ)
  | .error e => [.error e]
  | .ok items => items.map (mapItem mapper)

end Answer

/-- How a connection whose state is in `κ` answers a query. -/
abbrev Ask (κ : Type) := κ → String → List Value → Answer × κ

/-- A query that waits to be run. -/
structure Fetch (τ : Type) where
  sql : String
  params : List Value
  mapper : RowMapper τ

namespace Fetch

/-- Runs a query. -/
def run (fetch : Fetch τ) (ask : Ask κ) (connection : κ) : Answer × κ :=
  ask connection fetch.sql fetch.params

/-- Runs a query for its only row. -/
def one (fetch : Fetch τ) (ask : Ask κ) (connection : κ) : Except Error (Option τ) × κ :=
  let (answer, connection) := fetch.run ask connection
  (answer.one fetch.mapper, connection)

/-- Runs a query for its first row. -/
def first (fetch : Fetch τ) (ask : Ask κ) (connection : κ) : Except Error (Option τ) × κ :=
  let (answer, connection) := fetch.run ask connection
  (answer.first fetch.mapper, connection)

/-- A fetch in diagnostics, under the name of its stage. -/
def describe (fetch : Fetch τ) (stage : String) : String :=
  stage ++ " \x7b sql: " ++ Text.quote fetch.sql ++
    ", params: " ++ Value.bracketed (fetch.params.map Value.describe) ++ ", .. \x7d"

end Fetch

/-- The items up to the first error, or that error. -/
def gather {τ : Type} : List (Except Error τ) → Except Error (List τ)
  | [] => .ok []
  | .error e :: _ => .error e
  | .ok value :: rest => (gather rest).map (value :: ·)

end QueryFeed.Database
