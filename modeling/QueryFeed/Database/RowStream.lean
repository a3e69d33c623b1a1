import QueryFeed.Database.Fetch

/-!
**Streams of rows.**

A stream runs its query when its first item is asked for, and not again.  What it yields is settled then:
neither other queries nor closing the connection change it.

Main definitions: `RowStream`, `RowStream.next`, `RowStream.remaining`.
-/

set_option autoImplicit false

namespace QueryFeed.Database

/-- A stream whose query was not run yet, or the items that are left. -/
inductive RowStream (τ : Type) where
  | unopened (fetch : Fetch τ)
  | opened (items : List (Except Error τ))

namespace RowStream

variable {κ τ : Type}

/-- All items that are left. -/
def remaining (stream : RowStream τ) (ask : Ask κ) (connection : κ) : List (Except Error τ) × κ :=
  match stream with
  | unopened fetch =>
      let (answer, connection) := fetch.run ask connection
      (answer.all fetch.mapper, connection)
  | opened items => (items, connection)

/-- The next item and the stream after it; nothing at the end. -/
def next (stream : RowStream τ) (ask : Ask κ) (connection : κ) :
    Option (Except Error τ × RowStream τ) × κ :=
  match stream.remaining ask connection with
  | ([], connection) => (none, connection)
  | (item :: rest, connection) => (some (item, opened rest), connection)

end RowStream

end QueryFeed.Database
