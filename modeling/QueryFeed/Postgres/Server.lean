import QueryFeed.Database.Fetch
import QueryFeed.Postgres.Codec

/-!
**A scripted server.**

The server knows some statements by their text.  A statement is parsed, then bound to parameters, and then
its rows are sent; at any of these stages it may fail, fall silent, or drop the connection.  A request
that comes as plain text, without these stages, is answered unless the script says otherwise.

Main definitions:

* `Statement`, `Script` — what the server knows;
* `Request` — what it is asked;
* `Server`, `Server.ask` — the server with its log.
-/

set_option autoImplicit false

namespace QueryFeed.Postgres

/-- The stages of a statement. -/
inductive Stage where
  | parse
  | bind
  | rows
  deriving DecidableEq

/-- What goes wrong with a request. -/
inductive Fault where
  | fails
  | hangs
  | drops
  deriving DecidableEq

/-- A statement: the types of its parameters, its columns with their types, its rows, and the stage at
which something goes wrong. -/
structure Statement where
  params : List Nat
  columns : List (String × Nat)
  rows : List (List (Option (List UInt8)))
  trouble : Option (Stage × Fault)

/-- What goes wrong with a statement at a stage. -/
def Statement.faultAt (statement : Statement) (stage : Stage) : Option Fault :=
  statement.trouble.bind fun trouble => if trouble.1 = stage then some trouble.2 else none

/-- The rows of a statement with their values; nothing for a row that does not have a value for each
column. -/
def Statement.found (statement : Statement) : List (Option Row) :=
  statement.rows.map fun cells =>
    if cells.length = statement.columns.length then
      some ⟨(statement.columns.zip cells).map fun cell =>
        (cell.1.1, (WireType.ofNumber cell.1.2).read cell.2)⟩
    else none

/-- Whether a client knows all types of a statement without asking for them. -/
def Statement.isFamiliar (statement : Statement) : Bool :=
  (statement.params ++ statement.columns.map (·.2)).all WireType.isFamiliar

/-- What a server knows: statements, and the requests in plain text that go wrong. -/
structure Script where
  statements : Table Statement
  plainFaults : Table Fault

/-- What a server is asked. -/
inductive Request where
  | startup (settings : Table String)
  | parse (sql : String)
  | bind (params : List (Option (List UInt8)))
  | plain (sql : String)

/-- The state of a line to a server. -/
inductive Line where
  | up
  | silent
  | dropped
  deriving DecidableEq

/-- A server with its script, the requests that it received, and the line to it. -/
structure Server where
  script : Script
  log : List Request
  line : Line

/-- What comes of a request. -/
inductive Response where
  | answered
  | failed
  | lost
  | nothing
  deriving DecidableEq

namespace Server

/-- The line after something went wrong. -/
def broken (server : Server) (fault : Fault) : Response × Server :=
  match fault with
  | .fails => (.failed, server)
  | .hangs => (.nothing, { server with line := .silent })
  | .drops => (.lost, { server with line := .dropped })

/-- Sends a request with which something may go wrong.  A server that is silent or gone receives
nothing. -/
def ask (server : Server) (request : Request) (fault : Option Fault) : Response × Server :=
  match server.line with
  | .silent => (.nothing, server)
  | .dropped => (.lost, server)
  | .up =>
      let server := { server with log := server.log ++ [request] }
      match fault with
      | none => (.answered, server)
      | some fault => server.broken fault

/-- Asks a server to parse a statement, which must be one that it knows. -/
def askParse (server : Server) (sql : String) : Response × Server :=
  server.ask (.parse sql) (match Table.get? server.script.statements sql with
    | none => some .fails
    | some statement => statement.faultAt .parse)

/-- Asks what an unfamiliar type is, in either of two ways. -/
def askType (server : Server) : Response × Server :=
  match server.askParse WireType.question with
  | (.failed, server) => server.askParse WireType.simplerQuestion
  | (response, server) => (response, server)

/-- Sends a request in plain text. -/
def askPlain (server : Server) (sql : String) : Response × Server :=
  server.ask (.plain sql) (Table.get? server.script.plainFaults sql)

end Server

end QueryFeed.Postgres
