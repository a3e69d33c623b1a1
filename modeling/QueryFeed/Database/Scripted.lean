import QueryFeed.Database.Fetch
import QueryFeed.Database.Settings

/-!
**Scripted connections.**

A scripted connection answers from a table and keeps a log of the queries that it received while it was
open.  A scripted server hands out such a connection, or refuses everybody, and keeps a log of the
settings with which it was asked.

Main definitions: `ScriptedAnswer`, `Scripted`, `Scripted.submit`, `ScriptedServer`.
-/

set_option autoImplicit false

namespace QueryFeed.Database

/-- What is answered to a query. -/
inductive ScriptedAnswer where
  | rows (rows : List Row)
  | refused (reason : String)
  | interrupted (rows : List Row) (reason : String)

/-- A connection that answers from a table. -/
structure Scripted where
  answers : Table ScriptedAnswer
  log : List (String × List Value)
  isClosed : Bool

namespace ScriptedAnswer

/-- The answer to a query with the given text. -/
def toAnswer (sql : String) : ScriptedAnswer → Answer
  | rows found => .ok (found.map .ok)
  | refused reason => .error (.query reason (some sql))
  | interrupted found reason => .ok (found.map .ok ++ [.error (.connection reason [])])

end ScriptedAnswer

namespace Scripted

/-- An open connection that received nothing yet. -/
def ofAnswers (answers : Table ScriptedAnswer) : Scripted := ⟨answers, [], false⟩

/-- The answer to a query that the connection receives. -/
def answerTo (connection : Scripted) (sql : String) : Answer :=
  match Table.get? connection.answers sql with
  | some answer => answer.toAnswer sql
  | none => .error (.query "no scripted response for query" (some sql))

/-- Submits a query.  A closed connection refuses it and does not log it. -/
def submit (connection : Scripted) (sql : String) (params : List Value) : Answer × Scripted :=
  if connection.isClosed then (.error .closed, connection)
  else
    (connection.answerTo sql, { connection with log := connection.log ++ [(sql, params)] })

/-- Closes the connection. -/
def close (connection : Scripted) : Scripted := { connection with isClosed := true }

/-- The texts of the queries received. -/
def queries (connection : Scripted) : List String := connection.log.map Prod.fst

/-- The parameters of the last query received. -/
def lastParams? (connection : Scripted) : Option (List Value) :=
  connection.log.getLast?.map Prod.snd

end Scripted

/-- A server that hands out a connection, or refuses everybody for a reason. -/
structure ScriptedServer where
  connection : Scripted
  refusal : Option String
  requests : List Settings

namespace ScriptedServer

/-- Asks for a connection. -/
def connect (server : ScriptedServer) (settings : Settings) : Except Error Scripted × ScriptedServer :=
  (match server.refusal with
    | none => .ok server.connection
    | some reason => .error (.connection reason []),
   { server with requests := server.requests ++ [settings] })

end ScriptedServer

end QueryFeed.Database
