import QueryFeed.MessageSource
import QueryFeed.Postgres.Server

/-!
**Sessions with a server.**

A query is parsed, its parameters are checked against the types that the server expects, and then it is
bound and its rows are read.  A type that is not familiar would have to be explained by the server first,
and no server here does that.  A query timeout covers the time up to the first row.  A session that was
closed asks nothing any more, and a text with a zero byte cannot be sent.

Main definitions:

* `bindParams` — parameters as they are sent;
* `Reply`, `Reply.one?`, `Reply.first?`, `Reply.all?` — what comes of a query, if it ever comes;
* `Session`, `Session.query`, `Session.isValid?` — the session;
* `Session.connection` — a session as the connection of a source.
-/

set_option autoImplicit false

namespace QueryFeed.Postgres

open Database (Answer)

/-! ### Parameters -/

/-- Why parameters are not sent. -/
inductive BindFault where
  | count (expected given : Nat)
  | unsuitable (index : Nat)
  deriving DecidableEq

/-- The wording of a fault. -/
def BindFault.message : BindFault → String
  | count expected given =>
      "expected " ++ String.ofList (Text.decimal expected) ++ " parameters but got " ++
        String.ofList (Text.decimal given)
  | unsuitable index => "error serializing parameter " ++ String.ofList (Text.decimal index)

/-- Encodes parameters by their types, the first of them having the given index. -/
def encodeFrom (index : Nat) : List (WireType × Value) → Except BindFault (List (Option (List UInt8)))
  | [] => .ok []
  | (type, value) :: rest =>
      match type.encode? value with
      | none => .error (.unsuitable index)
      | some bytes => (encodeFrom (index + 1) rest).map (bytes :: ·)

/-- What is sent for parameters of the given types. -/
def bindParams (types : List WireType) (params : List Value) :
    Except BindFault (List (Option (List UInt8))) :=
  if types.length ≠ params.length then .error (.count types.length params.length)
  else encodeFrom 0 (types.zip params)

/-! ### Replies -/

/-- What comes of a query: an error after some milliseconds, rows and errors and then perhaps silence, or
silence from the start. -/
inductive Reply where
  | refused (e : Database.Error) (delay : Nat)
  | rows (items : List (Except Database.Error Row)) (complete : Bool)
  | silent

namespace Reply

variable {τ : Type}

/-- Whether an item is an error. -/
def isError {α : Type} (item : Except Database.Error α) : Bool :=
  match item with
  | .error _ => true
  | .ok _ => false

/-- The only row, if it is ever known. -/
def one? (mapper : RowMapper τ) : Reply → Option (Except Database.Error (Option τ))
  | refused e _ => some (.error e)
  | silent => none
  | rows items complete =>
      if complete then some (Answer.one mapper (.ok items))
      else (Database.Reading.only mapper).await? items

/-- The first row, if it is ever known. -/
def first? (mapper : RowMapper τ) : Reply → Option (Except Database.Error (Option τ))
  | refused e _ => some (.error e)
  | silent => none
  | rows items complete =>
      if complete then some (Answer.first mapper (.ok items))
      else (Database.Reading.front mapper).await? items

/-- The items up to the first error, and that error. -/
def untilError {α : Type} : List (Except Database.Error α) → List (Except Database.Error α)
  | [] => []
  | .error e :: _ => [.error e]
  | .ok value :: rest => .ok value :: untilError rest

/-- All rows up to the first error, if they all come. -/
def all? (mapper : RowMapper τ) : Reply → Option (List (Except Database.Error τ))
  | refused e _ => some [.error e]
  | silent => none
  | rows items complete =>
      let mapped := untilError (Answer.all mapper (.ok items))
      if complete || mapped.any isError then some mapped else none

/-- The answer of a reply that comes to its end. -/
def answer : Reply → Answer
  | refused e _ => .error e
  | rows items _ => .ok items
  | silent => .ok []

/-- When the answer comes to a query that was sent at some time. -/
def due (now : Nat) : Reply → Option Nat
  | refused _ delay => some (now + ofMilliseconds delay)
  | rows _ complete => if complete then some now else none
  | silent => none

end Reply

/-! ### Sessions -/

/-- A session: the server, its timeout in milliseconds, whether it was closed, and the queries that were
given up before they were sent. -/
structure Session where
  server : Server
  timeout : Option Nat
  isClosed : Bool
  overdue : List String

namespace Session

/-- A new session with a server. -/
def start (server : Server) (timeout : Option Nat) : Session := ⟨server, timeout, false, []⟩

/-- Closes a session. -/
def close (session : Session) : Session := { session with isClosed := true }

/-- Sends the queries that were given up, which come before any other request. -/
def sendOverdue (session : Session) : Session :=
  { session with
    server := session.overdue.foldl (fun server sql => (server.askParse sql).2) session.server
    overdue := [] }

/-- The reply to a query whose answer does not come. -/
def silence (session : Session) : Reply :=
  match session.timeout with
  | some ms => .refused (.timeout ("query did not start within " ++ Text.duration (ofMilliseconds ms))) ms
  | none => .silent

/-- The reply to a query in a response that is no answer. -/
def unanswered (session : Session) (sql : String) : Response → Reply
  | .failed => .refused (.query "db error" (some sql)) 0
  | .lost => .refused (.query "connection closed" (some sql)) 0
  | _ => session.silence

/-- A row as it was received; without a value for each column it makes no sense. -/
def received (sql : String) : Option Row → Except Database.Error Row
  | some row => .ok row
  | none => .error (.query "error parsing response from server" (some sql))

/-- Reads the rows of a statement that was bound. -/
def readRows (session : Session) (sql : String) (statement : Statement) : Reply × Session :=
  let found := statement.found.map (received sql)
  match statement.faultAt .rows with
  | none => (.rows found true, session)
  | some fault =>
      let (response, server) := session.server.broken fault
      let session := { session with server := server }
      (match response with
        | .failed => .rows (found ++ [.error (.query "db error" (some sql))]) true
        | .lost => .rows (found ++ [.error (.query "connection closed" (some sql))]) true
        | _ => .rows found false,
       session)

/-- Binds a statement that was parsed. -/
def bindStatement (session : Session) (sql : String) (statement : Statement) (params : List Value) :
    Reply × Session :=
  match bindParams (statement.params.map WireType.ofNumber) params with
  | .error fault => (.refused (.query fault.message (some sql)) 0, session)
  | .ok sent =>
      let (response, server) := session.server.ask (.bind sent) (statement.faultAt .bind)
      let session := { session with server := server }
      match response with
      | .answered => session.readRows sql statement
      | response => (session.unanswered sql response, session)

/-- Whether a text can be sent: its end is marked by a zero byte. -/
def isSendable (text : String) : Bool := !text.toList.contains '\x00'

/-- Asks what an unfamiliar type of a statement is. -/
def explainTypes (session : Session) (sql : String) : Reply × Session :=
  let (response, server) := session.server.askType
  let response := if response = .answered then .failed else response
  (session.unanswered sql response, { session with server := server })

/-- Runs a query.  Without any time for it, it is given up before it is sent. -/
def query (session : Session) (sql : String) (params : List Value) : Reply × Session :=
  if session.isClosed then (.refused .closed 0, session)
  else if !isSendable sql then
    (.refused (.query "error encoding message to server" (some sql)) 0, session)
  else if session.timeout = some 0 && session.server.line != .dropped then
    (session.silence, { session with overdue := session.overdue ++ [sql] })
  else
    let session := session.sendOverdue
    let (response, server) := session.server.askParse sql
    let session := { session with server := server }
    match response, Table.get? session.server.script.statements sql with
    | .answered, some statement =>
        if statement.isFamiliar then session.bindStatement sql statement params
        else session.explainTypes sql
    | response, _ => (session.unanswered sql response, session)

/-- Whether a session can still serve queries, if that is ever known. -/
def isValid? (session : Session) : Option Bool × Session :=
  if session.isClosed then (some false, session)
  else
    let session := session.sendOverdue
    let (response, server) := session.server.askPlain "SELECT 1"
    (match response with
      | .answered => some true
      | .nothing => none
      | _ => some false,
     { session with server := server })

/-- A session as the connection of a source, together with the last reply. -/
def connection : Connection (Session × Reply) where
  submit now sql params state :=
    let (reply, session) := state.1.query sql params
    (reply.due now, (session, reply))
  answer _ _ state := (state.2.answer, state)

end Session

end QueryFeed.Postgres
