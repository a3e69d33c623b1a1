import QueryFeed.Source
import QueryFeed.Text.Duration

/-!
**Anything that can be polled for messages.**

A message source hands out payloads and, later, answers them.  Between the two time may pass: when a
payload is submitted, the source says when its answer comes, if it ever comes.

Main definitions:

* `MessageSource` — the interface;
* `Connection` — what a source needs of a database;
* `MessageSource.ofSource`, `MessageSource.ofLifecycle` — query sources over a connection;
* `Delayed` — a connection whose answers take their time.
-/

set_option autoImplicit false

namespace QueryFeed

/-- A source of messages with payloads in `τ`, whose state is in `σ`.  Times are in nanoseconds. -/
structure MessageSource (σ τ : Type) where
  /-- What the source is called in notices and failures. -/
  component : String
  /-- Polls once. -/
  receive : Stamp → σ → Polled σ (Message (Payload τ))
  /-- Submits a payload at some time, and says when its answer comes. -/
  submit : Nat → Payload τ → σ → Option Nat × σ
  /-- Answers a payload. -/
  answer : Payload τ → σ → Delivery τ × σ

/-- What a source needs of a database whose state is in `κ`. -/
structure Connection (κ : Type) where
  /-- Submits a query at some time, and says when its answer comes. -/
  submit : Nat → String → List Value → κ → Option Nat × κ
  /-- Answers a query. -/
  answer : String → List Value → κ → Database.Answer × κ

/-! ### Query sources -/

namespace MessageSource

variable {κ τ : Type}

/-- Polls with a function that asks only the source, and runs payloads on the connection. -/
def onConnection {σ : Type} (connection : Connection κ)
    (receive : Stamp → σ → Polled σ (Message (Payload τ))) : MessageSource (σ × κ) τ where
  component := sourceComponent
  receive stamp state :=
    let polled := receive stamp state.1
    ⟨polled.result, (polled.source, state.2), polled.notices⟩
  submit now payload state :=
    let (due, database) := connection.submit now payload.fetch.sql payload.fetch.params state.2
    (due, (state.1, database))
  answer payload state :=
    let (answer, database) := connection.answer payload.fetch.sql payload.fetch.params state.2
    (payload.deliver answer, (state.1, database))

/-- A query source over a connection. -/
def ofSource (connection : Connection κ) : MessageSource (Source τ × κ) τ :=
  onConnection connection fun stamp source => source.receive stamp

/-- A query source that may not have its context yet, over a connection. -/
def ofLifecycle (connection : Connection κ) : MessageSource (Lifecycle τ × κ) τ :=
  onConnection connection fun stamp lifecycle => lifecycle.receive stamp

end MessageSource

/-! ### Delays -/

/-- A connection whose answers take their time.  `delays` are the milliseconds of the next answers, and
`started` the times at which queries were submitted. -/
structure Delayed (κ : Type) where
  inner : κ
  delays : List Nat
  started : List Nat

/-- Submits queries to a connection that answers at once, and delays its answers. -/
def Connection.delayed {κ : Type}
    (answer : Database.Ask κ) : Connection (Delayed κ) where
  submit now _ _ state :=
    (some (now + ofMilliseconds (state.delays.headD 0)),
      { state with delays := state.delays.tail, started := state.started ++ [now] })
  answer sql params state :=
    let (found, inner) := answer state.inner sql params
    (found, { state with inner := inner })

end QueryFeed
