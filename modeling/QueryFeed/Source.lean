import QueryFeed.Database.Fetch
import QueryFeed.Message
import QueryFeed.Notice
import QueryFeed.Query.Basic
import QueryFeed.Stats

/-!
**Query sources.**

A source holds a query and the context in which it is evaluated.  A poll evaluates the query and hands
out a payload, which is not run yet: a poll never touches the database.  A lifecycle is a source that
may be polled before it has its context.

Main definitions:

* `Payload` — a fetch of the only row or of all rows;
* `SourcePlan`, `SourcePlan.setUp` — a source without its context;
* `Source`, `Source.poll`, `Source.receive` — a source that is ready;
* `Lifecycle`, `Lifecycle.setUp` — a source that becomes ready once.
-/

set_option autoImplicit false

namespace QueryFeed

variable {τ : Type}

/-- What a source is called in notices and failures. -/
def sourceComponent : String := "rdbc:inbound-channel-adapter"

/-! ### Payloads -/

/-- A fetch that waits to be run, of the only row or of all rows. -/
structure Payload (τ : Type) where
  fetch : Database.Fetch τ
  single : Bool

/-- What running a payload gives. -/
inductive Delivery (τ : Type) where
  | single (outcome : Except Database.Error (Option τ))
  | stream (items : List (Except Database.Error τ))

namespace Payload

/-- What an answer of the connection gives. -/
def deliver (payload : Payload τ) (answer : Database.Answer) : Delivery τ :=
  if payload.single then .single (answer.one payload.fetch.mapper)
  else .stream (answer.all payload.fetch.mapper)

/-- Runs a payload. -/
def run {κ : Type} (payload : Payload τ) (ask : Database.Ask κ) (connection : κ) : Delivery τ × κ :=
  let (answer, connection) := payload.fetch.run ask connection
  (payload.deliver answer, connection)

/-- A payload in diagnostics. -/
def describe (payload : Payload τ) : String :=
  if payload.single then "Payload::Single(..)" else "Payload::Stream(..)"

end Payload

/-- All rows of a delivery, or its first error. -/
def Delivery.collect : Delivery τ → Except Database.Error (List τ)
  | .single outcome => outcome.map Option.toList
  | .stream items => Database.gather items

/-! ### Sources -/

/-- A source without its context. -/
structure SourcePlan (τ : Type) where
  query : Query
  mapper : RowMapper τ
  single : Bool
  headers : Table String

/-- A source that is ready to be polled. -/
structure Source (τ : Type) where
  plan : SourcePlan τ
  context : Context
  stats : Stats

/-- A plan in diagnostics. -/
def SourcePlan.describe (plan : SourcePlan τ) : String :=
  "QuerySourceBuilder \x7b query: " ++ plan.query.describe ++ ", expect_single_result: " ++
    (if plan.single then "true" else "false") ++ ", .. \x7d"

/-- The source over a registry. -/
def SourcePlan.setUp (plan : SourcePlan τ) (registry : Registry) : Source τ :=
  ⟨plan, .ofRegistry registry, .zero⟩

/-- What asking a source gives: a result, the state of the source, and notices. -/
structure Polled (σ : Type) (ρ : Type) where
  result : Except FeedError ρ
  source : σ
  notices : List Notice

namespace Source

/-- Evaluates the query and hands out the fetch of its rows. -/
def poll (source : Source τ) : Polled (Source τ) (Payload τ) :=
  let plan := source.plan
  let (resolved, context) := plan.query.resolve source.context
  let stats := source.stats.recordPoll
  match resolved with
  | .ok sql => ⟨.ok ⟨⟨sql, [], plan.mapper⟩, plan.single⟩, ⟨plan, context, stats⟩, []⟩
  | .error e =>
      ⟨.error e, ⟨plan, context, stats.recordResolutionFailure⟩,
        [.unresolvedQuery plan.query.describe e]⟩

/-- Polls, and puts the payload into a message with the headers of the source. -/
def receive (source : Source τ) (stamp : Stamp) : Polled (Source τ) (Message (Payload τ)) :=
  let polled := source.poll
  { polled with
    result := polled.result.map fun payload => ⟨.fresh stamp source.plan.headers, payload⟩ }

/-- A source in diagnostics. -/
def describe (source : Source τ) : String :=
  "QuerySource \x7b query: " ++ source.plan.query.describe ++ ", expect_single_result: " ++
    (if source.plan.single then "true" else "false") ++ ", stats: " ++ source.stats.describe ++
    ", .. \x7d"

end Source

/-! ### Lifecycles -/

/-- A source that may not have its context yet. -/
inductive Lifecycle (τ : Type) where
  | pending (plan : SourcePlan τ)
  | ready (source : Source τ)

namespace Lifecycle

/-- Whether the source has its context. -/
def isSetUp : Lifecycle τ → Bool
  | pending _ => false
  | ready _ => true

/-- Gives the source its context, and says whether it had none. -/
def setUp (lifecycle : Lifecycle τ) (registry : Registry) : Bool × Lifecycle τ :=
  match lifecycle with
  | pending plan => (true, ready (plan.setUp registry))
  | ready source => (false, ready source)

/-- The source, if it has its context. -/
def source : Lifecycle τ → Except FeedError (Source τ)
  | pending _ => .error .uninitialized
  | ready source => .ok source

/-- Asks the source, which must have its context. -/
def ask {ρ : Type} (lifecycle : Lifecycle τ) (request : Source τ → Polled (Source τ) ρ) :
    Polled (Lifecycle τ) ρ :=
  match lifecycle with
  | pending plan => ⟨.error .uninitialized, pending plan, []⟩
  | ready source =>
      let polled := request source
      ⟨polled.result, ready polled.source, polled.notices⟩

/-- Polls the source. -/
def poll (lifecycle : Lifecycle τ) : Polled (Lifecycle τ) (Payload τ) := lifecycle.ask Source.poll

/-- Polls the source, and puts the payload into a message. -/
def receive (lifecycle : Lifecycle τ) (stamp : Stamp) :
    Polled (Lifecycle τ) (Message (Payload τ)) :=
  lifecycle.ask (Source.receive · stamp)

/-- A lifecycle in diagnostics. -/
def describe (lifecycle : Lifecycle τ) : String :=
  "SourceLifecycle \x7b initialized: " ++ (if lifecycle.isSetUp then "true" else "false") ++ " \x7d"

end Lifecycle

end QueryFeed
