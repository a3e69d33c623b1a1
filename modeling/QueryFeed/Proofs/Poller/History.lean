import QueryFeed.Poller.Basic

/-!
**What can be noticed of a poller.**

A poller is watched from outside: the messages that its output takes, the polls that fail, where
each failure goes, and what the readers of its channels take.  The events of a step are read off the
state before it, without looking at any counter, so that the counters can be compared with them.

Main definitions:

* `Event` — what can be noticed;
* `Event.isBegan`, `Event.sent?`, `Event.taken?`, `Event.failed?`, `Event.delivered?`,
  `Event.reported?`, `Event.heard?` — views of an event, with which a history is filtered;
* `Poller.beginning`, `Poll.events` — the events of the stages of a poll;
* `Poll.owed`, `Poll.unsettled`, `Poll.isCutOff` — what a stage still has to do;
* `Phase.current` — the poll of a phase.
-/

set_option autoImplicit false

namespace QueryFeed

variable {σ τ : Type}

/-! ### Events -/

/-- What can be noticed of a poller and of those who read its channels. -/
inductive Event (τ : Type) where
  /-- A poll began. -/
  | began
  /-- A poll failed. -/
  | failed (e : FeedError)
  /-- A channel took a failure. -/
  | reported (route : Route) (failure : Failure)
  /-- No channel took a failure, and the operator was told of it. -/
  | logged (e : FeedError)
  /-- The output took a message. -/
  | sent (message : Message τ)
  /-- A message was taken from the output, and there was a problem with passing it on or none. -/
  | taken (message : Message τ) (problem : Option String)
  /-- A failure was taken from a channel. -/
  | heard (route : Route) (failure : Failure)

namespace Event

/-- Whether a poll began. -/
@[simp] def isBegan : Event τ → Bool
  | began => true
  | _ => false

/-- The message that the output took. -/
@[simp] def sent? : Event τ → Option (Message τ)
  | sent message => some message
  | _ => none

/-- The message that was taken from the output, and the problem with it. -/
@[simp] def taken? : Event τ → Option (Message τ × Option String)
  | taken message problem => some (message, problem)
  | _ => none

/-- The error of the poll that failed. -/
@[simp] def failed? : Event τ → Option FeedError
  | failed e => some e
  | _ => none

/-- The error that arrived somewhere, on a channel or with the operator. -/
@[simp] def delivered? : Event τ → Option FeedError
  | reported _ failure => some failure.error
  | logged e => some e
  | _ => none

/-- The failure that the channel of a route took. -/
@[simp] def reported? (route : Route) : Event τ → Option Failure
  | reported way failure => if way = route then some failure else none
  | _ => none

/-- The failure that was taken from the channel of a route. -/
@[simp] def heard? (route : Route) : Event τ → Option Failure
  | heard way failure => if way = route then some failure else none
  | _ => none

end Event

/-! ### The events of a poll -/

/-- What can be noticed when a poll fails: without a channel the operator is told at once. -/
def Poller.failing (poller : Poller σ τ) (e : FeedError) (failed : Option Headers) :
    List (Event τ) :=
  match poller.channel? (poller.routeFor failed).1 with
  | none => [.failed e, .logged e]
  | some _ => [.failed e]

/-- What can be noticed when a poll begins. -/
def Poller.beginning (poller : Poller σ τ) (origin : MessageSource σ τ) : List (Event τ) :=
  match (origin.receive poller.stamp poller.source).result with
  | .error e => .began :: poller.failing e none
  | .ok _ => [.began]

/-- What can be noticed when the answer to a payload comes. -/
def Poller.answering (poller : Poller σ τ) (headers : Headers) : Delivery τ → List (Event τ)
  | .single (.error e) => poller.failing (.database e) (some headers)
  | _ => []

namespace Poll

/-- What can be noticed when a poll advances. -/
def events (origin : MessageSource σ τ) (poll : Poll τ) (poller : Poller σ τ) : List (Event τ) :=
  match poll with
  | .awaiting headers payload _ =>
      poller.answering headers (origin.answer payload poller.source).1
  | .delivering headers (.error e :: _) _ => poller.failing (.database e) (some headers)
  | .sendingRow _ row _ _ | .sendingOnly row =>
      match poller.output.offer row with
      | .accepted _ => [.sent row]
      | _ => []
  | .reporting route failure _ =>
      match poller.channel? route with
      | none => []
      | some channel =>
          match channel.offer failure with
          | .accepted _ => [.reported route failure]
          | .full => []
          | .closed => [.logged failure.error]
  | _ => []

/-! ### What a stage still has to do -/

/-- The failure that is still to be reported. -/
def owed : Poll τ → List FeedError
  | .reporting _ failure _ => [failure.error]
  | _ => []

/-- The number of messages that were sent and are still to be counted. -/
def unsettled : Poll τ → Nat
  | .delivering _ _ sent | .sendingRow _ _ _ sent | .reporting _ _ sent => sent
  | _ => 0

/-- Whether the output was closed before the poll was over. -/
def isCutOff : Poll τ → Bool
  | .finished outputOpen => !outputOpen
  | _ => false

end Poll

/-- The poll that is going on, or else the last one, which is over. -/
def Phase.current : Phase τ → Poll τ
  | .polling poll => poll
  | .stopped .outputClosed => .finished false
  | _ => .finished true

end QueryFeed
