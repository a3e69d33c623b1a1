import QueryFeed.Channel
import QueryFeed.MessageSource

/-!
**One poll.**

A poll asks the source for a payload, runs it, and forwards a message for each row.  A failure is
reported once: on the channel that the message names, or else on the standard channel, or else to the
operator.  Sending and reporting wait while a channel is full, so a poll goes through stages, and each
stage either advances or waits.

Main definitions:

* `Poller` — what polls work with;
* `Poll` — the stages of a poll;
* `Poller.begin`, `Poll.advance` — the first stage, and the step from one stage to the next;
* `Poller.settle` — the stage at which a poll is finished or has to wait.
-/

set_option autoImplicit false

namespace QueryFeed

variable {σ τ : Type}

/-- What polls work with: the source, the channels for messages and failures, counters, the number of
the next identity, the time, and what was told the operator. -/
structure Poller (σ τ : Type) where
  source : σ
  output : Channel (Message τ)
  errors : Option (Channel Failure)
  namedErrors : Table (Channel Failure)
  stats : Stats
  nextId : Nat
  now : Nat
  notices : List Notice

/-- Which channel takes a failure. -/
inductive Route where
  | standard
  | named (name : String)
  deriving DecidableEq

/-- The stages of a poll.  `sent` counts the messages of the poll that were sent. -/
inductive Poll (τ : Type) where
  /-- The payload runs, and its answer comes at the time `due`, if ever. -/
  | awaiting (headers : Headers) (payload : Payload τ) (due : Option Nat)
  /-- Items of the answer are left. -/
  | delivering (headers : Headers) (items : List (Except Database.Error τ)) (sent : Nat)
  /-- The message of a row is to be sent, and items are left. -/
  | sendingRow (headers : Headers) (row : Message τ) (items : List (Except Database.Error τ))
      (sent : Nat)
  /-- The message of the only row is to be sent. -/
  | sendingOnly (row : Message τ)
  /-- A failure is to be reported. -/
  | reporting (route : Route) (failure : Failure) (sent : Nat)
  /-- The poll is over; `outputOpen` tells whether the output took all messages. -/
  | finished (outputOpen : Bool)

namespace Poller

/-! ### Counting and telling -/

/-- A new identity, issued now. -/
def stamp (poller : Poller σ τ) : Stamp := ⟨⟨poller.nextId⟩, poller.now⟩

/-- The poller after it used its stamp. -/
def stamped (poller : Poller σ τ) : Poller σ τ := { poller with nextId := poller.nextId + 1 }

/-- Changes the counters. -/
def counted (poller : Poller σ τ) (record : Stats → Stats) : Poller σ τ :=
  { poller with stats := record poller.stats }

/-- Tells the operator. -/
def tell (poller : Poller σ τ) (notices : List Notice) : Poller σ τ :=
  { poller with notices := poller.notices ++ notices }

/-- Counts the messages that a failed poll sent, if there are any. -/
def countSent (poller : Poller σ τ) (sent : Nat) : Poller σ τ :=
  if sent = 0 then poller else poller.counted (·.recordMessages (UInt64.ofNat sent))

/-! ### Reporting -/

/-- The channel for failures of a message, and a notice where the message names one that is not there. -/
def routeFor (poller : Poller σ τ) (failed : Option Headers) : Route × List Notice :=
  match failed.bind (·.get? errorChannel) with
  | none => (.standard, [])
  | some name =>
      if Table.contains poller.namedErrors name then (.named name, [])
      else (.standard, [.unknownErrorChannel name])

/-- The channel of a route. -/
def channel? (poller : Poller σ τ) : Route → Option (Channel Failure)
  | .standard => poller.errors
  | .named name => Table.get? poller.namedErrors name

/-- Puts back the channel of a route. -/
def withChannel (poller : Poller σ τ) (route : Route) (channel : Channel Failure) : Poller σ τ :=
  match route with
  | .standard => { poller with errors := some channel }
  | .named name => { poller with namedErrors := Table.insert poller.namedErrors name channel }

/-- Reports an error of the poll, or of the message with the given headers.  Without a channel the
operator is told at once. -/
def report (poller : Poller σ τ) (component : String) (e : FeedError) (failed : Option Headers)
    (sent : Nat) : Poll τ × Poller σ τ :=
  let (route, notices) := poller.routeFor failed
  let poller := poller.tell notices
  match poller.channel? route with
  | none => (.finished true, (poller.tell [.failedPoll component e]).countSent sent)
  | some _ =>
      let failure := match failed with
        | none => Failure.ofPoll poller.stamp component e
        | some headers => Failure.ofMessage poller.stamp component e headers
      (.reporting route failure sent, poller.stamped)

/-! ### Beginning -/

/-- Begins a poll: asks the source, and submits the payload. -/
def begin (poller : Poller σ τ) (origin : MessageSource σ τ) : Poll τ × Poller σ τ :=
  let poller := poller.counted Stats.recordPoll
  let polled := origin.receive poller.stamp poller.source
  let poller := { poller.stamped.tell polled.notices with source := polled.source }
  match polled.result with
  | .error e =>
      (poller.counted Stats.recordResolutionFailure).report origin.component e none 0
  | .ok message =>
      let (due, source) := origin.submit poller.now message.payload poller.source
      (.awaiting message.headers message.payload due, { poller with source := source })

/-- Counts and reports an error of the database. -/
def failDatabase (poller : Poller σ τ) (component : String) (e : Database.Error) (headers : Headers)
    (sent : Nat) : Poll τ × Poller σ τ :=
  (poller.counted Stats.recordDatabaseFailure).report component (.database e) (some headers) sent

/-- Takes the answer to a payload. -/
def takeAnswer (poller : Poller σ τ) (component : String) (headers : Headers) :
    Delivery τ → Poll τ × Poller σ τ
  | .single (.ok (some value)) => (.sendingOnly ⟨headers, value⟩, poller)
  | .single (.ok none) => (.finished true, poller.counted (·.recordMessages 0))
  | .single (.error e) => poller.failDatabase component e headers 0
  | .stream items => (.delivering headers items 0, poller)

end Poller

/-! ### Advancing -/

namespace Poll

/-- The next stage of a poll; nothing where the poll has to wait, or is over. -/
def advance (origin : MessageSource σ τ) (poll : Poll τ) (poller : Poller σ τ) :
    Option (Poll τ × Poller σ τ) :=
  let component := origin.component
  match poll with
  | .awaiting headers payload due =>
      if due.any (· ≤ poller.now) then
        let (delivery, source) := origin.answer payload poller.source
        some ({ poller with source := source }.takeAnswer component headers delivery)
      else none
  | .delivering _ [] sent =>
      some (.finished true, poller.counted (·.recordMessages (UInt64.ofNat sent)))
  | .delivering headers (.ok value :: items) sent =>
      some (.sendingRow headers ⟨headers.ofRow poller.stamp (sent + 1), value⟩ items sent,
        poller.stamped)
  | .delivering headers (.error e :: _) sent =>
      some (poller.failDatabase component e headers sent)
  | .sendingRow headers row items sent =>
      match poller.output.offer row with
      | .accepted output => some (.delivering headers items (sent + 1), { poller with output := output })
      | .full => none
      | .closed => some (.finished false, poller.tell [.outputClosed component])
  | .sendingOnly row =>
      match poller.output.offer row with
      | .accepted output =>
          some (.finished true, { poller with output := output }.counted (·.recordMessages 1))
      | .full => none
      | .closed => some (.finished false, poller.tell [.outputClosed component])
  | .reporting route failure sent =>
      match poller.channel? route with
      | none => none
      | some channel =>
          match channel.offer failure with
          | .accepted channel =>
              some (.finished true, (poller.withChannel route channel).countSent sent)
          | .full => none
          | .closed =>
              some (.finished true,
                (poller.tell [.closedErrorChannel component failure.error]).countSent sent)
  | .finished _ => none

/-- A bound for the number of steps that a poll can still take without waiting. -/
def stepsLeft : Poll τ → Nat
  | .awaiting _ _ _ => 1
  | .delivering _ items _ => 2 * items.length + 2
  | .sendingRow _ _ items _ => 2 * items.length + 3
  | .sendingOnly _ => 1
  | .reporting _ _ _ => 1
  | .finished _ => 0

/-- Advances a number of times, or until the poll waits or is over. -/
def advances (origin : MessageSource σ τ) : Nat → Poll τ → Poller σ τ → Poll τ × Poller σ τ
  | 0, poll, poller => (poll, poller)
  | steps + 1, poll, poller =>
      match poll.advance origin poller with
      | some (poll, poller) => advances origin steps poll poller
      | none => (poll, poller)

/-- Advances until the poll waits or is over. -/
def settle (origin : MessageSource σ τ) (poll : Poll τ) (poller : Poller σ τ) :
    Poll τ × Poller σ τ :=
  let (poll, poller) := poll.advances origin poll.stepsLeft poller
  poll.advances origin poll.stepsLeft poller

end Poll

/-- Polls once: until the poll is over, or has to wait. -/
def Poller.pollOnce (origin : MessageSource σ τ) (poller : Poller σ τ) : Poll τ × Poller σ τ :=
  let (poll, poller) := poller.begin origin
  poll.settle origin poller

end QueryFeed
