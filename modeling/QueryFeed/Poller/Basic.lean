import QueryFeed.Poller.Poll
import QueryFeed.Text.Duration

/-!
**Polling at an interval.**

Polling goes on until a number of polls is reached, a shutdown is signalled, or the output is closed.
The first poll comes at once, and each further one an interval after the last tick; a tick that is more
than five milliseconds late starts a new count.  A shutdown is noticed only between polls.

Main definitions:

* `Polling` — a poller at some point of its loop;
* `Polling.check`, `Polling.noticeShutdown`, `Polling.tick`, `Polling.work` — what it can do;
* `Polling.step` — what it does next;
* `Polling.wakeTime` — when it can go on, if nothing else happens.
-/

set_option autoImplicit false

namespace QueryFeed

variable {σ τ : Type}

/-- Why polling stopped. -/
inductive StopReason where
  | shutdown
  | maxPolls
  | outputClosed
  deriving DecidableEq

/-- The name of a reason. -/
def StopReason.name : StopReason → String
  | shutdown => "Shutdown"
  | maxPolls => "MaxPolls"
  | outputClosed => "OutputClosed"

/-! ### Intervals -/

/-- The shortest interval. -/
def shortestInterval : Nat := ofMilliseconds 1

/-- The interval that is used for a requested one, and the notice if they differ. -/
def effectiveInterval (requested : Nat) : Nat × List Notice :=
  if requested < shortestInterval then
    (shortestInterval, [.shortInterval (Text.duration requested)])
  else (requested, [])

/-- A long enough interval is used as it stands. -/
theorem effectiveInterval_of_le {requested : Nat} (h : shortestInterval ≤ requested) :
    effectiveInterval requested = (requested, []) :=
  if_neg (Nat.not_lt.2 h)

/-- How late a tick may be and still count as being on time. -/
def tickTolerance : Nat := ofMilliseconds 5

/-- The time of the next tick after one that was due at `deadline` and came at `now`. -/
def nextDeadline (interval deadline now : Nat) : Nat :=
  if deadline + tickTolerance < now then now + interval else deadline + interval

/-- The time at which the clock, which counts whole milliseconds, wakes somebody up. -/
def wholeMilliseconds (time : Nat) : Nat := ofMilliseconds ((time + 999999) / 1000000)

/-! ### The loop -/

/-- Where the loop is. -/
inductive Phase (τ : Type) where
  /-- The limit is checked next. -/
  | checking
  /-- A tick or a shutdown is waited for. -/
  | waiting
  /-- A poll is going on. -/
  | polling (poll : Poll τ)
  /-- The loop is over. -/
  | stopped (reason : StopReason)

/-- A poller at some point of its loop.  `began` holds the times at which polls began. -/
structure Polling (σ τ : Type) where
  poller : Poller σ τ
  interval : Nat
  maxPolls : Option Nat
  polls : Nat
  deadline : Nat
  began : List Nat
  shutdown : Bool
  phase : Phase τ

namespace Polling

/-- The beginning of the loop. -/
def start (poller : Poller σ τ) (interval : Nat) (maxPolls : Option Nat) : Polling σ τ :=
  ⟨poller, interval, maxPolls, 0, poller.now, [], false, .checking⟩

/-- Why the loop is over, if it is. -/
def reason? (polling : Polling σ τ) : Option StopReason :=
  match polling.phase with
  | .stopped reason => some reason
  | _ => none

theorem reason?_eq_some {polling : Polling σ τ} {reason : StopReason} :
    polling.reason? = some reason ↔ polling.phase = .stopped reason := by
  unfold reason?
  split
  · rename_i other hphase
    rw [hphase, Option.some_inj, Phase.stopped.injEq]
  · rename_i hother
    exact ⟨nofun, fun h => absurd h (hother reason)⟩

/-- Checks the limit. -/
def check (polling : Polling σ τ) : Option (Polling σ τ) :=
  match polling.phase with
  | .checking =>
      some { polling with
        phase := if polling.maxPolls.any (· ≤ polling.polls) then .stopped .maxPolls else .waiting }
  | _ => none

/-- Notices a shutdown while waiting for a tick. -/
def noticeShutdown (polling : Polling σ τ) : Option (Polling σ τ) :=
  match polling.phase with
  | .waiting => if polling.shutdown then some { polling with phase := .stopped .shutdown } else none
  | _ => none

/-- Takes a tick that is due, and begins a poll. -/
def tick (origin : MessageSource σ τ) (polling : Polling σ τ) : Option (Polling σ τ) :=
  match polling.phase with
  | .waiting =>
      let now := polling.poller.now
      if polling.deadline ≤ now then
        let (poll, poller) := polling.poller.begin origin
        some { polling with
          poller := poller
          polls := polling.polls + 1
          deadline := nextDeadline polling.interval polling.deadline now
          began := polling.began ++ [now]
          phase := .polling poll }
      else none
  | _ => none

/-- Advances the poll that is going on. -/
def work (origin : MessageSource σ τ) (polling : Polling σ τ) : Option (Polling σ τ) :=
  match polling.phase with
  | .polling (.finished outputOpen) =>
      some { polling with phase := if outputOpen then .checking else .stopped .outputClosed }
  | .polling poll =>
      (poll.advance origin polling.poller).map fun (poll, poller) =>
        { polling with poller := poller, phase := .polling poll }
  | _ => none

/-- What the poller does next; nothing where it waits or is over.  A shutdown goes before a tick. -/
def step (origin : MessageSource σ τ) (polling : Polling σ τ) : Option (Polling σ τ) :=
  (polling.check.or polling.noticeShutdown).or ((polling.tick origin).or (polling.work origin))

/-- Goes on until the poller waits or is over; `steps` bounds the number of steps. -/
def steps (origin : MessageSource σ τ) : Nat → Polling σ τ → Polling σ τ
  | 0, polling => polling
  | count + 1, polling =>
      match polling.step origin with
      | some next => steps origin count next
      | none => polling

/-- Signals a shutdown, and says whether somebody listens. -/
def signal (polling : Polling σ τ) : Bool × Polling σ τ :=
  (polling.reason?.isNone, { polling with shutdown := true })

/-- The time at which a poller that waits can go on by itself. -/
def wakeTime (polling : Polling σ τ) : Option Nat :=
  match polling.phase with
  | .waiting => some (wholeMilliseconds polling.deadline)
  | .polling (.awaiting _ _ due) => due.map wholeMilliseconds
  | _ => none

/-- Sets the clock, which stands still once the loop is over. -/
def moveClock (polling : Polling σ τ) (time : Nat) : Polling σ τ :=
  if polling.reason?.isSome then polling
  else { polling with poller := { polling.poller with now := max polling.poller.now time } }

/-- Goes on until a given time.  Each round runs the poller until it waits, and then moves the clock to
the time at which it wakes up; `rounds` bounds their number and `count` the steps of each. -/
def runUntil (origin : MessageSource σ τ) (time count : Nat) : Nat → Polling σ τ → Polling σ τ
  | 0, polling => polling
  | rounds + 1, polling =>
      let polling := polling.steps origin count
      match polling.wakeTime with
      | none => polling.moveClock time
      | some wake =>
          if wake ≤ time then runUntil origin time count rounds (polling.moveClock wake)
          else polling.moveClock time

end Polling

end QueryFeed
