import QueryFeed.Configuration.Basic
import QueryFeed.Poller.Basic

/-!
**Runs: polling and writing.**

A run has two parties.  The poller sends messages and failures through two bounded channels; the runner
writes each message as a line and counts the failures.  The runner leaves its loop when it is
interrupted, when enough messages are written, when a line cannot be written, at the first fatal
failure, or when the poller is done.  Then it closes the output, signals a shutdown, takes the failures
that are still to come, and waits for the poller to stop.

The parties take their steps in any order; each step is a function that is defined where the step is
possible.

Main definitions:

* `Writer`, `Writer.putLine` — where lines go, and how;
* `Run` — the state of both parties;
* `Run.Move`, `Run.make` — the steps;
* `Run.Reaches` — the states that can be reached by steps;
* `Run.result?` — how a run ends.
-/

set_option autoImplicit false

namespace QueryFeed

variable {σ τ ω : Type}

/-! ### Writing -/

/-- Where lines go.  Writing and flushing may fail with a reason. -/
structure Writer (ω : Type) where
  /-- Writes characters. -/
  write : List Char → ω → Option String × ω
  /-- Makes sure that nothing is held back. -/
  flush : ω → Option String × ω

/-- Writes a line with its line break and flushes, and gives the reason if that failed.  Of a line that
ends early the beginning is written. -/
def Writer.putLine (writer : Writer ω) (line : Encoding) (out : ω) : Option String × ω :=
  match line.fault with
  | none =>
      match writer.write (line.text ++ ['\n']) out with
      | (some reason, out) => (some reason, out)
      | (none, out) => writer.flush out
  | some fault =>
      match writer.write line.text out with
      | (some reason, out) => (some reason, out)
      | (none, out) => (some fault, out)

/-! ### States -/

/-- Why a run ended. -/
inductive RunEnd where
  | poller (reason : StopReason)
  | messageLimit
  | interrupted
  deriving DecidableEq

/-- The description of an end. -/
def RunEnd.describe : RunEnd → String
  | poller reason => "Poller(" ++ reason.name ++ ")"
  | messageLimit => "MessageLimit"
  | interrupted => "Interrupted"

/-- The outcome of a run that did not fail. -/
structure RunSummary where
  ending : RunEnd
  emitted : Nat
  failures : Nat
  stats : Stats

/-- Where the runner is. -/
inductive RunPhase where
  /-- In its loop. -/
  | looping
  /-- Taking the failures that are still to come.  Without an end of its own, the run ends as the poller
  does. -/
  | draining (ending : Option RunEnd)
  /-- Done, with the end of the run. -/
  | finished (ending : RunEnd)
  deriving DecidableEq

/-- The state of a run.  `interrupted` tells whether a shutdown was asked for from outside. -/
structure Run (σ τ ω : Type) where
  polling : Polling σ τ
  phase : RunPhase
  interrupted : Bool
  maxMessages : Option Nat
  emitted : Nat
  failures : Nat
  fatal : Option FeedError
  writeError : Option String
  out : ω

/-- The surroundings of a run: its source, and how messages are written. -/
structure RunSetup (σ τ ω : Type) where
  origin : MessageSource σ τ
  writer : Writer ω
  clock : Nat → String
  encode : τ → Encoding

namespace Run

/-- The room for messages that are not written yet. -/
def messageRoom : Nat := 256

/-- The room for failures that are not counted yet. -/
def failureRoom : Nat := 64

/-- The beginning of a run with the interval that is used, and the notices about it. -/
def startAt (source : σ) (options : RunOptions) (firstId : Nat) (out : ω)
    (interval : Nat × List Notice) : Run σ τ ω :=
  let poller : Poller σ τ :=
    ⟨source, .empty messageRoom, some (.empty failureRoom), [], .zero, firstId, 0, interval.2⟩
  ⟨.start poller interval.1 options.maxPolls, .looping, false, options.maxMessages, 0, 0, none, none, out⟩

/-- The beginning of a run. -/
def start (source : σ) (options : RunOptions) (firstId : Nat) (out : ω) : Run σ τ ω :=
  startAt source options firstId out (effectiveInterval (ofMilliseconds options.intervalMs))

/-- What the poller works with. -/
def poller (run : Run σ τ ω) : Poller σ τ := run.polling.poller

/-- Changes what the poller works with. -/
def withPoller (run : Run σ τ ω) (poller : Poller σ τ) : Run σ τ ω :=
  { run with polling := { run.polling with poller := poller } }

/-- The failures that wait to be taken. -/
def waitingFailures (run : Run σ τ ω) : List Failure := (run.poller.errors.map (·.queue)).getD []

/-! ### Steps of the runner -/

/-- Counts a failure and tells the operator.  The first fatal one is kept instead of counted. -/
def record (run : Run σ τ ω) (failure : Failure) : Run σ τ ω :=
  let run := run.withPoller (run.poller.tell [.failedPoll failure.component failure.error])
  if failure.error.isFatal then { run with fatal := run.fatal.or (some failure.error) }
  else { run with failures := run.failures + 1 }

/-- Leaves the loop: closes the output and signals a shutdown. -/
def leave (run : Run σ τ ω) (ending : Option RunEnd) : Run σ τ ω :=
  let run := run.withPoller { run.poller with output := run.poller.output.close }
  { run with polling := run.polling.signal.2, phase := .draining ending }

/-- Notices that a shutdown was asked for. -/
def noticeInterrupt (run : Run σ τ ω) : Option (Run σ τ ω) :=
  if run.phase = .looping && run.interrupted then some (run.leave (some .interrupted)) else none

/-- Takes a failure off its channel. -/
def popFailure (run : Run σ τ ω) : Option (Failure × Run σ τ ω) :=
  match run.waitingFailures with
  | [] => none
  | failure :: _ =>
      let errors := run.poller.errors.map fun channel => (channel.take 1).2
      some (failure, run.withPoller { run.poller with errors := errors })

/-- Takes a failure in the loop; the first fatal one ends it. -/
def takeFailure (run : Run σ τ ω) : Option (Run σ τ ω) :=
  if run.phase = .looping then
    run.popFailure.map fun (failure, run) =>
      let recorded := run.record failure
      if failure.error.isFatal && run.fatal.isNone then recorded.leave none else recorded
  else none

/-- Takes a message in the loop and writes it.  A write that failed and the last message allowed end
the loop. -/
def takeMessage (setup : RunSetup σ τ ω) (run : Run σ τ ω) : Option (Run σ τ ω) :=
  if run.phase = .looping then
    match run.poller.output.queue with
    | [] => none
    | message :: _ =>
        let run := run.withPoller { run.poller with output := (run.poller.output.take 1).2 }
        match setup.writer.putLine (message.line setup.clock setup.encode) run.out with
        | (some reason, out) => some ({ run with out := out, writeError := some reason }.leave none)
        | (none, out) =>
            let run := { run with out := out, emitted := run.emitted + 1 }
            if run.maxMessages.any (· ≤ run.emitted) then some (run.leave (some .messageLimit))
            else some run
  else none

/-- Notices that the poller is done and all its messages are written. -/
def noticeClosed (run : Run σ τ ω) : Option (Run σ τ ω) :=
  if run.phase = .looping && run.poller.output.queue.isEmpty && run.polling.reason?.isSome then
    some (run.leave none)
  else none

/-- Takes a failure after the loop. -/
def drain (run : Run σ τ ω) : Option (Run σ τ ω) :=
  match run.phase with
  | .draining _ => run.popFailure.map fun (failure, run) => run.record failure
  | _ => none

/-- Ends the run when the poller has stopped and no failure is left. -/
def join (run : Run σ τ ω) : Option (Run σ τ ω) :=
  match run.phase, run.polling.reason? with
  | .draining ending, some reason =>
      if run.waitingFailures.isEmpty then
        some { run with phase := .finished (ending.getD (.poller reason)) }
      else none
  | _, _ => none

/-! ### Steps of the poller and of the surroundings -/

/-- Lets the poller take a step. -/
def poll (run : Run σ τ ω) (move : Polling σ τ → Option (Polling σ τ)) : Option (Run σ τ ω) :=
  (move run.polling).map fun polling => { run with polling := polling }

/-- A shutdown is asked for from outside. -/
def interrupt (run : Run σ τ ω) : Run σ τ ω := { run with interrupted := true }

/-- Time passes. -/
def moveClock (run : Run σ τ ω) (time : Nat) : Run σ τ ω :=
  { run with polling := run.polling.moveClock time }

/-- The moves of a run: those of the poller, those of the runner, and what comes from outside. -/
inductive Move where
  | check
  | noticeShutdown
  | tick
  | work
  | noticeInterrupt
  | takeFailure
  | takeMessage
  | noticeClosed
  | drain
  | join
  | interrupt
  | moveClock (time : Nat)

/-- The state after a move, where the move is possible. -/
def make (setup : RunSetup σ τ ω) (run : Run σ τ ω) : Move → Option (Run σ τ ω)
  | .check => run.poll Polling.check
  | .noticeShutdown => run.poll Polling.noticeShutdown
  | .tick => run.poll (Polling.tick setup.origin)
  | .work => run.poll (Polling.work setup.origin)
  | .noticeInterrupt => run.noticeInterrupt
  | .takeFailure => run.takeFailure
  | .takeMessage => run.takeMessage setup
  | .noticeClosed => run.noticeClosed
  | .drain => run.drain
  | .join => run.join
  | .interrupt => some run.interrupt
  | .moveClock time => some (run.moveClock time)

/-- The states that can be reached by moves, in any order. -/
inductive Reaches (setup : RunSetup σ τ ω) (first : Run σ τ ω) : Run σ τ ω → Prop where
  | start : Reaches setup first first
  | step {run next : Run σ τ ω} (reached : Reaches setup first run) (move : Move)
      (h : run.make setup move = some next) : Reaches setup first next

/-! ### Results -/

/-- The result of a run that has ended: a write that failed goes before a fatal failure. -/
def result? (run : Run σ τ ω) : Option (Except FeedError RunSummary) :=
  match run.phase with
  | .finished ending =>
      match run.writeError, run.fatal with
      | some reason, _ => some (.error (.output reason))
      | none, some e => some (.error e)
      | none, none => some (.ok ⟨ending, run.emitted, run.failures, run.poller.stats⟩)
  | _ => none

end Run

end QueryFeed
