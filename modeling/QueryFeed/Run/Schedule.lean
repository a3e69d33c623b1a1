import QueryFeed.Run.Basic

/-!
**One order of the steps of a run.**

The runner first looks whether there is anything to do, the poller then works until it has to wait, then
the runner works until it has to wait, and so on.  When both wait, the clock moves to the time at which
the next of them wakes up.  In its loop the runner looks for an interrupt first, then for failures, and
then for messages.

Main definitions: `Run.serve`, `Run.round`, `Run.schedule`.
-/

set_option autoImplicit false

namespace QueryFeed.Run

variable {σ τ ω : Type}

/-- What the runner does next, if anything. -/
def serve (setup : RunSetup σ τ ω) (run : Run σ τ ω) : Option (Run σ τ ω) :=
  (run.noticeInterrupt.or (run.takeFailure.or ((run.takeMessage setup).or run.noticeClosed))).or
    (run.drain.or run.join)

/-- The runner works until it has to wait; `count` bounds the number of steps. -/
def serves (setup : RunSetup σ τ ω) : Nat → Run σ τ ω → Run σ τ ω
  | 0, run => run
  | count + 1, run =>
      match run.serve setup with
      | some next => serves setup count next
      | none => run

/-- The poller works until it has to wait, and then the runner does. -/
def round (setup : RunSetup σ τ ω) (count : Nat) (run : Run σ τ ω) : Run σ τ ω :=
  serves setup count { run with polling := run.polling.steps setup.origin count }

/-- Whether the poller can take a step. -/
def pollerReady (setup : RunSetup σ τ ω) (run : Run σ τ ω) : Bool :=
  (run.polling.step setup.origin).isSome

/-- The earliest of two times. -/
def earliest : Option Nat → Option Nat → Option Nat
  | some a, some b => some (min a b)
  | a, none => a
  | none, b => b

/-- Runs both parties until the run has ended, or nothing happens any more up to the time `horizon`.
`interruptAt` is the time at which a shutdown is asked for. -/
def schedule (setup : RunSetup σ τ ω) (interruptAt : Option Nat) (horizon count : Nat) :
    Nat → Run σ τ ω → Run σ τ ω
  | 0, run => run
  | rounds + 1, run =>
      let run := run.round setup count
      if run.result?.isSome then run
      else if run.pollerReady setup then schedule setup interruptAt horizon count rounds run
      else
        let pending := if run.interrupted then none else interruptAt
        match earliest run.polling.wakeTime pending with
        | none => run
        | some time =>
            if horizon < time then run
            else
              let run := run.moveClock time
              let run := if pending.any (· ≤ time) then run.interrupt else run
              schedule setup interruptAt horizon count rounds run

end QueryFeed.Run
