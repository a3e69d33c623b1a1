import QueryFeed.Proofs.Poller.Script
import QueryFeed.Proofs.Run.Trace
import QueryFeed.Run.Page
import QueryFeed.Run.Schedule

/-!
**A schedule is one order of the moves.**

The schedule that the program follows lets each party work as long as it can and then moves the
clock. It makes moves and nothing else, so whatever holds of every state that is reached holds of
where the schedule arrives.

Main definitions:

* `RunSetup.onPage`, `Run.played` — the run of a script onto a page.

Main results:

* `Run.reaches_schedule` — **the schedule arrives at states that are reached**;
* `Run.traced_played` — the run of a script has a history.
-/

set_option autoImplicit false

namespace QueryFeed

variable {σ τ ω : Type}

/-- Scripted messages, written as lines of JSON onto a page. -/
def RunSetup.onPage (headers : Table String) (room : Option Nat) : RunSetup Script Json Page :=
  ⟨.scripted headers, Page.writer room none, Text.duration, fun payload => .whole payload.render⟩

namespace Run

section

variable {setup : RunSetup σ τ ω} {first run next : Run σ τ ω}

/-- What the poller does next is a move. -/
theorem Reaches.polls (h : Reaches setup first run) {polling : Polling σ τ}
    (step : run.polling.step setup.origin = some polling) :
    Reaches setup first { run with polling := polling } := by
  simp only [Polling.step, Option.or_eq_some_iff] at step
  rcases step with (hcheck | ⟨-, hnotice⟩) | ⟨-, htick | ⟨-, hwork⟩⟩
  · exact h.step .check (by rw [make, poll, hcheck]; rfl)
  · exact h.step .noticeShutdown (by rw [make, poll, hnotice]; rfl)
  · exact h.step .tick (by rw [make, poll, htick]; rfl)
  · exact h.step .work (by rw [make, poll, hwork]; rfl)

theorem Reaches.steps (h : Reaches setup first run) (count : Nat) :
    Reaches setup first { run with polling := run.polling.steps setup.origin count } := by
  induction count generalizing run with
  | zero => exact h
  | succ count ih =>
      unfold Polling.steps
      split
      · rename_i polling hstep
        exact ih (h.polls hstep)
      · exact h

/-- The poller goes on alone until a given time. -/
theorem Reaches.runUntil (h : Reaches setup first run) (time count rounds : Nat) :
    Reaches setup first
      { run with polling := run.polling.runUntil setup.origin time count rounds } := by
  induction rounds generalizing run with
  | zero => exact h
  | succ rounds ih =>
      have hsteps := h.steps count
      unfold Polling.runUntil
      simp only
      split
      · exact hsteps.step (.moveClock time) rfl
      · split
        · exact ih (hsteps.step (.moveClock _) rfl)
        · exact hsteps.step (.moveClock time) rfl

/-- What the runner does next is a move. -/
theorem Reaches.serve (h : Reaches setup first run) (serves : run.serve setup = some next) :
    Reaches setup first next := by
  simp only [Run.serve, Option.or_eq_some_iff] at serves
  rcases serves with (hinterrupt | ⟨-, hfailure | ⟨-, hmessage | ⟨-, hclosed⟩⟩⟩) |
    ⟨-, hdrain | ⟨-, hjoin⟩⟩
  · exact h.step .noticeInterrupt hinterrupt
  · exact h.step .takeFailure hfailure
  · exact h.step .takeMessage hmessage
  · exact h.step .noticeClosed hclosed
  · exact h.step .drain hdrain
  · exact h.step .join hjoin

theorem Reaches.serves (h : Reaches setup first run) (count : Nat) :
    Reaches setup first (run.serves setup count) := by
  induction count generalizing run with
  | zero => exact h
  | succ count ih =>
      unfold Run.serves
      split
      · rename_i next hnext
        exact ih (h.serve hnext)
      · exact h

theorem Reaches.round (h : Reaches setup first run) (count : Nat) :
    Reaches setup first (run.round setup count) :=
  (h.steps count).serves count

/-- The clock moves, and with it a shutdown may be asked for. -/
theorem Reaches.wake (h : Reaches setup first run) (time : Nat) (asked : Bool) :
    Reaches setup first
      (if asked then (run.moveClock time).interrupt else run.moveClock time) := by
  have hmoved := h.step (.moveClock time) rfl
  cases asked with
  | true => exact hmoved.step .interrupt rfl
  | false => exact hmoved

/-- **The schedule arrives at states that are reached.** -/
theorem reaches_schedule (h : Reaches setup first run) (interruptAt : Option Nat)
    (horizon count rounds : Nat) :
    Reaches setup first (run.schedule setup interruptAt horizon count rounds) := by
  induction rounds generalizing run with
  | zero => exact h
  | succ rounds ih =>
      have hround := h.round count
      unfold schedule
      simp only
      split
      · exact hround
      split
      · exact ih hround
      split
      · exact hround
      split
      · exact hround
      · exact ih (hround.wake _ _)

end

/-- The run of a script, up to its end or to a thousand milliseconds. -/
def played (setup : RunSetup Script Json Page) (script : Script) (options : RunOptions) :
    Run Script Json Page :=
  (Run.start script options 0 .blank).schedule setup none (ofMilliseconds 1000) 50 20

theorem traced_played (setup : RunSetup Script Json Page) (script : Script)
    (options : RunOptions) :
    ∃ events, Traced setup (Run.start script options 0 .blank) events
      (played setup script options) :=
  (reaches_schedule .start none (ofMilliseconds 1000) 50 20).traced

end Run

end QueryFeed
