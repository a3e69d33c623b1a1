import Mathlib.Data.Prod.Lex
import QueryFeed.Proofs.Run.Progress

/-!
**Every step of a party comes closer to the end.**

A run with a limit for its polls has a rank.  First come the polls that are left, then how far the
current poll is, then how many of its rows are left, and last what the runner has to take and where it
is.  Every step of the poller lowers one of the first three, whatever it gives the runner to do, and
every step of the runner lowers the last one and leaves the others as they are.  So there is no endless
sequence of steps.

Main definitions:

* `Polling.rank` — what a poller has left to do;
* `Run.load`, `Run.rank` — what a run has left to do.

Main results:

* `Polling.rank_of_tick`, `Polling.rank_of_work` — a step of the poller lowers its rank;
* `Run.lighter_of_runner` — a step of the runner takes something or comes closer to the end;
* `Run.rank_of_party` — **every step of a party lowers the rank of the run**;
* `Run.rank_of_surroundings` — nothing else changes the rank.
-/

set_option autoImplicit false

namespace QueryFeed

variable {σ τ ω : Type}

/-! ### Pollers -/

namespace Phase

/-- How far the poller is between two polls, counted down. -/
def rank : Phase τ → Nat
  | .polling poll => if poll.isAwaiting then 4 else 3
  | .checking => 2
  | .waiting => 1
  | .stopped _ => 0

/-- How many steps its poll has left. -/
def stepsLeft : Phase τ → Nat
  | .polling poll => poll.stepsLeft
  | _ => 0

end Phase

namespace Polling

/-- What a poller has left to do: polls up to its limit, stages, and steps. -/
def rank (limit : Nat) (polling : Polling σ τ) : Nat ×ₗ Nat ×ₗ Nat :=
  toLex (limit - polling.polls, toLex (polling.phase.rank, polling.phase.stepsLeft))

section

variable {origin : MessageSource σ τ} {polling next : Polling σ τ}

theorem rank_congr (limit : Nat) (polls : next.polls = polling.polls)
    (phase : next.phase = polling.phase) : next.rank limit = polling.rank limit := by
  rw [rank, rank, polls, phase]

theorem rank_lt_of_phase (limit : Nat) (polls : next.polls = polling.polls)
    (phase : next.phase.rank < polling.phase.rank) : next.rank limit < polling.rank limit := by
  rw [rank, rank, polls, Prod.Lex.toLex_lt_toLex]
  exact Or.inr ⟨rfl, Prod.Lex.toLex_lt_toLex.2 (Or.inl phase)⟩

theorem rank_lt_of_stepsLeft (limit : Nat) (polls : next.polls = polling.polls)
    (phase : next.phase.rank = polling.phase.rank)
    (steps : next.phase.stepsLeft < polling.phase.stepsLeft) :
    next.rank limit < polling.rank limit := by
  rw [rank, rank, polls, phase, Prod.Lex.toLex_lt_toLex]
  exact Or.inr ⟨rfl, Prod.Lex.toLex_lt_toLex.2 (Or.inr ⟨rfl, steps⟩)⟩

theorem rank_of_check (limit : Nat) (h : polling.check = some next) :
    next.rank limit < polling.rank limit := by
  obtain ⟨hphase, ⟨_, -, -, rfl⟩ | ⟨-, rfl⟩⟩ := check_cases h
  · exact rank_lt_of_phase limit rfl (by rw [hphase]; exact Nat.two_pos)
  · exact rank_lt_of_phase limit rfl (by rw [hphase]; exact Nat.one_lt_two)

theorem rank_of_noticeShutdown (limit : Nat) (h : polling.noticeShutdown = some next) :
    next.rank limit < polling.rank limit := by
  obtain ⟨hphase, -, rfl⟩ := noticeShutdown_cases h
  exact rank_lt_of_phase limit rfl (by rw [hphase]; exact Nat.one_pos)

/-- A poll that begins is one of those up to the limit. -/
theorem rank_of_tick {limit : Nat} (limited : polling.Limited)
    (maxPolls : polling.maxPolls = some limit) (h : polling.tick origin = some next) :
    next.rank limit < polling.rank limit := by
  obtain ⟨hphase, -, rfl⟩ := tick_cases h
  -- the limit was checked before this tick
  have hbelow := limited.waiting hphase limit maxPolls
  rw [rank, rank, Prod.Lex.toLex_lt_toLex]
  left
  change limit - (polling.polls + 1) < limit - polling.polls
  omega

theorem rank_of_work (limit : Nat) (h : polling.work origin = some next) :
    next.rank limit < polling.rank limit := by
  rcases work_cases h with
    ⟨outputOpen, hphase, -, rfl⟩ | ⟨poll, after, poller, hphase, -, hadvance, rfl⟩
  · refine rank_lt_of_phase limit rfl ?_
    rw [hphase]
    cases outputOpen with
    | true => exact Nat.lt_succ_self 2
    | false => exact Nat.succ_pos 2
  · -- the number of rows is not known before the answer, so having it is a stage of its own
    obtain ⟨hnext, hawaiting | hfewer⟩ := (Poll.step_of_advance hadvance).descends
    · refine rank_lt_of_phase limit rfl ?_
      rw [hphase, Phase.rank, Phase.rank, hnext, hawaiting]
      decide
    · cases hbefore : poll.isAwaiting with
      | true =>
          refine rank_lt_of_phase limit rfl ?_
          rw [hphase, Phase.rank, Phase.rank, hnext, hbefore]
          decide
      | false =>
          refine rank_lt_of_stepsLeft limit rfl ?_ ?_
          · rw [hphase, Phase.rank, Phase.rank, hnext, hbefore]
          · rw [hphase]
            exact hfewer

end

end Polling

/-! ### Runs -/

/-- How far the runner is, counted down. -/
def RunPhase.rank : RunPhase → Nat
  | .looping => 2
  | .draining _ => 1
  | .finished _ => 0

namespace Run

/-- What the runner has to take, and how far it is. -/
def load (run : Run σ τ ω) : Nat :=
  run.poller.output.queue.length + run.waitingFailures.length + run.phase.rank

/-- What a run has left to do: what its poller has, and then what the runner has to take. -/
def rank (limit : Nat) (run : Run σ τ ω) : (Nat ×ₗ Nat ×ₗ Nat) ×ₗ Nat :=
  toLex (run.polling.rank limit, run.load)

/-- A step of the runner leaves the polls as they are, and takes something or comes closer to the
end. -/
structure Lighter (run next : Run σ τ ω) : Prop where
  polls : next.polling.polls = run.polling.polls
  phase : next.polling.phase = run.polling.phase
  load : next.load < run.load

theorem Lighter.rank {run next : Run σ τ ω} (h : Lighter run next) (limit : Nat) :
    next.rank limit < run.rank limit := by
  rw [Run.rank, Run.rank, Prod.Lex.toLex_lt_toLex]
  exact Or.inr ⟨Polling.rank_congr limit h.polls h.phase, h.load⟩

theorem Lighter.trans {first second third : Run σ τ ω} (h : Lighter first second)
    (after : Lighter second third) : Lighter first third :=
  ⟨after.polls.trans h.polls, after.phase.trans h.phase, Nat.lt_trans after.load h.load⟩

/-- Leaving the loop comes closer to the end, and drops what is in the output. -/
theorem lighter_leave (run : Run σ τ ω) (looping : run.phase = .looping) (ending : Option RunEnd) :
    Lighter run (run.leave ending) := by
  refine ⟨rfl, rfl, ?_⟩
  have hload : (run.leave ending).load = 0 + run.waitingFailures.length + 1 := rfl
  rw [hload, load, looping, RunPhase.rank]
  omega

/-- A failure that is taken is one less to take. -/
theorem lighter_record {run popped : Run σ τ ω} {failure : Failure}
    (pop : run.popFailure = some (failure, popped)) : Lighter run (popped.record failure) := by
  obtain ⟨polling, htake, rfl, -⟩ := popFailure_cases pop
  obtain ⟨channel, first, rest, hfound, hqueue, rfl⟩ := Polling.takeFailure_cases htake
  have herrors : run.poller.errors = some channel := hfound
  have hwaiting : run.waitingFailures = first :: rest := by
    rw [waitingFailures, herrors, Option.map_some, Option.getD_some, hqueue]
  rw [record_eq]
  refine ⟨rfl, rfl, ?_⟩
  rw [load, load, hwaiting, List.length_cons]
  change run.poller.output.queue.length + rest.length + run.phase.rank < _
  omega

section

variable {setup : RunSetup σ τ ω} {run next : Run σ τ ω}

/-- A message that is taken is one less to take. -/
theorem lighter_takeMessage (h : run.takeMessage setup = some next) : Lighter run next := by
  obtain ⟨hphase, message, rest, polling, problem, out, hqueue, htake, -, hnext⟩ :=
    takeMessage_cases h
  obtain ⟨first, others, hsame, rfl⟩ := Polling.takeMessage_cases htake
  obtain ⟨-, rfl⟩ : message = first ∧ rest = others := List.cons.inj (hqueue.symm.trans hsame)
  have hwritten : ∀ problem, Lighter run (run.written
      (run.polling.withPoller { run.polling.poller with
        output := { run.polling.poller.output with queue := rest } }) out problem) := by
    intro problem
    have hless : rest.length + run.waitingFailures.length + run.phase.rank < run.load := by
      rw [load, hqueue, List.length_cons]
      omega
    cases problem with
    | some reason => exact ⟨rfl, rfl, hless⟩
    | none => exact ⟨rfl, rfl, hless⟩
  rcases hnext with ⟨reason, rfl, rfl⟩ | ⟨rfl, -, rfl⟩ | ⟨rfl, -, rfl⟩
  · exact (hwritten _).trans (lighter_leave (run.written _ out (some reason)) hphase none)
  · exact (hwritten _).trans (lighter_leave (run.written _ out none) hphase _)
  · exact hwritten _

/-- **Every step of the runner takes something or comes closer to the end.** -/
theorem lighter_of_runner {move : Move} (runner : move.isRunner = true)
    (h : run.make setup move = some next) : Lighter run next := by
  cases move with
  | noticeInterrupt =>
      obtain ⟨hphase, -, rfl⟩ := noticeInterrupt_cases h
      exact lighter_leave _ hphase _
  | takeFailure =>
      obtain ⟨hphase, failure, popped, hpop, ⟨-, -, rfl⟩ | ⟨-, rfl⟩⟩ := takeFailure_cases h
      · have hlooping := (sameButFailures_record hpop).phase.trans hphase
        exact (lighter_record hpop).trans (lighter_leave _ hlooping none)
      · exact lighter_record hpop
  | takeMessage => exact lighter_takeMessage h
  | noticeClosed =>
      obtain ⟨hphase, -, -, rfl⟩ := noticeClosed_cases h
      exact lighter_leave _ hphase none
  | drain =>
      obtain ⟨left, failure, popped, -, hpop, rfl⟩ := drain_cases h
      exact lighter_record hpop
  | join =>
      obtain ⟨left, reason, hphase, -, -, rfl⟩ := join_cases h
      refine ⟨rfl, rfl, ?_⟩
      rw [load, load, hphase]
      exact Nat.lt_succ_self _
  | check | noticeShutdown | tick | work | interrupt | moveClock => cases runner

/-- **Every step of a party lowers the rank of the run.** -/
theorem rank_of_party {limit : Nat} {move : Move} (limited : run.polling.Limited)
    (maxPolls : run.polling.maxPolls = some limit) (party : move.isParty = true)
    (h : run.make setup move = some next) : next.rank limit < run.rank limit := by
  have hpoller : ∀ polling : Polling σ τ, polling.rank limit < run.polling.rank limit →
      ({ run with polling := polling } : Run σ τ ω).rank limit < run.rank limit := by
    intro polling hless
    exact Prod.Lex.toLex_lt_toLex.2 (Or.inl hless)
  cases move with
  | check =>
      obtain ⟨polling, hpolling, rfl⟩ := Option.map_eq_some_iff.1 h
      exact hpoller polling (Polling.rank_of_check limit hpolling)
  | noticeShutdown =>
      obtain ⟨polling, hpolling, rfl⟩ := Option.map_eq_some_iff.1 h
      exact hpoller polling (Polling.rank_of_noticeShutdown limit hpolling)
  | tick =>
      obtain ⟨polling, hpolling, rfl⟩ := Option.map_eq_some_iff.1 h
      exact hpoller polling (Polling.rank_of_tick limited maxPolls hpolling)
  | work =>
      obtain ⟨polling, hpolling, rfl⟩ := Option.map_eq_some_iff.1 h
      exact hpoller polling (Polling.rank_of_work limit hpolling)
  | interrupt | moveClock => cases party
  | noticeInterrupt | takeFailure | takeMessage | noticeClosed | drain | join =>
      exact (lighter_of_runner rfl h).rank limit

/-- Moves of the surroundings leave the poller's phase, its polls and its next tick alone, and let no
time go back. -/
theorem surroundings_frame {move : Move} (party : move.isParty = false)
    (h : run.make setup move = some next) :
    next.polling.phase = run.polling.phase ∧ next.polling.polls = run.polling.polls ∧
      next.polling.deadline = run.polling.deadline ∧ next.load = run.load ∧
      run.poller.now ≤ next.poller.now := by
  cases move with
  | interrupt =>
      cases h
      exact ⟨rfl, rfl, rfl, rfl, Nat.le_refl _⟩
  | moveClock time =>
      cases h
      unfold moveClock Polling.moveClock
      split
      · exact ⟨rfl, rfl, rfl, rfl, Nat.le_refl _⟩
      · exact ⟨rfl, rfl, rfl, rfl, Nat.le_max_left _ _⟩
  | _ => cases party

/-- Nothing but the parties changes the rank. -/
theorem rank_of_surroundings (limit : Nat) {move : Move} (party : move.isParty = false)
    (h : run.make setup move = some next) : next.rank limit = run.rank limit := by
  obtain ⟨hphase, hpolls, -, hload, -⟩ := surroundings_frame party h
  rw [rank, rank, Polling.rank_congr limit hpolls hphase, hload]

end

end Run

end QueryFeed
