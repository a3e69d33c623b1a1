import QueryFeed.Proofs.Poller.Room
import QueryFeed.Proofs.Run.Outcome

/-!
**Runs never deadlock.**

As long as a run has not ended, one of its parties can take a step, or the poller waits for time to
pass: for its next tick, or for the answer of the database.  A poller that waits for room in a channel
never waits alone, for then the runner has something to take from this channel.

Main definitions:

* `Run.Move.isParty`, `Run.Move.isRunner` — whose move it is;
* `Run.CanStep`, `Run.RunnerCanStep` — who can take a step;
* `Run.AwaitsTick`, `Run.AwaitsAnswer`, `Run.AwaitsRoom` — what the poller waits for;
* `Run.Parted` — what the runner leaves behind.

Main results:

* `Run.Traced.parted` — the runner closes the output and signals a shutdown when it leaves its loop;
* `Run.Traced.runnerCanStep` — **while the poller waits for room, the runner can take a step**;
* `Run.Traced.progress` — **a run that has not ended can go on, or waits for time to pass**.
-/

set_option autoImplicit false

namespace QueryFeed.Run

variable {σ τ ω : Type}

/-! ### Who can take a step -/

/-- Whether a move is made by the poller or the runner, and not by their surroundings. -/
def Move.isParty : Move → Bool
  | interrupt | moveClock _ => false
  | _ => true

/-- Whether a move is made by the runner. -/
def Move.isRunner : Move → Bool
  | noticeInterrupt | takeFailure | takeMessage | noticeClosed | drain | join => true
  | _ => false

/-- One of the parties can take a step. -/
def CanStep (setup : RunSetup σ τ ω) (run : Run σ τ ω) : Prop :=
  ∃ move, move.isParty = true ∧ (run.make setup move).isSome

/-- The runner can take a step. -/
def RunnerCanStep (setup : RunSetup σ τ ω) (run : Run σ τ ω) : Prop :=
  ∃ move, move.isRunner = true ∧ (run.make setup move).isSome

theorem Move.isParty_of_isRunner {move : Move} (h : move.isRunner = true) :
    move.isParty = true := by
  cases move with
  | interrupt | moveClock => cases h
  | _ => rfl

theorem RunnerCanStep.canStep {setup : RunSetup σ τ ω} {run : Run σ τ ω}
    (h : run.RunnerCanStep setup) : run.CanStep setup := by
  obtain ⟨move, hrunner, hmade⟩ := h
  exact ⟨move, Move.isParty_of_isRunner hrunner, hmade⟩

/-! ### What the poller waits for -/

/-- The poller waits for its next tick, and no shutdown is signalled. -/
def AwaitsTick (run : Run σ τ ω) : Prop :=
  run.polling.phase = .waiting ∧ run.polling.shutdown = false ∧
    run.poller.now < run.polling.deadline

/-- The poller waits for an answer of the database. -/
def AwaitsAnswer (run : Run σ τ ω) : Prop :=
  ∃ poll, run.polling.phase = .polling poll ∧ poll.AwaitsAnswer run.poller

/-- The poller waits for room in a channel. -/
def AwaitsRoom (run : Run σ τ ω) : Prop :=
  ∃ poll, run.polling.phase = .polling poll ∧ poll.AwaitsRoom run.poller

instance (run : Run σ τ ω) : Decidable run.AwaitsRoom :=
  match hphase : run.polling.phase with
  | .polling poll =>
      decidable_of_iff (poll.AwaitsRoom run.poller)
        ⟨fun hroom => ⟨poll, hphase, hroom⟩, fun ⟨_, hsame, hroom⟩ =>
          Phase.polling.inj (hsame.symm.trans hphase) ▸ hroom⟩
  | .checking | .waiting | .stopped _ =>
      isFalse fun ⟨_, hsame, _⟩ => nomatch hphase.symm.trans hsame

/-! ### Moves of the runner that are possible -/

section

variable {setup : RunSetup σ τ ω} {run : Run σ τ ω}

theorem isSome_popFailure (waiting : run.waitingFailures ≠ []) : run.popFailure.isSome := by
  unfold popFailure
  split
  · rename_i hnone
    exact absurd hnone waiting
  · rfl

theorem canStep_of_failure (going : ∀ ending, run.phase ≠ .finished ending)
    (waiting : run.waitingFailures ≠ []) : run.RunnerCanStep setup := by
  have hpop := isSome_popFailure waiting
  cases hphase : run.phase with
  | looping =>
      refine ⟨.takeFailure, rfl, ?_⟩
      rw [make, takeFailure, if_pos hphase, Option.isSome_map]
      exact hpop
  | draining ending =>
      refine ⟨.drain, rfl, ?_⟩
      simp only [make, drain, hphase, Option.isSome_map]
      exact hpop
  | finished ending => exact absurd hphase (going ending)

theorem canStep_of_message (looping : run.phase = .looping) (waiting : run.poller.output.queue ≠ []) :
    run.RunnerCanStep setup := by
  refine ⟨.takeMessage, rfl, ?_⟩
  rw [make, takeMessage, if_pos looping]
  split
  · rename_i hnone
    exact absurd hnone waiting
  · simp only
    split
    · rfl
    · split <;> rfl

theorem canStep_of_closed (looping : run.phase = .looping) (empty : run.poller.output.queue = [])
    {reason : StopReason} (stopped : run.polling.phase = .stopped reason) :
    run.RunnerCanStep setup := by
  refine ⟨.noticeClosed, rfl, ?_⟩
  have hreason := Polling.reason?_eq_some.2 stopped
  rw [make, noticeClosed, looping, empty, hreason]
  rfl

theorem canStep_of_stopped {ending : Option RunEnd} (draining : run.phase = .draining ending)
    (empty : run.waitingFailures = []) {reason : StopReason}
    (stopped : run.polling.phase = .stopped reason) : run.RunnerCanStep setup := by
  refine ⟨.join, rfl, ?_⟩
  have hreason := Polling.reason?_eq_some.2 stopped
  simp only [make, join, draining, hreason, empty]
  rfl

end

/-! ### What the runner leaves behind -/

/-- When the runner has left its loop, the output is closed and a shutdown is signalled. -/
def Parted (run : Run σ τ ω) : Prop :=
  run.phase ≠ .looping → run.polling.poller.output.isOpen = false ∧ run.polling.shutdown = true

theorem parted_leave (run : Run σ τ ω) (ending : Option RunEnd) : (run.leave ending).Parted :=
  fun _ => ⟨rfl, rfl⟩

theorem Parted.make {setup : RunSetup σ τ ω} {run next : Run σ τ ω} {move : Move} (h : run.Parted)
    (made : run.make setup move = some next) : next.Parted := by
  cases hact : move.act? with
  | some act =>
      obtain ⟨polling, hperform, rfl⟩ := make_of_act hact made
      obtain ⟨hopen, hshutdown, -, -⟩ := Polling.own_frame hperform (isOwn_of_act hact)
      intro hleft
      obtain ⟨hclosed, hsignalled⟩ := h hleft
      exact ⟨hopen.trans hclosed, hshutdown.trans hsignalled⟩
  | none =>
      cases move with
      | noticeInterrupt =>
          obtain ⟨-, -, rfl⟩ := noticeInterrupt_cases made
          exact parted_leave _ _
      | takeFailure =>
          obtain ⟨hphase, failure, popped, hpop, ⟨-, -, rfl⟩ | ⟨-, rfl⟩⟩ := takeFailure_cases made
          · exact parted_leave _ _
          · exact fun hleft => absurd ((sameButFailures_record hpop).phase.trans hphase) hleft
      | takeMessage =>
          obtain ⟨hphase, message, rest, polling, problem, out, -, -, -, hnext⟩ :=
            takeMessage_cases made
          rcases hnext with ⟨reason, -, rfl⟩ | ⟨-, -, rfl⟩ | ⟨rfl, -, rfl⟩
          · exact parted_leave _ _
          · exact parted_leave _ _
          · exact fun hleft => absurd hphase hleft
      | noticeClosed =>
          obtain ⟨-, -, -, rfl⟩ := noticeClosed_cases made
          exact parted_leave _ _
      | drain =>
          obtain ⟨left, failure, popped, hphase, hpop, rfl⟩ := drain_cases made
          have hsame := sameButFailures_record hpop
          intro hleft
          rw [hsame.phase] at hleft
          rw [hsame.output, hsame.shutdown]
          exact h hleft
      | join =>
          obtain ⟨left, reason, hphase, -, -, rfl⟩ := join_cases made
          exact fun _ => h (by rw [hphase]; nofun)
      | interrupt =>
          cases made
          exact h
      | _ => cases hact

/-! ### Progress -/

section

variable {setup : RunSetup σ τ ω} {source : σ} {options : RunOptions} {firstId : Nat} {out : ω}
  {events : List (Event τ)} {run : Run σ τ ω}

/-- **The runner closes the output and signals a shutdown when it leaves its loop.** -/
theorem Traced.parted (h : Traced setup (Run.start source options firstId out) events run) :
    run.Parted := by
  induction h with
  | start => exact fun hleft => absurd rfl hleft
  | step _ _ made ih => exact ih.make made

/-- The poller of a run has room for messages and for failures. -/
theorem Traced.rooms (h : Traced setup (Run.start source options firstId out) events run) :
    run.poller.output.capacity = messageRoom ∧ ∃ channel, run.poller.errors = some channel ∧
      channel.isOpen = true ∧ channel.capacity = failureRoom := by
  have hrooms := h.polling.capacity
  obtain ⟨channel, hfound, hopen⟩ := (h.polling.wired (wired_start ..)).standard
  have hcapacity := hrooms.errors .standard
  rw [hfound] at hcapacity
  exact ⟨hrooms.output, channel, hfound, hopen, Option.some.inj hcapacity⟩

/-- **While the poller waits for room, the runner can take a step**: it can take something from the
channel that is full. -/
theorem Traced.runnerCanStep (h : Traced setup (Run.start source options firstId out) events run)
    (waits : run.AwaitsRoom) : run.RunnerCanStep setup := by
  obtain ⟨poll, hphase, hroom⟩ := waits
  obtain ⟨houtput, channel, herrors, -, hcapacity⟩ := h.rooms
  have hgoing : ∀ ending, run.phase ≠ .finished ending := by
    intro ending hfinished
    obtain ⟨_, _, -, -, hstopped, -⟩ := h.sound.finished ending hfinished
    rw [hphase] at hstopped
    cases hstopped
  have hmessage : ∀ row, run.poller.output.offer row = .full → run.RunnerCanStep setup := by
    intro row hfull
    obtain ⟨hopen, hlength⟩ := Channel.full_of_offer hfull
    refine canStep_of_message (Classical.byContradiction fun hleft => ?_) ?_
    · have hclosed : run.poller.output.isOpen = false := (h.parted hleft).1
      rw [hclosed] at hopen
      cases hopen
    · rw [houtput] at hlength
      exact List.ne_nil_of_length_pos (Nat.lt_of_lt_of_le (by decide) hlength)
  cases poll with
  | awaiting | delivering | finished => exact hroom.elim
  | sendingRow headers row => exact hmessage row hroom
  | sendingOnly row => exact hmessage row hroom
  | reporting route failure =>
      obtain ⟨full, hfound, hfull⟩ := hroom
      obtain ⟨-, hlength⟩ := Channel.full_of_offer hfull
      refine canStep_of_failure hgoing ?_
      cases route with
      | named name =>
          have hunnamed : run.poller.channel? (.named name) = none :=
            (h.polling.wired (wired_start ..)).unnamed name
          rw [hunnamed] at hfound
          cases hfound
      | standard =>
          rw [waitingFailures, herrors]
          obtain rfl : full = channel := Option.some.inj (hfound.symm.trans herrors)
          rw [hcapacity] at hlength
          exact List.ne_nil_of_length_pos (Nat.lt_of_lt_of_le (by decide) hlength)

/-- **A run that has not ended can go on, or waits for time to pass.** -/
theorem Traced.progress (h : Traced setup (Run.start source options firstId out) events run)
    (going : ∀ ending, run.phase ≠ .finished ending) :
    run.CanStep setup ∨ run.AwaitsTick ∨ run.AwaitsAnswer := by
  cases hphase : run.polling.phase with
  | checking =>
      refine Or.inl ⟨.check, rfl, ?_⟩
      simp only [make, poll, Polling.check, hphase]
      rfl
  | waiting =>
      cases hshutdown : run.polling.shutdown with
      | true =>
          refine Or.inl ⟨.noticeShutdown, rfl, ?_⟩
          simp only [make, poll, Polling.noticeShutdown, hphase, hshutdown]
          rfl
      | false =>
          by_cases hdue : run.polling.deadline ≤ run.polling.poller.now
          · refine Or.inl ⟨.tick, rfl, ?_⟩
            simp only [make, poll, Polling.tick, hphase, hdue, if_true]
            rfl
          · exact Or.inr (Or.inl ⟨hphase, hshutdown, Nat.lt_of_not_le hdue⟩)
  | polling poll =>
      have hrouted := h.polling.routed rfl
      rw [Polling.Routed, hphase] at hrouted
      rcases Poll.advances_or_waits setup.origin hrouted with
        hadvance | ⟨outputOpen, rfl⟩ | hanswer | hroom
      · exact Or.inl ⟨.work, rfl, by
          rw [make, Run.poll, Option.isSome_map, Polling.isSome_work hphase hadvance]⟩
      · refine Or.inl ⟨.work, rfl, ?_⟩
        simp only [make, Run.poll, Polling.work, hphase]
        rfl
      · exact Or.inr (Or.inr ⟨poll, hphase, hanswer⟩)
      · exact Or.inl (h.runnerCanStep ⟨poll, hphase, hroom⟩).canStep
  | stopped reason =>
      -- nobody sends any more, so the runner takes what is left and then leaves or joins
      left
      by_cases hwaiting : run.waitingFailures = []
      · cases hrunner : run.phase with
        | looping =>
            by_cases hempty : run.poller.output.queue = []
            · exact (canStep_of_closed hrunner hempty hphase).canStep
            · exact (canStep_of_message hrunner hempty).canStep
        | draining ending => exact (canStep_of_stopped hrunner hwaiting hphase).canStep
        | finished ending => exact absurd hrunner (going ending)
      · exact (canStep_of_failure going hwaiting).canStep

end

end QueryFeed.Run
