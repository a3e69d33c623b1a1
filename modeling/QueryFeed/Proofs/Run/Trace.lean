import QueryFeed.Proofs.Poller.Acts
import QueryFeed.Run.Basic

/-!
**Histories of runs.**

A run is a poller and a runner that take turns.  Each move of the run is one act of the poller or of
the clock, or else a move of the runner, which for the poller is nothing but an act of those around
it.  So whatever holds of every history of a poller holds in every run.

Main definitions:

* `Run.happenings` — what can be noticed of a move;
* `Run.Traced` — the histories of a run.

Main results:

* `Run.Reaches.traced` — every state that is reached has a history;
* `Run.takeFailure_cases`, `Run.takeMessage_cases` and the like — everything that each move of the
  runner can do;
* `Run.Traced.polling` — **the history of a run is a history of its poller**.
-/

set_option autoImplicit false

namespace QueryFeed

variable {σ τ ω : Type}

namespace Run

/-! ### Histories -/

/-- The act that a move is, if it is one of the poller or of the clock. -/
def Move.act? : Move → Option Polling.Act
  | check => some .check
  | noticeShutdown => some .noticeShutdown
  | tick => some .tick
  | work => some .work
  | moveClock time => some (.moveClock time)
  | _ => none

/-- The problem with writing the next message, or none. -/
def problem (setup : RunSetup σ τ ω) (run : Run σ τ ω) : Option String :=
  match run.poller.output.queue with
  | [] => none
  | message :: _ => (setup.writer.putLine (message.line setup.clock setup.encode) run.out).1

/-- What can be noticed of a move. -/
def happenings (setup : RunSetup σ τ ω) (run : Run σ τ ω) : Move → List (Event τ)
  | .tick => run.polling.happenings setup.origin .tick
  | .work => run.polling.happenings setup.origin .work
  | .takeFailure | .drain => run.polling.happenings setup.origin (.takeFailure .standard)
  | .takeMessage => run.polling.happenings setup.origin (.takeMessage (run.problem setup))
  | _ => []

/-- The histories of a run: what can be noticed up to a state, when moves are made in any order. -/
inductive Traced (setup : RunSetup σ τ ω) (first : Run σ τ ω) :
    List (Event τ) → Run σ τ ω → Prop where
  | start : Traced setup first [] first
  | step {events : List (Event τ)} {run next : Run σ τ ω} (traced : Traced setup first events run)
      (move : Move) (h : run.make setup move = some next) :
      Traced setup first (events ++ run.happenings setup move) next

/-- Every state that is reached has a history. -/
theorem Reaches.traced {setup : RunSetup σ τ ω} {first run : Run σ τ ω}
    (h : Reaches setup first run) : ∃ events, Traced setup first events run := by
  induction h with
  | start => exact ⟨[], .start⟩
  | step _ move made ih =>
      obtain ⟨events, htraced⟩ := ih
      exact ⟨_, htraced.step move made⟩

/-! ### Moves of the poller -/

theorem make_of_act {setup : RunSetup σ τ ω} {run next : Run σ τ ω} {move : Move}
    {act : Polling.Act} (own : move.act? = some act) (h : run.make setup move = some next) :
    ∃ polling, run.polling.perform setup.origin act = some polling ∧
      next = { run with polling := polling } := by
  cases move with
  | check | noticeShutdown | tick | work =>
      cases own
      obtain ⟨polling, hpolling, hnext⟩ := Option.map_eq_some_iff.1 h
      exact ⟨polling, hpolling, hnext.symm⟩
  | moveClock time =>
      cases own
      cases h
      exact ⟨_, rfl, rfl⟩
  | _ => cases own

theorem happenings_of_act {setup : RunSetup σ τ ω} (run : Run σ τ ω) {move : Move}
    {act : Polling.Act} (own : move.act? = some act) :
    run.happenings setup move = run.polling.happenings setup.origin act := by
  cases move <;> cases own <;> rfl

theorem isOwn_of_act {move : Move} {act : Polling.Act} (own : move.act? = some act) :
    act.IsOwn := by
  cases move <;> cases own <;> trivial

/-! ### Moves of the runner -/

/-- The failure that is taken is the next one for the reader of the standard channel. -/
theorem popFailure_cases {run popped : Run σ τ ω} {failure : Failure}
    (h : run.popFailure = some (failure, popped)) :
    ∃ polling, run.polling.takeFailure .standard = some polling ∧
      popped = { run with polling := polling } ∧
      ∀ origin : MessageSource σ τ,
        run.polling.happenings origin (.takeFailure .standard) = [.heard .standard failure] := by
  unfold popFailure waitingFailures at h
  cases herrors : run.poller.errors with
  | none =>
      rw [herrors] at h
      cases h
  | some channel =>
      have hfound : run.polling.poller.channel? .standard = some channel := herrors
      rw [herrors] at h
      cases hqueue : channel.queue with
      | nil =>
          simp only [Option.map_some, Option.getD_some, hqueue] at h
          cases h
      | cons first rest =>
          simp only [Option.map_some, Option.getD_some, hqueue] at h
          obtain ⟨rfl, rfl⟩ := Prod.mk.inj (Option.some.inj h)
          refine ⟨_, ?_, rfl, ?_⟩
          · simp only [Polling.takeFailure, hfound, hqueue]
            rfl
          · intro origin
            simp only [Polling.happenings, hfound, hqueue]

theorem happenings_takeFailure {setup : RunSetup σ τ ω} {run popped : Run σ τ ω} {failure : Failure}
    (pop : run.popFailure = some (failure, popped)) :
    run.happenings setup .takeFailure = [.heard .standard failure] := by
  obtain ⟨_, -, -, hheard⟩ := popFailure_cases pop
  exact hheard setup.origin

theorem happenings_drain {setup : RunSetup σ τ ω} {run popped : Run σ τ ω} {failure : Failure}
    (pop : run.popFailure = some (failure, popped)) :
    run.happenings setup .drain = [.heard .standard failure] :=
  happenings_takeFailure pop

theorem noticeInterrupt_cases {run next : Run σ τ ω} (h : run.noticeInterrupt = some next) :
    run.phase = .looping ∧ run.interrupted = true ∧ next = run.leave (some .interrupted) := by
  unfold noticeInterrupt at h
  split at h
  · rename_i hcond
    rw [Bool.and_eq_true, decide_eq_true_eq] at hcond
    exact ⟨hcond.1, hcond.2, (Option.some.inj h).symm⟩
  · cases h

theorem takeFailure_cases {run next : Run σ τ ω} (h : run.takeFailure = some next) :
    run.phase = .looping ∧ ∃ failure popped, run.popFailure = some (failure, popped) ∧
      ((failure.error.isFatal = true ∧ popped.fatal = none ∧
          next = (popped.record failure).leave none) ∨
        (¬(failure.error.isFatal = true ∧ popped.fatal = none) ∧
          next = popped.record failure)) := by
  unfold takeFailure at h
  split at h
  · rename_i hphase
    refine ⟨hphase, ?_⟩
    obtain ⟨⟨failure, popped⟩, hpop, hnext⟩ := Option.map_eq_some_iff.1 h
    refine ⟨failure, popped, hpop, ?_⟩
    simp only [Bool.and_eq_true, Option.isNone_iff_eq_none] at hnext
    split at hnext
    · rename_i hcond
      exact Or.inl ⟨hcond.1, hcond.2, hnext.symm⟩
    · rename_i hcond
      exact Or.inr ⟨hcond, hnext.symm⟩
  · cases h

/-- The state after writing the next message, whether there was a problem with it or not. -/
def written (run : Run σ τ ω) (polling : Polling σ τ) (out : ω) : Option String → Run σ τ ω
  | some reason => { run with polling := polling, out := out, writeError := some reason }
  | none => { run with polling := polling, out := out, emitted := run.emitted + 1 }

theorem takeMessage_cases {setup : RunSetup σ τ ω} {run next : Run σ τ ω}
    (h : run.takeMessage setup = some next) :
    run.phase = .looping ∧ ∃ message rest polling problem out,
      run.poller.output.queue = message :: rest ∧
      run.polling.takeMessage = some polling ∧
      setup.writer.putLine (message.line setup.clock setup.encode) run.out = (problem, out) ∧
      ((∃ reason, problem = some reason ∧ next = (run.written polling out problem).leave none) ∨
        (problem = none ∧ (∃ limit, run.maxMessages = some limit ∧ limit ≤ run.emitted + 1) ∧
          next = (run.written polling out problem).leave (some .messageLimit)) ∨
        (problem = none ∧ (∀ limit, run.maxMessages = some limit → run.emitted + 1 < limit) ∧
          next = run.written polling out problem)) := by
  unfold takeMessage at h
  split at h
  · rename_i hphase
    refine ⟨hphase, ?_⟩
    split at h
    · cases h
    · rename_i message rest hqueue
      have htake : run.polling.takeMessage = some (run.polling.withPoller
          { run.polling.poller with output := (run.polling.poller.output.take 1).2 }) := by
        have hpolling : run.polling.poller.output.queue = message :: rest := hqueue
        simp only [Polling.takeMessage, hpolling]
      cases hput : setup.writer.putLine (message.line setup.clock setup.encode) run.out with
      | mk problem out =>
          refine ⟨message, rest, _, problem, out, hqueue, htake, hput, ?_⟩
          have hsame : setup.writer.putLine (message.line setup.clock setup.encode)
              (run.withPoller { run.poller with output := (run.poller.output.take 1).2 }).out =
                (problem, out) := hput
          simp only [hsame] at h
          cases problem with
          | some reason => exact Or.inl ⟨reason, rfl, (Option.some.inj h).symm⟩
          | none =>
              right
              simp only [Option.any_eq_true, decide_eq_true_eq] at h
              split at h
              · rename_i hlimit
                exact Or.inl ⟨rfl, hlimit, (Option.some.inj h).symm⟩
              · rename_i hlimit
                refine Or.inr ⟨rfl, ?_, (Option.some.inj h).symm⟩
                intro limit hsome
                exact Nat.lt_of_not_le fun hle => hlimit ⟨limit, hsome, hle⟩
  · cases h

theorem noticeClosed_cases {run next : Run σ τ ω} (h : run.noticeClosed = some next) :
    run.phase = .looping ∧ run.poller.output.queue = [] ∧
      (∃ reason, run.polling.phase = .stopped reason) ∧ next = run.leave none := by
  unfold noticeClosed at h
  split at h
  · rename_i hcond
    simp only [Bool.and_eq_true, decide_eq_true_eq, List.isEmpty_iff,
      Option.isSome_iff_exists, Polling.reason?_eq_some] at hcond
    exact ⟨hcond.1.1, hcond.1.2, hcond.2, (Option.some.inj h).symm⟩
  · cases h

/-- The message that is taken is the next one, and the problem is that with writing it. -/
theorem happenings_takeMessage {setup : RunSetup σ τ ω} {run : Run σ τ ω} {message : Message τ}
    {rest : List (Message τ)} {problem : Option String} {out : ω}
    (queue : run.poller.output.queue = message :: rest)
    (put : setup.writer.putLine (message.line setup.clock setup.encode) run.out = (problem, out)) :
    run.happenings setup .takeMessage = [.taken message problem] := by
  have hproblem : run.problem setup = problem := by simp only [Run.problem, queue, put]
  have hqueue : run.polling.poller.output.queue = message :: rest := queue
  simp only [happenings, Polling.happenings, hqueue, hproblem]

theorem drain_cases {run next : Run σ τ ω} (h : run.drain = some next) :
    ∃ ending failure popped, run.phase = .draining ending ∧
      run.popFailure = some (failure, popped) ∧ next = popped.record failure := by
  unfold drain at h
  split at h
  · rename_i ending hphase
    obtain ⟨⟨failure, popped⟩, hpop, hnext⟩ := Option.map_eq_some_iff.1 h
    exact ⟨ending, failure, popped, hphase, hpop, hnext.symm⟩
  · cases h

theorem join_cases {run next : Run σ τ ω} (h : run.join = some next) :
    ∃ ending reason, run.phase = .draining ending ∧ run.polling.phase = .stopped reason ∧
      run.waitingFailures = [] ∧
      next = { run with phase := .finished (ending.getD (.poller reason)) } := by
  unfold join at h
  split at h
  · rename_i ending reason hphase hreason
    split at h
    · rename_i hwaiting
      exact ⟨ending, reason, hphase, Polling.reason?_eq_some.1 hreason,
        List.isEmpty_iff.1 hwaiting, (Option.some.inj h).symm⟩
    · cases h
  · cases h

/-! ### The poller of a run -/

/-- Recording a failure tells the operator, and counts it or keeps it. -/
theorem record_eq (run : Run σ τ ω) (failure : Failure) :
    run.record failure = { run with
      polling := run.polling.withPoller
        (run.poller.tell [.failedPoll failure.component failure.error])
      failures := run.failures + [failure.error].countP fun e => !e.isFatal
      fatal := run.fatal.or ([failure.error].find? FeedError.isFatal) } := by
  unfold record
  split
  · rename_i hfatal
    simp only [List.countP_singleton, List.find?_singleton, hfatal]
    rfl
  · rename_i hfatal
    simp only [List.countP_singleton, List.find?_singleton, hfatal, Bool.false_eq_true, if_false,
      Option.or_none]
    rfl

section

variable {origin : MessageSource σ τ} {first : Polling σ τ} {events : List (Event τ)}

/-- Telling the operator of a failure is not noticed. -/
theorem traced_record {run : Run σ τ ω}
    (h : Polling.Traced origin Polling.Act.SparesErrors first events run.polling)
    (failure : Failure) :
    Polling.Traced origin Polling.Act.SparesErrors first events
      (run.record failure).polling := by
  rw [record_eq]
  exact h.silent (.tell [.failedPoll failure.component failure.error]) trivial rfl rfl

/-- Leaving the loop is not noticed. -/
theorem traced_leave {run : Run σ τ ω}
    (h : Polling.Traced origin Polling.Act.SparesErrors first events run.polling)
    (ending : Option RunEnd) :
    Polling.Traced origin Polling.Act.SparesErrors first events
      (run.leave ending).polling := by
  have hclosed := h.silent .closeOutput trivial rfl rfl
  exact hclosed.silent .signal trivial rfl rfl

theorem traced_popFailure {run popped : Run σ τ ω} {failure : Failure}
    (h : Polling.Traced origin Polling.Act.SparesErrors first events run.polling)
    (pop : run.popFailure = some (failure, popped)) :
    Polling.Traced origin Polling.Act.SparesErrors first
      (events ++ run.polling.happenings origin (.takeFailure .standard)) popped.polling := by
  obtain ⟨polling, htake, rfl, -⟩ := popFailure_cases pop
  exact h.step (.takeFailure .standard) trivial htake

end

/-- A move is noticed as the acts that it means for the poller. -/
theorem traced_make {setup : RunSetup σ τ ω} {first : Polling σ τ} {events : List (Event τ)}
    {run next : Run σ τ ω} {move : Move}
    (h : Polling.Traced setup.origin Polling.Act.SparesErrors first events run.polling)
    (made : run.make setup move = some next) :
    Polling.Traced setup.origin Polling.Act.SparesErrors first
      (events ++ run.happenings setup move) next.polling := by
  -- a move of the runner takes something from a channel, or is not noticed at all
  cases hact : move.act? with
  | some act =>
      obtain ⟨polling, hperform, rfl⟩ := make_of_act hact made
      rw [happenings_of_act run hact]
      exact h.step act (by cases move <;> cases hact <;> trivial) hperform
  | none =>
      have hsilent : run.happenings setup move = [] →
          Polling.Traced setup.origin Polling.Act.SparesErrors first events next.polling →
          Polling.Traced setup.origin Polling.Act.SparesErrors first
            (events ++ run.happenings setup move) next.polling := by
        intro hnothing hnext
        rw [hnothing, List.append_nil]
        exact hnext
      cases move with
      | noticeInterrupt =>
          obtain ⟨-, -, rfl⟩ := noticeInterrupt_cases made
          exact hsilent rfl (traced_leave h _)
      | takeFailure =>
          obtain ⟨-, failure, popped, hpop, ⟨-, -, rfl⟩ | ⟨-, rfl⟩⟩ := takeFailure_cases made
          · exact traced_leave (traced_record (traced_popFailure h hpop) failure) none
          · exact traced_record (traced_popFailure h hpop) failure
      | takeMessage =>
          obtain ⟨-, message, rest, polling, problem, out, hqueue, htake, hput, hnext⟩ :=
            takeMessage_cases made
          have hstep := h.step (.takeMessage (run.problem setup)) trivial htake
          rcases hnext with ⟨reason, rfl, rfl⟩ | ⟨rfl, -, rfl⟩ | ⟨rfl, -, rfl⟩
          · exact traced_leave hstep none
          · exact traced_leave hstep _
          · exact hstep
      | noticeClosed =>
          obtain ⟨-, -, -, rfl⟩ := noticeClosed_cases made
          exact hsilent rfl (traced_leave h none)
      | drain =>
          obtain ⟨ending, failure, popped, -, hpop, rfl⟩ := drain_cases made
          exact traced_record (traced_popFailure h hpop) failure
      | join =>
          obtain ⟨ending, reason, -, -, -, rfl⟩ := join_cases made
          exact hsilent rfl h
      | interrupt =>
          cases made
          exact hsilent rfl h
      | _ => cases hact

/-- **The history of a run is a history of its poller**, whose channel for failures stays open. -/
theorem Traced.polling {setup : RunSetup σ τ ω} {first run : Run σ τ ω} {events : List (Event τ)}
    (h : Traced setup first events run) :
    Polling.Traced setup.origin Polling.Act.SparesErrors first.polling events
      run.polling := by
  induction h with
  | start => exact .start
  | step _ _ made ih => exact traced_make ih made

end Run

end QueryFeed
