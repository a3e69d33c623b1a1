import QueryFeed.Proofs.Poller.Stopping
import QueryFeed.Proofs.Poller.Wiring
import QueryFeed.Proofs.Run.Trace
import QueryFeed.Proofs.Run.Writing

/-!
**What the runner keeps.**

The runner keeps two numbers and two errors, and it stays in its loop only while there is room for
another message and neither error is there.  When it has left, it remembers why.  All of this agrees
with what was noticed: with the messages and the failures that the runner took, in the order in
which it took them.

Main definitions:

* `errorsHeard` — the errors that the runner heard of, in order;
* `Run.Kept` — the numbers and the errors agree with the history;
* `Run.Sound` — the phase of the runner agrees with the rest.

Main results:

* `Run.Sound.make`, `Run.Kept.make` — **every move keeps the agreement**;
* `Run.Traced.writes` — **the messages that were taken are what is written**.
-/

set_option autoImplicit false

namespace QueryFeed

variable {σ τ ω : Type}

/-- The errors that the runner heard of, in order. -/
def errorsHeard (events : List (Event τ)) : List FeedError :=
  (events.filterMap (Event.heard? .standard)).map Failure.error

theorem errorsHeard_append (events more : List (Event τ)) :
    errorsHeard (events ++ more) = errorsHeard events ++ errorsHeard more := by
  simp only [errorsHeard, List.filterMap_append, List.map_append]

theorem errorsHeard_heard (failure : Failure) :
    errorsHeard [(.heard .standard failure : Event τ)] = [failure.error] := rfl

theorem errorsHeard_taken (events : List (Event τ)) (message : Message τ)
    (problem : Option String) :
    errorsHeard (events ++ [.taken message problem]) = errorsHeard events := by
  rw [errorsHeard_append]
  exact List.append_nil _

namespace Run

/-! ### Numbers and errors -/

/-- The numbers and the errors of the runner agree with what it took. -/
structure Kept (events : List (Event τ)) (run : Run σ τ ω) : Prop where
  failures : run.failures = (errorsHeard events).countP fun e => !e.isFatal
  fatal : run.fatal = (errorsHeard events).find? FeedError.isFatal
  emitted : run.emitted = (events.filterMap Event.taken?).countP fun taken => taken.2.isNone
  writeError : (events.filterMap Event.taken?).filterMap Prod.snd = run.writeError.toList

/-- Only the numbers and the errors matter, and what the runner took. -/
theorem Kept.congr {events more : List (Event τ)} {run next : Run σ τ ω} (h : Kept events run)
    (taken : more.filterMap Event.taken? = []) (heard : errorsHeard more = [])
    (failures : next.failures = run.failures) (fatal : next.fatal = run.fatal)
    (emitted : next.emitted = run.emitted) (writeError : next.writeError = run.writeError) :
    Kept (events ++ more) next where
  failures := by rw [failures, h.failures, errorsHeard_append, heard, List.append_nil]
  fatal := by rw [fatal, h.fatal, errorsHeard_append, heard, List.append_nil]
  emitted := by rw [emitted, h.emitted, List.filterMap_append, taken, List.append_nil]
  writeError := by rw [writeError, ← h.writeError, List.filterMap_append, taken, List.append_nil]

theorem Kept.leave {events : List (Event τ)} {run : Run σ τ ω} (h : Kept events run)
    (ending : Option RunEnd) : Kept events (run.leave ending) :=
  ⟨h.failures, h.fatal, h.emitted, h.writeError⟩

/-- A failure that is taken and recorded is counted, or kept if it is the first fatal one. -/
theorem Kept.record {events : List (Event τ)} {run popped : Run σ τ ω} {failure : Failure}
    (h : Kept events run) (pop : run.popFailure = some (failure, popped)) :
    Kept (events ++ [.heard .standard failure]) (popped.record failure) := by
  obtain ⟨polling, -, rfl, -⟩ := popFailure_cases pop
  rw [record_eq]
  exact {
    failures := by
      rw [errorsHeard_append, errorsHeard_heard, List.countP_append]
      exact congrArg (· + _) h.failures
    fatal := by
      rw [errorsHeard_append, errorsHeard_heard, List.find?_append]
      exact congrArg (Option.or · _) h.fatal
    emitted := by
      rw [List.filterMap_append]
      simpa [List.filterMap_cons] using h.emitted
    writeError := by
      rw [List.filterMap_append]
      simpa [List.filterMap_cons] using h.writeError }

/-- A message that is taken is counted, or the problem with it is kept. -/
theorem Kept.written {events : List (Event τ)} {run : Run σ τ ω} (h : Kept events run)
    (spotless : run.writeError = none) (polling : Polling σ τ) (out : ω) (message : Message τ)
    (problem : Option String) :
    Kept (events ++ [.taken message problem]) (run.written polling out problem) := by
  have hnone := h.writeError
  rw [spotless, Option.toList_none] at hnone
  cases problem with
  | some reason =>
      exact {
        failures := by rw [errorsHeard_taken]; exact h.failures
        fatal := by rw [errorsHeard_taken]; exact h.fatal
        emitted := by
          rw [List.filterMap_append, List.countP_append, ← h.emitted]
          rfl
        writeError := by
          rw [List.filterMap_append, List.filterMap_append, hnone]
          rfl }
  | none =>
      exact {
        failures := by rw [errorsHeard_taken]; exact h.failures
        fatal := by rw [errorsHeard_taken]; exact h.fatal
        emitted := by
          rw [List.filterMap_append, List.countP_append, ← h.emitted]
          rfl
        writeError := by
          rw [List.filterMap_append, List.filterMap_append, hnone]
          exact congrArg Option.toList spotless.symm }

/-! ### Phases -/

/-- The runner may write another message. -/
def HasRoom (run : Run σ τ ω) : Prop :=
  ∀ limit, run.maxMessages = some limit → run.emitted < max limit 1

/-- What holds while the runner is in its loop. -/
structure Looping (run : Run σ τ ω) : Prop where
  output : run.polling.poller.output.isOpen = true
  shutdown : run.polling.shutdown = false
  writeError : run.writeError = none
  fatal : run.fatal = none
  room : run.HasRoom

/-- What holds since the runner has left its loop, depending on why it did.  Without an end of its
own and without an error, the poller has stopped at its limit and everything is written. -/
def LeftFor (events : List (Event τ)) (run : Run σ τ ω) : Option RunEnd → Prop
  | some .messageLimit => ∃ limit, run.maxMessages = some limit ∧ run.emitted = max limit 1
  | some .interrupted => run.HasRoom
  | some (.poller _) => False
  | none => run.HasRoom ∧ (run.writeError = none → run.fatal = none →
      run.polling.phase = .stopped .maxPolls ∧
        (events.filterMap Event.taken?).map Prod.fst = events.filterMap Event.sent?)

/-- The phase of the runner agrees with the rest. -/
structure Sound (events : List (Event τ)) (run : Run σ τ ω) : Prop where
  looping : run.phase = .looping → run.Looping
  draining : ∀ left, run.phase = .draining left → run.LeftFor events left
  finished : ∀ ending, run.phase = .finished ending → ∃ left reason,
    ending = left.getD (.poller reason) ∧ run.LeftFor events left ∧
      run.polling.phase = .stopped reason ∧ run.waitingFailures = []

/-- A step of the poller or of the clock. -/
theorem Sound.own {origin : MessageSource σ τ} {events : List (Event τ)} {run : Run σ τ ω}
    {polling : Polling σ τ} {act : Polling.Act} (h : Sound events run)
    (made : run.polling.perform origin act = some polling) (own : act.IsOwn) :
    Sound (events ++ run.polling.happenings origin act) { run with polling := polling } := by
  -- once the poller has stopped, nothing changes
  have hstopped : ∀ reason, run.polling.phase = .stopped reason →
      polling = run.polling ∧ run.polling.happenings origin act = [] :=
    fun _ hreason => Polling.own_of_stopped made own hreason
  refine ⟨?_, ?_, ?_⟩
  · intro hphase
    obtain ⟨houtput, hshutdown, hwrite, hfatal, hroom⟩ := h.looping hphase
    obtain ⟨hopen, hflag, -, -⟩ := Polling.own_frame made own
    exact ⟨hopen.trans houtput, hflag.trans hshutdown, hwrite, hfatal, hroom⟩
  · intro left hphase
    have hleft := h.draining left hphase
    match left with
    | some .messageLimit => exact hleft
    | some .interrupted => exact hleft
    | some (.poller _) => exact hleft
    | none =>
        refine ⟨hleft.1, ?_⟩
        intro hwrite hfatal
        obtain ⟨hlimit, hall⟩ := hleft.2 hwrite hfatal
        obtain ⟨rfl, hnothing⟩ := hstopped _ hlimit
        rw [hnothing, List.append_nil]
        exact ⟨hlimit, hall⟩
  · intro ending hphase
    obtain ⟨left, reason, hending, hleft, hreason, hwaiting⟩ := h.finished ending hphase
    obtain ⟨rfl, hnothing⟩ := hstopped _ hreason
    rw [hnothing, List.append_nil]
    exact ⟨left, reason, hending, hleft, hreason, hwaiting⟩

/-- The runner leaves its loop. -/
theorem Sound.leave {events : List (Event τ)} {run : Run σ τ ω} {left : Option RunEnd}
    (leftFor : (run.leave left).LeftFor events left) : Sound events (run.leave left) := by
  refine ⟨nofun, ?_, nofun⟩
  intro other hphase
  cases hphase
  exact leftFor

theorem record_fatal_eq_none {run : Run σ τ ω} {failure : Failure} :
    (run.record failure).fatal = none ↔ run.fatal = none ∧ failure.error.isFatal = false := by
  rw [record_eq, Option.or_eq_none_iff]
  simp

/-- Two states differ at most in what concerns failures. -/
structure SameButFailures (run next : Run σ τ ω) : Prop where
  output : next.polling.poller.output = run.polling.poller.output
  shutdown : next.polling.shutdown = run.polling.shutdown
  pollerPhase : next.polling.phase = run.polling.phase
  phase : next.phase = run.phase
  emitted : next.emitted = run.emitted
  maxMessages : next.maxMessages = run.maxMessages
  writeError : next.writeError = run.writeError
  out : next.out = run.out

theorem sameButFailures_record {run popped : Run σ τ ω} {failure : Failure}
    (pop : run.popFailure = some (failure, popped)) :
    SameButFailures run (popped.record failure) := by
  obtain ⟨polling, htake, rfl, -⟩ := popFailure_cases pop
  obtain ⟨channel, first, rest, -, -, rfl⟩ := Polling.takeFailure_cases htake
  rw [record_eq]
  exact ⟨rfl, rfl, rfl, rfl, rfl, rfl, rfl, rfl⟩

theorem fatal_of_popFailure {run popped : Run σ τ ω} {failure : Failure}
    (pop : run.popFailure = some (failure, popped)) : popped.fatal = run.fatal := by
  obtain ⟨polling, -, rfl, -⟩ := popFailure_cases pop
  rfl

theorem SameButFailures.hasRoom {run next : Run σ τ ω} (h : SameButFailures run next)
    (room : run.HasRoom) : next.HasRoom := by
  rw [HasRoom, h.emitted, h.maxMessages]
  exact room

/-- A failure that is taken and recorded is no reason to have left the loop for. -/
theorem LeftFor.record {events : List (Event τ)} {run popped : Run σ τ ω} {failure : Failure}
    {left : Option RunEnd} (h : run.LeftFor events left)
    (pop : run.popFailure = some (failure, popped)) :
    (popped.record failure).LeftFor (events ++ [.heard .standard failure]) left := by
  have hsame := sameButFailures_record pop
  match left with
  | some .messageLimit =>
      obtain ⟨limit, hlimit, hemitted⟩ := h
      exact ⟨limit, hsame.maxMessages.trans hlimit, hsame.emitted.trans hemitted⟩
  | some .interrupted => exact hsame.hasRoom h
  | some (.poller _) => exact h
  | none =>
      refine ⟨hsame.hasRoom h.1, ?_⟩
      intro hspotless hnone
      rw [hsame.writeError] at hspotless
      rw [record_fatal_eq_none, fatal_of_popFailure pop] at hnone
      rw [hsame.pollerPhase]
      simpa [List.filterMap_append, List.filterMap_cons] using h.2 hspotless hnone.1

/-! ### Moves of the runner -/

variable {setup : RunSetup σ τ ω} {events : List (Event τ)} {run next : Run σ τ ω}

theorem Sound.takeFailure (h : Sound events run) (made : run.takeFailure = some next) :
    Sound (events ++ run.happenings setup .takeFailure) next := by
  obtain ⟨hphase, failure, popped, hpop, hcases⟩ := takeFailure_cases made
  have hlooping := h.looping hphase
  have hsame := sameButFailures_record hpop
  rcases hcases with ⟨hisFatal, -, rfl⟩ | ⟨hnot, rfl⟩
  · -- the first fatal failure is kept, so the run does not count as complete
    refine Sound.leave ⟨hsame.hasRoom hlooping.room, ?_⟩
    intro _ hnone
    have hfatal := (record_fatal_eq_none.1 hnone).2
    rw [hisFatal] at hfatal
    cases hfatal
  · -- in the loop no fatal failure is known, so this one is harmless
    have hnone : popped.fatal = none := (fatal_of_popFailure hpop).trans hlooping.fatal
    have hharmless : failure.error.isFatal = false :=
      Bool.eq_false_iff.2 fun hisFatal => hnot ⟨hisFatal, hnone⟩
    have hloops : (popped.record failure).phase = .looping := hsame.phase.trans hphase
    refine ⟨fun _ => ?_, ?_, ?_⟩
    · exact {
        output := by rw [hsame.output]; exact hlooping.output
        shutdown := hsame.shutdown.trans hlooping.shutdown
        writeError := hsame.writeError.trans hlooping.writeError
        fatal := record_fatal_eq_none.2 ⟨hnone, hharmless⟩
        room := hsame.hasRoom hlooping.room }
    · intro left hleft
      rw [hloops] at hleft
      cases hleft
    · intro ending hending
      rw [hloops] at hending
      cases hending

theorem Sound.takeMessage (h : Sound events run) (made : run.takeMessage setup = some next) :
    Sound (events ++ run.happenings setup .takeMessage) next := by
  obtain ⟨hphase, message, rest, polling, problem, out, hqueue, htake, hput, hnext⟩ :=
    takeMessage_cases made
  obtain ⟨_, _, _, rfl⟩ := Polling.takeMessage_cases htake
  have hlooping := h.looping hphase
  rcases hnext with ⟨reason, rfl, rfl⟩ | ⟨rfl, ⟨limit, hlimit, hle⟩, rfl⟩ | ⟨rfl, hbelow, rfl⟩
  · -- the write failed
    exact Sound.leave ⟨hlooping.room, nofun⟩
  · -- there was room for this message, but not for another one
    refine Sound.leave ⟨limit, hlimit, ?_⟩
    have hroom := hlooping.room limit hlimit
    change run.emitted + 1 = max limit 1
    omega
  · refine ⟨fun _ => ?_, ?_, ?_⟩
    · exact {
        output := hlooping.output
        shutdown := hlooping.shutdown
        writeError := hlooping.writeError
        fatal := hlooping.fatal
        room := fun limit hlimit => Nat.lt_of_lt_of_le (hbelow limit hlimit) (Nat.le_max_left _ _) }
    · intro left hleft
      exact nomatch hphase.symm.trans hleft
    · intro ending hending
      exact nomatch hphase.symm.trans hending

/-- When the output is found closed, the poller has stopped at its limit, and every message is
taken. -/
theorem Sound.noticeClosed (h : Sound events run) (balanced : Polling.Balanced events run.polling)
    (limited : run.polling.Limited) (made : run.noticeClosed = some next) :
    Sound (events ++ run.happenings setup .noticeClosed) next := by
  obtain ⟨hphase, hempty, ⟨reason, hreason⟩, rfl⟩ := noticeClosed_cases made
  have hlooping := h.looping hphase
  have hjustifies := limited.justifies balanced hreason
  have hall := balanced.output.whole hlooping.output
  have hqueue : run.polling.poller.output.queue = [] := hempty
  rw [hqueue, List.append_nil] at hall
  change Sound (events ++ []) _
  rw [List.append_nil]
  refine Sound.leave ⟨hlooping.room, fun _ _ => ⟨?_, hall⟩⟩
  -- in the loop no shutdown is signalled and the output is open, so the limit is the only reason
  cases reason with
  | maxPolls => exact hreason
  | shutdown => exact nomatch hlooping.shutdown.symm.trans hjustifies
  | outputClosed => exact nomatch hlooping.output.symm.trans hjustifies

theorem Sound.drain (h : Sound events run) (made : run.drain = some next) :
    Sound (events ++ run.happenings setup .drain) next := by
  obtain ⟨left, failure, popped, hphase, hpop, rfl⟩ := drain_cases made
  have hdrains : (popped.record failure).phase = .draining left :=
    (sameButFailures_record hpop).phase.trans hphase
  refine ⟨?_, ?_, ?_⟩
  · intro hloops
    rw [hdrains] at hloops
    cases hloops
  · intro other hother
    rw [hdrains] at hother
    cases hother
    rw [happenings_drain hpop]
    exact (h.draining left hphase).record hpop
  · intro ending hending
    rw [hdrains] at hending
    cases hending

theorem Sound.join (h : Sound events run) (made : run.join = some next) :
    Sound (events ++ run.happenings setup .join) next := by
  obtain ⟨left, reason, hphase, hreason, hwaiting, rfl⟩ := join_cases made
  change Sound (events ++ []) _
  rw [List.append_nil]
  refine ⟨nofun, nofun, ?_⟩
  intro ending hending
  cases hending
  exact ⟨left, reason, rfl, h.draining left hphase, hreason, hwaiting⟩

/-- **Every move keeps the agreement of the phase with the rest.** -/
theorem Sound.make {move : Move} (h : Sound events run)
    (balanced : Polling.Balanced events run.polling) (limited : run.polling.Limited)
    (made : run.make setup move = some next) :
    Sound (events ++ run.happenings setup move) next := by
  cases hact : move.act? with
  | some act =>
      obtain ⟨polling, hperform, rfl⟩ := make_of_act hact made
      rw [happenings_of_act run hact]
      exact h.own hperform (isOwn_of_act hact)
  | none =>
      cases move with
      | noticeInterrupt =>
          obtain ⟨hphase, -, rfl⟩ := noticeInterrupt_cases made
          exact Sound.leave (h.looping hphase).room
      | takeFailure => exact h.takeFailure made
      | takeMessage => exact h.takeMessage made
      | noticeClosed => exact h.noticeClosed balanced limited made
      | drain => exact h.drain made
      | join => exact h.join made
      | interrupt =>
          cases made
          change Sound (events ++ []) _
          rw [List.append_nil]
          refine ⟨fun hphase => ?_, h.draining, h.finished⟩
          obtain ⟨houtput, hshutdown, hwrite, hfatal, hroom⟩ := h.looping hphase
          exact ⟨houtput, hshutdown, hwrite, hfatal, hroom⟩
      | _ => cases hact

/-- **Every move keeps the numbers and the errors of the runner.** -/
theorem Kept.make {move : Move} (h : Kept events run) (sound : Sound events run)
    (made : run.make setup move = some next) : Kept (events ++ run.happenings setup move) next := by
  cases hact : move.act? with
  | some act =>
      obtain ⟨polling, hperform, rfl⟩ := make_of_act hact made
      obtain ⟨-, -, htaken, hheard⟩ := Polling.own_frame hperform (isOwn_of_act hact)
      rw [happenings_of_act run hact]
      refine h.congr htaken ?_ rfl rfl rfl rfl
      rw [errorsHeard, hheard]
      rfl
  | none =>
      cases move with
      | noticeInterrupt =>
          obtain ⟨-, -, rfl⟩ := noticeInterrupt_cases made
          exact h.congr rfl rfl rfl rfl rfl rfl
      | takeFailure =>
          obtain ⟨-, failure, popped, hpop, hcases⟩ := takeFailure_cases made
          rw [happenings_takeFailure hpop]
          rcases hcases with ⟨-, -, rfl⟩ | ⟨-, rfl⟩
          · exact (h.record hpop).leave none
          · exact h.record hpop
      | takeMessage =>
          obtain ⟨hphase, message, rest, polling, problem, out, hqueue, htake, hput, hnext⟩ :=
            takeMessage_cases made
          have hspotless := (sound.looping hphase).writeError
          have hwritten := h.written hspotless polling out message problem
          rw [happenings_takeMessage hqueue hput]
          rcases hnext with ⟨-, -, rfl⟩ | ⟨-, -, rfl⟩ | ⟨-, -, rfl⟩
          · exact hwritten.leave none
          · exact hwritten.leave _
          · exact hwritten
      | noticeClosed =>
          obtain ⟨-, -, -, rfl⟩ := noticeClosed_cases made
          exact h.congr rfl rfl rfl rfl rfl rfl
      | drain =>
          obtain ⟨left, failure, popped, -, hpop, rfl⟩ := drain_cases made
          rw [happenings_drain hpop]
          exact h.record hpop
      | join =>
          obtain ⟨left, reason, -, -, -, rfl⟩ := join_cases made
          exact h.congr rfl rfl rfl rfl rfl rfl
      | interrupt =>
          cases made
          exact h.congr rfl rfl rfl rfl rfl rfl
      | _ => cases hact

/-! ### What is written -/

/-- While no write has failed, every message that is taken is written. -/
theorem Kept.problem_eq_none (h : Kept events run) (spotless : run.writeError = none)
    {taken : Message τ × Option String} (mem : taken ∈ events.filterMap Event.taken?) :
    taken.2 = none := by
  have hproblems := h.writeError
  rw [spotless, Option.toList_none, List.filterMap_eq_nil_iff] at hproblems
  exact hproblems taken mem

/-- Messages that were no problem are told by the messages alone. -/
theorem map_spotless {taken : List (Message τ × Option String)} (h : ∀ entry ∈ taken, entry.2 = none) :
    (taken.map Prod.fst).map (fun message => (message, none)) = taken := by
  have hsame : ∀ entry ∈ taken, (entry.1, none) = entry := fun _ mem => Prod.ext rfl (h _ mem).symm
  rw [List.map_map]
  exact (List.map_congr_left hsame).trans (List.map_id' _)

theorem Kept.map_taken (h : Kept events run) (spotless : run.writeError = none) :
    ((events.filterMap Event.taken?).map Prod.fst).map (fun message => (message, none)) =
      events.filterMap Event.taken? :=
  map_spotless fun _ mem => h.problem_eq_none spotless mem

theorem Kept.emitted_of_spotless (h : Kept events run) (spotless : run.writeError = none) :
    run.emitted = (events.filterMap Event.taken?).length := by
  rw [h.emitted, List.countP_eq_length]
  intro taken mem
  rw [h.problem_eq_none spotless mem]
  rfl

/-- The limit is set once and for all, and only the runner in its loop takes messages and writes. -/
theorem make_frame {move : Move} (made : run.make setup move = some next) :
    next.maxMessages = run.maxMessages ∧ (move ≠ .takeMessage →
      (run.happenings setup move).filterMap Event.taken? = [] ∧ next.out = run.out) := by
  cases hact : move.act? with
  | some act =>
      obtain ⟨polling, hperform, rfl⟩ := make_of_act hact made
      rw [happenings_of_act run hact]
      exact ⟨rfl, fun _ => ⟨(Polling.own_frame hperform (isOwn_of_act hact)).2.2.1, rfl⟩⟩
  | none =>
      cases move with
      | noticeInterrupt =>
          obtain ⟨-, -, rfl⟩ := noticeInterrupt_cases made
          exact ⟨rfl, fun _ => ⟨rfl, rfl⟩⟩
      | takeFailure =>
          obtain ⟨-, failure, popped, hpop, hcases⟩ := takeFailure_cases made
          have hsame := sameButFailures_record hpop
          rw [happenings_takeFailure hpop]
          rcases hcases with ⟨-, -, rfl⟩ | ⟨-, rfl⟩
          · exact ⟨hsame.maxMessages, fun _ => ⟨rfl, hsame.out⟩⟩
          · exact ⟨hsame.maxMessages, fun _ => ⟨rfl, hsame.out⟩⟩
      | takeMessage =>
          obtain ⟨-, message, rest, polling, problem, out, -, -, -, hnext⟩ :=
            takeMessage_cases made
          refine ⟨?_, fun hother => absurd rfl hother⟩
          rcases hnext with ⟨reason, rfl, rfl⟩ | ⟨rfl, -, rfl⟩ | ⟨rfl, -, rfl⟩
          · rfl
          · rfl
          · rfl
      | noticeClosed =>
          obtain ⟨-, -, -, rfl⟩ := noticeClosed_cases made
          exact ⟨rfl, fun _ => ⟨rfl, rfl⟩⟩
      | drain =>
          obtain ⟨left, failure, popped, -, hpop, rfl⟩ := drain_cases made
          have hsame := sameButFailures_record hpop
          rw [happenings_drain hpop]
          exact ⟨hsame.maxMessages, fun _ => ⟨rfl, hsame.out⟩⟩
      | join =>
          obtain ⟨left, reason, -, -, -, rfl⟩ := join_cases made
          exact ⟨rfl, fun _ => ⟨rfl, rfl⟩⟩
      | interrupt =>
          cases made
          exact ⟨rfl, fun _ => ⟨rfl, rfl⟩⟩
      | _ => cases hact

theorem Traced.maxMessages {first : Run σ τ ω} (h : Traced setup first events run) :
    run.maxMessages = first.maxMessages := by
  induction h with
  | start => rfl
  | step _ _ made ih => exact (make_frame made).1.trans ih

/-- **The messages that were taken are what is written**, in the same order. -/
theorem Traced.writes {first : Run σ τ ω} (h : Traced setup first events run) :
    setup.Writes first.out (events.filterMap Event.taken?) run.out := by
  induction h with
  | start => exact .nil _
  | @step events run next traced move made ih =>
      rw [List.filterMap_append]
      by_cases hmove : move = .takeMessage
      · subst hmove
        obtain ⟨hphase, message, rest, polling, problem, out, hqueue, -, hput, hnext⟩ :=
          takeMessage_cases made
        have hout : next.out = out := by
          rcases hnext with ⟨reason, rfl, rfl⟩ | ⟨rfl, -, rfl⟩ | ⟨rfl, -, rfl⟩
          · rfl
          · rfl
          · rfl
        rw [happenings_takeMessage hqueue hput, hout]
        exact ih.append (.cons (RunSetup.puts_putLine hput) (.nil out))
      · obtain ⟨hnothing, hout⟩ := (make_frame made).2 hmove
        rw [hnothing, List.append_nil, hout]
        exact ih

end Run

end QueryFeed
