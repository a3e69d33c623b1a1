import QueryFeed.Proofs.Poller.Script
import QueryFeed.Proofs.Poller.Stages
import QueryFeed.Proofs.Poller.Stopping

/-!
**Polling at an interval is polling once, again and again.**

A poll may be asked for without a loop, and then goes through its stages while others read its
channels and time passes.  A loop adds nothing to that but the times at which polls begin, and the
reason for which it stops: it begins a poll only when the one before it is over, it notices a shutdown
only between two polls, and it begins no poll after one that found its output closed.

Main definitions:

* `Poller.Meanwhile` — what others do to a poller;
* `Poller.Called` — polls that are asked for one after the other;
* `Poll.outgoing?` — the message that is to be sent.

Main results:

* `Poll.advance_settle` — a poll that has settled is over or waits;
* `Poller.pollOnce_eq_of_advances`, `Poller.Called.pollOnce` — polling once is one such poll, without
  anybody else;
* `Polling.Traced.called` — **every history of a loop is one of polls asked for one after the other**;
* `Polling.Documented.refines_calls` — **a loop that stops has asked for a number of polls, each of
  which was carried through**.
-/

set_option autoImplicit false

namespace QueryFeed

variable {σ τ : Type}

/-! ### Polling once -/

namespace Poll

variable {origin : MessageSource σ τ} {poll : Poll τ} {poller : Poller σ τ}

/-- A poll that cannot advance stays where it is. -/
theorem advances_of_stuck (stuck : poll.advance origin poller = none) (steps : Nat) :
    poll.advances origin steps poller = (poll, poller) := by
  cases steps with
  | zero => rfl
  | succ steps => simp only [advances, stuck]

/-- A poll that does not wait for its answer advances no more often than it has steps left. -/
theorem advance_advances {steps : Nat} (answered : poll.isAwaiting = false)
    (enough : poll.stepsLeft ≤ steps) :
    (poll.advances origin steps poller).1.advance origin (poll.advances origin steps poller).2 =
      none := by
  induction steps generalizing poll poller with
  | zero =>
      rw [advances]
      cases hadvance : poll.advance origin poller with
      | none => rfl
      | some made =>
          obtain ⟨-, hawaiting | hfewer⟩ := (step_of_advance hadvance).descends
          · rw [answered] at hawaiting
            cases hawaiting
          · omega
  | succ steps ih =>
      cases hadvance : poll.advance origin poller with
      | none =>
          rw [advances_of_stuck hadvance]
          exact hadvance
      | some made =>
          obtain ⟨hnext, hawaiting | hfewer⟩ := (step_of_advance hadvance).descends
          · rw [answered] at hawaiting
            cases hawaiting
          · simp only [advances, hadvance]
            exact ih hnext (by omega)

/-- **A poll that has settled is over or waits**: it cannot advance. -/
theorem advance_settle (origin : MessageSource σ τ) (poll : Poll τ) (poller : Poller σ τ) :
    (poll.settle origin poller).1.advance origin (poll.settle origin poller).2 = none := by
  -- the first round may only take the answer, whose length the second round knows
  have hsecond : ∀ {next : Poll τ} {after : Poller σ τ},
      next.isAwaiting = false ∨ next.advance origin after = none →
        (next.advances origin next.stepsLeft after).1.advance origin
          (next.advances origin next.stepsLeft after).2 = none := by
    rintro next after (hanswered | hstuck)
    · exact advance_advances hanswered (Nat.le_refl _)
    · rw [advances_of_stuck hstuck]
      exact hstuck
  refine hsecond ?_
  cases hawaiting : poll.isAwaiting with
  | false => exact Or.inr (advance_advances hawaiting (Nat.le_refl _))
  | true =>
      cases poll with
      | awaiting headers payload due =>
          rw [stepsLeft, advances]
          split
          · rename_i hadvance
            exact Or.inl (step_of_advance hadvance).descends.1
          · rename_i hstuck
            exact Or.inr hstuck
      | _ => cases hawaiting

theorem advances_add (early late : Nat) :
    poll.advances origin (early + late) poller =
      (poll.advances origin early poller).1.advances origin late
        (poll.advances origin early poller).2 := by
  induction early generalizing poll poller with
  | zero => rw [Nat.zero_add, advances]
  | succ early ih =>
      cases hadvance : poll.advance origin poller with
      | none => simp only [advances_of_stuck hadvance]
      | some made =>
          rw [Nat.succ_add]
          simp only [advances, hadvance]
          exact ih

/-- A poll that is over after some steps has settled there. -/
theorem settle_eq_of_advances {steps : Nat} {outputOpen : Bool} {after : Poller σ τ}
    (h : poll.advances origin steps poller = (.finished outputOpen, after)) :
    poll.settle origin poller = (.finished outputOpen, after) := by
  -- neither number of steps is too small, so that both lead where their sum leads
  calc poll.settle origin poller
    _ = (poll.settle origin poller).1.advances origin steps (poll.settle origin poller).2 :=
        (advances_of_stuck (advance_settle origin poll poller) steps).symm
    _ = poll.advances origin
          (poll.stepsLeft + (poll.advances origin poll.stepsLeft poller).1.stepsLeft + steps)
          poller := by rw [advances_add, advances_add]; rfl
    _ = (.finished outputOpen, after) := by rw [Nat.add_comm, advances_add, h, advances_of_stuck rfl]

/-- The message that is to be sent. -/
def outgoing? : Poll τ → Option (Message τ)
  | .sendingRow _ row _ _ | .sendingOnly row => some row
  | _ => none

/-- A send fails where the output is closed, and the poll is over. -/
theorem advance_of_closed {row : Message τ} (outgoing : poll.outgoing? = some row)
    (closed : poller.output.isOpen = false) :
    poll.advance origin poller =
      some (.finished false, poller.tell [.outputClosed origin.component]) := by
  have hoffer : ∀ message, poller.output.offer message = .closed := by
    intro message
    rw [Channel.offer, closed]
    rfl
  cases poll with
  | sendingRow | sendingOnly => simp only [advance, hoffer]
  | awaiting | delivering | reporting | finished => cases outgoing

end Poll

/-! ### Polls asked for one after the other -/

/-- Whether others took something from a channel. -/
def Event.isTaking : Event τ → Bool
  | taken _ _ | heard _ _ => true
  | _ => false

namespace Poller

/-- What others do to a poller, and what can be noticed of it: they take from its channels, or close
them, time passes, and the operator is told something. -/
inductive Meanwhile (poller : Poller σ τ) : List (Event τ) → Poller σ τ → Prop where
  | takeMessage {message : Message τ} {rest : List (Message τ)} (problem : Option String)
      (queue : poller.output.queue = message :: rest) :
      Meanwhile poller [.taken message problem]
        { poller with output := { poller.output with queue := rest } }
  | takeFailure {route : Route} {channel : Channel Failure} {failure : Failure}
      {rest : List Failure} (found : poller.channel? route = some channel)
      (queue : channel.queue = failure :: rest) :
      Meanwhile poller [.heard route failure]
        (poller.withChannel route { channel with queue := rest })
  | closeOutput : Meanwhile poller [] { poller with output := poller.output.close }
  | closeErrors {route : Route} {channel : Channel Failure}
      (found : poller.channel? route = some channel) :
      Meanwhile poller [] (poller.withChannel route channel.close)
  | pass (time : Nat) : Meanwhile poller [] { poller with now := max poller.now time }
  | tell (notices : List Notice) : Meanwhile poller [] (poller.tell notices)

/-- Others leave a closed output closed. -/
theorem Meanwhile.isOpen_eq_false {poller after : Poller σ τ} {events : List (Event τ)}
    (h : Meanwhile poller events after) (closed : poller.output.isOpen = false) :
    after.output.isOpen = false := by
  cases h with
  | takeMessage | pass | tell => exact closed
  | takeFailure | closeErrors => rw [output_withChannel]; exact closed
  | closeOutput => rfl

/-- **A poll that advances to its end without anybody else is what polling once does.** -/
theorem pollOnce_eq_of_advances {origin : MessageSource σ τ} {poller after : Poller σ τ}
    {steps : Nat} {outputOpen : Bool}
    (h : (poller.begin origin).1.advances origin steps (poller.begin origin).2 =
      (.finished outputOpen, after)) :
    poller.pollOnce origin = (.finished outputOpen, after) :=
  Poll.settle_eq_of_advances h

/-- Polls that are asked for one after the other, while others take their turns: how many polls, what
can be noticed, the stage of the last poll, and the poller that is left.  The next poll is asked for
when the one before it is over and has not found its output closed. -/
inductive Called (origin : MessageSource σ τ) (first : Poller σ τ) :
    Nat → List (Event τ) → Poll τ → Poller σ τ → Prop where
  | start : Called origin first 0 [] (.finished true) first
  | begin {count : Nat} {events : List (Event τ)} {poller : Poller σ τ}
      (called : Called origin first count events (.finished true) poller) :
      Called origin first (count + 1) (events ++ poller.beginning origin) (poller.begin origin).1
        (poller.begin origin).2
  | advance {count : Nat} {events : List (Event τ)} {poll next : Poll τ} {poller after : Poller σ τ}
      (called : Called origin first count events poll poller)
      (h : poll.advance origin poller = some (next, after)) :
      Called origin first count (events ++ poll.events origin poller) next after
  | meanwhile {count : Nat} {events more : List (Event τ)} {poll : Poll τ} {poller after : Poller σ τ}
      (called : Called origin first count events poll poller) (h : poller.Meanwhile more after) :
      Called origin first count (events ++ more) poll after

namespace Called

variable {origin : MessageSource σ τ} {first poller : Poller σ τ} {count : Nat}
  {events : List (Event τ)} {poll : Poll τ}

theorem advances (h : Called origin first count events poll poller) (steps : Nat) :
    ∃ more, Called origin first count (events ++ more) (poll.advances origin steps poller).1
      (poll.advances origin steps poller).2 := by
  induction steps generalizing events poll poller with
  | zero => exact ⟨[], by rw [List.append_nil]; exact h⟩
  | succ steps ih =>
      cases hadvance : poll.advance origin poller with
      | none =>
          rw [Poll.advances_of_stuck hadvance]
          exact ⟨[], by rw [List.append_nil]; exact h⟩
      | some made =>
          obtain ⟨more, hcalled⟩ := ih (h.advance hadvance)
          rw [List.append_assoc] at hcalled
          simp only [Poll.advances, hadvance]
          exact ⟨_, hcalled⟩

/-- **Polling once is one poll that is asked for**, without anybody else. -/
theorem pollOnce (h : Called origin first count events (.finished true) poller) :
    ∃ more, Called origin first (count + 1) (events ++ more) (poller.pollOnce origin).1
      (poller.pollOnce origin).2 := by
  obtain ⟨early, hearly⟩ := h.begin.advances (poller.begin origin).1.stepsLeft
  obtain ⟨late, hlate⟩ := hearly.advances
    ((poller.begin origin).1.advances origin (poller.begin origin).1.stepsLeft
      (poller.begin origin).2).1.stepsLeft
  rw [List.append_assoc, List.append_assoc] at hlate
  exact ⟨_, hlate⟩

/-- A poll finds its output closed only if it is. -/
theorem isOpen_eq_false (h : Called origin first count events poll poller)
    (cutOff : poll.isCutOff = true) : poller.output.isOpen = false := by
  induction h with
  | start => cases cutOff
  | @begin count events poller called ih =>
      have haccounts := begin_accounts origin poller
      rw [haccounts.output]
      exact (haccounts.cutOff cutOff).resolve_left Bool.false_ne_true
  | advance called hadvance ih =>
      have haccounts := advance_accounts hadvance
      rw [haccounts.output]
      exact (haccounts.cutOff cutOff).elim ih id
  | meanwhile called others ih => exact others.isOpen_eq_false (ih cutOff)

end Called

end Poller

/-! ### Loops -/

namespace Polling

section

variable {origin : MessageSource σ τ} {allowed : Act → Prop} {first polling : Polling σ τ}
  {events : List (Event τ)} {entries : List (PollEntry τ)}

/-- **Every history of a loop is one of polls asked for one after the other**, with the same events,
the same poll at the same stage, and the same poller. -/
theorem Traced.called (h : Traced origin allowed first events polling)
    (idle : first.phase = .checking) (unpolled : first.polls = 0) :
    first.poller.Called origin polling.polls events polling.phase.current polling.poller := by
  induction h with
  | start =>
      rw [idle, unpolled]
      exact .start
  | @step events polling next _ act _ made ih =>
      -- what the loop does by itself cannot be noticed, and changes neither poll nor poller
      have hsilent : polling.happenings origin act = [] → next.polls = polling.polls →
          next.phase.current = polling.phase.current → next.poller = polling.poller →
          first.poller.Called origin next.polls (events ++ polling.happenings origin act)
            next.phase.current next.poller := by
        intro hnothing hpolls hcurrent hpoller
        rw [hnothing, List.append_nil, hpolls, hcurrent, hpoller]
        exact ih
      cases act with
      | check =>
          obtain ⟨hphase, ⟨_, -, -, rfl⟩ | ⟨-, rfl⟩⟩ := check_cases made
          · exact hsilent rfl rfl (by rw [hphase]; rfl) rfl
          · exact hsilent rfl rfl (by rw [hphase]; rfl) rfl
      | noticeShutdown =>
          obtain ⟨hphase, -, rfl⟩ := noticeShutdown_cases made
          exact hsilent rfl rfl (by rw [hphase]; rfl) rfl
      | tick =>
          obtain ⟨hphase, -, rfl⟩ := tick_cases made
          rw [hphase] at ih
          exact ih.begin
      | work =>
          rcases work_cases made with
            ⟨outputOpen, hphase, hnothing, rfl⟩ | ⟨poll, after, poller, hphase, hevents, hadvance, rfl⟩
          · refine hsilent hnothing rfl ?_ rfl
            rw [hphase]
            cases outputOpen <;> rfl
          · rw [hphase] at ih
            rw [hevents]
            exact ih.advance hadvance
      | takeMessage problem =>
          obtain ⟨message, rest, hqueue, rfl⟩ := takeMessage_cases made
          simp only [happenings, hqueue]
          exact ih.meanwhile (.takeMessage problem hqueue)
      | takeFailure route =>
          obtain ⟨channel, failure, rest, hfound, hqueue, rfl⟩ := takeFailure_cases made
          simp only [happenings, hfound, hqueue]
          exact ih.meanwhile (.takeFailure hfound hqueue)
      | closeOutput =>
          cases made
          exact ih.meanwhile .closeOutput
      | closeErrors route =>
          obtain ⟨channel, hfound, rfl⟩ := Option.map_eq_some_iff.1 made
          exact ih.meanwhile (.closeErrors hfound)
      | signal =>
          cases made
          exact hsilent rfl rfl rfl rfl
      | moveClock time =>
          cases made
          unfold moveClock
          split
          · rw [show polling.happenings origin (.moveClock time) = [] from rfl, List.append_nil]
            exact ih
          · exact ih.meanwhile (.pass time)
      | tell notices =>
          cases made
          exact ih.meanwhile (.tell notices)

/-! ### After a send that failed -/

/-- The last poll has found its output closed, and the loop is over or about to notice it. -/
def IsCut (polling : Polling σ τ) : Prop :=
  polling.phase = .polling (.finished false) ∨ polling.phase = .stopped .outputClosed

/-- A loop that has not noticed yet that its output is closed stops for it. -/
theorem IsCut.stops {polling : Polling σ τ} (h : polling.IsCut) (origin : MessageSource σ τ) :
    polling.phase = .stopped .outputClosed ∨
      polling.work origin = some { polling with phase := .stopped .outputClosed } := by
  rcases h with hphase | hphase
  · right
    simp only [work, hphase]
    rfl
  · exact Or.inl hphase

/-- Once the output was found closed, no act begins a poll, sends or reports anything. -/
theorem IsCut.act {next : Polling σ τ} {act : Act} (h : polling.IsCut)
    (made : polling.perform origin act = some next) :
    next.IsCut ∧ next.polls = polling.polls ∧
      ∀ event ∈ polling.happenings origin act, event.isTaking = true := by
  have hcut : ∀ {phase : Phase τ}, polling.phase = phase →
      phase = .polling (.finished false) ∨ phase = .stopped .outputClosed := by
    rintro _ rfl
    exact h
  cases act with
  | check => rcases hcut (check_cases made).1 with hphase | hphase <;> cases hphase
  | noticeShutdown => rcases hcut (noticeShutdown_cases made).1 with hphase | hphase <;> cases hphase
  | tick => rcases hcut (tick_cases made).1 with hphase | hphase <;> cases hphase
  | work =>
      rcases work_cases made with
        ⟨outputOpen, hphase, hnothing, rfl⟩ | ⟨poll, after, poller, hphase, -, hadvance, -⟩
      · rw [hnothing]
        rcases hcut hphase with hover | hover
        · cases hover
          exact ⟨Or.inr rfl, rfl, List.forall_mem_nil _⟩
        · cases hover
      · rcases hcut hphase with hover | hover
        · cases hover
          cases hadvance
        · cases hover
  | takeMessage problem =>
      obtain ⟨message, rest, hqueue, rfl⟩ := takeMessage_cases made
      simp only [happenings, hqueue]
      exact ⟨h, rfl, List.forall_mem_singleton.2 rfl⟩
  | takeFailure route =>
      obtain ⟨channel, failure, rest, hfound, hqueue, rfl⟩ := takeFailure_cases made
      simp only [happenings, hfound, hqueue]
      exact ⟨h, rfl, List.forall_mem_singleton.2 rfl⟩
  | closeOutput | signal | tell =>
      cases made
      exact ⟨h, rfl, List.forall_mem_nil _⟩
  | closeErrors route =>
      obtain ⟨channel, hfound, rfl⟩ := Option.map_eq_some_iff.1 made
      exact ⟨h, rfl, List.forall_mem_nil _⟩
  | moveClock time =>
      cases made
      unfold moveClock
      split <;> exact ⟨h, rfl, List.forall_mem_nil _⟩

/-- **Once the output was found closed, nothing more is polled, sent or reported.** -/
theorem Traced.isCut (h : Traced origin allowed first events polling) (cut : first.IsCut) :
    polling.IsCut ∧ polling.polls = first.polls ∧ ∀ event ∈ events, event.isTaking = true := by
  induction h with
  | start => exact ⟨cut, rfl, List.forall_mem_nil _⟩
  | step _ act _ made ih =>
      obtain ⟨hcut, hpolls, hevents⟩ := ih
      obtain ⟨hnext, hsame, hmore⟩ := hcut.act made
      exact ⟨hnext, hsame.trans hpolls, List.forall_mem_append.2 ⟨hevents, hmore⟩⟩

/-- A send that fails ends the poll at once. -/
theorem work_of_closed {row : Message τ} (outgoing : polling.phase.current.outgoing? = some row)
    (closed : polling.poller.output.isOpen = false) :
    ∃ next, polling.work origin = some next ∧ next.IsCut ∧ next.polls = polling.polls ∧
      polling.happenings origin .work = [] := by
  cases hphase : polling.phase with
  | polling poll =>
      have hpoll : poll.outgoing? = some row := by rwa [hphase] at outgoing
      have hadvance : poll.advance origin polling.poller = _ := Poll.advance_of_closed hpoll closed
      have hevents : poll.events origin polling.poller = [] := by
        cases poll with
        | sendingRow | sendingOnly => simp [Poll.events, Channel.offer, closed]
        | awaiting | delivering | reporting | finished => cases hpoll
      refine ⟨{ polling with
        poller := polling.poller.tell [.outputClosed origin.component],
        phase := .polling (.finished false) }, ?_, Or.inl rfl, rfl, ?_⟩
      · cases poll with
        | finished => cases hpoll
        | _ => simp only [work, hphase, hadvance, Option.map_some]
      · simp only [happenings, hphase, hevents]
  | stopped reason =>
      rw [hphase] at outgoing
      cases reason <;> cases outgoing
  | checking | waiting =>
      rw [hphase] at outgoing
      cases outgoing

/-! ### Loops that stop -/

variable {poller : Poller σ τ} {interval : Nat} {maxPolls : Option Nat}

/-- **A loop that stops has asked for a number of polls, each of which was carried through.**  Whenever
a shutdown is signalled, the events and the poller are those of polls that were asked for one after
the other, each of which sent its last row or failed; there are no more of them than the limit
allows, the loop stops for the limit if there are as many, and otherwise for a shutdown.  Only where
the output is closed may a loop stop for that reason: then the last poll is cut off.  Whenever a send
fails, this poll is over, the loop stops, and no further poll begins.  Polling once is one such poll,
and the only one where nobody else takes part. -/
theorem Documented.refines_calls
    (h : Documented origin allowed (.start poller interval maxPolls) events entries polling) :
    (∀ reason, polling.phase = .stopped reason →
        (polling.poller.output.isOpen = true → reason ≠ .outputClosed) ∧
        (reason ≠ .outputClosed → ∃ count,
          poller.Called origin count events (.finished true) polling.poller ∧
          entries.length = count ∧ (∀ entry ∈ entries, entry.Exhausted) ∧
          (∀ limit, maxPolls = some limit → count ≤ limit) ∧
          (reason = .maxPolls ↔ maxPolls = some count) ∧
          (reason ≠ .maxPolls → reason = .shutdown ∧ polling.shutdown = true)) ∧
        (reason = .outputClosed → ∃ past last, entries = past ++ [last] ∧
          poller.Called origin (past.length + 1) events (.finished false) polling.poller ∧
          (∀ entry ∈ past, entry.Exhausted) ∧ last.CutOff)) ∧
      (∀ row, polling.phase.current.outgoing? = some row → polling.poller.output.isOpen = false →
        ∃ next, polling.work origin = some next ∧ polling.happenings origin .work = [] ∧
          ∀ more later, Traced origin allowed next more later →
            later.polls = polling.polls ∧ (∀ event ∈ more, event.isTaking = true) ∧
            (later.phase = .stopped .outputClosed ∨
              later.work origin = some { later with phase := .stopped .outputClosed })) ∧
      ∀ count past now, poller.Called origin count past (.finished true) now →
        (∃ more, poller.Called origin (count + 1) (past ++ more) (now.pollOnce origin).1
          (now.pollOnce origin).2) ∧
        ∀ steps outputOpen after, (now.begin origin).1.advances origin steps (now.begin origin).2 =
          (.finished outputOpen, after) → now.pollOnce origin = (.finished outputOpen, after) := by
  have hcalled := h.traced.called rfl rfl
  have hlength := h.length_entries rfl rfl
  have haccords := h.accords rfl
  have hlimited := h.traced.limited (.start poller interval maxPolls)
  have hlimit : polling.maxPolls = maxPolls := h.traced.maxPolls
  refine ⟨?_, ?_, fun count past now hpast =>
    ⟨hpast.pollOnce, fun steps outputOpen after => Poller.pollOnce_eq_of_advances⟩⟩
  · intro reason hstopped
    rw [current_of_stopped hstopped] at hcalled haccords
    refine ⟨?_, ?_, ?_⟩
    · rintro hopen rfl
      have hclosed := hcalled.isOpen_eq_false rfl
      rw [hopen] at hclosed
      cases hclosed
    · intro hreason
      rw [bne_iff_ne.2 hreason] at hcalled haccords
      refine ⟨polling.polls, hcalled, hlength, haccords.exhausted, ?_, ?_, ?_⟩
      · rw [← hlimit]
        exact hlimited.within
      · rw [← hlimit]
        constructor
        · rintro rfl
          exact hlimited.reached hstopped
        · -- a loop that stops for a shutdown was still waiting, so the limit was not reached
          intro hreached
          cases reason with
          | maxPolls => rfl
          | outputClosed => exact absurd rfl hreason
          | shutdown =>
              exact absurd (h.traced.polls_lt_limit (.start poller interval maxPolls) rfl hstopped
                hreached) (Nat.lt_irrefl _)
      · intro hother
        cases reason with
        | maxPolls => exact absurd rfl hother
        | outputClosed => exact absurd rfl hreason
        | shutdown => exact ⟨rfl, hlimited.signalled hstopped⟩
    · rintro rfl
      rcases haccords with ⟨-, hopen⟩ | ⟨past, last, rfl, hover, hlast⟩
      · cases hopen
      · rw [List.length_append] at hlength
        refine ⟨past, last, rfl, ?_, hover, hlast⟩
        rw [show past.length + 1 = polling.polls from hlength]
        exact hcalled
  · intro row houtgoing hclosed
    obtain ⟨next, hwork, hcut, hpolls, hnothing⟩ := work_of_closed houtgoing hclosed
    refine ⟨next, hwork, hnothing, ?_⟩
    intro more later hlater
    obtain ⟨hend, hsame, hevents⟩ := hlater.isCut hcut
    exact ⟨hsame.trans hpolls, hevents, hend.stops origin⟩

end

/-- A shutdown that is signalled between the two rows of the second poll, with one poll left: the loop
carries the poll through and stops when it would wait for the next one. -/
theorem refines_calls_midPoll :
    ∃ events entries polling, Documented (.scripted []) (fun _ => True)
        (.start ⟨[.ok (.stream [.ok (.int 1), .ok (.int 2)]),
            .ok (.stream [.ok (.int 3), .ok (.int 4)])], .empty 4, none, [], .zero, 0, 0, []⟩ 0
          (some 3)) events entries polling ∧
      polling.phase = .stopped .shutdown ∧ polling.poller.output.isOpen = true ∧
      ∃ count, (Poller.Called (.scripted []) ⟨[.ok (.stream [.ok (.int 1), .ok (.int 2)]),
            .ok (.stream [.ok (.int 3), .ok (.int 4)])], .empty 4, none, [], .zero, 0, 0, []⟩ count
          events (.finished true) polling.poller) ∧
        entries.length = count ∧ (∀ entry ∈ entries, entry.Exhausted) ∧
        (∀ limit, some 3 = some limit → count ≤ limit) ∧
        (StopReason.shutdown = .maxPolls ↔ some 3 = some count) := by
  have hrun : (enact (.scripted []) (.start ⟨[.ok (.stream [.ok (.int 1), .ok (.int 2)]),
          .ok (.stream [.ok (.int 3), .ok (.int 4)])], .empty 4, none, [], .zero, 0, 0, []⟩ 0
        (some 3)) [] (polled 7 ++ polled 3 ++ [.signal] ++ List.replicate 4 .work ++
      [.check, .noticeShutdown])).map
      (fun made => (made.1.reason?, made.1.poller.output.isOpen)) =
      some (some .shutdown, true) := by decide +kernel
  obtain ⟨events, entries, polling, hdocumented, hseen⟩ := exists_documented _ hrun
  simp only [Prod.mk.injEq, reason?_eq_some] at hseen
  obtain ⟨hphase, hopen⟩ := hseen
  obtain ⟨hreason, hcarried, -⟩ := (Documented.refines_calls hdocumented).1 _ hphase
  obtain ⟨count, hcalled, hlength, hexhausted, hwithin, hlimit, -⟩ := hcarried (hreason hopen)
  exact ⟨events, entries, polling, hdocumented, hphase, hopen, count, hcalled, hlength, hexhausted,
    hwithin, hlimit⟩

end Polling

end QueryFeed
