import QueryFeed.Proofs.Run.Rank
import QueryFeed.Proofs.Run.Schedule

/-!
**A run with a limit for its polls ends.**

A run goes on as long as its surroundings like, for they can always move the clock.  But its parties
take finitely many steps, since each of them lowers the rank of the run.  So when the parties get their
turns, and the clock goes on, and the database answers every payload, the run ends: after the last step
nothing is left to wait for but time, and time passes.

Main definitions:

* `Run.Execution` — an endless sequence of moves;
* `Run.Execution.Fair` — the parties get their turns, and the clock goes on;
* `MessageSource.Answers` — the database answers every payload;
* `Run.Execution.greedy` — the sequence in which a party moves whenever one can.

Main results:

* `Run.Execution.exists_quiet` — **the parties take finitely many steps**;
* `Run.Execution.exists_result` — **a fair run with a limit ends**;
* `Run.Execution.fair_greedy` — there are fair runs;
* `Run.never_deadlocks` — **a run never deadlocks, and with a limit for its polls it ends**.
-/

set_option autoImplicit false

namespace QueryFeed

variable {σ τ ω : Type}

/-! ### Answers -/

/-- The database answers every payload at some time. -/
def MessageSource.Answers (origin : MessageSource σ τ) : Prop :=
  ∀ now payload source, (origin.submit now payload source).1.isSome

namespace Polling

/-- The answer that a poll waits for comes at some time. -/
def Answered (polling : Polling σ τ) : Prop :=
  ∀ headers payload due, polling.phase.current = .awaiting headers payload due → due.isSome

/-- **Every answer that is waited for comes at some time**, if the database answers every payload. -/
theorem Traced.answered {origin : MessageSource σ τ} {allowed : Act → Prop}
    {first polling : Polling σ τ} {events : List (Event τ)}
    (h : Traced origin allowed first events polling) (idle : first.phase = .checking)
    (answers : origin.Answers) : Answered polling := by
  obtain ⟨entries, hdocumented⟩ := h.documented
  refine hdocumented.induction (P := fun _ _ polling => Answered polling) idle ?_ ?_ ?_ ?_
  · intro headers payload due hawaiting
    rw [idle] at hawaiting
    cases hawaiting
  · intro _ _ polling next _ made headers payload due hawaiting
    obtain ⟨-, -, rfl⟩ := tick_cases made
    change (polling.poller.begin origin).1 = _ at hawaiting
    cases hresult : (origin.receive polling.poller.stamp polling.poller.source).result with
    | error e =>
        rw [Poller.begin_of_error hresult] at hawaiting
        have hnone := (Poll.report_short (τ := τ) ((polling.poller.asked origin).counted
          Stats.recordResolutionFailure) origin.component e none 0).1
        rw [hawaiting] at hnone
        cases hnone
    | ok message =>
        obtain ⟨time, source, hsubmit, hbegin⟩ := Poller.begin_of_ok hresult
        rw [hbegin] at hawaiting
        cases hawaiting
        have hsome := answers polling.poller.now message.payload (polling.poller.asked origin).source
        rw [hsubmit] at hsome
        exact hsome
  · intro _ _ _ polling next poll _ _ made headers payload due hawaiting
    rcases work_cases made with ⟨outputOpen, _, _, rfl⟩ | ⟨_, stage, _, _, _, hadvance, rfl⟩
    · cases outputOpen <;> cases hawaiting
    · have hnone := (Poll.step_of_advance hadvance).descends.1
      obtain rfl : stage = .awaiting headers payload due := hawaiting
      cases hnone
  · intro _ _ polling next act ih htick hwork made headers payload due hawaiting
    rw [(perform_frame made htick hwork).2.1] at hawaiting
    exact ih headers payload due hawaiting

end Polling

namespace Run

/-! ### Waiting -/

section

variable {run : Run σ τ ω}

/-- A run has a result when the runner is done. -/
theorem isSome_result? : run.result?.isSome ↔ ∃ ending, run.phase = .finished ending := by
  unfold result?
  split
  · rename_i ending hphase
    refine ⟨fun _ => ⟨ending, hphase⟩, fun _ => ?_⟩
    split <;> rfl
  · rename_i hother
    exact ⟨nofun, fun ⟨ending, hphase⟩ => absurd hphase (hother ending)⟩

/-- **What the poller waits for comes at some time**, if it stays where it is until then. -/
theorem waits_until (answered : run.polling.Answered) (waits : run.AwaitsTick ∨ run.AwaitsAnswer) :
    (∀ reason, run.polling.phase ≠ .stopped reason) ∧
      ∃ time, ∀ later : Run σ τ ω, later.polling.phase = run.polling.phase →
        later.polling.deadline = run.polling.deadline → time ≤ later.poller.now →
          ¬ (later.AwaitsTick ∨ later.AwaitsAnswer) := by
  rcases waits with ⟨hwaiting, -, -⟩ | ⟨poll, hpolling, hawaits⟩
  · refine ⟨fun reason => by rw [hwaiting]; nofun, run.polling.deadline, ?_⟩
    rintro later hphase hdeadline hreached (⟨-, -, hearly⟩ | ⟨poll, hpolling, -⟩)
    · rw [hdeadline] at hearly
      exact Nat.not_lt.2 hreached hearly
    · rw [hphase, hwaiting] at hpolling
      cases hpolling
  · refine ⟨fun reason => by rw [hpolling]; nofun, ?_⟩
    cases poll with
    | awaiting headers payload due =>
        have hsome := answered headers payload due (by rw [hpolling]; rfl)
        obtain ⟨time, rfl⟩ := Option.isSome_iff_exists.1 hsome
        refine ⟨time, ?_⟩
        rintro later hphase - hreached (⟨hwaiting, -⟩ | ⟨stage, hstage, hearly⟩)
        · rw [hphase, hpolling] at hwaiting
          cases hwaiting
        · rw [hphase, hpolling] at hstage
          cases hstage
          exact Nat.not_lt.2 hreached (hearly time rfl)
    | _ => exact hawaits.elim

end

/-! ### Executions -/

/-- An endless sequence of moves.  The surroundings go on when the run has ended. -/
structure Execution (setup : RunSetup σ τ ω) (first : Run σ τ ω) where
  state : Nat → Run σ τ ω
  move : Nat → Move
  start : state 0 = first
  step : ∀ i, (state i).make setup (move i) = some (state (i + 1))

namespace Execution

section

variable {setup : RunSetup σ τ ω} {first : Run σ τ ω}

/-- The parties get their turns, and the clock goes on until the poller has stopped. -/
structure Fair (execution : Execution setup first) : Prop where
  turns : ∀ i, (execution.state i).CanStep setup → ∃ j ≥ i, (execution.move j).isParty = true
  clock : ∀ i time, ∃ j ≥ i, (∃ reason, (execution.state j).polling.phase = .stopped reason) ∨
    time ≤ (execution.state j).poller.now

theorem reaches (execution : Execution setup first) (i : Nat) :
    Reaches setup first (execution.state i) := by
  induction i with
  | zero => rw [execution.start]; exact .start
  | succ i ih => exact ih.step (execution.move i) (execution.step i)

end

section

variable {setup : RunSetup σ τ ω} {source : σ} {options : RunOptions} {firstId : Nat} {out : ω}

theorem traced (execution : Execution setup (Run.start source options firstId out)) (i : Nat) :
    ∃ events, Traced setup (Run.start source options firstId out) events (execution.state i) :=
  (execution.reaches i).traced

/-- A step of a party lowers the rank, and any other move keeps it. -/
theorem rank_step (execution : Execution setup (Run.start source options firstId out))
    {limit : Nat} (limited : options.maxPolls = some limit) (i : Nat) :
    if (execution.move i).isParty then
      (execution.state (i + 1)).rank limit < (execution.state i).rank limit
    else (execution.state (i + 1)).rank limit = (execution.state i).rank limit := by
  obtain ⟨events, htraced⟩ := execution.traced i
  split
  · rename_i hparty
    exact rank_of_party htraced.limited (htraced.polling.maxPolls.trans limited) hparty
      (execution.step i)
  · rename_i hparty
    exact rank_of_surroundings limit (by simpa using hparty) (execution.step i)

theorem rank_le (execution : Execution setup (Run.start source options firstId out))
    {limit : Nat} (limited : options.maxPolls = some limit) {i j : Nat} (h : i ≤ j) :
    (execution.state j).rank limit ≤ (execution.state i).rank limit := by
  induction j, h using Nat.le_induction with
  | base => exact le_refl _
  | succ j _ ih =>
      have hstep := execution.rank_step limited j
      split at hstep
      · exact (le_of_lt hstep).trans ih
      · exact hstep.le.trans ih

/-- **The parties take finitely many steps**, for each of them lowers the rank of the run. -/
theorem exists_quiet (execution : Execution setup (Run.start source options firstId out))
    {limit : Nat} (limited : options.maxPolls = some limit) :
    ∃ last, ∀ j ≥ last, (execution.move j).isParty = false := by
  -- by induction on the rank of a state: the next step of a party leads to a lower one
  have hbelow : ∀ rank i, (execution.state i).rank limit = rank →
      ∃ last, ∀ j ≥ last, (execution.move j).isParty = false := by
    intro rank
    induction rank using WellFoundedLT.induction with
    | _ rank ih =>
        intro i hrank
        by_cases hquiet : ∃ j ≥ i, (execution.move j).isParty = true
        · obtain ⟨j, hlater, hparty⟩ := hquiet
          have hstep := execution.rank_step limited j
          rw [if_pos hparty] at hstep
          exact ih _ (hrank ▸ hstep.trans_le (execution.rank_le limited hlater)) (j + 1) rfl
        · exact ⟨i, fun j hlater => Bool.eq_false_iff.2 fun hparty => hquiet ⟨j, hlater, hparty⟩⟩
  exact hbelow _ 0 rfl

/-- When only the surroundings move, the poller stays where it is. -/
theorem still {setup : RunSetup σ τ ω} {first : Run σ τ ω} (execution : Execution setup first)
    {last : Nat} (quiet : ∀ j ≥ last, (execution.move j).isParty = false) {j : Nat} (h : last ≤ j) :
    (execution.state j).polling.phase = (execution.state last).polling.phase ∧
      (execution.state j).polling.deadline = (execution.state last).polling.deadline := by
  induction j, h using Nat.le_induction with
  | base => exact ⟨rfl, rfl⟩
  | succ j hlater ih =>
      obtain ⟨hphase, -, hdeadline, -⟩ := surroundings_frame (quiet j hlater) (execution.step j)
      exact ⟨hphase.trans ih.1, hdeadline.trans ih.2⟩

/-- **A fair run with a limit ends**, if the database answers every payload. -/
theorem exists_result (execution : Execution setup (Run.start source options firstId out))
    {limit : Nat} (limited : options.maxPolls = some limit) (answers : setup.origin.Answers)
    (fair : execution.Fair) : ∃ i result, (execution.state i).result? = some result := by
  by_contra hnone
  obtain ⟨last, hquiet⟩ := execution.exists_quiet limited
  have hprogress : ∀ j ≥ last, (execution.state j).AwaitsTick ∨ (execution.state j).AwaitsAnswer := by
    intro j hlater
    obtain ⟨events, htraced⟩ := execution.traced j
    refine (htraced.progress ?_).resolve_left ?_
    · intro ending hfinished
      obtain ⟨result, hresult⟩ := Option.isSome_iff_exists.1 (isSome_result?.2 ⟨ending, hfinished⟩)
      exact hnone ⟨j, result, hresult⟩
    · intro hcan
      obtain ⟨k, hafter, hparty⟩ := fair.turns j hcan
      exact nomatch hparty.symm.trans (hquiet k (Nat.le_trans hlater hafter))
  -- after the last step of a party, only time is left to wait for
  obtain ⟨events, htraced⟩ := execution.traced last
  obtain ⟨hgoing, time, hover⟩ := waits_until (htraced.polling.answered rfl answers)
    (hprogress last (Nat.le_refl last))
  obtain ⟨j, hlater, ⟨reason, hstopped⟩ | hreached⟩ := fair.clock last time
  · exact hgoing reason ((execution.still hquiet hlater).1.symm.trans hstopped)
  · obtain ⟨hphase, hdeadline⟩ := execution.still hquiet hlater
    exact hover (execution.state j) hphase hdeadline hreached (hprogress j hlater)

end

end Execution

/-! ### Fair executions -/

/-- The moves of the parties. -/
def Move.parties : List Move :=
  [.check, .noticeShutdown, .tick, .work, .noticeInterrupt, .takeFailure, .takeMessage, .noticeClosed,
    .drain, .join]

theorem Move.mem_parties {move : Move} : move ∈ parties ↔ move.isParty = true := by
  cases move <;> simp [parties, isParty]

section

variable {setup : RunSetup σ τ ω}

/-- A move of a party if one is possible, and else the clock goes on. -/
def greedy (setup : RunSetup σ τ ω) (run : Run σ τ ω) : Move :=
  (Move.parties.find? fun move => (run.make setup move).isSome).getD (.moveClock (run.poller.now + 1))

theorem isSome_greedy (run : Run σ τ ω) : (run.make setup (run.greedy setup)).isSome := by
  unfold greedy
  cases hfind : Move.parties.find? fun move => (run.make setup move).isSome with
  | none => rfl
  | some chosen =>
      have hmade := List.find?_some hfind
      exact hmade

/-- A party that can take a step takes one. -/
theorem isParty_greedy {run : Run σ τ ω} (h : run.CanStep setup) :
    (run.greedy setup).isParty = true := by
  obtain ⟨move, hparty, hmade⟩ := h
  unfold greedy
  cases hfind : Move.parties.find? fun move => (run.make setup move).isSome with
  | none => exact absurd hmade (List.find?_eq_none.1 hfind move (Move.mem_parties.2 hparty))
  | some chosen => exact Move.mem_parties.1 (List.mem_of_find?_eq_some hfind)

/-- When no party can take a step, the clock goes on, unless the poller has stopped. -/
theorem later_of_greedy {run next : Run σ τ ω} (quiet : (run.greedy setup).isParty = false)
    (made : run.make setup (run.greedy setup) = some next) :
    (∃ reason, run.polling.phase = .stopped reason) ∨ run.poller.now < next.poller.now := by
  have hclock : run.greedy setup = .moveClock (run.poller.now + 1) := by
    unfold greedy at quiet ⊢
    cases hfind : Move.parties.find? fun move => (run.make setup move).isSome with
    | none => rfl
    | some chosen =>
        rw [hfind, Option.getD_some, Move.mem_parties.1 (List.mem_of_find?_eq_some hfind)] at quiet
        cases quiet
  rw [hclock] at made
  cases made
  cases hreason : run.polling.reason? with
  | some reason => exact Or.inl ⟨reason, Polling.reason?_eq_some.1 hreason⟩
  | none =>
      right
      have hmoved : (run.moveClock (run.poller.now + 1)).poller.now =
          max run.poller.now (run.poller.now + 1) := by
        simp only [moveClock, Polling.moveClock, hreason]
        rfl
      rw [hmoved]
      exact Nat.lt_of_lt_of_le (Nat.lt_succ_self _) (Nat.le_max_right _ _)

/-- The state after a number of greedy moves. -/
def afterGreedy (setup : RunSetup σ τ ω) (first : Run σ τ ω) : Nat → Run σ τ ω
  | 0 => first
  | count + 1 =>
      let run := afterGreedy setup first count
      (run.make setup (run.greedy setup)).get (isSome_greedy run)

/-- The execution in which a party moves whenever one can, and the clock goes on otherwise. -/
def Execution.greedy (setup : RunSetup σ τ ω) (first : Run σ τ ω) : Execution setup first where
  state := afterGreedy setup first
  move i := (afterGreedy setup first i).greedy setup
  start := rfl
  step _ := (Option.some_get _).symm

end

section

variable {setup : RunSetup σ τ ω} {source : σ} {options : RunOptions} {firstId : Nat} {out : ω}

/-- **There are fair runs**: the greedy one gives the parties every turn they can take, and when they
are done, time passes. -/
theorem Execution.fair_greedy (setup : RunSetup σ τ ω) (source : σ) {options : RunOptions}
    (firstId : Nat) (out : ω) {limit : Nat} (limited : options.maxPolls = some limit) :
    (Execution.greedy setup (Run.start source options firstId out)).Fair where
  turns i hcan := ⟨i, Nat.le_refl i, isParty_greedy hcan⟩
  clock i time := by
    let execution := Execution.greedy setup (Run.start source options firstId out)
    obtain ⟨last, hquiet⟩ := execution.exists_quiet limited
    by_cases hstopped : ∃ j ≥ max i last, ∃ reason, (execution.state j).polling.phase = .stopped reason
    · obtain ⟨j, hlater, hreason⟩ := hstopped
      exact ⟨j, Nat.le_trans (Nat.le_max_left i last) hlater, Or.inl hreason⟩
    -- after the last step of a party, every move is one of the clock
    · have hpasses : ∀ count, count ≤ (execution.state (max i last + count)).poller.now := by
        intro count
        induction count with
        | zero => exact Nat.zero_le _
        | succ count ih =>
            have hlater : max i last ≤ max i last + count := Nat.le_add_right _ _
            have hafter := later_of_greedy (hquiet _ (Nat.le_trans (Nat.le_max_right i last) hlater))
              (execution.step _)
            have hnot : ¬ ∃ reason,
                (execution.state (max i last + count)).polling.phase = .stopped reason :=
              fun hreason => hstopped ⟨_, hlater, hreason⟩
            exact Nat.lt_of_le_of_lt ih (hafter.resolve_left hnot)
      exact ⟨max i last + time, by omega, Or.inr (hpasses time)⟩

/-! ### No deadlock -/

/-- **A run never deadlocks, and with a limit for its polls it ends.**  As long as a run has no result,
one of its parties can take a step, or the poller waits for its next tick or for the database; and
while the poller waits for room in a channel, the runner can take a step.  If the database answers every
payload, then a run with a limit for its polls has a result at some time, as long as its parties get
their turns and the clock goes on. -/
theorem never_deadlocks (setup : RunSetup σ τ ω) (source : σ) (options : RunOptions) (firstId : Nat)
    (out : ω) :
    (∀ run, Reaches setup (Run.start source options firstId out) run → run.result? = none →
      (run.CanStep setup ∨ run.AwaitsTick ∨ run.AwaitsAnswer) ∧
        (run.AwaitsRoom → run.RunnerCanStep setup)) ∧
    (setup.origin.Answers → ∀ limit, options.maxPolls = some limit →
      ∀ execution : Execution setup (Run.start source options firstId out), execution.Fair →
        ∃ i result, (execution.state i).result? = some result) := by
  constructor
  · intro run hreaches hnone
    obtain ⟨events, htraced⟩ := hreaches.traced
    refine ⟨htraced.progress ?_, htraced.runnerCanStep⟩
    intro ending hfinished
    have hsome := isSome_result?.2 ⟨ending, hfinished⟩
    rw [hnone] at hsome
    cases hsome
  · intro answers limit limited execution fair
    exact execution.exists_result limited answers fair

/-- A script answers every payload at once. -/
theorem answers_scripted (headers : Table String) : (MessageSource.scripted headers).Answers :=
  fun _ _ _ => rfl

/-- Two rows, and then more failures than there is room for. -/
def failingPolls : Script :=
  .ok (.stream [.ok (.int 1), .ok (.int 2)]) :: List.replicate 66 (.error .uninitialized)

/-- The run of the failing polls when its poller has gone on alone for a hundred milliseconds. -/
def blocked : Run Script Json Page :=
  let run := Run.start failingPolls ⟨1, some 67, none⟩ 0 .blank
  { run with polling := run.polling.runUntil (.scripted []) (ofMilliseconds 100) 20 100 }

theorem never_deadlocks_failingPolls :
    (blocked.AwaitsRoom ∧ blocked.RunnerCanStep (.onPage [] none)) ∧
      ∃ i result, ((Execution.greedy (.onPage [] none)
        (Run.start failingPolls ⟨1, some 67, none⟩ 0 .blank)).state i).result? = some result := by
  obtain ⟨hprogress, hends⟩ :=
    never_deadlocks (.onPage [] none) failingPolls ⟨1, some 67, none⟩ 0 Page.blank
  have hroom : blocked.AwaitsRoom := by decide +kernel
  refine ⟨⟨hroom, (hprogress blocked (Reaches.start.runUntil (ofMilliseconds 100) 20 100) rfl).2 hroom⟩, ?_⟩
  exact hends (answers_scripted []) 67 rfl _ (Execution.fair_greedy _ _ _ _ rfl)

end

end Run

end QueryFeed
