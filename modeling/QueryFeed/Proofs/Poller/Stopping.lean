import QueryFeed.Proofs.Poller.Balance

/-!
**Why a poller stops.**

A poller never begins more polls than its limit allows, and when it has stopped, the reason it gives
is true: the limit was reached, a shutdown was signalled, or the output was closed.  It stays
stopped.

Main definitions:

* `Polling.Limited` — a poller heeds its limit and stops for a cause;
* `Polling.Justifies` — a reason for stopping is true.

Main results:

* `Polling.own_of_stopped`, `Polling.phase_of_stopped` — **a poller that stopped does nothing any
  more, and stays so**;
* `Polling.own_frame` — what a poller leaves to others;
* `Polling.Traced.limited`, `Polling.Traced.polls_lt_limit` — a poller heeds its limit in every
  history, and has polls left where it stops for a shutdown;
* `Polling.Limited.justifies` — **the reason for stopping is true**.
-/

set_option autoImplicit false

namespace QueryFeed.Polling

variable {σ τ : Type}

/-! ### Stopping for good -/

/-- **A poller that stopped does nothing any more**, and the clock stands still for it. -/
theorem own_of_stopped {origin : MessageSource σ τ} {polling next : Polling σ τ} {act : Act}
    {reason : StopReason} (h : polling.perform origin act = some next) (own : act.IsOwn)
    (stopped : polling.phase = .stopped reason) :
    next = polling ∧ polling.happenings origin act = [] := by
  cases act with
  | check =>
      have hphase := (check_cases h).1
      rw [stopped] at hphase
      cases hphase
  | noticeShutdown =>
      have hphase := (noticeShutdown_cases h).1
      rw [stopped] at hphase
      cases hphase
  | tick =>
      have hphase := (tick_cases h).1
      rw [stopped] at hphase
      cases hphase
  | work =>
      rcases work_cases h with ⟨_, hphase, _⟩ | ⟨_, _, _, hphase, _⟩
      · rw [stopped] at hphase
        cases hphase
      · rw [stopped] at hphase
        cases hphase
  | moveClock time =>
      cases h
      have hreason := reason?_eq_some.2 stopped
      refine ⟨?_, rfl⟩
      simp only [moveClock, hreason, Option.isSome_some, if_true]
  | takeMessage | takeFailure | closeOutput | closeErrors | signal | tell => exact own.elim

/-- **A poller that stopped stays so**, whatever others do. -/
theorem phase_of_stopped {origin : MessageSource σ τ} {polling next : Polling σ τ} {act : Act}
    {reason : StopReason} (h : polling.perform origin act = some next)
    (stopped : polling.phase = .stopped reason) : next.phase = .stopped reason := by
  cases act with
  | check | noticeShutdown | tick | work | moveClock =>
      obtain ⟨rfl, -⟩ := own_of_stopped h trivial stopped
      exact stopped
  | takeMessage problem =>
      obtain ⟨_, _, _, rfl⟩ := takeMessage_cases h
      exact stopped
  | takeFailure route =>
      obtain ⟨_, _, _, _, _, rfl⟩ := takeFailure_cases h
      exact stopped
  | closeOutput => cases h; exact stopped
  | closeErrors route =>
      obtain ⟨_, _, rfl⟩ := Option.map_eq_some_iff.1 h
      exact stopped
  | signal => cases h; exact stopped
  | tell notices => cases h; exact stopped

/-- The limit is set once and for all. -/
theorem maxPolls_of_perform {origin : MessageSource σ τ} {polling next : Polling σ τ} {act : Act}
    (h : polling.perform origin act = some next) : next.maxPolls = polling.maxPolls := by
  cases act with
  | check => obtain ⟨_, ⟨_, _, _, rfl⟩ | ⟨_, rfl⟩⟩ := check_cases h <;> rfl
  | noticeShutdown => obtain ⟨_, _, rfl⟩ := noticeShutdown_cases h; rfl
  | tick => obtain ⟨_, _, rfl⟩ := tick_cases h; rfl
  | work => obtain ⟨_, _, _, rfl⟩ | ⟨_, _, _, _, _, _, rfl⟩ := work_cases h <;> rfl
  | takeMessage problem => obtain ⟨_, _, _, rfl⟩ := takeMessage_cases h; rfl
  | takeFailure route => obtain ⟨_, _, _, _, _, rfl⟩ := takeFailure_cases h; rfl
  | closeOutput => cases h; rfl
  | closeErrors route => obtain ⟨_, _, rfl⟩ := Option.map_eq_some_iff.1 h; rfl
  | signal => cases h; rfl
  | moveClock time => cases h; unfold moveClock; split <;> rfl
  | tell notices => cases h; rfl

/-! ### The poller's own acts -/

/-- By itself a poller neither closes its output nor signals a shutdown, and it takes nothing from
its channels. -/
theorem own_frame {origin : MessageSource σ τ} {polling next : Polling σ τ} {act : Act}
    (h : polling.perform origin act = some next) (own : act.IsOwn) :
    next.poller.output.isOpen = polling.poller.output.isOpen ∧ next.shutdown = polling.shutdown ∧
      (polling.happenings origin act).filterMap Event.taken? = [] ∧
      ∀ route, (polling.happenings origin act).filterMap (Event.heard? route) = [] := by
  cases act with
  | check =>
      obtain ⟨-, ⟨_, _, _, rfl⟩ | ⟨_, rfl⟩⟩ := check_cases h
      · exact ⟨rfl, rfl, rfl, fun _ => rfl⟩
      · exact ⟨rfl, rfl, rfl, fun _ => rfl⟩
  | noticeShutdown =>
      obtain ⟨-, -, rfl⟩ := noticeShutdown_cases h
      exact ⟨rfl, rfl, rfl, fun _ => rfl⟩
  | tick =>
      obtain ⟨-, -, rfl⟩ := tick_cases h
      have haccounts := Poller.begin_accounts origin polling.poller
      have hopen := congrArg Channel.isOpen haccounts.output
      exact ⟨hopen, rfl, haccounts.taken, haccounts.heard⟩
  | work =>
      rcases work_cases h with
        ⟨_, -, hnothing, rfl⟩ | ⟨poll, after, poller, -, hevents, hadvance, rfl⟩
      · rw [hnothing]
        exact ⟨rfl, rfl, rfl, fun _ => rfl⟩
      · have haccounts := Poller.advance_accounts hadvance
        have hopen := congrArg Channel.isOpen haccounts.output
        rw [hevents]
        exact ⟨hopen, rfl, haccounts.taken, haccounts.heard⟩
  | moveClock time =>
      cases h
      unfold moveClock
      split
      · exact ⟨rfl, rfl, rfl, fun _ => rfl⟩
      · exact ⟨rfl, rfl, rfl, fun _ => rfl⟩
  | takeMessage | takeFailure | closeOutput | closeErrors | signal | tell => exact own.elim

/-! ### Heeding the limit -/

/-- A poller heeds its limit, and stops at it or for a shutdown only when there is one. -/
structure Limited (polling : Polling σ τ) : Prop where
  within : ∀ limit, polling.maxPolls = some limit → polling.polls ≤ limit
  waiting : polling.phase = .waiting → ∀ limit, polling.maxPolls = some limit →
    polling.polls < limit
  reached : polling.phase = .stopped .maxPolls → polling.maxPolls = some polling.polls
  signalled : polling.phase = .stopped .shutdown → polling.shutdown = true

/-- Only the limit, the number of polls and the phase matter, and that a shutdown is not taken back.
-/
theorem Limited.congr {polling next : Polling σ τ} (h : Limited polling)
    (maxPolls : next.maxPolls = polling.maxPolls) (polls : next.polls = polling.polls)
    (phase : next.phase = polling.phase)
    (shutdown : polling.shutdown = true → next.shutdown = true) : Limited next where
  within := maxPolls ▸ polls ▸ h.within
  waiting := maxPolls ▸ polls ▸ phase ▸ h.waiting
  reached := maxPolls ▸ polls ▸ phase ▸ h.reached
  signalled hphase := shutdown (h.signalled (phase ▸ hphase))

/-- Every act heeds the limit. -/
theorem Limited.act {origin : MessageSource σ τ} {polling next : Polling σ τ}
    (h : Limited polling) {act : Act} (made : polling.perform origin act = some next) :
    Limited next := by
  cases act with
  | check =>
      obtain ⟨-, ⟨limit, hlimit, hle, rfl⟩ | ⟨hbelow, rfl⟩⟩ := check_cases made
      · -- the limit is met exactly, for it was never passed
        have hreached : limit = polling.polls := Nat.le_antisymm hle (h.within limit hlimit)
        exact ⟨h.within, nofun, fun _ => hreached ▸ hlimit, nofun⟩
      · exact ⟨h.within, fun _ => hbelow, nofun, nofun⟩
  | noticeShutdown =>
      obtain ⟨-, hshutdown, rfl⟩ := noticeShutdown_cases made
      exact ⟨h.within, nofun, nofun, fun _ => hshutdown⟩
  | tick =>
      -- a tick is taken only by a poller that may begin another poll
      obtain ⟨hphase, -, rfl⟩ := tick_cases made
      exact ⟨h.waiting hphase, nofun, nofun, nofun⟩
  | work =>
      obtain ⟨outputOpen, -, -, rfl⟩ | ⟨poll, after, poller, -, -, -, rfl⟩ := work_cases made
      · cases outputOpen with
        | true =>
            exact ⟨h.within, nofun, nofun, nofun⟩
        | false =>
            exact ⟨h.within, nofun, nofun, nofun⟩
      · exact ⟨h.within, nofun, nofun, nofun⟩
  | takeMessage problem =>
      obtain ⟨_, _, _, rfl⟩ := takeMessage_cases made
      exact h.congr rfl rfl rfl id
  | takeFailure route =>
      obtain ⟨_, _, _, _, _, rfl⟩ := takeFailure_cases made
      exact h.congr rfl rfl rfl id
  | closeOutput =>
      cases made
      exact h.congr rfl rfl rfl id
  | closeErrors route =>
      obtain ⟨_, _, rfl⟩ := Option.map_eq_some_iff.1 made
      exact h.congr rfl rfl rfl id
  | signal =>
      cases made
      exact h.congr rfl rfl rfl (fun _ => rfl)
  | moveClock time =>
      cases made
      unfold moveClock
      split
      · exact h
      · exact h.congr rfl rfl rfl id
  | tell notices =>
      cases made
      exact h.congr rfl rfl rfl id

theorem Limited.start (poller : Poller σ τ) (interval : Nat) (maxPolls : Option Nat) :
    Limited (Polling.start poller interval maxPolls) :=
  ⟨fun _ _ => Nat.zero_le _, nofun, nofun, nofun⟩

theorem Traced.limited {origin : MessageSource σ τ} {allowed : Act → Prop}
    {first polling : Polling σ τ} {events : List (Event τ)}
    (h : Traced origin allowed first events polling) (start : Limited first) :
    Limited polling := by
  induction h with
  | start => exact start
  | step _ _ _ made ih => exact ih.act made

theorem Traced.maxPolls {origin : MessageSource σ τ} {allowed : Act → Prop}
    {first polling : Polling σ τ} {events : List (Event τ)}
    (h : Traced origin allowed first events polling) :
    polling.maxPolls = first.maxPolls := by
  induction h with
  | start => rfl
  | step _ _ _ made ih => exact (maxPolls_of_perform made).trans ih

/-- A poller that stopped for a shutdown had polls left, for it notices a shutdown only while it waits
for its next poll. -/
theorem Traced.polls_lt_limit {origin : MessageSource σ τ} {allowed : Act → Prop}
    {first polling : Polling σ τ} {events : List (Event τ)}
    (h : Traced origin allowed first events polling) (start : Limited first)
    (idle : first.phase = .checking) (stopped : polling.phase = .stopped .shutdown) {limit : Nat}
    (limited : polling.maxPolls = some limit) : polling.polls < limit := by
  induction h with
  | start =>
      rw [idle] at stopped
      cases stopped
  | step traced act _ made ih =>
      cases act with
      | check =>
          obtain ⟨-, ⟨_, -, -, rfl⟩ | ⟨-, rfl⟩⟩ := check_cases made <;> cases stopped
      | noticeShutdown =>
          obtain ⟨hphase, -, rfl⟩ := noticeShutdown_cases made
          exact (traced.limited start).waiting hphase limit limited
      | tick =>
          obtain ⟨-, -, rfl⟩ := tick_cases made
          cases stopped
      | work =>
          obtain ⟨outputOpen, -, -, rfl⟩ | ⟨_, _, _, -, -, -, rfl⟩ := work_cases made
          · cases outputOpen <;> cases stopped
          · cases stopped
      | takeMessage problem =>
          obtain ⟨_, _, _, rfl⟩ := takeMessage_cases made
          exact ih stopped limited
      | takeFailure route =>
          obtain ⟨_, _, _, _, _, rfl⟩ := takeFailure_cases made
          exact ih stopped limited
      | closeErrors route =>
          obtain ⟨_, _, rfl⟩ := Option.map_eq_some_iff.1 made
          exact ih stopped limited
      | closeOutput | signal | tell =>
          cases made
          exact ih stopped limited
      | moveClock time =>
          cases made
          revert stopped limited
          unfold moveClock
          split <;> exact ih

/-! ### Reasons -/

/-- A reason for stopping is true. -/
def Justifies (polling : Polling σ τ) : StopReason → Prop
  | .shutdown => polling.shutdown = true
  | .maxPolls => polling.maxPolls = some polling.polls
  | .outputClosed => polling.poller.output.isOpen = false

/-- **The reason for stopping is true** of a poller whose books balance. -/
theorem Limited.justifies {polling : Polling σ τ} {events : List (Event τ)} {reason : StopReason}
    (h : Limited polling) (balanced : Balanced events polling)
    (stopped : polling.phase = .stopped reason) : polling.Justifies reason := by
  cases reason with
  | shutdown => exact h.signalled stopped
  | maxPolls => exact h.reached stopped
  | outputClosed =>
      refine balanced.cutOff ?_
      rw [stopped]
      rfl

end QueryFeed.Polling
