import QueryFeed.Proofs.Poller.Accounts
import QueryFeed.Proofs.Poller.Acts

/-!
**The books of a poller balance.**

At every point of every history, the counters of a poller and the queues of its channels agree with
what was noticed so far: each counter with the number of its events, and each queue with what was
put in and not yet taken out.  Two stages may be behind: a failure that is owed to a channel, and
messages that a poll sent and has not counted yet.

Main definitions:

* `Channel.Passes` — what passed through a channel;
* `Polling.Balanced` — the agreement;
* `Poller.Unused` — a poller before its first poll.

Main results:

* `Polling.Balanced.act` — **every act keeps the agreement**;
* `Polling.Traced.balanced` — **the books balance in every history**.
-/

set_option autoImplicit false

namespace QueryFeed

variable {σ τ : Type}

/-! ### Channels -/

namespace Channel

variable {α : Type}

/-- What was taken out of a channel and what is in it are the first of what was put in, and all of
it while the channel is open. -/
structure Passes (channel : Channel α) (given taken : List α) : Prop where
  early : taken ++ channel.queue <+: given
  whole : channel.isOpen = true → taken ++ channel.queue = given

/-- Nothing passed through a new channel. -/
theorem Passes.nothing {channel : Channel α} (h : channel.queue = []) : channel.Passes [] [] :=
  ⟨by simp [h], fun _ => by simp [h]⟩

/-- Items that are put in, which an open channel alone allows, queue up. -/
theorem Passes.given {channel : Channel α} {given taken : List α} (h : channel.Passes given taken)
    (more : List α) (isOpen : more ≠ [] → channel.isOpen = true) :
    ({ channel with queue := channel.queue ++ more } : Channel α).Passes (given ++ more) taken := by
  have hwhole : channel.isOpen = true → taken ++ (channel.queue ++ more) = given ++ more := by
    intro hopen
    rw [← List.append_assoc, h.whole hopen]
  refine ⟨?_, hwhole⟩
  by_cases hmore : more = []
  · subst hmore
    simpa using h.early
  · have hall := hwhole (isOpen hmore)
    change taken ++ (channel.queue ++ more) <+: given ++ more
    exact hall ▸ List.prefix_refl _

/-- The item that is taken out is the next one. -/
theorem Passes.taken {channel : Channel α} {given taken rest : List α} {item : α}
    (h : channel.Passes given taken) (queue : channel.queue = item :: rest) :
    ({ channel with queue := rest } : Channel α).Passes given (taken ++ [item]) := by
  obtain ⟨hearly, hwhole⟩ := h
  rw [queue, List.append_cons] at hearly hwhole
  exact ⟨hearly, hwhole⟩

/-- A channel that is closed drops what is in it. -/
theorem Passes.close {channel : Channel α} {given taken : List α} (h : channel.Passes given taken) :
    channel.close.Passes given taken := by
  refine ⟨?_, fun hopen => by cases hopen⟩
  change taken ++ [] <+: given
  rw [List.append_nil]
  exact (List.prefix_append taken channel.queue).trans h.early

end Channel

/-! ### Balance -/

namespace Polling

/-- The counters and the queues agree with the events. -/
structure Balanced (events : List (Event τ)) (polling : Polling σ τ) : Prop where
  began : polling.polls = events.countP Event.isBegan
  polls : polling.poller.stats.polls = UInt64.ofNat polling.polls
  failures : ∃ unresolved refused : Nat,
    unresolved + refused = (events.filterMap Event.failed?).length ∧
      polling.poller.stats.resolutionFailures = UInt64.ofNat unresolved ∧
      polling.poller.stats.databaseFailures = UInt64.ofNat refused
  owed : events.filterMap Event.failed? =
    events.filterMap Event.delivered? ++ polling.phase.current.owed
  messages : polling.phase.current.isCutOff = false →
    polling.poller.stats.messages + UInt64.ofNat polling.phase.current.unsettled =
      UInt64.ofNat (events.filterMap Event.sent?).length
  cutOff : polling.phase.current.isCutOff = true → polling.poller.output.isOpen = false
  output : polling.poller.output.Passes (events.filterMap Event.sent?)
    ((events.filterMap Event.taken?).map Prod.fst)
  errors : ∀ route channel, polling.poller.channel? route = some channel →
    channel.Passes (events.filterMap (Event.reported? route))
      (events.filterMap (Event.heard? route))

/-- Only the counters, the queues and the current poll matter. -/
theorem Balanced.congr {events : List (Event τ)} {polling next : Polling σ τ}
    (h : Balanced events polling) (polls : next.polls = polling.polls)
    (stats : next.poller.stats = polling.poller.stats)
    (output : next.poller.output = polling.poller.output)
    (channel? : ∀ route, next.poller.channel? route = polling.poller.channel? route)
    (current : next.phase.current = polling.phase.current) : Balanced events next where
  began := polls ▸ h.began
  polls := polls ▸ stats ▸ h.polls
  failures := stats ▸ h.failures
  owed := current ▸ h.owed
  messages := current ▸ stats ▸ h.messages
  cutOff := current ▸ output ▸ h.cutOff
  output := output ▸ h.output
  errors route channel hfound := h.errors route channel (channel? route ▸ hfound)

/-- A stage of a poll keeps the balance, since its events account for it. -/
theorem Balanced.stage {events more : List (Event τ)} {polling next : Polling σ τ}
    (h : Balanced events polling) (uncut : polling.phase.current.isCutOff = false)
    (accounts : Poller.Accounts more polling.phase.current next.phase.current polling.poller
      next.poller)
    (polls : next.polls = polling.polls + more.countP Event.isBegan) :
    Balanced (events ++ more) next where
  began := by rw [polls, h.began, List.countP_append]
  polls := by rw [accounts.polls, h.polls, polls, UInt64.ofNat_add]
  failures := by
    obtain ⟨unresolved, refused, hsum, hres, hdb⟩ := h.failures
    obtain ⟨unresolved', refused', hmore, hres', hdb'⟩ := accounts.failures
    refine ⟨unresolved + unresolved', refused + refused', ?_, ?_, ?_⟩
    · rw [List.filterMap_append, List.length_append, ← hsum, ← hmore]
      omega
    · rw [hres', hres, UInt64.ofNat_add]
    · rw [hdb', hdb, UInt64.ofNat_add]
  owed := by
    rw [List.filterMap_append, List.filterMap_append, h.owed, List.append_assoc, accounts.owed,
      List.append_assoc]
  messages := by
    -- the counter wraps around, so the sums are those of machine words
    intro huncut
    have hbefore := h.messages uncut
    rw [accounts.messages huncut, UInt64.ofNat_add, ← UInt64.add_assoc, hbefore,
      ← UInt64.ofNat_add, List.filterMap_append, List.length_append]
  cutOff := by
    intro hcut
    rw [accounts.output]
    rcases accounts.cutOff hcut with hbefore | hclosed
    · rw [uncut] at hbefore
      cases hbefore
    · exact hclosed
  output := by
    rw [accounts.output, List.filterMap_append, List.filterMap_append, accounts.taken,
      List.append_nil]
    exact h.output.given _ accounts.open_of_sent
  errors := by
    intro route channel hfound
    rw [accounts.channel?, Option.map_eq_some_iff] at hfound
    obtain ⟨before, hbefore, rfl⟩ := hfound
    rw [List.filterMap_append, List.filterMap_append, accounts.heard, List.append_nil]
    exact (h.errors route before hbefore).given _ (accounts.open_of_reported route before hbefore)

theorem Balanced.tick {origin : MessageSource σ τ} {events : List (Event τ)}
    {polling next : Polling σ τ} (h : Balanced events polling)
    (made : polling.tick origin = some next) :
    Balanced (events ++ polling.poller.beginning origin) next := by
  obtain ⟨hphase, -, rfl⟩ := tick_cases made
  have hcurrent : polling.phase.current = .finished true := by rw [hphase]; rfl
  refine h.stage (by rw [hcurrent]; rfl) ?_ ?_
  · rw [hcurrent]
    exact Poller.begin_accounts origin polling.poller
  · rw [Poller.began_beginning]

theorem Balanced.work {origin : MessageSource σ τ} {events : List (Event τ)}
    {polling next : Polling σ τ} (h : Balanced events polling)
    (made : polling.work origin = some next) :
    Balanced (events ++ polling.happenings origin .work) next := by
  rcases work_cases made with
    ⟨outputOpen, hphase, hnothing, rfl⟩ | ⟨poll, after, poller, hphase, hevents, hadvance, rfl⟩
  · rw [hnothing, List.append_nil]
    refine h.congr rfl rfl rfl (fun _ => rfl) ?_
    rw [hphase]
    cases outputOpen <;> rfl
  · have hcurrent : polling.phase.current = poll := by rw [hphase]; rfl
    rw [hevents]
    refine h.stage ?_ ?_ ?_
    · rw [hcurrent]
      exact Poller.uncut_of_advance hadvance
    · rw [hcurrent]
      exact Poller.advance_accounts hadvance
    · rw [Poller.began_events]
      rfl

theorem Balanced.takeMessage {origin : MessageSource σ τ} {events : List (Event τ)}
    {polling next : Polling σ τ} (h : Balanced events polling) (problem : Option String)
    (made : polling.takeMessage = some next) :
    Balanced (events ++ polling.happenings origin (.takeMessage problem)) next := by
  obtain ⟨message, rest, hqueue, rfl⟩ := takeMessage_cases made
  have hevents : polling.happenings origin (.takeMessage problem) = [.taken message problem] := by
    simp only [happenings, hqueue]
  rw [hevents]
  exact {
    began := by simpa [List.countP_append] using h.began
    polls := h.polls
    failures := by simpa [List.filterMap_append, List.filterMap_cons] using h.failures
    owed := by simpa [List.filterMap_append, List.filterMap_cons] using h.owed
    messages := by simpa [List.filterMap_append, List.filterMap_cons] using h.messages
    cutOff := h.cutOff
    output := by simpa [List.filterMap_append, List.filterMap_cons] using h.output.taken hqueue
    errors := by
      intro route channel hfound
      have hbefore : polling.poller.channel? route = some channel := by cases route <;> exact hfound
      simpa [List.filterMap_append, List.filterMap_cons] using h.errors route channel hbefore }

theorem Balanced.takeFailure {origin : MessageSource σ τ} {events : List (Event τ)}
    {polling next : Polling σ τ} (h : Balanced events polling) {route : Route}
    (made : polling.takeFailure route = some next) :
    Balanced (events ++ polling.happenings origin (.takeFailure route)) next := by
  obtain ⟨channel, failure, rest, hfound, hqueue, rfl⟩ := takeFailure_cases made
  have hevents : polling.happenings origin (.takeFailure route) = [.heard route failure] := by
    simp only [happenings, hfound, hqueue]
  rw [hevents]
  exact {
    began := by simpa [List.countP_append] using h.began
    polls := by simpa using h.polls
    failures := by simpa [List.filterMap_append, List.filterMap_cons] using h.failures
    owed := by simpa [List.filterMap_append, List.filterMap_cons] using h.owed
    messages := by simpa [List.filterMap_append, List.filterMap_cons] using h.messages
    cutOff := by simpa using h.cutOff
    output := by simpa [List.filterMap_append, List.filterMap_cons] using h.output
    errors := by
      intro other second hsecond
      -- only the queue of this route is shorter than before
      rw [withPoller_poller, Poller.channel?_withChannel] at hsecond
      by_cases hroute : route = other
      · subst hroute
        rw [if_pos rfl, Option.some_inj] at hsecond
        subst hsecond
        have hpasses := (h.errors route channel hfound).taken hqueue
        simpa [List.filterMap_append, List.filterMap_cons] using hpasses
      · rw [if_neg hroute] at hsecond
        have hpasses := h.errors other second hsecond
        simpa [List.filterMap_append, List.filterMap_cons, hroute] using hpasses }

/-- **Every act keeps the balance.** -/
theorem Balanced.act {origin : MessageSource σ τ} {events : List (Event τ)}
    {polling next : Polling σ τ} (h : Balanced events polling) (act : Act)
    (made : polling.perform origin act = some next) :
    Balanced (events ++ polling.happenings origin act) next := by
  -- most acts are not noticed
  have hsilent : polling.happenings origin act = [] → Balanced events next →
      Balanced (events ++ polling.happenings origin act) next := by
    intro hnothing hnext
    rw [hnothing, List.append_nil]
    exact hnext
  cases act with
  | check =>
      refine hsilent rfl ?_
      obtain ⟨hphase, ⟨limit, -, -, rfl⟩ | ⟨-, rfl⟩⟩ := check_cases made
      · exact h.congr rfl rfl rfl (fun _ => rfl) (by rw [hphase]; rfl)
      · exact h.congr rfl rfl rfl (fun _ => rfl) (by rw [hphase]; rfl)
  | noticeShutdown =>
      refine hsilent rfl ?_
      obtain ⟨hphase, -, rfl⟩ := noticeShutdown_cases made
      exact h.congr rfl rfl rfl (fun _ => rfl) (by rw [hphase]; rfl)
  | tick => exact h.tick made
  | work => exact h.work made
  | takeMessage problem => exact h.takeMessage problem made
  | takeFailure route => exact h.takeFailure made
  | closeOutput =>
      refine hsilent rfl ?_
      cases made
      exact { h with cutOff := fun _ => rfl, output := h.output.close }
  | closeErrors route =>
      refine hsilent rfl ?_
      obtain ⟨channel, hfound, rfl⟩ := Option.map_eq_some_iff.1 made
      exact {
        began := h.began
        polls := by simpa using h.polls
        failures := by simpa using h.failures
        owed := h.owed
        messages := by simpa using h.messages
        cutOff := by simpa using h.cutOff
        output := by simpa using h.output
        errors := by
          intro other second hsecond
          -- only the channel of this route drops what is in it
          rw [withPoller_poller, Poller.channel?_withChannel] at hsecond
          by_cases hroute : route = other
          · subst hroute
            rw [if_pos rfl, Option.some_inj] at hsecond
            subst hsecond
            exact (h.errors route channel hfound).close
          · rw [if_neg hroute] at hsecond
            exact h.errors other second hsecond }
  | signal =>
      refine hsilent rfl ?_
      cases made
      exact h.congr rfl rfl rfl (fun _ => rfl) rfl
  | moveClock time =>
      refine hsilent rfl ?_
      cases made
      unfold moveClock
      split
      · exact h
      · exact h.congr rfl rfl rfl (fun route => by cases route <;> rfl) rfl
  | tell notices =>
      refine hsilent rfl ?_
      cases made
      exact h.congr rfl rfl rfl (fun route => by cases route <;> rfl) rfl

end Polling

/-! ### Whole histories -/

/-- A poller before its first poll: nothing is counted, and its channels are empty. -/
structure Poller.Unused (poller : Poller σ τ) : Prop where
  stats : poller.stats = .zero
  output : poller.output.queue = []
  errors : ∀ route channel, poller.channel? route = some channel → channel.queue = []

namespace Polling

theorem Balanced.start {poller : Poller σ τ} (unused : poller.Unused) (interval : Nat)
    (maxPolls : Option Nat) : Balanced [] (Polling.start poller interval maxPolls) where
  began := rfl
  polls := congrArg Stats.polls unused.stats
  failures := ⟨0, 0, rfl, congrArg Stats.resolutionFailures unused.stats,
    congrArg Stats.databaseFailures unused.stats⟩
  owed := rfl
  messages _ := by
    have hmessages := congrArg Stats.messages unused.stats
    exact (UInt64.add_zero _).trans hmessages
  cutOff h := by cases h
  output := .nothing unused.output
  errors route channel hfound := .nothing (unused.errors route channel hfound)

/-- **The books balance in every history.** -/
theorem Traced.balanced {origin : MessageSource σ τ} {allowed : Act → Prop}
    {first polling : Polling σ τ} {events : List (Event τ)}
    (h : Traced origin allowed first events polling)
    (start : Balanced [] first) : Balanced events polling := by
  induction h with
  | start => exact start
  | step _ act _ made ih => exact ih.act act made

end Polling

end QueryFeed
