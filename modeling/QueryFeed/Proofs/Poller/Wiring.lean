import QueryFeed.Proofs.Poller.Acts
import QueryFeed.Proofs.Poller.Accounts

/-!
**One channel for all failures.**

Where no channel is named and the standard one stays open, every failure goes to the standard
channel, whatever the headers of a message ask for, and the operator is never told in its place.

Main definitions:

* `Poller.Wired` — failures have one channel, which is open.

Main results:

* `Poller.Wired.delivered_beginning`, `Poller.Wired.delivered_events` — a stage of a poll reports
  its failures on the one channel;
* `Polling.Traced.wired` — the channel stays the only one, and open;
* `Polling.Traced.delivered` — **every failure that arrives somewhere arrives there**.
-/

set_option autoImplicit false

namespace QueryFeed

variable {σ τ : Type}

/-! ### Stages of a poll -/

namespace Poller

/-- Failures have one channel, which is open. -/
structure Wired (poller : Poller σ τ) : Prop where
  standard : ∃ channel, poller.channel? .standard = some channel ∧ channel.isOpen = true
  unnamed : ∀ name, poller.channel? (.named name) = none

/-- A stage of a poll adds no channel and closes none. -/
theorem Accounts.wired {events : List (Event τ)} {poll next : Poll τ} {poller after : Poller σ τ}
    (h : Accounts events poll next poller after) (wired : poller.Wired) : after.Wired := by
  obtain ⟨channel, hfound, hopen⟩ := wired.standard
  have hafter := h.channel? .standard
  rw [hfound] at hafter
  refine ⟨⟨_, hafter, hopen⟩, ?_⟩
  intro name
  rw [h.channel?, wired.unnamed]
  rfl

namespace Wired

theorem routeFor {poller : Poller σ τ} (h : poller.Wired) (failed : Option Headers) :
    (poller.routeFor failed).1 = .standard := by
  unfold Poller.routeFor
  cases failed.bind (·.get? errorChannel) with
  | none => rfl
  | some name =>
      have hname : Table.get? poller.namedErrors name = none := h.unnamed name
      simp only [Table.contains, hname]
      rfl

theorem failing {poller : Poller σ τ} (h : poller.Wired) (e : FeedError)
    (failed : Option Headers) : (poller.failing e failed : List (Event τ)) = [.failed e] := by
  obtain ⟨channel, hfound, -⟩ := h.standard
  simp only [Poller.failing, h.routeFor, hfound]

/-- While a poll begins, nothing is told the operator in place of a channel. -/
theorem delivered_beginning {poller : Poller σ τ} (h : poller.Wired)
    (origin : MessageSource σ τ) :
    (poller.beginning origin).filterMap Event.delivered? =
      ((poller.beginning origin).filterMap (Event.reported? .standard)).map Failure.error := by
  unfold beginning
  split
  · rw [h.failing]
    rfl
  · rfl

/-- While a poll advances, nothing is told the operator in place of a channel. -/
theorem delivered_events {poller : Poller σ τ} (h : poller.Wired) (origin : MessageSource σ τ)
    (poll : Poll τ) :
    (poll.events origin poller).filterMap Event.delivered? =
      ((poll.events origin poller).filterMap (Event.reported? .standard)).map Failure.error := by
  obtain ⟨channel, hfound, hopen⟩ := h.standard
  unfold Poll.events
  split
  · unfold answering
    split
    · rw [h.failing]
      rfl
    · rfl
  · rw [h.failing]
    rfl
  · split <;> rfl
  · split <;> rfl
  · rename_i route failure sent
    cases route with
    | named name => rw [h.unnamed]; rfl
    | standard =>
        simp only [hfound]
        cases hoffer : channel.offer failure with
        | accepted taking => rfl
        | full => rfl
        | closed =>
            -- the operator is told of a closed channel only
            have hclosed := Channel.isOpen_of_offer_closed hoffer
            rw [hopen] at hclosed
            cases hclosed
  · rfl

end Wired

end Poller

/-! ### Histories -/

namespace Polling

/-- No act adds a channel, and one that spares the channels for failures leaves them open. -/
theorem wired_of_perform {origin : MessageSource σ τ} {polling next : Polling σ τ} {act : Act}
    (h : polling.perform origin act = some next) (spares : act.SparesErrors)
    (wired : polling.poller.Wired) : next.poller.Wired := by
  cases act with
  | check => obtain ⟨_, ⟨_, _, _, rfl⟩ | ⟨_, rfl⟩⟩ := check_cases h <;> exact wired
  | noticeShutdown => obtain ⟨_, _, rfl⟩ := noticeShutdown_cases h; exact wired
  | tick =>
      obtain ⟨_, _, rfl⟩ := tick_cases h
      exact (Poller.begin_accounts origin polling.poller).wired wired
  | work =>
      rcases work_cases h with ⟨_, _, _, rfl⟩ | ⟨poll, after, poller, _, _, hadvance, rfl⟩
      · exact wired
      · exact (Poller.advance_accounts hadvance).wired wired
  | takeMessage problem => obtain ⟨_, _, _, rfl⟩ := takeMessage_cases h; exact ⟨wired.1, wired.2⟩
  | takeFailure route =>
      obtain ⟨channel, failure, rest, hfound, -, rfl⟩ := takeFailure_cases h
      cases route with
      | named name =>
          rw [wired.unnamed] at hfound
          cases hfound
      | standard =>
          obtain ⟨before, hbefore, hopen⟩ := wired.standard
          rw [hfound, Option.some_inj] at hbefore
          subst hbefore
          exact ⟨⟨_, rfl, hopen⟩, wired.unnamed⟩
  | closeOutput => cases h; exact ⟨wired.1, wired.2⟩
  | closeErrors route => exact spares.elim
  | signal => cases h; exact wired
  | moveClock time =>
      cases h
      unfold moveClock
      split
      · exact wired
      · exact ⟨wired.1, wired.2⟩
  | tell notices => cases h; exact ⟨wired.1, wired.2⟩

/-- What an act delivers goes to the one channel. -/
theorem delivered_happenings (origin : MessageSource σ τ) {polling : Polling σ τ}
    (wired : polling.poller.Wired) (act : Act) :
    (polling.happenings origin act).filterMap Event.delivered? =
      ((polling.happenings origin act).filterMap (Event.reported? .standard)).map
        Failure.error := by
  unfold happenings
  split
  · exact wired.delivered_beginning origin
  · split
    · exact wired.delivered_events origin _
    · rfl
  · split <;> rfl
  · split
    · rfl
    · split <;> rfl
  · rfl

theorem Traced.wired {origin : MessageSource σ τ} {first polling : Polling σ τ}
    {events : List (Event τ)}
    (h : Traced origin Act.SparesErrors first events polling)
    (start : first.poller.Wired) : polling.poller.Wired := by
  induction h with
  | start => exact start
  | step _ _ spares made ih => exact wired_of_perform made spares ih

/-- **Every failure that arrives somewhere arrives on the one channel.** -/
theorem Traced.delivered {origin : MessageSource σ τ} {first polling : Polling σ τ}
    {events : List (Event τ)}
    (h : Traced origin Act.SparesErrors first events polling)
    (start : first.poller.Wired) :
    events.filterMap Event.delivered? =
      (events.filterMap (Event.reported? .standard)).map Failure.error := by
  induction h with
  | start => rfl
  | step traced act _ _ ih =>
      rw [List.filterMap_append, List.filterMap_append, List.map_append, ih,
        delivered_happenings origin (traced.wired start) act]

end Polling

end QueryFeed
