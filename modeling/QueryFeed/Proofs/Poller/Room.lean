import QueryFeed.Proofs.Poller.Diary

/-!
**What a poll waits for.**

A poll that does not advance is over, waits for the answer of the database, or waits for room in a
channel that is open and full.  It never waits for a channel that is not there: the rooms of the
channels are settled at the start, and a failure is reported on a channel that was found.

Main definitions:

* `Poll.AwaitsAnswer`, `Poll.AwaitsRoom` — what a poll may wait for;
* `Polling.Routed` — a failure that is to be reported has its channel.

Main results:

* `Polling.Traced.capacity` — channels keep their rooms;
* `Polling.Traced.routed` — a failure that is to be reported always has its channel;
* `Poll.advances_or_waits` — **a poll advances, is over, or waits for an answer or for room**.
-/

set_option autoImplicit false

namespace QueryFeed

variable {σ τ : Type}

instance {α : Type} (offer : Offer α) : Decidable (offer = .full) :=
  match offer with
  | .full => isTrue rfl
  | .accepted _ | .closed => isFalse nofun

/-- Only an open channel without room makes its sender wait. -/
theorem Channel.full_of_offer {α : Type} {channel : Channel α} {item : α}
    (h : channel.offer item = .full) :
    channel.isOpen = true ∧ channel.capacity ≤ channel.queue.length := by
  unfold offer at h
  split at h
  · cases h
  · rename_i hopen
    split at h
    · cases h
    · rename_i hroom
      exact ⟨by simpa using hopen, Nat.le_of_not_lt hroom⟩

/-! ### Waiting -/

namespace Poll

/-- The answer of the database has not come yet. -/
def AwaitsAnswer (poller : Poller σ τ) : Poll τ → Prop
  | .awaiting _ _ due => ∀ time, due = some time → poller.now < time
  | _ => False

/-- The channel for what is to be sent or reported is open and full. -/
def AwaitsRoom (poller : Poller σ τ) : Poll τ → Prop
  | .sendingRow _ row _ _ | .sendingOnly row => poller.output.offer row = .full
  | .reporting route failure _ => ∃ channel, poller.channel? route = some channel ∧
      channel.offer failure = .full
  | _ => False

instance (poller : Poller σ τ) (poll : Poll τ) : Decidable (poll.AwaitsRoom poller) :=
  match poll with
  | .sendingRow _ row _ _ | .sendingOnly row =>
      inferInstanceAs (Decidable (poller.output.offer row = .full))
  | .reporting route failure _ =>
      match hfound : poller.channel? route with
      | none => isFalse fun ⟨_, hsome, _⟩ => nomatch hfound.symm.trans hsome
      | some channel =>
          decidable_of_iff (channel.offer failure = .full)
            ⟨fun hfull => ⟨channel, hfound, hfull⟩, fun ⟨_, hsome, hfull⟩ =>
              Option.some.inj (hsome.symm.trans hfound) ▸ hfull⟩
  | .awaiting _ _ _ | .delivering _ _ _ | .finished _ => isFalse id

/-- **A poll advances, is over, or waits for an answer or for room.** -/
theorem advances_or_waits (origin : MessageSource σ τ) {poll : Poll τ} {poller : Poller σ τ}
    (routed : ∀ route failure sent, poll = .reporting route failure sent →
      ∃ channel, poller.channel? route = some channel) :
    (poll.advance origin poller).isSome ∨ (∃ outputOpen, poll = .finished outputOpen) ∨
      poll.AwaitsAnswer poller ∨ poll.AwaitsRoom poller := by
  match poll with
  | .awaiting headers payload due =>
      by_cases hdue : due.any (· ≤ poller.now) = true
      · left
        simp only [advance, hdue, if_true, Option.isSome_some]
      · right; right; left
        intro time htime
        rw [htime, Option.any_some, decide_eq_true_eq] at hdue
        omega
  | .delivering _ [] _ => exact Or.inl rfl
  | .delivering _ (.ok _ :: _) _ => exact Or.inl rfl
  | .delivering _ (.error _ :: _) _ => exact Or.inl rfl
  | .sendingRow headers row items sent =>
      cases hoffer : poller.output.offer row with
      | full => exact Or.inr (Or.inr (Or.inr hoffer))
      | accepted _ => left; simp only [advance, hoffer, Option.isSome_some]
      | closed => left; simp only [advance, hoffer, Option.isSome_some]
  | .sendingOnly row =>
      cases hoffer : poller.output.offer row with
      | full => exact Or.inr (Or.inr (Or.inr hoffer))
      | accepted _ => left; simp only [advance, hoffer, Option.isSome_some]
      | closed => left; simp only [advance, hoffer, Option.isSome_some]
  | .reporting route failure sent =>
      -- without its channel the report could neither advance nor wait for room
      obtain ⟨channel, hfound⟩ := routed route failure sent rfl
      cases hoffer : channel.offer failure with
      | full => exact Or.inr (Or.inr (Or.inr ⟨channel, hfound, hoffer⟩))
      | accepted _ => left; simp only [advance, hfound, hoffer, Option.isSome_some]
      | closed => left; simp only [advance, hfound, hoffer, Option.isSome_some]
  | .finished outputOpen => exact Or.inr (Or.inl ⟨outputOpen, rfl⟩)

end Poll

/-! ### Rooms -/

namespace Poller

/-- Two pollers have the same channels, with the same rooms. -/
structure SameRooms (poller after : Poller σ τ) : Prop where
  output : after.output.capacity = poller.output.capacity
  errors : ∀ route, (after.channel? route).map Channel.capacity =
    (poller.channel? route).map Channel.capacity

theorem SameRooms.refl (poller : Poller σ τ) : SameRooms poller poller := ⟨rfl, fun _ => rfl⟩

theorem SameRooms.trans {first second third : Poller σ τ} (h : SameRooms first second)
    (after : SameRooms second third) : SameRooms first third :=
  ⟨after.output.trans h.output, fun route => (after.errors route).trans (h.errors route)⟩

/-- A channel that is there stays there. -/
theorem SameRooms.exists_channel {poller after : Poller σ τ} (h : SameRooms poller after)
    {route : Route} (found : ∃ channel, poller.channel? route = some channel) :
    ∃ channel, after.channel? route = some channel := by
  obtain ⟨channel, hfound⟩ := found
  have hsame := h.errors route
  rw [hfound] at hsame
  obtain ⟨after, hafter, -⟩ := Option.map_eq_some_iff.1 hsame
  exact ⟨after, hafter⟩

/-- Putting back a channel with the same room keeps the rooms. -/
theorem sameRooms_withChannel {poller : Poller σ τ} {route : Route} {before channel : Channel Failure}
    (found : poller.channel? route = some before) (capacity : channel.capacity = before.capacity) :
    SameRooms poller (poller.withChannel route channel) := by
  refine ⟨by rw [output_withChannel], ?_⟩
  intro other
  rw [channel?_withChannel]
  split
  · rename_i hsame
    rw [← hsame, found, Option.map_some, Option.map_some, capacity]
  · rfl

/-- A stage of a poll keeps the rooms. -/
theorem Accounts.sameRooms {events : List (Event τ)} {poll next : Poll τ} {poller after : Poller σ τ}
    (h : Accounts events poll next poller after) : SameRooms poller after := by
  refine ⟨by rw [h.output], ?_⟩
  intro route
  rw [h.channel?, Option.map_map]
  rfl

/-- A failure that is to be reported has its channel. -/
theorem routed_report {poller : Poller σ τ} {component : String} {e : FeedError}
    {failed : Option Headers} {sent : Nat} {route : Route} {failure : Failure} {count : Nat}
    (h : (poller.report (τ := τ) component e failed sent).1 = .reporting route failure count) :
    ∃ channel, (poller.report (τ := τ) component e failed sent).2.channel? route = some channel := by
  cases hfound : poller.channel? (poller.routeFor failed).1 with
  | none =>
      rw [report_of_none hfound] at h
      cases h
  | some channel =>
      rw [report_of_some hfound] at h ⊢
      cases h
      exact ⟨channel, by rw [channel?_stamped, channel?_tell, hfound]⟩

end Poller

namespace Polling

section

variable {origin : MessageSource σ τ} {allowed : Act → Prop} {first polling next : Polling σ τ}
  {events : List (Event τ)}

/-- No act adds a channel, takes one away, or changes its room. -/
theorem sameRooms_of_perform {act : Act} (h : polling.perform origin act = some next) :
    polling.poller.SameRooms next.poller := by
  cases act with
  | check => obtain ⟨-, ⟨_, _, _, rfl⟩ | ⟨_, rfl⟩⟩ := check_cases h <;> exact .refl _
  | noticeShutdown => obtain ⟨-, -, rfl⟩ := noticeShutdown_cases h; exact .refl _
  | tick =>
      obtain ⟨-, -, rfl⟩ := tick_cases h
      exact (Poller.begin_accounts origin polling.poller).sameRooms
  | work =>
      rcases work_cases h with ⟨_, _, _, rfl⟩ | ⟨poll, after, poller, _, _, hadvance, rfl⟩
      · exact .refl _
      · exact (Poller.advance_accounts hadvance).sameRooms
  | takeMessage problem => obtain ⟨_, _, _, rfl⟩ := takeMessage_cases h; exact ⟨rfl, fun _ => rfl⟩
  | takeFailure route =>
      obtain ⟨channel, failure, rest, hfound, -, rfl⟩ := takeFailure_cases h
      exact Poller.sameRooms_withChannel hfound rfl
  | closeOutput => cases h; exact ⟨rfl, fun _ => rfl⟩
  | closeErrors route =>
      obtain ⟨channel, hfound, rfl⟩ := Option.map_eq_some_iff.1 h
      exact Poller.sameRooms_withChannel hfound rfl
  | signal => cases h; exact .refl _
  | moveClock time =>
      cases h
      unfold moveClock
      split
      · exact .refl _
      · exact ⟨rfl, fun _ => rfl⟩
  | tell notices => cases h; exact ⟨rfl, fun _ => rfl⟩

/-- **Channels keep their rooms.** -/
theorem Traced.capacity (h : Traced origin allowed first events polling) :
    first.poller.SameRooms polling.poller := by
  induction h with
  | start => exact .refl _
  | step _ _ _ made ih => exact ih.trans (sameRooms_of_perform made)

/-- A poller whose poll can advance can work. -/
theorem isSome_work {poll : Poll τ} (phase : polling.phase = .polling poll)
    (advances : (poll.advance origin polling.poller).isSome) : (polling.work origin).isSome := by
  unfold work
  rw [phase]
  split
  · rfl
  · rename_i other _ hsame
    cases hsame
    rw [Option.isSome_map]
    exact advances
  · rename_i hother
    exact absurd rfl (hother poll)

/-- A failure that is to be reported has its channel. -/
def Routed (polling : Polling σ τ) : Prop :=
  ∀ route failure sent, polling.phase.current = .reporting route failure sent →
    ∃ channel, polling.poller.channel? route = some channel

theorem routed_begin (poller : Poller σ τ) {route : Route} {failure : Failure} {sent : Nat}
    (h : (poller.begin origin).1 = .reporting route failure sent) :
    ∃ channel, (poller.begin origin).2.channel? route = some channel := by
  cases hresult : (origin.receive poller.stamp poller.source).result with
  | error e =>
      rw [Poller.begin_of_error hresult] at h ⊢
      exact Poller.routed_report h
  | ok message =>
      obtain ⟨_, _, -, hbegin⟩ := Poller.begin_of_ok hresult
      rw [hbegin] at h
      cases h

theorem routed_step {poller after : Poller σ τ} {poll stage : Poll τ}
    {answer : Option (Delivery τ)} {noted : List (Event τ)}
    (step : Poll.Step origin poller poll answer noted stage after) {route : Route}
    {failure : Failure} {sent : Nat} (h : stage = .reporting route failure sent) :
    ∃ channel, after.channel? route = some channel := by
  cases step with
  | refused | broken => exact Poller.routed_report h
  | _ => cases h

/-- **A failure that is to be reported always has its channel.** -/
theorem Traced.routed (h : Traced origin allowed first events polling)
    (idle : first.phase = .checking) : Routed polling := by
  obtain ⟨entries, hdocumented⟩ := h.documented
  refine hdocumented.induction (P := fun _ _ polling => Routed polling) idle ?_ ?_ ?_ ?_
  · intro route failure sent hreporting
    rw [idle] at hreporting
    cases hreporting
  · intro _ _ polling next _ made
    obtain ⟨-, -, rfl⟩ := tick_cases made
    exact fun _ _ _ hreporting => routed_begin polling.poller hreporting
  · intro _ _ _ polling next poll ih _ made
    rcases work_cases made with ⟨outputOpen, _, _, rfl⟩ | ⟨_, _, _, _, _, hadvance, rfl⟩
    · cases outputOpen <;> exact fun _ _ _ hreporting => by cases hreporting
    · exact fun _ _ _ hreporting => routed_step (Poll.step_of_advance hadvance) hreporting
  · intro _ _ polling next act ih htick hwork made route failure sent hreporting
    obtain ⟨-, hcurrent, -⟩ := perform_frame made htick hwork
    rw [hcurrent] at hreporting
    exact (sameRooms_of_perform made).exists_channel (ih route failure sent hreporting)

end

end Polling

end QueryFeed
