import QueryFeed.Proofs.Poller.Accounts
import QueryFeed.Proofs.Poller.Acts

/-!
**What the operator was told before.**

A poller adds to what it told its operator and never reads it.  So two pollers that differ only in
what was told before they began have the same histories, and go on differing in this and in nothing
else.

Main definitions: `Poller.havingTold`, `Polling.havingTold` — the same poller, after more was told.

Main results:

* `Poll.advance_havingTold`, `Polling.perform_havingTold` — a step does the same after more was told;
* `Polling.traced_havingTold_iff` — **the histories are the same, whatever was told before**;
* `Polling.traced_tell_iff` — what is told before the beginning shows in the notices only.
-/

set_option autoImplicit false

namespace QueryFeed

variable {σ τ : Type}

/-! ### Stages of a poll -/

namespace Poller

/-- The same poller, where some notices were told before all others. -/
def havingTold (poller : Poller σ τ) (told : List Notice) : Poller σ τ :=
  { poller with notices := told ++ poller.notices }

/-- A poller that was told something is one that was told nothing, after it was told all of this. -/
theorem tell_eq_havingTold (poller : Poller σ τ) (notices : List Notice) :
    poller.tell notices =
      { poller with notices := [] : Poller σ τ }.havingTold (poller.notices ++ notices) := by
  simp only [tell, havingTold, List.append_nil]

theorem tell_nil (poller : Poller σ τ) : poller.tell [] = poller := by
  simp only [tell, List.append_nil]

@[simp] theorem channel?_havingTold (poller : Poller σ τ) (told : List Notice) (route : Route) :
    (poller.havingTold told).channel? route = poller.channel? route := by
  cases route <;> rfl

@[simp] theorem tell_havingTold (poller : Poller σ τ) (told notices : List Notice) :
    (poller.havingTold told).tell notices = (poller.tell notices).havingTold told := by
  simp only [tell, havingTold, List.append_assoc]

@[simp] theorem counted_havingTold (poller : Poller σ τ) (told : List Notice)
    (record : Stats → Stats) :
    (poller.havingTold told).counted record = (poller.counted record).havingTold told := rfl

@[simp] theorem countSent_havingTold (poller : Poller σ τ) (told : List Notice) (sent : Nat) :
    (poller.havingTold told).countSent sent = (poller.countSent sent).havingTold told := by
  unfold countSent
  split <;> rfl

@[simp] theorem withChannel_havingTold (poller : Poller σ τ) (told : List Notice) (route : Route)
    (channel : Channel Failure) :
    (poller.havingTold told).withChannel route channel =
      (poller.withChannel route channel).havingTold told := by
  cases route <;> rfl

/-- A failure is reported in the same place. -/
theorem report_havingTold (poller : Poller σ τ) (told : List Notice) (component : String)
    (e : FeedError) (failed : Option Headers) (sent : Nat) :
    ((poller.havingTold told).report component e failed sent : Poll τ × Poller σ τ) =
      (poller.report component e failed sent).map id (·.havingTold told) := by
  have hroute : (poller.havingTold told).routeFor failed = poller.routeFor failed := rfl
  unfold report
  simp only [hroute, tell_havingTold, channel?_havingTold]
  cases (poller.tell (poller.routeFor failed).2).channel? (poller.routeFor failed).1 with
  | none =>
      simp only [countSent_havingTold]
      rfl
  | some channel => cases failed <;> rfl

/-- Asking the source tells the operator more, and does not look at what was told before. -/
theorem asked_havingTold (poller : Poller σ τ) (told : List Notice) (origin : MessageSource σ τ) :
    (poller.havingTold told).asked origin = (poller.asked origin).havingTold told := by
  simp only [asked, havingTold, tell, counted, stamped, stamp, List.append_assoc]

/-- A poll begins in the same way. -/
theorem begin_havingTold (poller : Poller σ τ) (told : List Notice) (origin : MessageSource σ τ) :
    (poller.havingTold told).begin origin = (poller.begin origin).map id (·.havingTold told) := by
  cases h : (origin.receive poller.stamp poller.source).result with
  | error e =>
      have htold : (origin.receive (poller.havingTold told).stamp
          (poller.havingTold told).source).result = .error e := h
      rw [begin_of_error h, begin_of_error htold, asked_havingTold,
        counted_havingTold, report_havingTold]
  | ok message =>
      obtain ⟨due, source, hsubmit, hbegin⟩ := begin_of_ok h
      have htold : (origin.receive (poller.havingTold told).stamp
          (poller.havingTold told).source).result = .ok message := h
      obtain ⟨other, same, hother, hbegin'⟩ := begin_of_ok htold
      obtain ⟨rfl, rfl⟩ := Prod.mk.inj (hsubmit.symm.trans hother)
      rw [hbegin, hbegin', asked_havingTold]
      rfl

/-- An answer is taken in the same way. -/
theorem takeAnswer_havingTold (poller : Poller σ τ) (told : List Notice) (component : String)
    (headers : Headers) (delivery : Delivery τ) :
    (poller.havingTold told).takeAnswer component headers delivery =
      (poller.takeAnswer component headers delivery).map id (·.havingTold told) := by
  match delivery with
  | .single (.ok (some value)) => rfl
  | .single (.ok none) => rfl
  | .single (.error e) =>
      exact report_havingTold (poller.counted Stats.recordDatabaseFailure) told component
        (.database e) (some headers) 0
  | .stream items => rfl

/-- The same can be noticed when a poll fails. -/
theorem failing_havingTold (poller : Poller σ τ) (told : List Notice) (e : FeedError)
    (failed : Option Headers) :
    ((poller.havingTold told).failing e failed : List (Event τ)) = poller.failing e failed := by
  simp only [failing, channel?_havingTold]
  rfl

/-- The same can be noticed when a poll begins. -/
theorem beginning_havingTold (poller : Poller σ τ) (told : List Notice)
    (origin : MessageSource σ τ) :
    (poller.havingTold told).beginning origin = poller.beginning origin := by
  simp only [beginning, failing_havingTold]
  rfl

end Poller

namespace Poll

/-- A poll advances in the same way. -/
theorem advance_havingTold (origin : MessageSource σ τ) (poll : Poll τ) (poller : Poller σ τ)
    (told : List Notice) :
    poll.advance origin (poller.havingTold told) =
      (poll.advance origin poller).map (·.map id (·.havingTold told)) := by
  match poll with
  | .awaiting headers payload due =>
      have htake := Poller.takeAnswer_havingTold
        { poller with source := (origin.answer payload poller.source).2 } told origin.component
        headers (origin.answer payload poller.source).1
      simp only [advance]
      by_cases hdue : due.any (· ≤ poller.now) = true
      · rw [if_pos hdue]
        refine (if_pos hdue).trans ?_
        exact congrArg some htake
      · rw [if_neg hdue]
        exact if_neg hdue
  | .delivering _ [] _ => rfl
  | .delivering _ (.ok _ :: _) _ => rfl
  | .delivering headers (.error e :: _) sent =>
      exact congrArg some (Poller.report_havingTold (poller.counted Stats.recordDatabaseFailure)
        told origin.component (.database e) (some headers) sent)
  | .sendingRow headers row items sent =>
      have houtput : (poller.havingTold told).output = poller.output := rfl
      simp only [advance, houtput, Poller.tell_havingTold]
      cases poller.output.offer row <;> rfl
  | .sendingOnly row =>
      have houtput : (poller.havingTold told).output = poller.output := rfl
      simp only [advance, houtput, Poller.tell_havingTold]
      cases poller.output.offer row <;> rfl
  | .reporting route failure sent =>
      simp only [advance, Poller.channel?_havingTold, Poller.tell_havingTold,
        Poller.withChannel_havingTold, Poller.countSent_havingTold]
      cases poller.channel? route with
      | none => rfl
      | some channel =>
          simp only
          cases channel.offer failure <;> rfl
  | .finished _ => rfl

/-- The same can be noticed when a poll advances. -/
theorem events_havingTold (origin : MessageSource σ τ) (poll : Poll τ) (poller : Poller σ τ)
    (told : List Notice) :
    poll.events origin (poller.havingTold told) = poll.events origin poller := by
  have hanswering : ∀ headers delivery,
      (poller.havingTold told).answering headers delivery = poller.answering headers delivery := by
    intro headers delivery
    simp only [Poller.answering, Poller.failing_havingTold]
  simp only [events, Poller.failing_havingTold, Poller.channel?_havingTold, hanswering]
  rfl

end Poll

/-! ### Histories -/

namespace Polling

/-- The same poller, where some notices were told before all others. -/
def havingTold (polling : Polling σ τ) (told : List Notice) : Polling σ τ :=
  polling.withPoller (polling.poller.havingTold told)

/-- Every act is possible as before, and leads to the same. -/
theorem perform_havingTold (origin : MessageSource σ τ) (polling : Polling σ τ)
    (told : List Notice) (act : Act) :
    (polling.havingTold told).perform origin act =
      (polling.perform origin act).map (·.havingTold told) := by
  obtain ⟨poller, interval, maxPolls, polls, deadline, began, shutdown, phase⟩ := polling
  cases act with
  | check => cases phase <;> rfl
  | noticeShutdown => cases phase <;> cases shutdown <;> rfl
  | tick =>
      cases phase with
      | waiting =>
          simp only [perform, tick, havingTold, withPoller, Poller.begin_havingTold]
          change (if deadline ≤ poller.now then _ else _) = _
          split <;> rfl
      | _ => rfl
  | work =>
      cases phase with
      | polling poll =>
          cases poll with
          | finished outputOpen => rfl
          | _ =>
              simp only [perform, work, havingTold, withPoller, Poll.advance_havingTold,
                Option.map_map]
              rfl
      | _ => rfl
  | takeMessage problem =>
      have houtput : (poller.havingTold told).output = poller.output := rfl
      simp only [perform, takeMessage, havingTold, withPoller, houtput]
      cases poller.output.queue <;> rfl
  | takeFailure route =>
      simp only [perform, takeFailure, havingTold, withPoller, Poller.channel?_havingTold,
        Poller.withChannel_havingTold]
      cases poller.channel? route with
      | none => rfl
      | some channel =>
          simp only
          cases channel.queue <;> rfl
  | closeErrors route =>
      simp only [perform, havingTold, withPoller, Poller.channel?_havingTold,
        Poller.withChannel_havingTold, Option.map_map]
      rfl
  | moveClock time => cases phase <;> rfl
  | tell notices =>
      simp only [perform, havingTold, withPoller, Poller.tell_havingTold]
      rfl
  | closeOutput | signal => rfl

/-- The same can be noticed of every act. -/
theorem happenings_havingTold (origin : MessageSource σ τ) (polling : Polling σ τ)
    (told : List Notice) (act : Act) :
    (polling.havingTold told).happenings origin act = polling.happenings origin act := by
  cases act with
  | tick => exact Poller.beginning_havingTold _ told origin
  | work =>
      simp only [happenings, havingTold, withPoller, Poll.events_havingTold]
  | takeMessage problem => rfl
  | takeFailure route =>
      simp only [happenings, havingTold, withPoller, Poller.channel?_havingTold]
  | _ => rfl

/-- **The histories are the same, whatever was told before.** -/
theorem traced_havingTold_iff {origin : MessageSource σ τ} {allowed : Act → Prop}
    {first polling : Polling σ τ} {told : List Notice} {events : List (Event τ)} :
    Traced origin allowed (first.havingTold told) events polling ↔
      ∃ plain, Traced origin allowed first events plain ∧ polling = plain.havingTold told := by
  constructor
  · intro h
    induction h with
    | start => exact ⟨first, .start, rfl⟩
    | step _ act allows made ih =>
        obtain ⟨plain, htraced, rfl⟩ := ih
        rw [perform_havingTold, Option.map_eq_some_iff] at made
        obtain ⟨next, hnext, rfl⟩ := made
        rw [happenings_havingTold]
        exact ⟨next, htraced.step act allows hnext, rfl⟩
  · rintro ⟨plain, htraced, rfl⟩
    induction htraced with
    | start => exact .start
    | @step _ plain _ _ act allows made ih =>
        have hmade := (perform_havingTold origin plain told act).trans (congrArg _ made)
        have hnext := ih.step act allows hmade
        rw [happenings_havingTold] at hnext
        exact hnext

/-- **What is told before the beginning shows in the notices, and nowhere else.** -/
theorem traced_tell_iff {origin : MessageSource σ τ} {allowed : Act → Prop} {poller : Poller σ τ}
    {interval : Nat} {maxPolls : Option Nat} {told : List Notice} {events : List (Event τ)}
    {polling : Polling σ τ} :
    Traced origin allowed (.start (poller.tell told) interval maxPolls) events polling ↔
      ∃ other later, Traced origin allowed (.start poller interval maxPolls) events other ∧
        other.poller.notices = poller.notices ++ later ∧
        polling = other.withPoller
          { other.poller with notices := poller.notices ++ told ++ later } := by
  -- both pollers are one that was told nothing yet, after they were told this and that
  have htold : ∀ told, Polling.start (poller.tell told) interval maxPolls =
      (Polling.start { poller with notices := [] } interval maxPolls).havingTold
        (poller.notices ++ told) := by
    intro told
    rw [Poller.tell_eq_havingTold]
    rfl
  have hplain : Polling.start poller interval maxPolls =
      (Polling.start { poller with notices := [] } interval maxPolls).havingTold
        poller.notices := by
    rw [← List.append_nil poller.notices, ← htold, Poller.tell_nil]
  rw [htold, traced_havingTold_iff, hplain]
  simp only [traced_havingTold_iff]
  constructor
  · rintro ⟨plain, htraced, rfl⟩
    exact ⟨_, plain.poller.notices, ⟨plain, htraced, rfl⟩, rfl, rfl⟩
  · rintro ⟨_, later, ⟨plain, htraced, rfl⟩, hnotices, rfl⟩
    obtain rfl : plain.poller.notices = later := List.append_cancel_left hnotices
    exact ⟨plain, htraced, rfl⟩

end Polling

end QueryFeed
