import QueryFeed.Proofs.Poller.Accounts

/-!
**Everything that a poll can do next.**

A poll that advances does one of thirteen things.  They are told here once, each with the answer that
came, the events that can be noticed, and the stage and the poller that are left; what is known of
whole polls is proved by going through them.

Main definitions:

* `Poll.answer?` — the answer that a stage waits for;
* `Poll.Step` — what a poll can do next;
* `Poll.isAwaiting` — whether a poll waits for its answer.

Main results:

* `Poll.step_of_advance` — **an advance is one of these steps**;
* `Poll.Step.descends` — **a poll that advances has fewer steps left**;
* `Poller.report_cases` — a failure is told the operator, or is to be reported on a channel.
-/

set_option autoImplicit false

namespace QueryFeed

variable {σ τ : Type}

/-! ### Reports -/

namespace Poller

@[simp] theorem failing_counted (poller : Poller σ τ) (record : Stats → Stats) (e : FeedError)
    (failed : Option Headers) :
    ((poller.counted record).failing e failed : List (Event τ)) = poller.failing e failed := by
  simp only [failing, channel?_counted]
  rfl

/-- A failure is told the operator, and the poll is over; or else it is to be reported. -/
theorem report_cases (poller : Poller σ τ) (component : String) (e : FeedError)
    (failed : Option Headers) (sent : Nat) :
    ((poller.failing e failed : List (Event τ)) = [.failed e, .logged e] ∧
        poller.report component e failed sent = (.finished true,
          ((poller.tell (poller.routeFor failed).2).tell [.failedPoll component e]).countSent
            sent)) ∨
      ((poller.failing e failed : List (Event τ)) = [.failed e] ∧
        poller.report component e failed sent =
          (.reporting (poller.routeFor failed).1 (poller.failure component e failed) sent,
            (poller.tell (poller.routeFor failed).2).stamped)) := by
  cases h : poller.channel? (poller.routeFor failed).1 with
  | none => exact Or.inl ⟨by simp only [failing, h], report_of_none h component e sent⟩
  | some channel => exact Or.inr ⟨by simp only [failing, h], report_of_some h component e sent⟩

end Poller

/-! ### Steps -/

namespace Poll

/-- The answer to the payload, at the stage that waits for it. -/
def answer? (origin : MessageSource σ τ) (poll : Poll τ) (poller : Poller σ τ) :
    Option (Delivery τ) :=
  match poll with
  | .awaiting _ payload _ => some (origin.answer payload poller.source).1
  | _ => none

/-- What a poll can do next: the stage that it is at, the answer that comes, the events that can be
noticed, and the stage and the poller that are left. -/
inductive Step (origin : MessageSource σ τ) (poller : Poller σ τ) :
    Poll τ → Option (Delivery τ) → List (Event τ) → Poll τ → Poller σ τ → Prop where
  /-- The answer is the only row. -/
  | only {headers : Headers} {payload : Payload τ} {due : Option Nat} {value : τ} {source : σ}
      (answer : origin.answer payload poller.source = (.single (.ok (some value)), source)) :
      Step origin poller (.awaiting headers payload due) (some (.single (.ok (some value)))) []
        (.sendingOnly ⟨headers, value⟩) { poller with source := source }
  /-- There is no row where one may be. -/
  | nothing {headers : Headers} {payload : Payload τ} {due : Option Nat} {source : σ}
      (answer : origin.answer payload poller.source = (.single (.ok none), source)) :
      Step origin poller (.awaiting headers payload due) (some (.single (.ok none))) []
        (.finished true) ({ poller with source := source }.counted (·.recordMessages 0))
  /-- The answer is an error. -/
  | refused {headers : Headers} {payload : Payload τ} {due : Option Nat} {e : Database.Error}
      {source : σ}
      (answer : origin.answer payload poller.source = (.single (.error e), source)) :
      Step origin poller (.awaiting headers payload due) (some (.single (.error e)))
        (poller.failing (.database e) (some headers))
        ({ poller with source := source }.failDatabase origin.component e headers 0).1
        ({ poller with source := source }.failDatabase origin.component e headers 0).2
  /-- The answer is a stream of rows. -/
  | stream {headers : Headers} {payload : Payload τ} {due : Option Nat}
      {items : List (Except Database.Error τ)} {source : σ}
      (answer : origin.answer payload poller.source = (.stream items, source)) :
      Step origin poller (.awaiting headers payload due) (some (.stream items)) []
        (.delivering headers items 0) { poller with source := source }
  /-- No row is left. -/
  | through {headers : Headers} {sent : Nat} :
      Step origin poller (.delivering headers [] sent) none [] (.finished true)
        (poller.counted (·.recordMessages (UInt64.ofNat sent)))
  /-- The next item is a row. -/
  | row {headers : Headers} {value : τ} {items : List (Except Database.Error τ)} {sent : Nat} :
      Step origin poller (.delivering headers (.ok value :: items) sent) none []
        (.sendingRow headers ⟨headers.ofRow poller.stamp (sent + 1), value⟩ items sent)
        poller.stamped
  /-- The next item is an error. -/
  | broken {headers : Headers} {e : Database.Error} {items : List (Except Database.Error τ)}
      {sent : Nat} :
      Step origin poller (.delivering headers (.error e :: items) sent) none
        (poller.failing (.database e) (some headers))
        (poller.failDatabase origin.component e headers sent).1
        (poller.failDatabase origin.component e headers sent).2
  /-- The output takes the message of a row. -/
  | sentRow {headers : Headers} {row : Message τ} {items : List (Except Database.Error τ)}
      {sent : Nat} {output : Channel (Message τ)}
      (offer : poller.output.offer row = .accepted output) :
      Step origin poller (.sendingRow headers row items sent) none [.sent row]
        (.delivering headers items (sent + 1)) { poller with output := output }
  /-- The output is closed, and rows are left. -/
  | cutRow {headers : Headers} {row : Message τ} {items : List (Except Database.Error τ)}
      {sent : Nat} (offer : poller.output.offer row = .closed) :
      Step origin poller (.sendingRow headers row items sent) none [] (.finished false)
        (poller.tell [.outputClosed origin.component])
  /-- The output takes the message of the only row. -/
  | sentOnly {row : Message τ} {output : Channel (Message τ)}
      (offer : poller.output.offer row = .accepted output) :
      Step origin poller (.sendingOnly row) none [.sent row] (.finished true)
        ({ poller with output := output }.counted (·.recordMessages 1))
  /-- The output is closed, and the only row is left. -/
  | cutOnly {row : Message τ} (offer : poller.output.offer row = .closed) :
      Step origin poller (.sendingOnly row) none [] (.finished false)
        (poller.tell [.outputClosed origin.component])
  /-- The channel takes the failure. -/
  | reported {route : Route} {failure : Failure} {sent : Nat} {channel taking : Channel Failure}
      (found : poller.channel? route = some channel)
      (offer : channel.offer failure = .accepted taking) :
      Step origin poller (.reporting route failure sent) none [.reported route failure]
        (.finished true) ((poller.withChannel route taking).countSent sent)
  /-- The channel is closed. -/
  | logged {route : Route} {failure : Failure} {sent : Nat} {channel : Channel Failure}
      (found : poller.channel? route = some channel)
      (offer : channel.offer failure = .closed) :
      Step origin poller (.reporting route failure sent) none [.logged failure.error]
        (.finished true)
        ((poller.tell [.closedErrorChannel origin.component failure.error]).countSent sent)

/-- The answer settles what a poll that waits for it does next. -/
theorem step_of_answer {origin : MessageSource σ τ} {poller : Poller σ τ} {headers : Headers}
    {payload : Payload τ} (due : Option Nat) {delivery : Delivery τ} {source : σ}
    (answer : origin.answer payload poller.source = (delivery, source)) :
    Step origin poller (.awaiting headers payload due) (some delivery)
      (poller.answering headers delivery)
      ({ poller with source := source }.takeAnswer origin.component headers delivery).1
      ({ poller with source := source }.takeAnswer origin.component headers delivery).2 := by
  match delivery with
  | .single (.ok (some value)) => exact .only answer
  | .single (.ok none) => exact .nothing answer
  | .single (.error e) => exact .refused answer
  | .stream items => exact .stream answer

/-- **An advance is one of these steps.** -/
theorem step_of_advance {origin : MessageSource σ τ} {poll next : Poll τ}
    {poller after : Poller σ τ} (h : poll.advance origin poller = some (next, after)) :
    Step origin poller poll (poll.answer? origin poller) (poll.events origin poller) next after := by
  match poll with
  | .awaiting headers payload due =>
      simp only [advance] at h
      split at h
      · obtain ⟨rfl, rfl⟩ := Prod.mk.inj (Option.some.inj h)
        exact step_of_answer due rfl
      · cases h
  | .delivering headers [] sent => cases h; exact .through
  | .delivering headers (.ok value :: items) sent => cases h; exact .row
  | .delivering headers (.error e :: items) sent =>
      obtain ⟨rfl, rfl⟩ := Prod.mk.inj (Option.some.inj h)
      exact .broken
  | .sendingRow headers row items sent =>
      simp only [advance] at h
      cases hoffer : poller.output.offer row with
      | accepted output =>
          rw [hoffer] at h
          cases h
          simp only [events, hoffer]
          exact .sentRow hoffer
      | full => rw [hoffer] at h; cases h
      | closed =>
          rw [hoffer] at h
          cases h
          simp only [events, hoffer]
          exact .cutRow hoffer
  | .sendingOnly row =>
      simp only [advance] at h
      cases hoffer : poller.output.offer row with
      | accepted output =>
          rw [hoffer] at h
          cases h
          simp only [events, hoffer]
          exact .sentOnly hoffer
      | full => rw [hoffer] at h; cases h
      | closed =>
          rw [hoffer] at h
          cases h
          simp only [events, hoffer]
          exact .cutOnly hoffer
  | .reporting route failure sent =>
      simp only [advance] at h
      cases hfound : poller.channel? route with
      | none => rw [hfound] at h; cases h
      | some channel =>
          rw [hfound] at h
          cases hoffer : channel.offer failure with
          | accepted taking =>
              simp only [hoffer] at h
              cases h
              simp only [events, hfound, hoffer]
              exact .reported hfound hoffer
          | full => simp only [hoffer] at h; cases h
          | closed =>
              simp only [hoffer] at h
              cases h
              simp only [events, hfound, hoffer]
              exact .logged hfound hoffer
  | .finished outputOpen => cases h

end Poll

/-! ### Steps that are left -/

/-- Whether a poll waits for its answer, or may take it. -/
def Poll.isAwaiting : Poll τ → Bool
  | .awaiting _ _ _ => true
  | _ => false

namespace Poll

/-- A report is at most one step, and no answer is waited for. -/
theorem report_short (poller : Poller σ τ) (component : String) (e : FeedError)
    (failed : Option Headers) (sent : Nat) :
    (poller.report (τ := τ) component e failed sent).1.isAwaiting = false ∧
      (poller.report (τ := τ) component e failed sent).1.stepsLeft ≤ 1 := by
  rcases poller.report_cases (τ := τ) component e failed sent with ⟨-, hreport⟩ | ⟨-, hreport⟩
  · rw [hreport]
    exact ⟨rfl, Nat.zero_le _⟩
  · rw [hreport]
    exact ⟨rfl, Nat.le_refl _⟩

/-- **A poll that advances has fewer steps left**, or it has its answer now. -/
theorem Step.descends {origin : MessageSource σ τ} {poll next : Poll τ}
    {answer : Option (Delivery τ)} {events : List (Event τ)} {poller after : Poller σ τ}
    (step : Step origin poller poll answer events next after) :
    next.isAwaiting = false ∧ (poll.isAwaiting = true ∨ next.stepsLeft < poll.stepsLeft) := by
  cases step with
  | only | nothing | stream => exact ⟨rfl, Or.inl rfl⟩
  | refused => exact ⟨(report_short _ _ _ _ _).1, Or.inl rfl⟩
  | @broken headers e items sent =>
      obtain ⟨hnone, hshort⟩ := report_short (τ := τ) (poller.counted Stats.recordDatabaseFailure)
        origin.component (.database e) (some headers) sent
      refine ⟨hnone, Or.inr (Nat.lt_of_le_of_lt hshort ?_)⟩
      rw [stepsLeft]
      omega
  | through => exact ⟨rfl, Or.inr (Nat.zero_lt_succ _)⟩
  | @row headers value items sent =>
      refine ⟨rfl, Or.inr ?_⟩
      rw [stepsLeft, stepsLeft, List.length_cons]
      omega
  | sentRow | cutRow | sentOnly | cutOnly | reported | logged =>
      refine ⟨rfl, Or.inr ?_⟩
      rw [stepsLeft, stepsLeft]
      omega

end Poll

end QueryFeed
