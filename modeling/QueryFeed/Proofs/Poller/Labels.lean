import QueryFeed.Proofs.Poller.Stages

/-!
**Messages carry the labels of their poll.**

The message of a row refers back to the message of its poll and tells its own place, whatever the
headers of the source say, and the report of a failure refers back to the message that failed.

Main definitions:

* `PollEntry.Labelled` — the messages and the reports of a poll carry its labels;
* `Polling.Labelled` — the same of a whole diary.

Main results:

* `PollEntry.Labelled.send` — the row that is sent next is labelled with its place;
* `Polling.Documented.labelled` — **the messages and the reports of every poll carry its labels**.
-/

set_option autoImplicit false

namespace QueryFeed

variable {σ τ : Type}

/-! ### Headers -/

namespace Headers

theorem get?_derive_of_ne (headers : Headers) (stamp : Stamp) {name : String}
    (h : correlationId ≠ name) : (headers.derive stamp).get? name = headers.get? name :=
  Table.get?_insert_of_ne _ _ h

@[simp] theorem correlationId_ofRow (headers : Headers) (stamp : Stamp) (place : Nat) :
    (headers.ofRow stamp place).get? correlationId = some headers.id.text :=
  (Table.get?_insert_of_ne _ _ (by decide)).trans (Table.get?_insert_self _ _ _)

@[simp] theorem sequenceNumber_ofRow (headers : Headers) (stamp : Stamp) (place : Nat) :
    (headers.ofRow stamp place).get? sequenceNumber = some (String.ofList (Text.decimal place)) :=
  Table.get?_insert_self _ _ _

/-- The message of a row keeps every text but the two that label it. -/
theorem get?_ofRow_of_ne (headers : Headers) (stamp : Stamp) (place : Nat) {name : String}
    (correlation : correlationId ≠ name) (sequence : sequenceNumber ≠ name) :
    (headers.ofRow stamp place).get? name = headers.get? name :=
  (Table.get?_insert_of_ne _ _ sequence).trans (headers.get?_derive_of_ne stamp correlation)

@[simp] theorem correlationId_ofFailure (headers : Headers) (stamp : Stamp) :
    (headers.ofFailure stamp).get? correlationId = some headers.id.text :=
  (Table.get?_insert_of_ne _ _ (by decide)).trans (Table.get?_insert_self _ _ _)

@[simp] theorem failedMessageId_ofFailure (headers : Headers) (stamp : Stamp) :
    (headers.ofFailure stamp).get? failedMessageId = some headers.id.text :=
  Table.get?_insert_self _ _ _

end Headers

/-! ### Labels -/

namespace PollEntry

/-- The messages of rows and the reports of a poll carry its labels. -/
structure Labelled (entry : PollEntry τ) : Prop where
  rows : ∀ polled items, entry.received = .ok polled → entry.delivery = some (.stream items) →
    ∀ place row, entry.sent[place]? = some row →
      ∃ stamp, row.headers = polled.headers.ofRow stamp (place + 1)
  reports : ∀ polled, entry.received = .ok polled → ∀ report ∈ entry.reports,
    ∃ stamp component e, report = .ofMessage stamp component (.database e) polled.headers

/-- What a poll is about to send or to report carries its labels. -/
def Labels (entry : PollEntry τ) : Poll τ → Prop
  | .sendingRow headers row _ sent => ∃ stamp, row.headers = headers.ofRow stamp (sent + 1)
  | .reporting _ failure _ => ∀ polled, entry.received = .ok polled →
      ∃ stamp component e, failure = .ofMessage stamp component (.database e) polled.headers
  | _ => True

/-- A step that sends nothing and reports nothing adds nothing to be labelled.  An answer comes before
the first row is sent. -/
theorem Labelled.quiet {entry : PollEntry τ} {answer : Option (Delivery τ)}
    {events : List (Event τ)} (h : entry.Labelled) (first : answer = none ∨ entry.sent = [])
    (unsent : events.filterMap Event.sent? = [])
    (unreported : events.filterMap Event.report? = []) : (entry.noted answer events).Labelled where
  rows := by
    intro polled items hreceived hdelivery place row hrow
    rw [sent_noted_of_nil unsent] at hrow
    rcases first with rfl | hnone
    · exact h.rows polled items hreceived hdelivery place row hrow
    · rw [hnone] at hrow
      cases hrow
  reports := by
    intro polled hreceived report hreport
    rw [reports_noted_of_nil unreported] at hreport
    exact h.reports polled hreceived report hreport

/-- The row that is sent next comes right after those that were sent. -/
theorem Labelled.send {entry : PollEntry τ} {headers : Headers} {payload : Payload τ}
    {row : Message τ} {stamp : Stamp} (h : entry.Labelled)
    (received : entry.received = .ok ⟨headers, payload⟩)
    (labelled : row.headers = headers.ofRow stamp (entry.sent.length + 1)) :
    (entry.noted none [.sent row]).Labelled where
  rows := by
    intro polled items hreceived hdelivery place message hmessage
    have hsent : (entry.noted none [.sent row]).sent = entry.sent ++ [row] := sent_noted _ _ _
    rw [hsent, List.getElem?_append] at hmessage
    split at hmessage
    · exact h.rows polled items hreceived hdelivery place message hmessage
    · rename_i hplace
      have hpolled : entry.received = .ok polled := hreceived
      rw [received, Except.ok.injEq] at hpolled
      subst hpolled
      obtain ⟨hlast, rfl⟩ : place - entry.sent.length = 0 ∧ row = message := by
        rw [List.getElem?_singleton] at hmessage
        split at hmessage
        · rename_i hzero
          exact ⟨hzero, Option.some.inj hmessage⟩
        · cases hmessage
      have hhere : place = entry.sent.length := by omega
      exact ⟨stamp, hhere ▸ labelled⟩
  reports := by
    intro polled hreceived report hreport
    rw [reports_noted_of_nil rfl] at hreport
    exact h.reports polled hreceived report hreport

end PollEntry

namespace Poller

/-- The report of a message that failed refers back to this message. -/
theorem labels_report {entry : PollEntry τ} {headers : Headers} {payload : Payload τ}
    (received : entry.received = .ok ⟨headers, payload⟩) (poller : Poller σ τ) (component : String)
    (e : Database.Error) (sent : Nat) :
    entry.Labels (poller.report component (.database e) (some headers) sent).1 := by
  rcases poller.report_cases (τ := τ) component (.database e) (some headers) sent with
    ⟨-, hreport⟩ | ⟨-, hreport⟩
  · rw [hreport]
    trivial
  · rw [hreport]
    intro other hother
    rw [received] at hother
    cases hother
    exact ⟨poller.stamp, component, e, rfl⟩

end Poller

namespace Polling

/-- All polls are labelled, and so is what the last one is about to send or to report. -/
structure Labelled (entries : List (PollEntry τ)) (poll : Poll τ) : Prop where
  all : ∀ entry ∈ entries, entry.Labelled
  pending : ∀ past last, entries = past ++ [last] → last.Labels poll

theorem Labelled.concat {past : List (PollEntry τ)} {last : PollEntry τ} {poll : Poll τ}
    (past_labelled : ∀ entry ∈ past, entry.Labelled) (last_labelled : last.Labelled)
    (pending : last.Labels poll) : Labelled (past ++ [last]) poll where
  all := List.forall_mem_append.2 ⟨past_labelled, List.forall_mem_singleton.2 last_labelled⟩
  pending := by
    intro before final hsame
    obtain ⟨-, hlast⟩ := List.append_inj' hsame rfl
    rw [← List.singleton_inj.1 hlast]
    exact pending

theorem Labelled.begin {entries : List (PollEntry τ)} (h : Labelled entries (.finished true))
    (origin : MessageSource σ τ) (poller : Poller σ τ) :
    Labelled (entries ++ [.opening origin poller]) (poller.begin origin).1 := by
  obtain ⟨hsent, hreports⟩ := poller.beginning_silent origin
  have hsentNone : (PollEntry.opening origin poller).sent = [] := hsent
  have hreportsNone : (PollEntry.opening origin poller).reports = [] := hreports
  refine .concat h.all ⟨?_, ?_⟩ ?_
  · intro _ _ _ _ place row hrow
    rw [hsentNone] at hrow
    cases hrow
  · intro _ _ report hreport
    rw [hreportsNone] at hreport
    cases hreport
  · cases hresult : (origin.receive poller.stamp poller.source).result with
    | ok message =>
        obtain ⟨due, source, -, hbegin⟩ := Poller.begin_of_ok hresult
        rw [hbegin]
        trivial
    | error e =>
        -- no message of this poll can be referred to
        rw [Poller.begin_of_error hresult]
        rcases ((poller.asked origin).counted Stats.recordResolutionFailure).report_cases (τ := τ)
          origin.component e none 0 with ⟨-, hreport⟩ | ⟨-, hreport⟩
        · rw [hreport]
          trivial
        · rw [hreport]
          intro polled hpolled
          rw [PollEntry.opening, hresult] at hpolled
          cases hpolled

/-- **Every step of a poll labels what it sends and reports.** -/
theorem Labelled.step {origin : MessageSource σ τ} {past : List (PollEntry τ)}
    {last : PollEntry τ} {poll next : Poll τ} {answer : Option (Delivery τ)}
    {events : List (Event τ)} {poller after : Poller σ τ} (h : Labelled (past ++ [last]) poll)
    (accords : last.Accords poll)
    (step : Poll.Step origin poller poll answer events next after) :
    Labelled (past ++ [last.noted answer events]) next := by
  obtain ⟨hpast, hlast⟩ := List.forall_mem_append.1 h.all
  rw [List.forall_mem_singleton] at hlast
  have hpending := h.pending past last rfl
  cases step with
  | only | nothing | stream => exact .concat hpast (hlast.quiet (Or.inr accords.2.2.1) rfl rfl) trivial
  | @refused headers payload due e source answer =>
      obtain ⟨hsent, hreports⟩ := poller.failing_silent (.database e) (some headers)
      refine .concat hpast (hlast.quiet (Or.inr accords.2.2.1) hsent hreports) ?_
      exact Poller.labels_report accords.1 _ _ _ _
  | through => exact .concat hpast (hlast.quiet (Or.inl rfl) rfl rfl) trivial
  | row => exact .concat hpast (hlast.quiet (Or.inl rfl) rfl rfl) ⟨_, rfl⟩
  | @broken headers e items sent =>
      obtain ⟨payload, hreceived⟩ := accords.received
      obtain ⟨hsent, hreports⟩ := poller.failing_silent (.database e) (some headers)
      refine .concat hpast (hlast.quiet (Or.inl rfl) hsent hreports) ?_
      exact Poller.labels_report hreceived _ _ _ _
  | @sentRow headers row items sent output offer =>
      obtain ⟨payload, hreceived⟩ := accords.received
      obtain ⟨stamp, hrow⟩ := hpending
      have hrow' : row.headers = headers.ofRow stamp (last.sent.length + 1) := by
        rw [accords.sent]
        exact hrow
      exact .concat hpast (hlast.send hreceived hrow') trivial
  | cutRow | cutOnly => exact .concat hpast (hlast.quiet (Or.inl rfl) rfl rfl) trivial
  | @sentOnly row output offer =>
      obtain ⟨-, hdelivery, -, -⟩ := accords
      refine .concat hpast ⟨?_, fun polled hpolled => ?_⟩ trivial
      · intro _ items _ hstream
        have hsame : last.delivery = some (.stream items) := hstream
        rw [hdelivery] at hsame
        cases hsame
      · rw [PollEntry.reports_noted_of_nil rfl]
        exact hlast.reports polled hpolled
  | @reported route failure sent channel taking found offer =>
      refine .concat hpast ⟨?_, fun polled hpolled => ?_⟩ trivial
      · intro polled items hpolled hdelivery place row hrow
        rw [PollEntry.sent_noted_of_nil rfl] at hrow
        exact hlast.rows polled items hpolled hdelivery place row hrow
      · rw [PollEntry.reports_noted]
        refine List.forall_mem_append.2 ⟨hlast.reports polled hpolled, ?_⟩
        exact List.forall_mem_singleton.2 (hpending polled hpolled)
  | logged => exact .concat hpast (hlast.quiet (Or.inl rfl) rfl rfl) trivial

/-- **The messages and the reports of every poll carry its labels.** -/
theorem Documented.labelled {origin : MessageSource σ τ} {allowed : Act → Prop}
    {first polling : Polling σ τ} {events : List (Event τ)} {entries : List (PollEntry τ)}
    (h : Documented origin allowed first events entries polling) (idle : first.phase = .checking) :
    ∀ entry ∈ entries, entry.Labelled := by
  refine (h.invariant (I := fun entries poll _ => Accords entries poll ∧ Labelled entries poll)
    idle ?_ ?_ ?_ ?_).2.all
  · refine ⟨Or.inl ⟨rfl, rfl⟩, List.forall_mem_nil _, fun past last hnil => ?_⟩
    exact absurd hnil.symm (List.append_ne_nil_of_right_ne_nil _ (List.cons_ne_nil _ _))
  · exact fun hlabelled _ _ _ => hlabelled
  · exact fun poller hlabelled =>
      ⟨hlabelled.1.begin origin poller, hlabelled.2.begin origin poller⟩
  · intro past last poll answer events next poller after hlabelled hstep _
    exact ⟨hlabelled.1.step hstep, hlabelled.2.step (accords_concat.1 hlabelled.1).2 hstep⟩

end Polling

end QueryFeed
