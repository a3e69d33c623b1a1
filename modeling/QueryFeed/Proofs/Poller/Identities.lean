import QueryFeed.Proofs.Poller.Script
import QueryFeed.Proofs.Poller.Stages

/-!
**Identities are never issued twice.**

A source that stamps its messages gives the message of each poll a new identity, and the poller gives
one to each message of a row.  So the identities of all polls, and those of all messages that were
sent, ascend in the order of issue.

Main definitions:

* `MessageSource.Stamps` — a source whose messages have fresh headers with the same texts;
* `Polling.Issued` — identities in the order of issue;
* `Polling.Fresh` — what is known of the identities of a diary.

Main results:

* `MessageSource.stamps_ofSource`, `MessageSource.stamps_ofLifecycle` — query sources stamp their
  messages;
* `Polling.Documented.fresh` — **identities are never issued twice**.
-/

set_option autoImplicit false

namespace QueryFeed

variable {σ τ : Type}

/-! ### Sources -/

namespace MessageSource

/-- A source that hands out messages with fresh headers and always the same texts, as long as its
state keeps a property. -/
structure Stamps (origin : MessageSource σ τ) (texts : Table String) (keeps : σ → Prop) : Prop where
  fresh : ∀ {stamp source message}, keeps source →
    (origin.receive stamp source).result = .ok message → message.headers = .fresh stamp texts
  receive : ∀ {stamp source}, keeps source → keeps (origin.receive stamp source).source
  submit : ∀ now payload {source}, keeps source → keeps (origin.submit now payload source).2
  answer : ∀ payload {source}, keeps source → keeps (origin.answer payload source).2

theorem Stamps.submitted {origin : MessageSource σ τ} {texts : Table String} {keeps : σ → Prop}
    (stamps : origin.Stamps texts keeps) {now : Nat} {payload : Payload τ} {source after : σ}
    {due : Option Nat} (kept : keeps source) (h : origin.submit now payload source = (due, after)) :
    keeps after := by
  have hkept := stamps.submit now payload kept
  rw [h] at hkept
  exact hkept

theorem Stamps.answered {origin : MessageSource σ τ} {texts : Table String} {keeps : σ → Prop}
    (stamps : origin.Stamps texts keeps) {payload : Payload τ} {source after : σ}
    {delivery : Delivery τ} (kept : keeps source)
    (h : origin.answer payload source = (delivery, after)) : keeps after := by
  have hkept := stamps.answer payload kept
  rw [h] at hkept
  exact hkept

/-- Asking a query source keeps its plan, and its messages have the texts of the plan. -/
theorem receive_source (source : Source τ) (stamp : Stamp) :
    (source.receive stamp).source.plan = source.plan ∧
      ∀ message, (source.receive stamp).result = .ok message →
        message.headers = .fresh stamp source.plan.headers := by
  unfold Source.receive Source.poll
  simp only
  split
  · refine ⟨rfl, fun message hmessage => ?_⟩
    cases hmessage
    rfl
  · exact ⟨rfl, fun message hmessage => by cases hmessage⟩

/-- A query source stamps its messages, with the texts of its plan. -/
theorem stamps_ofSource {κ : Type} (connection : Connection κ) (plan : SourcePlan τ) :
    (ofSource connection : MessageSource (Source τ × κ) τ).Stamps plan.headers
      fun state => state.1.plan = plan where
  fresh := by
    intro stamp state message hplan hresult
    rw [← hplan]
    exact (receive_source state.1 stamp).2 message hresult
  receive := by
    intro stamp state hplan
    exact (receive_source state.1 stamp).1.trans hplan
  submit _ _ _ hplan := hplan
  answer _ _ hplan := hplan

/-- So does one that may not have its context yet. -/
theorem stamps_ofLifecycle {κ : Type} (connection : Connection κ) (plan : SourcePlan τ) :
    (ofLifecycle connection : MessageSource (Lifecycle τ × κ) τ).Stamps plan.headers
      fun state => ∀ source, state.1.source = .ok source → source.plan = plan where
  fresh := by
    rintro stamp ⟨lifecycle, database⟩ message hplan hresult
    cases lifecycle with
    | pending _ => cases hresult
    | ready source =>
        rw [← hplan source rfl]
        exact (receive_source source stamp).2 message hresult
  receive := by
    rintro stamp ⟨lifecycle, database⟩ hplan
    cases lifecycle with
    | pending _ => exact hplan
    | ready source =>
        intro after hafter
        cases hafter
        exact (receive_source source stamp).1.trans (hplan source rfl)
  submit _ _ _ hplan := hplan
  answer _ _ hplan := hplan

/-- A script is played with the same texts throughout. -/
theorem stamps_scripted (texts : Table String) :
    (scripted texts).Stamps texts fun _ => True where
  fresh := by
    intro stamp script message _ hresult
    unfold scripted at hresult
    simp only at hresult
    split at hresult
    · cases hresult
    · cases hresult
      rfl
  receive _ := trivial
  submit _ _ _ _ := trivial
  answer _ _ _ := trivial

end MessageSource

/-! ### Identities in the order of issue -/

/-- The number of the message of a poll. -/
def PollEntry.serial? (entry : PollEntry τ) : Option Nat :=
  match entry.received with
  | .error _ => none
  | .ok polled => some polled.headers.id.serial

/-- The number of the message that a poll may send next without a new identity. -/
def Poll.pending : Poll τ → List Nat
  | .awaiting headers _ _ => [headers.id.serial]
  | .sendingRow _ row _ _ | .sendingOnly row => [row.headers.id.serial]
  | _ => []

/-- Counting the messages of a failed poll concerns the counters only. -/
theorem Poller.countSent_frame (poller : Poller σ τ) (sent : Nat) :
    (poller.countSent sent).source = poller.source ∧
      (poller.countSent sent).nextId = poller.nextId := by
  unfold countSent
  split <;> exact ⟨rfl, rfl⟩

namespace Polling

/-- Numbers that were issued one after the other, all of them before the next one. -/
structure Issued (serials : List Nat) (next : Nat) : Prop where
  ascending : serials.Pairwise (· < ·)
  below : ∀ serial ∈ serials, serial < next

theorem Issued.nothing (next : Nat) : Issued [] next :=
  ⟨List.Pairwise.nil, List.forall_mem_nil _⟩

/-- Some of the numbers, with a later one to come. -/
theorem Issued.some {serials fewer : List Nat} {next later : Nat} (h : Issued serials next)
    (fewer_sublist : fewer.Sublist serials) (le : next ≤ later) : Issued fewer later where
  ascending := h.ascending.sublist fewer_sublist
  below serial hserial := Nat.lt_of_lt_of_le (h.below serial (fewer_sublist.subset hserial)) le

/-- The next number is issued. -/
theorem Issued.issue {serials : List Nat} {next : Nat} (h : Issued serials next) :
    Issued (serials ++ [next]) (next + 1) where
  ascending := by
    rw [List.pairwise_append]
    refine ⟨h.ascending, List.pairwise_singleton _ _, ?_⟩
    intro serial hserial other hother
    rw [List.mem_singleton.1 hother]
    exact h.below serial hserial
  below := by
    rw [List.forall_mem_append, List.forall_mem_singleton]
    exact ⟨fun serial hserial => Nat.lt_succ_of_lt (h.below serial hserial), Nat.lt_succ_self next⟩

/-- The numbers of the messages that polls sent. -/
def serialsSent (entries : List (PollEntry τ)) : List Nat :=
  (entries.flatMap (·.sent)).map (·.headers.id.serial)

theorem serialsSent_concat (past : List (PollEntry τ)) (last : PollEntry τ) :
    serialsSent (past ++ [last]) =
      serialsSent past ++ last.sent.map (·.headers.id.serial) := by
  simp only [serialsSent, List.flatMap_append, List.flatMap_singleton, List.map_append]

/-- The numbers of all polls and of all messages that were sent are in the order of issue, and the
messages of polls have the texts of the source. -/
structure Fresh (texts : Table String) (keeps : σ → Prop) (entries : List (PollEntry τ))
    (poll : Poll τ) (poller : Poller σ τ) : Prop where
  source : keeps poller.source
  texts : ∀ entry ∈ entries, ∀ polled, entry.received = .ok polled → polled.headers.values = texts
  polls : Issued (entries.filterMap PollEntry.serial?) poller.nextId
  sent : Issued (serialsSent entries ++ poll.pending) poller.nextId

section

variable {origin : MessageSource σ τ} {texts : Table String} {keeps : σ → Prop}

/-- Reporting a failure issues at most an identity for the report. -/
theorem report_frame (poller : Poller σ τ) (component : String) (e : FeedError)
    (failed : Option Headers) (sent : Nat) :
    (poller.report (τ := τ) component e failed sent).1.pending = [] ∧
      (poller.report (τ := τ) component e failed sent).2.source = poller.source ∧
      poller.nextId ≤ (poller.report (τ := τ) component e failed sent).2.nextId := by
  rcases poller.report_cases (τ := τ) component e failed sent with ⟨-, hreport⟩ | ⟨-, hreport⟩
  · rw [hreport]
    obtain ⟨hsource, hnext⟩ :=
      Poller.countSent_frame ((poller.tell (poller.routeFor failed).2).tell [.failedPoll component e])
        sent
    exact ⟨rfl, hsource, Nat.le_of_eq hnext.symm⟩
  · rw [hreport]
    exact ⟨rfl, rfl, Nat.le_succ _⟩

/-- A poll that begins gets a new identity. -/
theorem Fresh.begin (stamps : origin.Stamps texts keeps) {entries : List (PollEntry τ)}
    {poller : Poller σ τ} (h : Fresh texts keeps entries (.finished true) poller) :
    Fresh texts keeps (entries ++ [.opening origin poller]) (poller.begin origin).1
      (poller.begin origin).2 := by
  have hsource : keeps (poller.asked origin).source := stamps.receive h.source
  have hsent : serialsSent (entries ++ [.opening origin poller]) = serialsSent entries := by
    rw [serialsSent_concat, PollEntry.opening, PollEntry.sent, (poller.beginning_silent origin).1]
    exact List.append_nil _
  have hissued : Issued (serialsSent entries) poller.nextId :=
    h.sent.some (List.sublist_append_left _ _) (Nat.le_refl _)
  cases hresult : (origin.receive poller.stamp poller.source).result with
  | error e =>
      -- no message of this poll comes to be
      have hserial : (PollEntry.opening origin poller).serial? = none := by
        rw [PollEntry.serial?, PollEntry.opening, hresult]
      obtain ⟨hpending, hsame, hnext⟩ := report_frame (τ := τ)
        ((poller.asked origin).counted Stats.recordResolutionFailure) origin.component e none 0
      rw [Poller.begin_of_error hresult]
      refine ⟨hsame ▸ hsource, ?_, ?_, ?_⟩
      · rw [List.forall_mem_append, List.forall_mem_singleton]
        refine ⟨h.texts, fun polled hpolled => ?_⟩
        rw [PollEntry.opening, hresult] at hpolled
        cases hpolled
      · rw [List.filterMap_append, List.filterMap_cons, hserial]
        exact h.polls.some (by simp) (Nat.le_trans (Nat.le_succ _) hnext)
      · rw [hsent, hpending, List.append_nil]
        exact hissued.some (List.Sublist.refl _) (Nat.le_trans (Nat.le_succ _) hnext)
  | ok message =>
      have hheaders := stamps.fresh h.source hresult
      have hserial : (PollEntry.opening origin poller).serial? = some poller.nextId := by
        rw [PollEntry.serial?, PollEntry.opening, hresult]
        exact congrArg (fun headers : Headers => some headers.id.serial) hheaders
      obtain ⟨due, source, hsubmit, hbegin⟩ := Poller.begin_of_ok hresult
      rw [hbegin]
      refine ⟨stamps.submitted hsource hsubmit, ?_, ?_, ?_⟩
      · rw [List.forall_mem_append, List.forall_mem_singleton]
        refine ⟨h.texts, fun polled hpolled => ?_⟩
        rw [PollEntry.opening, hresult] at hpolled
        cases hpolled
        rw [hheaders]
        rfl
      · rw [List.filterMap_append, List.filterMap_cons, hserial]
        exact h.polls.issue
      · rw [hsent, Poll.pending, hheaders]
        exact hissued.issue

section

variable {past : List (PollEntry τ)} {last : PollEntry τ} {poll next : Poll τ}
  {answer : Option (Delivery τ)} {events : List (Event τ)} {poller after : Poller σ τ}

/-- What was handed out stays the same, so only new messages matter. -/
theorem Fresh.noted (h : Fresh texts keeps (past ++ [last]) poll poller)
    (source : keeps after.source) (le : poller.nextId ≤ after.nextId)
    (issued : Issued (serialsSent (past ++ [last]) ++
      ((events.filterMap Event.sent?).map (·.headers.id.serial) ++ next.pending)) after.nextId) :
    Fresh texts keeps (past ++ [last.noted answer events]) next after := by
  refine ⟨source, ?_, ?_, ?_⟩
  · have htexts := h.texts
    rw [List.forall_mem_append, List.forall_mem_singleton] at htexts ⊢
    exact htexts
  · have hpolls := h.polls.some (List.Sublist.refl _) le
    rw [List.filterMap_append] at hpolls ⊢
    exact hpolls
  · rw [serialsSent_concat, PollEntry.sent_noted, List.map_append, ← List.append_assoc,
      ← serialsSent_concat, List.append_assoc]
    exact issued

/-- A step that sends nothing may drop the message that was pending. -/
theorem Fresh.quiet (h : Fresh texts keeps (past ++ [last]) poll poller)
    (unsent : events.filterMap Event.sent? = []) (source : keeps after.source)
    (le : poller.nextId ≤ after.nextId) (pending : next.pending.Sublist poll.pending) :
    Fresh texts keeps (past ++ [last.noted answer events]) next after := by
  refine h.noted source le ?_
  rw [unsent]
  exact h.sent.some ((List.Sublist.refl _).append pending) le

/-- A failure that has been reported leaves the identities alone, and so does counting its messages. -/
theorem Fresh.settle (h : Fresh texts keeps (past ++ [last]) poll poller) (other : Poller σ τ)
    (sent : Nat) (source : other.source = poller.source) (same : other.nextId = poller.nextId)
    (unsent : events.filterMap Event.sent? = []) :
    Fresh texts keeps (past ++ [last.noted answer events]) (.finished true)
      (other.countSent sent) := by
  obtain ⟨hsource, hnext⟩ := other.countSent_frame sent
  refine h.quiet unsent ?_ (Nat.le_of_eq (hnext.trans same).symm) (List.nil_sublist _)
  rw [hsource, source]
  exact h.source

/-- **No step of a poll issues an identity twice.** -/
theorem Fresh.step (stamps : origin.Stamps texts keeps)
    (h : Fresh texts keeps (past ++ [last]) poll poller)
    (step : Poll.Step origin poller poll answer events next after) :
    Fresh texts keeps (past ++ [last.noted answer events]) next after := by
  cases step with
  | only answer =>
      exact h.quiet rfl (stamps.answered h.source answer) (Nat.le_refl _) (List.Sublist.refl _)
  | nothing answer | stream answer =>
      exact h.quiet rfl (stamps.answered h.source answer) (Nat.le_refl _) (List.nil_sublist _)
  | @refused headers payload due e source answer =>
      obtain ⟨hpending, hsame, hnext⟩ := report_frame (τ := τ)
        ({ poller with source := source }.counted Stats.recordDatabaseFailure) origin.component
        (.database e) (some headers) 0
      refine h.quiet (poller.failing_silent _ _).1 ?_ hnext ?_
      · exact hsame ▸ stamps.answered h.source answer
      · exact hpending ▸ List.nil_sublist _
  | through => exact h.quiet rfl h.source (Nat.le_refl _) (List.nil_sublist _)
  | row =>
      refine h.noted h.source (Nat.le_succ _) ?_
      have hissued : Issued (serialsSent (past ++ [last]) ++ [] ++ [poller.nextId]) _ :=
        h.sent.issue
      rw [List.append_nil] at hissued
      exact hissued
  | @broken headers e items sent =>
      obtain ⟨hpending, hsame, hnext⟩ := report_frame (τ := τ)
        (poller.counted Stats.recordDatabaseFailure) origin.component (.database e) (some headers)
        sent
      refine h.quiet (poller.failing_silent _ _).1 ?_ hnext ?_
      · exact hsame ▸ h.source
      · exact hpending ▸ List.nil_sublist _
  | sentRow | sentOnly => exact h.noted h.source (Nat.le_refl _) h.sent
  | cutRow | cutOnly => exact h.quiet rfl h.source (Nat.le_refl _) (List.nil_sublist _)
  | @reported route failure sent channel taking found offer =>
      exact h.settle (poller.withChannel route taking) sent (by cases route <;> rfl)
        (by cases route <;> rfl) rfl
  | @logged route failure sent channel found offer =>
      exact h.settle (poller.tell [.closedErrorChannel origin.component failure.error]) sent rfl rfl
        rfl

end

/-- **Identities are never issued twice.** -/
theorem Documented.fresh {allowed : Act → Prop} {first polling : Polling σ τ}
    {events : List (Event τ)} {entries : List (PollEntry τ)}
    (h : Documented origin allowed first events entries polling) (idle : first.phase = .checking)
    (stamps : origin.Stamps texts keeps) (source : keeps first.poller.source) :
    Fresh texts keeps entries polling.phase.current polling.poller := by
  refine h.invariant (I := Fresh texts keeps) idle ?_ ?_ ?_ ?_
  · exact ⟨source, List.forall_mem_nil _, .nothing _, .nothing _⟩
  · intro entries poll poller other hfresh hsource _ hnext
    exact ⟨hsource ▸ hfresh.source, hfresh.texts, hnext ▸ hfresh.polls, hnext ▸ hfresh.sent⟩
  · exact fun poller hfresh => hfresh.begin stamps
  · exact fun hfresh hstep _ => hfresh.step stamps hstep

end

end Polling

end QueryFeed
