import QueryFeed.Proofs.Poller.Outcomes
import QueryFeed.Proofs.Poller.Script

/-!
**Counters classify polls.**

The counters of a poller are the numbers of polls of each kind, where a poll that goes on counts as
failed from its failure on, and for its messages only when it is over.

Main definitions:

* `PollEntry.Countable` — the messages of a poll can be told from none by a word that counts them;
* `Polling.messagesOf` — the number of messages that polls sent;
* `Polling.Tallied` — what the counters count.

Main results:

* `Polling.Tallied.step` — every step of a poll is counted as it should be;
* `Polling.Documented.tallied` — **every counter of every history is the number of its polls**;
* `Polling.Documented.messages_counted` — the messages of all polls are counted, but not those of a
  poll that was cut off;
* `Polling.Documented.polls_classified` — **every poll is counted in exactly one class**.
-/

set_option autoImplicit false

namespace QueryFeed

variable {σ τ : Type}

/-! ### What the counters count -/

namespace PollEntry

/-- The word that counts the messages of a poll is zero for no message only. -/
def Countable (entry : PollEntry τ) : Prop :=
  entry.sent ≠ [] → UInt64.ofNat entry.sent.length ≠ 0

/-- The messages of a poll can be counted if their number fits into a word. -/
theorem countable_of_lt {entry : PollEntry τ} (few : entry.sent.length < UInt64.size) :
    entry.Countable := by
  intro hsome hzero
  have hnat := congrArg UInt64.toNat hzero
  rw [UInt64.toNat_ofNat_of_lt' few] at hnat
  exact hsome (List.eq_nil_of_length_eq_zero hnat)

end PollEntry

namespace Polling

/-- The number of messages that polls sent. -/
def messagesOf (entries : List (PollEntry τ)) : Nat := (entries.flatMap (·.sent)).length

theorem messagesOf_concat (past : List (PollEntry τ)) (last : PollEntry τ) :
    messagesOf (past ++ [last]) = messagesOf past + last.sent.length := by
  rw [messagesOf, List.flatMap_append, List.flatMap_singleton, List.length_append]
  rfl

/-- The counters are the numbers of polls of each kind, and of the messages of settled polls.  Whether
a poll is empty is told by its number of messages, which is a word. -/
structure Tallied (entries settled : List (PollEntry τ)) (stats : Stats) : Prop where
  polls : stats.polls = UInt64.ofNat entries.length
  unresolved : stats.resolutionFailures = UInt64.ofNat (entries.countP (·.outcome = .unresolved))
  refused : stats.databaseFailures = UInt64.ofNat (entries.countP (·.outcome = .refused))
  messages : stats.messages = UInt64.ofNat (messagesOf settled)
  empty : (∀ entry ∈ settled, entry.Countable) →
    stats.emptyPolls = UInt64.ofNat (settled.countP (·.outcome = .empty))

theorem Tallied.nothing : Tallied ([] : List (PollEntry τ)) [] .zero :=
  ⟨rfl, rfl, rfl, rfl, fun _ => rfl⟩

section

variable {entries past : List (PollEntry τ)} {entry last : PollEntry τ} {stats after : Stats}

/-- A poll begins that has not failed yet. -/
theorem Tallied.begin (h : Tallied entries entries stats)
    (resolved : entry.outcome ≠ .unresolved) (unrefused : entry.outcome ≠ .refused) :
    Tallied (entries ++ [entry]) entries stats.recordPoll where
  polls := by
    rw [List.length_append, UInt64.ofNat_add, ← h.polls]
    rfl
  unresolved := by
    rw [PollEntry.countP_outcome_concat, if_neg resolved]
    exact h.unresolved
  refused := by
    rw [PollEntry.countP_outcome_concat, if_neg unrefused]
    exact h.refused
  messages := h.messages
  empty := h.empty

/-- A poll begins whose query has no text. -/
theorem Tallied.beginUnresolved (h : Tallied entries entries stats)
    (unresolved : entry.outcome = .unresolved) :
    Tallied (entries ++ [entry]) entries stats.recordPoll.recordResolutionFailure where
  polls := by
    rw [List.length_append, UInt64.ofNat_add, ← h.polls]
    rfl
  unresolved := by
    rw [PollEntry.countP_outcome_concat, if_pos unresolved, UInt64.ofNat_add, ← h.unresolved]
    rfl
  refused := by
    rw [PollEntry.countP_outcome_concat, if_neg (by rw [unresolved]; decide)]
    exact h.refused
  messages := h.messages
  empty := h.empty

/-- A poll that goes on without a failure leaves the counters alone. -/
theorem Tallied.quiet (h : Tallied (past ++ [last]) past stats)
    (received : entry.received = last.received) (failed : entry.failed = last.failed)
    (unchanged : after = stats) : Tallied (past ++ [entry]) past after := by
  subst unchanged
  have hunresolved : (entry.outcome = .unresolved) = (last.outcome = .unresolved) := by
    rw [PollEntry.outcome_eq_unresolved, PollEntry.outcome_eq_unresolved, received]
  have hrefused : (entry.outcome = .refused) = (last.outcome = .refused) := by
    rw [PollEntry.outcome_eq_refused, PollEntry.outcome_eq_refused, received, failed]
  refine ⟨?_, ?_, ?_, h.messages, h.empty⟩
  · rw [h.polls, List.length_append, List.length_append]
    rfl
  · rw [h.unresolved, PollEntry.countP_outcome_concat, PollEntry.countP_outcome_concat]
    simp only [hunresolved]
  · rw [h.refused, PollEntry.countP_outcome_concat, PollEntry.countP_outcome_concat]
    simp only [hrefused]

/-- The database fails a poll. -/
theorem Tallied.refuse (h : Tallied (past ++ [last]) past stats)
    {message : Message (Payload τ)} (received : last.received = .ok message)
    (unfailed : last.failed = []) (same : entry.received = last.received)
    (failed : entry.failed ≠ []) :
    Tallied (past ++ [entry]) past stats.recordDatabaseFailure := by
  have hentry := PollEntry.outcome_of_failed (same.trans received) failed
  have hresolved : last.outcome ≠ .unresolved := fun houtcome => by
    obtain ⟨e, herror⟩ := PollEntry.outcome_eq_unresolved.1 houtcome
    rw [received] at herror
    cases herror
  have hunrefused : last.outcome ≠ .refused := fun houtcome =>
    (PollEntry.outcome_eq_refused.1 houtcome).2 unfailed
  refine ⟨?_, ?_, ?_, h.messages, h.empty⟩
  · change stats.polls = _
    rw [h.polls, List.length_append, List.length_append]
    rfl
  · change stats.resolutionFailures = _
    rw [h.unresolved, PollEntry.countP_outcome_concat, PollEntry.countP_outcome_concat,
      if_neg hresolved, if_neg (by rw [hentry]; decide)]
  · change stats.databaseFailures + 1 = _
    rw [h.refused, PollEntry.countP_outcome_concat, PollEntry.countP_outcome_concat,
      if_neg hunrefused, if_pos hentry, UInt64.ofNat_add _ 1]
    rfl

/-- A poll is over, and its messages are counted. -/
theorem Tallied.settle (h : Tallied (past ++ [last]) past stats) (polls : after.polls = stats.polls)
    (resolution : after.resolutionFailures = stats.resolutionFailures)
    (database : after.databaseFailures = stats.databaseFailures)
    (messages : after.messages = stats.messages + UInt64.ofNat last.sent.length)
    (empty : last.Countable → after.emptyPolls =
      stats.emptyPolls + UInt64.ofNat (if last.outcome = .empty then 1 else 0)) :
    Tallied (past ++ [last]) (past ++ [last]) after where
  polls := polls.trans h.polls
  unresolved := resolution.trans h.unresolved
  refused := database.trans h.refused
  messages := by rw [messages, h.messages, messagesOf_concat, UInt64.ofNat_add]
  empty countable := by
    rw [List.forall_mem_append, List.forall_mem_singleton] at countable
    rw [empty countable.2, h.empty countable.1, PollEntry.countP_outcome_concat, UInt64.ofNat_add]

/-- A poll that ran to its end is counted as empty if it sent nothing. -/
theorem Tallied.settleThrough (h : Tallied (past ++ [last]) past stats)
    {message : Message (Payload τ)} (received : last.received = .ok message)
    (unfailed : last.failed = []) (through : last.isThrough = true) :
    Tallied (past ++ [last]) (past ++ [last])
      (stats.recordMessages (UInt64.ofNat last.sent.length)) := by
  refine h.settle rfl rfl rfl rfl ?_
  intro countable
  rw [PollEntry.outcome_of_unfailed received unfailed, if_pos through]
  change (if UInt64.ofNat last.sent.length = 0 then _ else _) = _
  by_cases hnone : last.sent = []
  · rw [hnone]
    rfl
  · rw [if_neg (countable hnone),
      if_neg (by simpa using hnone)]
    exact (UInt64.add_zero _).symm

/-- A poll that failed is never counted as empty. -/
theorem Tallied.settleFailed (poller : Poller σ τ) (h : Tallied (past ++ [last]) past poller.stats)
    (failed : last.failed ≠ []) :
    Tallied (past ++ [last]) (past ++ [last]) (poller.countSent last.sent.length).stats := by
  obtain ⟨hpolls, hresolution, hdatabase, hmessages⟩ := poller.stats_countSent last.sent.length
  refine h.settle hpolls hresolution hdatabase hmessages ?_
  intro countable
  have houtcome : last.outcome ≠ .empty := fun hempty => by
    cases hreceived : last.received with
    | error e =>
        rw [PollEntry.outcome_of_error hreceived] at hempty
        cases hempty
    | ok message =>
        rw [PollEntry.outcome_of_failed hreceived failed] at hempty
        cases hempty
  rw [if_neg houtcome]
  unfold Poller.countSent
  split
  · exact (UInt64.add_zero _).symm
  · rename_i hpositive
    exact (if_neg (countable (mt List.length_eq_zero_iff.2 hpositive))).trans
      (UInt64.add_zero _).symm

/-- While a poll goes on, only the others are settled. -/
theorem Tallied.going {poll : Poll τ} (h : Tallied (past ++ [last]) past stats)
    (going : poll.isSettled = false) :
    Tallied (past ++ [last]) (settled (past ++ [last]) poll) stats := by
  rw [settled_of_going going]
  exact h

/-- A failure that was counted is reported; where the operator is told at once, the poll is over. -/
theorem tallied_report {poller : Poller σ τ} {e : FeedError} {answer : Option (Delivery τ)}
    (h : ∀ events : List (Event τ), events.filterMap Event.failed? = [e] →
      Tallied (past ++ [last.noted answer events]) past poller.stats)
    (component : String) (failed : Option Headers) :
    Tallied (past ++ [last.noted answer (poller.failing e failed)])
      (settled (past ++ [last.noted answer (poller.failing e failed)])
        (poller.report component e failed last.sent.length).1)
      (poller.report component e failed last.sent.length).2.stats := by
  rcases poller.report_cases component e failed last.sent.length with
    ⟨hevents, hreport⟩ | ⟨hevents, hreport⟩
  · rw [hevents, hreport]
    have hsent : (last.noted answer [.failed e, .logged e]).sent.length = last.sent.length := by
      rw [PollEntry.sent_noted]
      exact congrArg List.length (List.append_nil _)
    have hfailed : (last.noted answer [.failed e, .logged e]).failed ≠ [] := by
      rw [PollEntry.failed_noted]
      exact List.append_ne_nil_of_right_ne_nil _ (List.cons_ne_nil _ _)
    rw [← hsent]
    exact Tallied.settleFailed ((poller.tell (poller.routeFor failed).2).tell
      [.failedPoll component e]) (h _ rfl) hfailed
  · rw [hevents, hreport]
    exact (h _ rfl).going rfl

/-- The beginning of a poll is counted. -/
theorem Tallied.opening {poller : Poller σ τ} (h : Tallied entries entries poller.stats)
    (origin : MessageSource σ τ) :
    Tallied (entries ++ [.opening origin poller])
      (settled (entries ++ [.opening origin poller]) (poller.begin origin).1)
      (poller.begin origin).2.stats := by
  cases hresult : (origin.receive poller.stamp poller.source).result with
  | error e =>
      have hentry : PollEntry.opening origin poller = PollEntry.noted ⟨.error e, none, [.began]⟩
          none ((poller.asked origin).failing e none) := by
        rw [PollEntry.opening, hresult, Poller.beginning_of_error hresult]
        rfl
      rw [hentry, Poller.begin_of_error hresult,
        ← Poller.failing_counted _ Stats.recordResolutionFailure]
      exact tallied_report (fun _ _ => h.beginUnresolved (PollEntry.outcome_of_error rfl)) _ _
  | ok message =>
      obtain ⟨due, source, -, hbegin⟩ := Poller.begin_of_ok hresult
      have houtcome : (PollEntry.opening origin poller).outcome = .unfinished := by
        rw [PollEntry.opening, hresult, Poller.beginning_of_ok hresult]
        rfl
      rw [hbegin]
      exact (h.begin (by rw [houtcome]; decide) (by rw [houtcome]; decide)).going rfl

/-- A failure of the database is counted and reported. -/
theorem Tallied.fail (poller : Poller σ τ) (h : Tallied (past ++ [last]) past poller.stats)
    {message : Message (Payload τ)} (received : last.received = .ok message)
    (unfailed : last.failed = []) (answer : Option (Delivery τ)) (component : String)
    (e : Database.Error) (headers : Headers) :
    Tallied (past ++ [last.noted answer (poller.failing (.database e) (some headers))])
      (settled (past ++ [last.noted answer (poller.failing (.database e) (some headers))])
        (poller.failDatabase component e headers last.sent.length).1)
      (poller.failDatabase component e headers last.sent.length).2.stats := by
  rw [← Poller.failing_counted poller Stats.recordDatabaseFailure]
  refine tallied_report (fun events hevents => ?_) component (some headers)
  refine h.refuse received unfailed rfl ?_
  rw [PollEntry.failed_noted, hevents]
  exact List.append_ne_nil_of_right_ne_nil _ (List.cons_ne_nil _ _)

/-- A poll that failed is over when its failure has been reported. -/
theorem Tallied.settleReported {poller : Poller σ τ} (other : Poller σ τ) {e : FeedError}
    {event : Event τ} (h : Tallied (past ++ [last]) past poller.stats) (exhausted : last.Exhausted)
    (error : last.error? = some e) (unsent : [event].filterMap Event.sent? = [])
    (unfailed : [event].filterMap Event.failed? = []) (stats : other.stats = poller.stats) :
    Tallied (past ++ [last.noted none [event]]) (past ++ [last.noted none [event]])
      (other.countSent last.sent.length).stats := by
  have hsame : (last.noted none [event]).failed = last.failed :=
    PollEntry.failed_noted_of_nil unfailed
  have hsent : (last.noted none [event]).sent = last.sent := PollEntry.sent_noted_of_nil unsent
  have hfailed : (last.noted none [event]).failed ≠ [] := by
    rw [hsame, exhausted.failed, error]
    exact List.cons_ne_nil _ _
  have hquiet : Tallied (past ++ [last.noted none [event]]) past other.stats :=
    h.quiet rfl hsame stats
  rw [← hsent]
  exact hquiet.settleFailed other hfailed

/-- **Every step of a poll is counted as it should be.** -/
theorem Tallied.step {origin : MessageSource σ τ} {poll next : Poll τ}
    {answer : Option (Delivery τ)} {events : List (Event τ)} {poller after : Poller σ τ}
    (h : Tallied (past ++ [last]) (settled (past ++ [last]) poll) poller.stats)
    (accords : last.Accords poll)
    (step : Poll.Step origin poller poll answer events next after) :
    Tallied (past ++ [last.noted answer events]) (settled (past ++ [last.noted answer events]) next)
      after.stats := by
  -- a poll that can make a step is not settled, so its messages are not counted yet
  rw [settled_of_going step.going] at h
  have hnext := accords.step step
  have hquiet : events.filterMap Event.failed? = [] →
      Tallied (past ++ [last.noted answer events]) past poller.stats := by
    intro hunfailed
    exact h.quiet rfl (PollEntry.failed_noted_of_nil hunfailed) rfl
  cases step with
  | only | stream | row | cutRow | cutOnly | sentRow => exact (hquiet rfl).going rfl
  | @nothing headers payload due source answer =>
      obtain ⟨hreceived, -, hsent, hfailed⟩ := accords
      have hnone : (last.noted (some (.single (.ok none))) []).sent.length = 0 := by
        rw [PollEntry.sent_noted, hsent]
        rfl
      have hsettled := (hquiet rfl).settleThrough hreceived
        (by rw [PollEntry.failed_noted, hfailed]; rfl) (hnext.isThrough hreceived)
      rw [hnone] at hsettled
      exact hsettled
  | @refused headers payload due e source answer =>
      obtain ⟨hreceived, -, hsent, hfailed⟩ := accords
      have hfail := Tallied.fail { poller with source := source } h hreceived hfailed
        (some (.single (.error e))) origin.component e headers
      rw [hsent] at hfail
      exact hfail
  | through =>
      obtain ⟨payload, hreceived⟩ := accords.received
      rw [PollEntry.noted_nothing] at hnext ⊢
      rw [← accords.sent]
      exact h.settleThrough hreceived accords.failed (hnext.isThrough hreceived)
  | @broken headers e items sent =>
      obtain ⟨payload, hreceived⟩ := accords.received
      have hfail := h.fail poller hreceived accords.failed none origin.component e headers
      rw [accords.sent] at hfail
      exact hfail
  | @sentOnly row output offer =>
      obtain ⟨⟨payload, hreceived⟩, -, hsent, hfailed⟩ := accords
      have hone : (last.noted none [.sent row]).sent.length = 1 := by
        rw [PollEntry.sent_noted, hsent]
        rfl
      have hsettled := (hquiet rfl).settleThrough hreceived
        (by rw [PollEntry.failed_noted, hfailed]; rfl) (hnext.isThrough hreceived)
      rw [hone] at hsettled
      exact hsettled
  | @reported route failure sent channel taking found offer =>
      obtain ⟨hover, herror, rfl⟩ := accords
      exact h.settleReported _ hover herror rfl rfl (poller.stats_withChannel route taking)
  | @logged route failure sent channel found offer =>
      obtain ⟨hover, herror, rfl⟩ := accords
      exact h.settleReported (poller.tell [.closedErrorChannel origin.component failure.error])
        hover herror rfl rfl rfl

end

/-- Where no counter wraps around, the counters are the numbers themselves. -/
theorem Tallied.toNat {entries settled : List (PollEntry τ)} {stats : Stats}
    (h : Tallied entries settled stats) (within : settled.Sublist entries)
    (few : entries.length < UInt64.size) (countable : ∀ entry ∈ entries, entry.Countable) :
    stats.polls.toNat = entries.length ∧
      stats.resolutionFailures.toNat = entries.countP (·.outcome = .unresolved) ∧
      stats.databaseFailures.toNat = entries.countP (·.outcome = .refused) ∧
      stats.emptyPolls.toNat = settled.countP (·.outcome = .empty) := by
  have hfits : ∀ p : PollEntry τ → Bool, entries.countP p < UInt64.size := fun p =>
    Nat.lt_of_le_of_lt List.countP_le_length few
  have hempty := h.empty fun entry hentry => countable entry (within.subset hentry)
  refine ⟨?_, ?_, ?_, ?_⟩
  · rw [h.polls, UInt64.toNat_ofNat_of_lt' few]
  · rw [h.unresolved, UInt64.toNat_ofNat_of_lt' (hfits _)]
  · rw [h.refused, UInt64.toNat_ofNat_of_lt' (hfits _)]
  · rw [hempty, UInt64.toNat_ofNat_of_lt' (Nat.lt_of_le_of_lt within.countP_le (hfits _))]

/-! ### Histories -/

section

variable {origin : MessageSource σ τ} {allowed : Act → Prop} {first polling : Polling σ τ}
  {poller : Poller σ τ} {interval : Nat} {maxPolls : Option Nat}
  {events : List (Event τ)} {entries : List (PollEntry τ)}

/-- **Every counter of every history is the number of its polls.** -/
theorem Documented.tallied (h : Documented origin allowed first events entries polling)
    (idle : first.phase = .checking) (unused : first.poller.stats = .zero) :
    Tallied entries (settled entries polling.phase.current) polling.poller.stats := by
  refine (h.invariant (I := fun entries poll poller =>
    Accords entries poll ∧ Tallied entries (settled entries poll) poller.stats) idle ?_ ?_ ?_
    ?_).2
  · rw [unused]
    exact ⟨Or.inl ⟨rfl, rfl⟩, .nothing⟩
  · intro entries poll poller other htallied _ hstats _
    rw [hstats]
    exact htallied
  · intro entries poller htallied
    exact ⟨htallied.1.begin origin poller, htallied.2.opening origin⟩
  · intro past last poll answer events next poller after htallied hstep _
    exact ⟨htallied.1.step hstep, htallied.2.step (accords_concat.1 htallied.1).2 hstep⟩

/-- When a poller has stopped, all polls are over and counted, but for one that was cut off. -/
theorem Documented.tallied_of_stopped
    (h : Documented origin allowed first events entries polling) (idle : first.phase = .checking)
    (unused : first.poller.stats = .zero) {reason : StopReason}
    (stopped : polling.phase = .stopped reason) :
    (reason ≠ .outputClosed ∧ (∀ entry ∈ entries, entry.Exhausted) ∧
        Tallied entries entries polling.poller.stats) ∨
      (reason = .outputClosed ∧ ∃ past last, entries = past ++ [last] ∧
        (∀ entry ∈ past, entry.Exhausted) ∧ last.CutOff ∧
        Tallied entries past polling.poller.stats) := by
  have haccords := h.accords idle
  have htallied := h.tallied idle unused
  rw [current_of_stopped stopped] at haccords htallied
  by_cases hreason : reason = .outputClosed
  · subst hreason
    rcases haccords with ⟨-, hopen⟩ | ⟨past, last, rfl, hover, hlast⟩
    · cases hopen
    · rw [settled_of_going rfl] at htallied
      exact Or.inr ⟨rfl, past, last, rfl, hover, hlast, htallied⟩
  · rw [bne_iff_ne.2 hreason] at haccords htallied
    exact Or.inl ⟨hreason, haccords.exhausted, htallied⟩

theorem Documented.length_sent (h : Documented origin allowed first events entries polling)
    (idle : first.phase = .checking) :
    (events.filterMap Event.sent?).length = messagesOf entries := by
  rw [h.filterMap_events Event.sent? (fun _ _ => rfl) (fun _ _ => rfl) idle]
  rfl

/-- **The messages of all polls are counted, but not those of a poll that was cut off.**  When a
poller has stopped, its counter is the number of messages that its output took; but a poll whose
output was closed while rows were left stops without counting the messages that it had sent. -/
theorem Documented.messages_counted
    (h : Documented origin allowed (.start poller interval maxPolls) events entries polling)
    (unused : poller.stats = .zero) {reason : StopReason}
    (stopped : polling.phase = .stopped reason) :
    (reason ≠ .outputClosed → polling.poller.stats.messages =
        UInt64.ofNat (events.filterMap Event.sent?).length) ∧
      (reason = .outputClosed → ∃ past last, entries = past ++ [last] ∧ last.CutOff ∧
        polling.poller.stats.messages + UInt64.ofNat last.sent.length =
          UInt64.ofNat (events.filterMap Event.sent?).length) := by
  rw [h.length_sent rfl]
  rcases h.tallied_of_stopped rfl unused stopped with
    ⟨hreason, -, htallied⟩ | ⟨hreason, past, last, rfl, -, hcut, htallied⟩
  · exact ⟨fun _ => htallied.messages, fun hclosed => absurd hclosed hreason⟩
  · refine ⟨fun hother => absurd hreason hother, fun _ => ⟨past, last, rfl, hcut, ?_⟩⟩
    rw [htallied.messages, messagesOf_concat, UInt64.ofNat_add]

/-- A poll whose output took two of its three rows and was closed then. -/
theorem exists_cutOff :
    ∃ events entries polling, Documented (.scripted []) (fun _ => True)
        (.ofScript [.ok (.stream [.ok (.int 1), .ok (.int 2), .ok (.int 3)])] 1) events entries
        polling ∧
      polling.phase = .stopped .outputClosed ∧ polling.poller.stats.messages = 0 ∧
      (events.filterMap Event.sent?).length = 2 := by
  have hrun : (enact (.scripted [])
      (.ofScript [.ok (.stream [.ok (.int 1), .ok (.int 2), .ok (.int 3)])] 1) []
      (polled 4 ++ [.takeMessage none, .work, .work, .closeOutput, .work, .work])).map
      (fun made => (made.1.reason?, made.1.poller.stats.messages, messagesOf made.2)) =
      some (some .outputClosed, 0, 2) := by decide +kernel
  obtain ⟨events, entries, polling, hdocumented, hseen⟩ := exists_documented _ hrun
  simp only [Prod.mk.injEq, reason?_eq_some] at hseen
  obtain ⟨hphase, hmessages, hsent⟩ := hseen
  exact ⟨events, entries, polling, hdocumented, hphase, hmessages,
    (hdocumented.length_sent rfl).trans hsent⟩

theorem messages_counted_cutOff :
    ∃ events entries polling, Documented (.scripted []) (fun _ => True)
        (.ofScript [.ok (.stream [.ok (.int 1), .ok (.int 2), .ok (.int 3)])] 1) events entries
        polling ∧
      ∃ past last, entries = past ++ [last] ∧ last.CutOff ∧
        0 + UInt64.ofNat last.sent.length = UInt64.ofNat 2 := by
  obtain ⟨events, entries, polling, hdocumented, hphase, hmessages, hsent⟩ := exists_cutOff
  have hcounted := (Documented.messages_counted hdocumented rfl hphase).2 rfl
  rw [hmessages, hsent] at hcounted
  exact ⟨events, entries, polling, hdocumented, hcounted⟩

/-- The counter is not always the number of messages that the output took. -/
theorem not_all_messages_counted :
    ¬∀ events entries polling reason, Documented (.scripted []) (fun _ => True)
        (.ofScript [.ok (.stream [.ok (.int 1), .ok (.int 2), .ok (.int 3)])] 1) events entries
        polling →
      polling.phase = .stopped reason →
      polling.poller.stats.messages = UInt64.ofNat (events.filterMap Event.sent?).length := by
  intro hall
  obtain ⟨events, entries, polling, hdocumented, hphase, hmessages, hsent⟩ := exists_cutOff
  have hequal := hall events entries polling _ hdocumented hphase
  rw [hmessages, hsent] at hequal
  exact absurd hequal (by decide)

/-- **Every poll is counted in exactly one class.**  When a poller has stopped, each of its counters
is the number of polls that turned out so, and together with the polls that delivered rows, and the
one that was cut off if the output was closed, these are all polls.  Polls are counted in words, so
there are fewer of them than a word can count, and no poll has messages whose number is zero as a
word. -/
theorem Documented.polls_classified
    (h : Documented origin allowed (.start poller interval maxPolls) events entries polling)
    (unused : poller.stats = .zero) {reason : StopReason}
    (stopped : polling.phase = .stopped reason) (few : polling.polls < UInt64.size)
    (countable : ∀ entry ∈ entries, entry.Countable) :
    polling.poller.stats.polls.toNat = entries.length ∧
      polling.poller.stats.resolutionFailures.toNat =
        entries.countP (·.outcome = .unresolved) ∧
      polling.poller.stats.databaseFailures.toNat = entries.countP (·.outcome = .refused) ∧
      polling.poller.stats.emptyPolls.toNat = entries.countP (·.outcome = .empty) ∧
      (∀ entry ∈ entries.dropLast, entry.outcome ≠ .unfinished) ∧
      entries.countP (·.outcome = .unfinished) = (if reason = .outputClosed then 1 else 0) ∧
      polling.poller.stats.polls.toNat = polling.poller.stats.resolutionFailures.toNat +
        polling.poller.stats.databaseFailures.toNat + polling.poller.stats.emptyPolls.toNat +
        entries.countP (·.outcome = .delivered) +
        (if reason = .outputClosed then 1 else 0) := by
  have hlength : entries.length < UInt64.size := by
    rw [h.length_entries rfl rfl]
    exact few
  have hclasses := PollEntry.length_eq_countP_outcome entries
  rcases h.tallied_of_stopped rfl unused stopped with
    ⟨hreason, hover, htallied⟩ | ⟨hreason, past, last, rfl, hover, hcut, htallied⟩
  · obtain ⟨hpolls, hunresolved, hrefused, hempty⟩ :=
      htallied.toNat (List.Sublist.refl _) hlength countable
    have hfinished : entries.countP (·.outcome = .unfinished) = 0 :=
      List.countP_eq_zero.2 fun entry hentry => by simpa using (hover entry hentry).outcome_ne
    rw [if_neg hreason]
    refine ⟨hpolls, hunresolved, hrefused, hempty, ?_, hfinished, ?_⟩
    · exact fun entry hentry => (hover entry (List.dropLast_subset _ hentry)).outcome_ne
    · rw [hpolls, hunresolved, hrefused, hempty]
      omega
  · obtain ⟨hpolls, hunresolved, hrefused, hempty⟩ :=
      htallied.toNat (List.sublist_append_left _ _) hlength countable
    -- the poll that was cut off is in no other class
    have hlast := hcut.outcome_eq
    have hsame : (past ++ [last]).countP (·.outcome = .empty) = past.countP (·.outcome = .empty) := by
      rw [PollEntry.countP_outcome_concat, if_neg (by rw [hlast]; decide), Nat.add_zero]
    have hpast : past.countP (·.outcome = .unfinished) = 0 :=
      List.countP_eq_zero.2 fun entry hentry => by simpa using (hover entry hentry).outcome_ne
    have hone : (past ++ [last]).countP (·.outcome = .unfinished) = 1 := by
      rw [PollEntry.countP_outcome_concat, hpast, if_pos hlast]
    rw [if_pos hreason]
    refine ⟨hpolls, hunresolved, hrefused, hempty.trans hsame.symm, ?_, hone, ?_⟩
    · rw [List.dropLast_concat]
      exact fun entry hentry => (hover entry hentry).outcome_ne
    · rw [hpolls, hunresolved, hrefused, hempty]
      omega

/-- A poll of each kind: one without a query, one that fails after a row, one without rows, one with a
row, and one whose output is closed after its first row. -/
def fivePolls : Script :=
  [.error (.expression (.unknownVariable "since")),
    .ok (.stream [.ok (.int 1), .error (.query "canceled" none)]), .ok (.single (.ok none)),
    .ok (.stream [.ok (.int 2)]), .ok (.stream [.ok (.int 3), .ok (.int 4)])]

theorem polls_classified_fivePolls :
    ∃ events entries polling, Documented (.scripted []) (fun _ => True) (.ofScript fivePolls 3)
        events entries polling ∧
      polling.phase = .stopped .outputClosed ∧ polling.poller.stats = ⟨5, 1, 1, 2, 1⟩ ∧
      UInt64.toNat 5 = UInt64.toNat 1 + UInt64.toNat 1 + UInt64.toNat 1 +
        entries.countP (·.outcome = .delivered) + 1 := by
  have hrun : (enact (.scripted []) (.ofScript fivePolls 3) [] (polled 1 ++ polled 5 ++ polled 2 ++
      polled 5 ++ polled 3 ++ [.closeOutput, .work, .work, .work])).map
      (fun made => (made.1.reason?, made.1.polls, made.1.poller.stats,
        made.2.map (·.sent.length))) =
      some (some .outputClosed, 5, ⟨5, 1, 1, 2, 1⟩, [0, 1, 0, 1, 1]) := by decide +kernel
  obtain ⟨events, entries, polling, hdocumented, hseen⟩ := exists_documented _ hrun
  simp only [Prod.mk.injEq, reason?_eq_some] at hseen
  obtain ⟨hphase, hpolls, hstats, hsent⟩ := hseen
  have hfew : polling.polls < UInt64.size := by
    rw [hpolls]
    decide
  have hcountable : ∀ entry ∈ entries, entry.Countable := by
    have hall : ∀ count ∈ entries.map (·.sent.length), count < UInt64.size := by
      rw [hsent]
      decide
    intro entry hentry
    exact PollEntry.countable_of_lt (List.forall_mem_map.1 hall entry hentry)
  have hclassified := Documented.polls_classified hdocumented rfl hphase hfew hcountable
  rw [hstats] at hclassified
  exact ⟨events, entries, polling, hdocumented, hphase, hstats, hclassified.2.2.2.2.2.2⟩

end

end Polling

end QueryFeed
