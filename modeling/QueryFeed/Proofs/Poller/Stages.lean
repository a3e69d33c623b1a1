import QueryFeed.Proofs.Poller.Diary

/-!
**What a diary says at each stage of a poll.**

While a poll goes on, its entry agrees with the stage that it is at: the rows that are sent and those
that are left make up the answer, and a poll fails for the first error of its answer, after all rows
before it.  Every poll but the last one is over, and only the last one may have been cut off.

Main definitions:

* `PollEntry.Exhausted`, `PollEntry.CutOff` — the entries of polls that are over;
* `PollEntry.Streams` — the entry of a poll that sends rows;
* `PollEntry.Accords` — what an entry says while its poll is at a given stage;
* `Polling.Accords` — the same of a whole diary;
* `Polling.settled` — the polls that are over, but for one that was cut off.

Main results:

* `PollEntry.Accords.step` — **every step of a poll keeps the agreement**;
* `Polling.Documented.accords` — **every diary agrees with its poller**;
* `Polling.Documented.owing` — every failure arrives, and only the current poll may still owe one.
-/

set_option autoImplicit false

namespace QueryFeed

variable {σ τ : Type}

namespace PollEntry

/-! ### Agreement -/

/-- A poll that sent all its rows, and failed if its answer said so. -/
structure Exhausted (entry : PollEntry τ) : Prop where
  answered : (∃ message, entry.received = .ok message) ↔
    ∃ delivery, entry.delivery = some delivery
  rows : entry.sent.map Message.payload = entry.rows
  failed : entry.failed = entry.error?.toList

/-- A poll that had rows left when its output was closed. -/
structure CutOff (entry : PollEntry τ) : Prop where
  received : ∃ message, entry.received = .ok message
  answered : ∃ delivery, entry.delivery = some delivery
  rows : ∃ value rest, entry.rows = entry.sent.map Message.payload ++ value :: rest
  failed : entry.failed = []

/-- A poll that sent a number of rows, and has items of its answer left. -/
structure Streams (entry : PollEntry τ) (headers : Headers)
    (items : List (Except Database.Error τ)) (sent : Nat) : Prop where
  received : ∃ payload, entry.received = .ok ⟨headers, payload⟩
  delivery : entry.delivery =
    some (.stream ((entry.sent.map Message.payload).map .ok ++ items))
  sent : entry.sent.length = sent
  failed : entry.failed = []

/-- What an entry says while its poll is at a given stage. -/
def Accords (entry : PollEntry τ) : Poll τ → Prop
  | .awaiting headers payload _ =>
      entry.received = .ok ⟨headers, payload⟩ ∧ entry.delivery = none ∧ entry.sent = [] ∧
        entry.failed = []
  | .delivering headers items sent => entry.Streams headers items sent
  | .sendingRow headers row items sent => entry.Streams headers (.ok row.payload :: items) sent
  | .sendingOnly row =>
      (∃ payload, entry.received = .ok ⟨row.headers, payload⟩) ∧
        entry.delivery = some (.single (.ok (some row.payload))) ∧ entry.sent = [] ∧
        entry.failed = []
  | .reporting _ failure sent =>
      entry.Exhausted ∧ entry.error? = some failure.error ∧ entry.sent.length = sent
  | .finished true => entry.Exhausted
  | .finished false => entry.CutOff

theorem Streams.rows {entry : PollEntry τ} {headers : Headers}
    {items : List (Except Database.Error τ)} {sent : Nat} (h : entry.Streams headers items sent) :
    entry.rows = entry.sent.map Message.payload ++ Database.leadingRows items := by
  rw [rows_of_delivery h.delivery]
  exact Database.leadingRows_append _ _

theorem Streams.error? {entry : PollEntry τ} {headers : Headers}
    {items : List (Except Database.Error τ)} {sent : Nat} (h : entry.Streams headers items sent) :
    entry.error? = (Database.firstError? items).map .database := by
  obtain ⟨payload, hreceived⟩ := h.received
  rw [error?_of_delivery hreceived h.delivery]
  exact congrArg _ (Database.firstError?_append _ _)

/-- Messages are sent for the rows of an answer only. -/
theorem Accords.of_mem_sent {entry : PollEntry τ} {poll : Poll τ} (h : entry.Accords poll)
    {message : Message τ} (mem : message ∈ entry.sent) :
    (∃ polled, entry.received = .ok polled) ∧
      ∃ delivery, entry.delivery = some delivery ∧ delivery.rows ≠ [] := by
  have hsent : entry.sent ≠ [] := List.ne_nil_of_mem mem
  have hrows : entry.rows ≠ [] → ∃ delivery, entry.delivery = some delivery ∧ delivery.rows ≠ [] := by
    intro hsome
    cases hdelivery : entry.delivery with
    | none => exact absurd (by rw [PollEntry.rows, hdelivery]; rfl) hsome
    | some delivery => exact ⟨delivery, rfl, rows_of_delivery hdelivery ▸ hsome⟩
  have hstreams : ∀ headers items sent, entry.Streams headers items sent →
      (∃ polled, entry.received = .ok polled) ∧
        ∃ delivery, entry.delivery = some delivery ∧ delivery.rows ≠ [] := by
    intro headers items sent hstream
    obtain ⟨payload, hreceived⟩ := hstream.received
    refine ⟨⟨_, hreceived⟩, hrows ?_⟩
    rw [hstream.rows]
    exact List.append_ne_nil_of_left_ne_nil (mt List.map_eq_nil_iff.1 hsent) _
  have hexhausted : entry.Exhausted → (∃ polled, entry.received = .ok polled) ∧
      ∃ delivery, entry.delivery = some delivery ∧ delivery.rows ≠ [] := by
    intro hover
    have hall : entry.rows ≠ [] := hover.rows ▸ mt List.map_eq_nil_iff.1 hsent
    obtain ⟨delivery, hdelivery, hsome⟩ := hrows hall
    exact ⟨hover.answered.2 ⟨delivery, hdelivery⟩, delivery, hdelivery, hsome⟩
  cases poll with
  | awaiting | sendingOnly => exact absurd h.2.2.1 hsent
  | delivering | sendingRow => exact hstreams _ _ _ h
  | reporting => exact hexhausted h.1
  | finished outputOpen =>
      cases outputOpen with
      | true => exact hexhausted h
      | false =>
          obtain ⟨value, rest, hleft⟩ := h.rows
          refine ⟨h.received, hrows ?_⟩
          rw [hleft]
          exact List.append_ne_nil_of_right_ne_nil _ (List.cons_ne_nil _ _)

/-! ### Steps -/

/-- A poll that fails agrees with the stage that it goes on to. -/
theorem accords_report {entry : PollEntry τ} (answer : Option (Delivery τ)) {e : FeedError}
    (unfailed : entry.failed = [])
    (answered : (∃ message, entry.received = .ok message) ↔
      ∃ delivery, (entry.noted answer []).delivery = some delivery)
    (rows : entry.sent.map Message.payload = (entry.noted answer []).rows)
    (error : (entry.noted answer []).error? = some e) (poller : Poller σ τ) (component : String)
    (failed : Option Headers) :
    (entry.noted answer (poller.failing e failed)).Accords
      (poller.report component e failed entry.sent.length).1 := by
  have hover : ∀ events : List (Event τ), events.filterMap Event.sent? = [] →
      events.filterMap Event.failed? = [e] → (entry.noted answer events).Exhausted := by
    intro events hsent hfailed
    refine ⟨answered, ?_, ?_⟩
    · rw [sent_noted, hsent, List.append_nil]
      exact rows
    · rw [failed_noted, unfailed, hfailed]
      exact congrArg Option.toList error.symm
  rcases poller.report_cases component e failed entry.sent.length with
    ⟨hevents, hreport⟩ | ⟨hevents, hreport⟩
  · rw [hevents, hreport]
    exact hover _ rfl rfl
  · rw [hevents, hreport]
    refine ⟨hover _ rfl rfl, ?_, ?_⟩
    · rw [Poller.failure_error]
      exact error
    · rw [sent_noted]
      exact congrArg List.length (List.append_nil _)

/-- The entry of a poll that begins agrees with its first stage. -/
theorem accords_opening (origin : MessageSource σ τ) (poller : Poller σ τ) :
    (opening origin poller).Accords (poller.begin origin).1 := by
  cases h : (origin.receive poller.stamp poller.source).result with
  | error e =>
      have hentry : opening origin poller =
          noted ⟨.error e, none, [.began]⟩ none ((poller.asked origin).failing e none) := by
        rw [opening, h, Poller.beginning_of_error h]
        rfl
      rw [hentry, Poller.begin_of_error h, ← Poller.failing_counted _ Stats.recordResolutionFailure]
      have hanswered : (∃ message : Message (Payload τ), Except.error e = .ok message) ↔
          ∃ delivery : Delivery τ, none = some delivery :=
        ⟨fun ⟨_, h⟩ => (by cases h), fun ⟨_, h⟩ => (by cases h)⟩
      exact accords_report none rfl hanswered rfl rfl _ _ _
  | ok message =>
      obtain ⟨due, source, -, hbegin⟩ := Poller.begin_of_ok h
      rw [hbegin, opening, Poller.beginning_of_ok h]
      exact ⟨h, rfl, rfl, rfl⟩

/-- **Every step of a poll keeps the agreement.** -/
theorem Accords.step {origin : MessageSource σ τ} {entry : PollEntry τ} {poll next : Poll τ}
    {answer : Option (Delivery τ)} {events : List (Event τ)} {poller after : Poller σ τ}
    (h : entry.Accords poll) (step : Poll.Step origin poller poll answer events next after) :
    (entry.noted answer events).Accords next := by
  cases step with
  | @only headers payload due value source answer =>
      obtain ⟨hreceived, -, hsent, hfailed⟩ := h
      refine ⟨⟨payload, hreceived⟩, rfl, ?_, ?_⟩
      · rw [sent_noted, hsent]; rfl
      · rw [failed_noted, hfailed]; rfl
  | @nothing headers payload due source answer =>
      obtain ⟨hreceived, -, hsent, hfailed⟩ := h
      have herror : (entry.noted (some (.single (.ok none))) []).error? = none :=
        error?_of_delivery
          (show (entry.noted (some (.single (.ok none))) []).received = _ from hreceived) rfl
      refine ⟨⟨fun _ => ⟨_, rfl⟩, fun _ => ⟨_, hreceived⟩⟩, ?_, ?_⟩
      · rw [sent_noted, hsent]; rfl
      · rw [failed_noted, hfailed, herror]; rfl
  | @refused headers payload due e source answer =>
      obtain ⟨hreceived, -, hsent, hfailed⟩ := h
      have herror : (entry.noted (some (.single (.error e))) []).error? = some (.database e) :=
        error?_of_delivery
          (show (entry.noted (some (.single (.error e))) []).received = _ from hreceived) rfl
      have hreport := accords_report _ hfailed ⟨fun _ => ⟨_, rfl⟩, fun _ => ⟨_, hreceived⟩⟩
        (show entry.sent.map Message.payload = _ by rw [hsent]; rfl) herror
        ({ poller with source := source }.counted Stats.recordDatabaseFailure) origin.component
        (some headers)
      rw [Poller.failing_counted, hsent] at hreport
      exact hreport
  | @stream headers payload due items source answer =>
      obtain ⟨hreceived, -, hsent, hfailed⟩ := h
      have hnone : (entry.noted (some (.stream items)) []).sent = [] := by
        rw [sent_noted, hsent]; rfl
      refine ⟨⟨payload, hreceived⟩, ?_, ?_, ?_⟩
      · rw [hnone]; rfl
      · rw [hnone]; rfl
      · rw [failed_noted, hfailed]; rfl
  | through =>
      rw [noted_nothing]
      obtain ⟨payload, hreceived⟩ := h.received
      refine ⟨⟨fun _ => ⟨_, h.delivery⟩, fun _ => ⟨_, hreceived⟩⟩, ?_, ?_⟩
      · exact (h.rows.trans (List.append_nil _)).symm
      · rw [h.failed, h.error?]; rfl
  | row => rw [noted_nothing]; exact h
  | @broken headers e items sent =>
      -- what is left begins with the first error, so all rows before it were sent
      obtain ⟨payload, hreceived⟩ := h.received
      have hreport := accords_report none h.failed
        ⟨fun _ => ⟨_, h.delivery⟩, fun _ => ⟨_, hreceived⟩⟩
        (by rw [noted_nothing]; exact (h.rows.trans (List.append_nil _)).symm)
        (by rw [noted_nothing]; exact h.error?)
        (poller.counted Stats.recordDatabaseFailure) origin.component (some headers)
      rw [Poller.failing_counted, h.sent] at hreport
      exact hreport
  | @sentRow headers row items sent output offer =>
      -- the row is now one of those that were sent, and no longer one of those that are left
      have hsent : (entry.noted none [.sent row]).sent = entry.sent ++ [row] := sent_noted _ _ _
      refine ⟨h.received, ?_, ?_, ?_⟩
      · rw [hsent, List.map_append, List.map_append, List.append_assoc]
        exact h.delivery
      · rw [hsent, List.length_append, h.sent]; rfl
      · rw [failed_noted, h.failed]; rfl
  | cutRow offer =>
      rw [noted_nothing]
      obtain ⟨payload, hreceived⟩ := h.received
      exact ⟨⟨_, hreceived⟩, ⟨_, h.delivery⟩, ⟨_, _, h.rows⟩, h.failed⟩
  | @sentOnly row output offer =>
      obtain ⟨⟨payload, hreceived⟩, hdelivery, hsent, hfailed⟩ := h
      have hnoted : (entry.noted none [.sent row]).delivery =
          some (.single (.ok (some row.payload))) := hdelivery
      have herror : (entry.noted none [.sent row]).error? = none :=
        error?_of_delivery (show (entry.noted none _).received = _ from hreceived) hnoted
      refine ⟨⟨fun _ => ⟨_, hnoted⟩, fun _ => ⟨_, hreceived⟩⟩, ?_, ?_⟩
      · rw [sent_noted, hsent, rows_of_delivery hnoted]; rfl
      · rw [failed_noted, hfailed, herror]; rfl
  | @cutOnly row offer =>
      rw [noted_nothing]
      obtain ⟨⟨payload, hreceived⟩, hdelivery, hsent, hfailed⟩ := h
      refine ⟨⟨_, hreceived⟩, ⟨_, hdelivery⟩, ⟨row.payload, [], ?_⟩, hfailed⟩
      rw [rows_of_delivery hdelivery, hsent]; rfl
  | reported found offer | logged found offer =>
      obtain ⟨⟨hanswered, hrows, hfailed⟩, -, -⟩ := h
      refine ⟨hanswered, ?_, ?_⟩
      · rw [sent_noted]
        exact (congrArg _ (List.append_nil _)).trans hrows
      · rw [failed_noted]
        exact (List.append_nil _).trans hfailed

end PollEntry

/-! ### Whole diaries -/

/-- Whether a poll is over and was not cut off. -/
def Poll.isSettled : Poll τ → Bool
  | .finished outputOpen => outputOpen
  | _ => false

theorem Poll.Step.going {origin : MessageSource σ τ} {poll next : Poll τ}
    {answer : Option (Delivery τ)} {events : List (Event τ)} {poller after : Poller σ τ}
    (step : Poll.Step origin poller poll answer events next after) : poll.isSettled = false := by
  cases step <;> rfl

namespace Polling

/-- Every poll but the last one is over, and the entry of the last one agrees with its stage. -/
def Accords (entries : List (PollEntry τ)) (poll : Poll τ) : Prop :=
  (entries = [] ∧ poll = .finished true) ∨
    ∃ past last, entries = past ++ [last] ∧ (∀ entry ∈ past, entry.Exhausted) ∧ last.Accords poll

theorem accords_concat {past : List (PollEntry τ)} {last : PollEntry τ} {poll : Poll τ} :
    Accords (past ++ [last]) poll ↔ (∀ entry ∈ past, entry.Exhausted) ∧ last.Accords poll := by
  constructor
  · rintro (⟨hnil, -⟩ | ⟨before, final, hsame, hover, haccords⟩)
    · exact absurd hnil (List.append_ne_nil_of_right_ne_nil _ (List.cons_ne_nil _ _))
    · obtain ⟨rfl, hfinal⟩ := List.append_inj' hsame rfl
      obtain rfl : last = final := List.singleton_inj.1 hfinal
      exact ⟨hover, haccords⟩
  · rintro ⟨hover, haccords⟩
    exact Or.inr ⟨past, last, rfl, hover, haccords⟩

/-- Between two polls, every poll is over. -/
theorem Accords.exhausted {entries : List (PollEntry τ)} (h : Accords entries (.finished true)) :
    ∀ entry ∈ entries, entry.Exhausted := by
  rcases h with ⟨rfl, -⟩ | ⟨past, last, rfl, hover, hlast⟩
  · exact List.forall_mem_nil _
  · intro entry hentry
    rcases List.mem_append.1 hentry with hpast | hlast'
    · exact hover entry hpast
    · obtain rfl := List.mem_singleton.1 hlast'
      exact hlast

/-- Every poll agrees with some stage. -/
theorem Accords.each {entries : List (PollEntry τ)} {poll : Poll τ} (h : Accords entries poll) :
    ∀ entry ∈ entries, ∃ stage, entry.Accords stage := by
  rcases h with ⟨rfl, -⟩ | ⟨past, last, rfl, hover, hlast⟩
  · exact List.forall_mem_nil _
  · rw [List.forall_mem_append, List.forall_mem_singleton]
    exact ⟨fun entry hentry => ⟨.finished true, hover entry hentry⟩, poll, hlast⟩

theorem Accords.begin {entries : List (PollEntry τ)} (h : Accords entries (.finished true))
    (origin : MessageSource σ τ) (poller : Poller σ τ) :
    Accords (entries ++ [.opening origin poller]) (poller.begin origin).1 :=
  accords_concat.2 ⟨h.exhausted, PollEntry.accords_opening origin poller⟩

theorem Accords.step {origin : MessageSource σ τ} {past : List (PollEntry τ)}
    {last : PollEntry τ} {poll next : Poll τ} {answer : Option (Delivery τ)}
    {events : List (Event τ)} {poller after : Poller σ τ} (h : Accords (past ++ [last]) poll)
    (step : Poll.Step origin poller poll answer events next after) :
    Accords (past ++ [last.noted answer events]) next := by
  obtain ⟨hover, hlast⟩ := accords_concat.1 h
  exact accords_concat.2 ⟨hover, hlast.step step⟩

/-- The polls that are over: all but one that goes on or was cut off. -/
def settled (entries : List (PollEntry τ)) (poll : Poll τ) : List (PollEntry τ) :=
  if poll.isSettled then entries else entries.dropLast

theorem settled_of_going {past : List (PollEntry τ)} {last : PollEntry τ} {poll : Poll τ}
    (going : poll.isSettled = false) : settled (past ++ [last]) poll = past := by
  rw [settled, going]
  exact List.dropLast_concat

theorem settled_subset (entries : List (PollEntry τ)) (poll : Poll τ) :
    settled entries poll ⊆ entries := by
  unfold settled
  split
  · exact List.Subset.refl _
  · exact List.dropLast_subset _

theorem Accords.settled {entries : List (PollEntry τ)} {poll : Poll τ} (h : Accords entries poll) :
    ∀ entry ∈ Polling.settled entries poll, entry.Exhausted := by
  cases hsettled : poll.isSettled with
  | true =>
      obtain rfl : poll = .finished true := by
        cases poll <;> cases hsettled
        rfl
      exact h.exhausted
  | false =>
      rcases h with ⟨-, rfl⟩ | ⟨past, last, rfl, hover, -⟩
      · cases hsettled
      · rw [settled_of_going hsettled]
        exact hover

/-- **Every diary agrees with its poller.** -/
theorem Documented.accords {origin : MessageSource σ τ} {allowed : Act → Prop}
    {first polling : Polling σ τ} {events : List (Event τ)} {entries : List (PollEntry τ)}
    (h : Documented origin allowed first events entries polling) (idle : first.phase = .checking) :
    Accords entries polling.phase.current :=
  h.invariant (I := fun entries poll _ => Accords entries poll) idle (Or.inl ⟨rfl, rfl⟩)
    (fun haccords _ _ _ => haccords) (fun poller haccords => haccords.begin origin poller)
    (fun haccords step _ => haccords.step step)

/-! ### Failures arrive -/

/-- Every failure of a poll has arrived, but for one that the current stage is about to report. -/
def Owing (entries : List (PollEntry τ)) (poll : Poll τ) : Prop :=
  (∀ entry ∈ entries.dropLast, entry.failed = entry.arrived) ∧
    ∀ last ∈ entries.getLast?, last.failed = last.arrived ++ poll.owed

theorem owing_concat {past : List (PollEntry τ)} {last : PollEntry τ} {poll : Poll τ} :
    Owing (past ++ [last]) poll ↔
      (∀ entry ∈ past, entry.failed = entry.arrived) ∧ last.failed = last.arrived ++ poll.owed := by
  rw [Owing, List.dropLast_concat, List.getLast?_concat]
  simp only [Option.mem_some_iff, forall_eq']

/-- When nothing is owed, every failure has arrived. -/
theorem Owing.arrived {entries : List (PollEntry τ)} {poll : Poll τ} (h : Owing entries poll)
    (nothing : poll.owed = []) : ∀ entry ∈ entries, entry.failed = entry.arrived := by
  rcases List.eq_nil_or_concat entries with rfl | ⟨past, last, rfl⟩
  · exact List.forall_mem_nil _
  · rw [List.concat_eq_append, owing_concat, nothing, List.append_nil] at h
    rw [List.concat_eq_append, List.forall_mem_append, List.forall_mem_singleton]
    exact h

theorem Owing.begin {entries : List (PollEntry τ)} (h : Owing entries (.finished true))
    (origin : MessageSource σ τ) (poller : Poller σ τ) :
    Owing (entries ++ [.opening origin poller]) (poller.begin origin).1 :=
  owing_concat.2 ⟨h.arrived rfl, (Poller.begin_accounts origin poller).owed⟩

theorem Owing.step {past : List (PollEntry τ)} {last : PollEntry τ} {poll next : Poll τ}
    {events : List (Event τ)} {poller after : Poller σ τ} (h : Owing (past ++ [last]) poll)
    (answer : Option (Delivery τ)) (accounts : Poller.Accounts events poll next poller after) :
    Owing (past ++ [last.noted answer events]) next := by
  obtain ⟨hpast, hlast⟩ := owing_concat.1 h
  refine owing_concat.2 ⟨hpast, ?_⟩
  rw [PollEntry.failed_noted, PollEntry.arrived_noted, hlast, List.append_assoc, accounts.owed,
    List.append_assoc]

/-- **Every failure arrives**, and only the current poll may still owe one. -/
theorem Documented.owing {origin : MessageSource σ τ} {allowed : Act → Prop}
    {first polling : Polling σ τ} {events : List (Event τ)} {entries : List (PollEntry τ)}
    (h : Documented origin allowed first events entries polling) (idle : first.phase = .checking) :
    Owing entries polling.phase.current := by
  refine h.invariant (I := fun entries poll _ => Owing entries poll) idle ?_ ?_ ?_ ?_
  · exact ⟨List.forall_mem_nil _, fun _ hlast => by cases hlast⟩
  · exact fun howing _ _ _ => howing
  · exact fun poller howing => howing.begin origin poller
  · exact fun howing _ accounts => howing.step _ accounts

/-- Every failure of a settled poll has arrived. -/
theorem Owing.settled {entries : List (PollEntry τ)} {poll : Poll τ} (h : Owing entries poll) :
    ∀ entry ∈ Polling.settled entries poll, entry.failed = entry.arrived := by
  unfold Polling.settled
  split
  · rename_i hsettled
    refine h.arrived ?_
    cases poll <;> first | rfl | cases hsettled
  · exact h.1

end Polling

end QueryFeed
