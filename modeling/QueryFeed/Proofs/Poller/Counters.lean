import QueryFeed.Proofs.Poller.Attended

/-!
**The counters of a poller and of its source agree.**

A poller counts its polls and their failures, and the source that it polls counts on its own.  While a
poller is the only one that polls, and others only look after the source, both count the same polls
and the same failures of queries; a source that is set up during the run has not seen the polls before.
Everything else is counted by the poller alone.

Main definitions:

* `MessageSource.Counts` — a source that counts its polls;
* `Care`, `Source.tended`, `Lifecycle.tended` — how others look after a query source;
* `Polling.earlyPolls` — the number of polls before a source is set up;
* `Polling.Keeps`, `Polling.Agree` — what a source has counted, and how that fits the poller.

Main results:

* `MessageSource.counts_ofSource`, `MessageSource.counts_ofLifecycle` — query sources count their polls;
* `PollEntry.Accords.failure_cases` — a poll fails for want of a text, or in the database;
* `Polling.Keeps.opening`, `Polling.Keeps.noted`, `Polling.Keeps.ready` — what each step adds to what a
  source has counted;
* `Polling.Attended.keeps` — **a source counts the polls that it sees**;
* `Polling.counters_agree` — **the counters of a poller and of its source agree**.
-/

set_option autoImplicit false

namespace QueryFeed

variable {κ ρ σ τ : Type}

/-! ### Sources that count -/

/-- A source that counts its polls, once it is ready.  Asking it counts a poll, and a failure if there is
no payload; running a payload counts nothing.  Others make it ready, and leave the counters alone. -/
structure MessageSource.Counts (origin : MessageSource σ τ) (tends : ρ → σ → σ) (readies : ρ → Bool)
    (counters : σ → Option Stats) : Prop where
  unready : ∀ stamp source, counters source = none →
    (∃ e, (origin.receive stamp source).result = .error e) ∧
      counters (origin.receive stamp source).source = none
  failed : ∀ stamp source stats e, counters source = some stats →
    (origin.receive stamp source).result = .error e →
      counters (origin.receive stamp source).source =
        some stats.recordPoll.recordResolutionFailure
  handed : ∀ stamp source stats message, counters source = some stats →
    (origin.receive stamp source).result = .ok message →
      counters (origin.receive stamp source).source = some stats.recordPoll
  submit : ∀ now payload source, counters (origin.submit now payload source).2 = counters source
  answer : ∀ payload source, counters (origin.answer payload source).2 = counters source
  tended : ∀ care source, counters (tends care source) =
    if readies care then some ((counters source).getD .zero) else counters source

namespace Poller

theorem source_countSent (poller : Poller σ τ) (sent : Nat) :
    (poller.countSent sent).source = poller.source := by
  unfold countSent
  split <;> rfl

theorem source_report (poller : Poller σ τ) (component : String) (e : FeedError)
    (failed : Option Headers) (sent : Nat) :
    (poller.report (τ := τ) component e failed sent).2.source = poller.source := by
  rcases poller.report_cases (τ := τ) component e failed sent with ⟨-, hreport⟩ | ⟨-, hreport⟩
  · rw [hreport, source_countSent]
    rfl
  · rw [hreport]
    rfl

end Poller

/-- A step of a poll leaves the counters of its source alone. -/
theorem MessageSource.Counts.step {origin : MessageSource σ τ} {tends : ρ → σ → σ}
    {readies : ρ → Bool} {counters : σ → Option Stats}
    (counts : origin.Counts tends readies counters) {poll next : Poll τ}
    {answer : Option (Delivery τ)} {events : List (Event τ)} {poller after : Poller σ τ}
    (step : Poll.Step origin poller poll answer events next after) :
    counters after.source = counters poller.source := by
  -- only an answer reaches the source
  have hanswer : ∀ {payload : Payload τ} {delivery : Delivery τ} {source : σ},
      origin.answer payload poller.source = (delivery, source) →
        counters source = counters poller.source := by
    intro payload delivery source hanswered
    have hsame := counts.answer payload poller.source
    rw [hanswered] at hsame
    exact hsame
  cases step with
  | only answered | nothing answered | stream answered => exact hanswer answered
  | refused answered =>
      rw [Poller.failDatabase, Poller.source_report]
      exact hanswer answered
  | broken =>
      rw [Poller.failDatabase, Poller.source_report]
      rfl
  | through | row | sentRow | cutRow | sentOnly | cutOnly => rfl
  | @reported route =>
      rw [Poller.source_countSent]
      cases route <;> rfl
  | logged =>
      rw [Poller.source_countSent]
      rfl

/-! ### Query sources -/

/-- What others do to a query source and its database, who do not poll it: they give it its registry,
change its variables, and use the database. -/
inductive Care (κ : Type) where
  | setUp (registry : Registry)
  | context (change : Context → Context)
  | database (change : κ → κ)

/-- Whether a source is given its registry. -/
def Care.setsUp : Care κ → Bool
  | setUp _ => true
  | context _ | database _ => false

/-- A source that is ready has its registry already. -/
def Source.tended : Care κ → Source τ × κ → Source τ × κ
  | .setUp _, state => state
  | .context change, (source, database) =>
      ({ source with context := change source.context }, database)
  | .database change, (source, database) => (source, change database)

/-- A source that is not ready has no variables. -/
def Lifecycle.tended : Care κ → Lifecycle τ × κ → Lifecycle τ × κ
  | .setUp registry, (lifecycle, database) => ((lifecycle.setUp registry).2, database)
  | .context _, (.pending plan, database) => (.pending plan, database)
  | .context change, (.ready source, database) =>
      (.ready { source with context := change source.context }, database)
  | .database change, (lifecycle, database) => (lifecycle, change database)

/-- The counters of a source. -/
def Source.counters (state : Source τ × κ) : Option Stats := some state.1.stats

/-- The counters of a source that has its registry. -/
def Lifecycle.counters : Lifecycle τ × κ → Option Stats
  | (.pending _, _) => none
  | (.ready source, _) => some source.stats

/-- A poll of a source is counted, and so is a query without a text. -/
theorem Source.stats_receive (source : Source τ) (stamp : Stamp) :
    (∀ e, (source.receive stamp).result = .error e →
        (source.receive stamp).source.stats = source.stats.recordPoll.recordResolutionFailure) ∧
      ∀ message, (source.receive stamp).result = .ok message →
        (source.receive stamp).source.stats = source.stats.recordPoll := by
  simp only [receive, poll]
  cases (source.plan.query.resolve source.context).1 with
  | ok sql => exact ⟨fun e herror => (by cases herror), fun _ _ => rfl⟩
  | error e => exact ⟨fun _ _ => rfl, fun message hmessage => (by cases hmessage)⟩

namespace MessageSource

/-- **A query source counts its polls.** -/
theorem counts_ofSource (connection : Connection κ) :
    (ofSource connection : MessageSource (Source τ × κ) τ).Counts Source.tended Care.setsUp
      Source.counters where
  unready := by
    rintro stamp source hnone
    cases hnone
  failed := by
    rintro stamp ⟨source, database⟩ stats e hstats hfailed
    cases hstats
    exact congrArg some ((source.stats_receive stamp).1 e hfailed)
  handed := by
    rintro stamp ⟨source, database⟩ stats message hstats hhanded
    cases hstats
    exact congrArg some ((source.stats_receive stamp).2 message hhanded)
  submit _ _ _ := rfl
  answer _ _ := rfl
  tended := by
    rintro care ⟨source, database⟩
    cases care <;> rfl

/-- **A source that may not be ready yet counts the polls that it sees.** -/
theorem counts_ofLifecycle (connection : Connection κ) :
    (ofLifecycle connection : MessageSource (Lifecycle τ × κ) τ).Counts Lifecycle.tended
      Care.setsUp Lifecycle.counters where
  unready := by
    rintro stamp ⟨lifecycle, database⟩ hnone
    cases lifecycle with
    | pending plan => exact ⟨⟨_, rfl⟩, rfl⟩
    | ready source => cases hnone
  failed := by
    rintro stamp ⟨lifecycle, database⟩ stats e hstats hfailed
    cases lifecycle with
    | pending plan => cases hstats
    | ready source =>
        cases hstats
        exact congrArg some ((source.stats_receive stamp).1 e hfailed)
  handed := by
    rintro stamp ⟨lifecycle, database⟩ stats message hstats hhanded
    cases lifecycle with
    | pending plan => cases hstats
    | ready source =>
        cases hstats
        exact congrArg some ((source.stats_receive stamp).2 message hhanded)
  submit := by
    rintro now payload ⟨lifecycle, database⟩
    cases lifecycle <;> rfl
  answer := by
    rintro payload ⟨lifecycle, database⟩
    cases lifecycle <;> rfl
  tended := by
    rintro care ⟨lifecycle, database⟩
    cases care <;> cases lifecycle <;> rfl

end MessageSource

/-! ### How polls fail -/

namespace PollEntry

/-- A poll fails for an error for which its entry says that it has to fail. -/
theorem Accords.error?_of_mem_failed {entry : PollEntry τ} {poll : Poll τ}
    (accords : entry.Accords poll) {e : FeedError} (h : e ∈ entry.failed) : entry.error? = some e := by
  have hexhausted : entry.Exhausted → entry.error? = some e := by
    intro hover
    rw [hover.failed] at h
    exact Option.mem_toList.1 h
  have hunfailed : entry.failed ≠ [] := List.ne_nil_of_mem h
  cases poll with
  | awaiting | sendingOnly => exact absurd accords.2.2.2 hunfailed
  | delivering | sendingRow => exact absurd accords.failed hunfailed
  | reporting => exact hexhausted accords.1
  | finished outputOpen =>
      cases outputOpen with
      | true => exact hexhausted accords
      | false => exact absurd accords.failed hunfailed

/-- **A poll fails for want of a text, or in the database.** -/
theorem Accords.failure_cases {entry : PollEntry τ} {poll : Poll τ} (accords : entry.Accords poll)
    {e : FeedError} (h : e ∈ entry.failed) :
    (entry.outcome = .unresolved ∧ entry.received = .error e) ∨
      (entry.outcome = .refused ∧ ∃ reason, e = .database reason) := by
  have herror := accords.error?_of_mem_failed h
  cases hreceived : entry.received with
  | error other =>
      left
      rw [error?, hreceived, Option.some_inj] at herror
      subst herror
      exact ⟨outcome_of_error hreceived, rfl⟩
  | ok message =>
      right
      rw [error?, hreceived] at herror
      obtain ⟨reason, -, rfl⟩ := Option.map_eq_some_iff.1 herror
      exact ⟨outcome_of_failed hreceived (List.ne_nil_of_mem h), reason, rfl⟩

end PollEntry

/-! ### What a source has counted -/

/-- The counters of a source that was polled a number of times, with some failures. -/
def Stats.polled (polls failures : Nat) : Stats :=
  ⟨UInt64.ofNat polls, UInt64.ofNat failures, 0, 0, 0⟩

theorem Stats.recordPoll_polled (polls failures : Nat) :
    (Stats.polled polls failures).recordPoll = .polled (polls + 1) failures := by
  rw [recordPoll, polled, polled, UInt64.ofNat_add]
  rfl

theorem Stats.recordResolutionFailure_polled (polls failures : Nat) :
    (Stats.polled polls failures).recordResolutionFailure = .polled polls (failures + 1) := by
  rw [recordResolutionFailure, polled, polled, UInt64.ofNat_add]
  rfl

namespace Polling

/-- What a source has counted after some polls, the early ones of which came before it was ready: all
polls but those, and all failures of queries but those. -/
def Keeps (early : Nat) (entries : List (PollEntry τ)) : Option Stats → Prop
  | none => entries.length = early ∧ entries.countP (·.outcome = .unresolved) = early
  | some stats => ∃ polls failures, entries.length = early + polls ∧
      entries.countP (·.outcome = .unresolved) = early + failures ∧ stats = .polled polls failures

/-- A step of a poll does not change whether its query had a text. -/
theorem countP_unresolved_noted (past : List (PollEntry τ)) (last : PollEntry τ)
    (answer : Option (Delivery τ)) (events : List (Event τ)) :
    (past ++ [last.noted answer events]).countP (·.outcome = .unresolved) =
      (past ++ [last]).countP (·.outcome = .unresolved) := by
  have hsame : (last.noted answer events).outcome = .unresolved ↔ last.outcome = .unresolved := by
    rw [PollEntry.outcome_eq_unresolved, PollEntry.outcome_eq_unresolved]
    rfl
  rw [PollEntry.countP_outcome_concat, PollEntry.countP_outcome_concat]
  simp only [hsame]

theorem Keeps.noted {early : Nat} {past : List (PollEntry τ)} {last : PollEntry τ}
    {stats? : Option Stats} (h : Keeps early (past ++ [last]) stats?) (answer : Option (Delivery τ))
    (events : List (Event τ)) : Keeps early (past ++ [last.noted answer events]) stats? := by
  have hlength : (past ++ [last.noted answer events]).length = (past ++ [last]).length := by
    rw [List.length_append, List.length_append]
    rfl
  cases stats? with
  | none =>
      rw [Keeps, hlength, countP_unresolved_noted]
      exact h
  | some stats =>
      rw [Keeps, hlength, countP_unresolved_noted]
      exact h

/-- A source that is made ready starts to count. -/
theorem Keeps.ready {early : Nat} {entries : List (PollEntry τ)} {stats? : Option Stats}
    (h : Keeps early entries stats?) : Keeps early entries (some (stats?.getD .zero)) := by
  cases stats? with
  | none => exact ⟨0, 0, h.1, h.2, rfl⟩
  | some stats => exact h

section

variable {origin : MessageSource σ τ} {tends : ρ → σ → σ} {readies : ρ → Bool}
  {counters : σ → Option Stats} {entries : List (PollEntry τ)} {early : Nat}

/-- The source of a poll that begins is asked, and otherwise left alone. -/
theorem counters_begin (counts : origin.Counts tends readies counters) (poller : Poller σ τ) :
    counters (poller.begin origin).2.source =
      counters (origin.receive poller.stamp poller.source).source := by
  cases hresult : (origin.receive poller.stamp poller.source).result with
  | error e =>
      rw [Poller.begin_of_error hresult, Poller.source_report]
      rfl
  | ok message =>
      obtain ⟨due, source, hsubmit, hbegin⟩ := Poller.begin_of_ok hresult
      have hsame := counts.submit poller.now message.payload (poller.asked origin).source
      rw [hsubmit] at hsame
      rw [hbegin]
      exact hsame

/-- The outcome of a poll that begins tells whether its query had a text. -/
theorem countP_unresolved_opening (origin : MessageSource σ τ) (poller : Poller σ τ) :
    (entries ++ [PollEntry.opening origin poller]).countP (·.outcome = .unresolved) =
      entries.countP (·.outcome = .unresolved) +
        match (origin.receive poller.stamp poller.source).result with
        | .error _ => 1
        | .ok _ => 0 := by
  rw [PollEntry.countP_outcome_concat]
  cases hresult : (origin.receive poller.stamp poller.source).result with
  | error e => rw [if_pos (PollEntry.outcome_of_error hresult)]
  | ok message =>
      rw [if_neg]
      intro houtcome
      obtain ⟨e, herror⟩ := PollEntry.outcome_eq_unresolved.1 houtcome
      rw [show (PollEntry.opening origin poller).received = _ from hresult] at herror
      cases herror

/-- A poll that begins is counted by a source that is ready, and comes too early for any other. -/
theorem Keeps.opening (counts : origin.Counts tends readies counters) {poller : Poller σ τ}
    (h : Keeps early entries (counters poller.source)) :
    Keeps (if (counters poller.source).isSome then early else early + 1)
      (entries ++ [.opening origin poller]) (counters (poller.begin origin).2.source) := by
  rw [counters_begin counts]
  cases hcounters : counters poller.source with
  | none =>
      rw [hcounters] at h
      obtain ⟨⟨e, hresult⟩, hnone⟩ := counts.unready poller.stamp poller.source hcounters
      rw [hnone, Keeps, List.length_append, countP_unresolved_opening, hresult, h.1, h.2]
      exact ⟨rfl, rfl⟩
  | some stats =>
      rw [hcounters] at h
      obtain ⟨polls, failures, hlength, hfailures, rfl⟩ := h
      cases hresult : (origin.receive poller.stamp poller.source).result with
      | error e =>
          rw [counts.failed poller.stamp poller.source _ e hcounters hresult,
            Stats.recordPoll_polled, Stats.recordResolutionFailure_polled]
          refine ⟨polls + 1, failures + 1, ?_, ?_, rfl⟩
          · rw [List.length_append, hlength]
            rfl
          · rw [countP_unresolved_opening, hresult, hfailures]
            rfl
      | ok message =>
          rw [counts.handed poller.stamp poller.source _ message hcounters hresult,
            Stats.recordPoll_polled]
          refine ⟨polls + 1, failures, ?_, ?_, rfl⟩
          · rw [List.length_append, hlength]
            rfl
          · rw [countP_unresolved_opening, hresult, hfailures]
            rfl

/-! ### Early polls -/

/-- The number of polls that begin before the source is made ready. -/
def earlyPolls (readies : ρ → Bool) (moves : List (Move ρ)) : Nat :=
  (moves.takeWhile (!·.wakes readies)).countP Move.begins

theorem earlyPolls_cons (readies : ρ → Bool) (move : Move ρ) (rest : List (Move ρ)) :
    earlyPolls readies (move :: rest) =
      if move.wakes readies then 0 else [move].countP Move.begins + earlyPolls readies rest := by
  rw [earlyPolls, List.takeWhile_cons]
  cases move.wakes readies with
  | true => rfl
  | false =>
      change (move :: _).countP _ = _
      rw [List.countP_cons, List.countP_singleton, Nat.add_comm]
      rfl

/-- Once the source is ready, no further poll is early. -/
theorem earlyPolls_concat (readies : ρ → Bool) (moves : List (Move ρ)) (move : Move ρ) :
    earlyPolls readies (moves ++ [move]) = earlyPolls readies moves +
      if moves.any (Move.wakes readies) then 0 else [move].countP Move.begins := by
  induction moves with
  | nil =>
      rw [List.nil_append, earlyPolls_cons]
      cases move with
      | act act => simp [Move.wakes, earlyPolls]
      | care given => simp [earlyPolls, Move.begins]
  | cons first rest ih =>
      rw [List.cons_append, earlyPolls_cons, earlyPolls_cons, List.any_cons, ih]
      cases first.wakes readies with
      | true => rfl
      | false =>
          simp only [Bool.false_eq_true, if_false, Bool.false_or]
          omega

/-- A source that is ready when it is asked is ready afterwards, and no other is. -/
theorem isSome_counters_receive (counts : origin.Counts tends readies counters) (stamp : Stamp)
    (source : σ) :
    (counters (origin.receive stamp source).source).isSome = (counters source).isSome := by
  cases hcounters : counters source with
  | none => rw [(counts.unready stamp source hcounters).2]
  | some stats =>
      cases hresult : (origin.receive stamp source).result with
      | error e => rw [counts.failed stamp source stats e hcounters hresult]; rfl
      | ok message => rw [counts.handed stamp source stats message hcounters hresult]; rfl

/-- **A source counts the polls that it sees**: all of them if it was ready from the start, and
otherwise all but those that began before it was made ready. -/
theorem Attended.keeps {first polling : Polling σ τ} {moves : List (Move ρ)}
    (h : Attended origin tends first moves entries polling)
    (counts : origin.Counts tends readies counters) (idle : first.phase = .checking) {ready : Bool}
    (fresh : counters first.poller.source = if ready then some .zero else none) :
    (counters polling.poller.source).isSome = (ready || moves.any (Move.wakes readies)) ∧
      Keeps (if ready then 0 else earlyPolls readies moves) entries
        (counters polling.poller.source) := by
  induction h with
  | start =>
      rw [fresh]
      cases ready with
      | true => exact ⟨rfl, 0, 0, rfl, rfl, rfl⟩
      | false => exact ⟨rfl, rfl, rfl⟩
  | @act moves entries polling next attended act made ih =>
      obtain ⟨hready, hkeeps⟩ := ih
      have hany : (moves ++ [Move.act act]).any (Move.wakes readies) =
          moves.any (Move.wakes readies) := by
        rw [List.any_append]
        exact Bool.or_false _
      -- unless a poll begins, no poll is early
      have hquiet : act ≠ .tick → earlyPolls readies (moves ++ [.act act]) =
          earlyPolls readies moves := by
        intro htick
        rw [earlyPolls_concat, Move.countP_begins_of_ne htick]
        split <;> rfl
      rw [hany, ← hready]
      rcases document_cases (attended.accords idle) made with
        ⟨rfl, -, hdocument, -, hpoller⟩ |
        ⟨htick, past, last, answer, events, rfl, hstep, hdocument⟩ |
        ⟨htick, hdocument, -, hsource, -⟩
      · rw [hdocument, hpoller, counters_begin counts, isSome_counters_receive counts]
        refine ⟨rfl, ?_⟩
        have hopening := hkeeps.opening counts
        rw [counters_begin counts, hready] at hopening
        rw [earlyPolls_concat]
        cases ready with
        | true => exact hopening
        | false =>
            cases hwakes : moves.any (Move.wakes readies) with
            | true =>
                rw [hwakes] at hopening
                exact hopening
            | false =>
                rw [hwakes] at hopening
                exact hopening
      · rw [hdocument, hquiet htick, counts.step hstep]
        exact ⟨rfl, hkeeps.noted answer events⟩
      · rw [hdocument, hquiet htick, hsource]
        exact ⟨rfl, hkeeps⟩
  | @care moves entries polling attended given ih =>
      obtain ⟨hready, hkeeps⟩ := ih
      have hany : (moves ++ [Move.care given]).any (Move.wakes readies) =
          (moves.any (Move.wakes readies) || readies given) := by
        rw [List.any_append]
        exact congrArg _ (Bool.or_false _)
      have hearly : earlyPolls readies (moves ++ [.care given]) = earlyPolls readies moves := by
        rw [earlyPolls_concat]
        split <;> rfl
      rw [hany, hearly, withPoller_poller, counts.tended, ← Bool.or_assoc, ← hready]
      cases readies given with
      | true => exact ⟨(Bool.or_true _).symm, hkeeps.ready⟩
      | false => exact ⟨(Bool.or_false _).symm, hkeeps⟩

end

/-! ### Agreement -/

/-- The counters of a poller and of its source agree, up to some polls that came before the source was
ready: the source has counted all other polls, and their failures of queries, and nothing else.  All
further failures are failures of the database, which the poller has counted. -/
structure Agree (early : Nat) (entries : List (PollEntry τ)) (outer inner : Stats) : Prop where
  polls : outer.polls = inner.polls + UInt64.ofNat early
  resolutionFailures : outer.resolutionFailures = inner.resolutionFailures + UInt64.ofNat early
  exactly : entries.length < UInt64.size → outer.polls.toNat = inner.polls.toNat + early ∧
    outer.resolutionFailures.toNat = inner.resolutionFailures.toNat + early
  uncounted : inner.databaseFailures = 0 ∧ inner.messages = 0 ∧ inner.emptyPolls = 0
  unresolved : outer.resolutionFailures = UInt64.ofNat (entries.countP (·.outcome = .unresolved))
  refused : outer.databaseFailures = UInt64.ofNat (entries.countP (·.outcome = .refused))
  failures : ∀ entry ∈ entries, ∀ e ∈ entry.failed,
    (entry.outcome = .unresolved ∧ entry.received = .error e) ∨
      (entry.outcome = .refused ∧ ∃ reason, e = .database reason)

/-- What a source keeps agrees with what the poller counts. -/
theorem Keeps.agree {early : Nat} {entries settled : List (PollEntry τ)} {outer inner : Stats}
    {poll : Poll τ} (h : Keeps early entries (some inner)) (tallied : Tallied entries settled outer)
    (accords : Accords entries poll) : Agree early entries outer inner := by
  obtain ⟨polls, failures, hlength, hfailures, rfl⟩ := h
  refine ⟨?_, ?_, ?_, ⟨rfl, rfl, rfl⟩, tallied.unresolved, tallied.refused, ?_⟩
  · rw [tallied.polls, hlength, UInt64.ofNat_add, UInt64.add_comm]
    rfl
  · rw [tallied.unresolved, hfailures, UInt64.ofNat_add, UInt64.add_comm]
    rfl
  · intro hfew
    have hle := (List.countP_le_length : entries.countP (·.outcome = .unresolved) ≤ entries.length)
    rw [tallied.polls, tallied.unresolved, Stats.polled, UInt64.toNat_ofNat_of_lt' hfew,
      UInt64.toNat_ofNat_of_lt' (by omega), UInt64.toNat_ofNat_of_lt' (by omega),
      UInt64.toNat_ofNat_of_lt' (by omega)]
    omega
  · intro entry hentry e he
    obtain ⟨stage, hstage⟩ := accords.each entry hentry
    exact hstage.failure_cases he

/-- Only its registry makes a query source ready. -/
theorem any_wakes_setsUp {moves : List (Move (Care κ))} :
    moves.any (Move.wakes Care.setsUp) = true ↔ ∃ registry, .care (.setUp registry) ∈ moves := by
  rw [List.any_eq_true]
  constructor
  · rintro ⟨move, hmem, hwakes⟩
    cases move with
    | act act => cases hwakes
    | care given =>
        cases given with
        | setUp registry => exact ⟨registry, hmem⟩
        | context change | database change => cases hwakes
  · rintro ⟨registry, hmem⟩
    exact ⟨_, hmem, rfl⟩

/-- **The counters of a poller and of its source agree.**  Whatever is done to a query source and its
database by others who do not poll it, and whenever, a source that was ready from the start has counted
the same polls and the same failures of queries as its poller.  A source that is set up during the run
has counted all but the polls that began before; as long as it is not set up, the poller counts every
poll as a failure.  All other failures are failures of the database, counted by the poller alone. -/
theorem counters_agree (connection : Connection κ) (interval : Nat) (maxPolls : Option Nat) :
    (∀ (poller : Poller (Source τ × κ) τ) moves entries polling, poller.stats = .zero →
      poller.source.1.stats = .zero →
      Attended (.ofSource connection) Source.tended (.start poller interval maxPolls) moves entries
        polling →
        polling.poller.stats.polls = polling.poller.source.1.stats.polls ∧
        polling.poller.stats.resolutionFailures =
          polling.poller.source.1.stats.resolutionFailures ∧
        Agree 0 entries polling.poller.stats polling.poller.source.1.stats) ∧
      ∀ (poller : Poller (Lifecycle τ × κ) τ) moves entries polling plan, poller.stats = .zero →
        poller.source.1 = .pending plan →
        Attended (.ofLifecycle connection) Lifecycle.tended (.start poller interval maxPolls) moves
          entries polling →
          (∀ registry, .care (.setUp registry) ∈ moves → ∃ source,
            polling.poller.source.1 = .ready source ∧
              Agree (earlyPolls Care.setsUp moves) entries polling.poller.stats source.stats) ∧
          ((∀ registry, .care (.setUp registry) ∉ moves) →
            polling.poller.stats.polls = UInt64.ofNat (moves.countP Move.begins) ∧
              polling.poller.stats.resolutionFailures = polling.poller.stats.polls) := by
  refine ⟨?_, ?_⟩
  · intro poller moves entries polling unused fresh h
    have hfresh : Source.counters poller.source = if true then some .zero else none :=
      congrArg some fresh
    obtain ⟨-, hkeeps⟩ := h.keeps (MessageSource.counts_ofSource connection) rfl hfresh
    have hagree : Agree 0 entries polling.poller.stats polling.poller.source.1.stats :=
      Keeps.agree hkeeps (h.tallied rfl unused) (h.accords rfl)
    exact ⟨hagree.polls.trans (UInt64.add_zero _),
      hagree.resolutionFailures.trans (UInt64.add_zero _), hagree⟩
  · intro poller moves entries polling plan unused pending h
    have hfresh : Lifecycle.counters poller.source = if false then some .zero else none := by
      obtain ⟨⟨lifecycle, database⟩, output, errors, named, stats, nextId, now, notices⟩ := poller
      obtain rfl : lifecycle = .pending plan := pending
      rfl
    obtain ⟨hready, hkeeps⟩ := h.keeps (MessageSource.counts_ofLifecycle connection) rfl hfresh
    have htallied := h.tallied rfl unused
    refine ⟨?_, ?_⟩
    · intro registry hmem
      have hany := any_wakes_setsUp.2 ⟨registry, hmem⟩
      obtain ⟨⟨lifecycle, database⟩, hsource⟩ : ∃ state, polling.poller.source = state := ⟨_, rfl⟩
      rw [hsource] at hready hkeeps ⊢
      cases lifecycle with
      | pending plan =>
          rw [hany] at hready
          cases hready
      | ready source => exact ⟨source, rfl, hkeeps.agree htallied (h.accords rfl)⟩
    · intro hnever
      have hany : moves.any (Move.wakes Care.setsUp) = false := by
        rw [← Bool.not_eq_true, any_wakes_setsUp]
        rintro ⟨registry, hmem⟩
        exact hnever registry hmem
      obtain ⟨⟨lifecycle, database⟩, hsource⟩ : ∃ state, polling.poller.source = state := ⟨_, rfl⟩
      rw [hsource, hany] at hready
      rw [hsource] at hkeeps
      cases lifecycle with
      | ready source => cases hready
      | pending plan =>
          obtain ⟨hlength, hunresolved⟩ := hkeeps
          rw [htallied.polls, htallied.unresolved, hunresolved, ← hlength, h.length_entries rfl]
          exact ⟨rfl, rfl⟩

/-- A connection that answers at once, with one answer after the other. -/
def answersInTurn : Connection (List Database.Answer) where
  submit now _ _ answers := (some now, answers)
  answer _ _ answers := (answers.headD (.ok []), answers.tail)

/-- A poller whose source is not set up, and whose query is the value of a variable. -/
def unprepared : Poller (Lifecycle Json × List Database.Answer) Json :=
  ⟨(.pending ⟨.named "sql", RowMapper.json, false, []⟩, [.error .closed]), .empty 1, none, [], .zero, 0,
    0, []⟩

/-- Three polls: one before the source is set up, one before its query is there, and one that the
database refuses. -/
def prepared : List (Move (Care (List Database.Answer))) :=
  [.act .check, .act .tick, .act .work, .care (.setUp []), .act .check, .act .tick, .act .work,
    .care (.context (·.setVariable "sql" (.str "select 1"))), .act .check, .act .tick, .act .work,
    .act .work, .act .work]

theorem counters_agree_threePolls :
    ∃ entries polling source, unprepared.stats = .zero ∧
      Attended (.ofLifecycle answersInTurn) Lifecycle.tended (.start unprepared 0 none) prepared
        entries polling ∧
      .care (.setUp []) ∈ prepared ∧ polling.poller.source.1 = .ready source ∧
      polling.poller.stats = ⟨3, 2, 1, 0, 0⟩ ∧ source.stats = ⟨2, 1, 0, 0, 0⟩ ∧
      Agree 1 entries polling.poller.stats source.stats := by
  have hrun : (attend (.ofLifecycle answersInTurn) Lifecycle.tended (.start unprepared 0 none) []
      prepared).map (fun made =>
        (made.1.poller.stats, Lifecycle.counters made.1.poller.source)) =
      some (⟨3, 2, 1, 0, 0⟩, some ⟨2, 1, 0, 0, 0⟩) := by decide +kernel
  obtain ⟨⟨polling, entries⟩, hattend, hseen⟩ := Option.map_eq_some_iff.1 hrun
  obtain ⟨hstats, hcounters⟩ := Prod.mk.inj hseen
  have hattended := Attended.start.attend hattend
  have hset : .care (.setUp []) ∈ prepared := .tail _ (.tail _ (.tail _ (.head _)))
  obtain ⟨source, hsource, hagree⟩ :=
    ((counters_agree answersInTurn 0 none).2 unprepared _ _ _ _ rfl rfl hattended).1 [] hset
  obtain ⟨⟨lifecycle, database⟩, hstate⟩ : ∃ state, polling.poller.source = state := ⟨_, rfl⟩
  rw [hstate] at hcounters hsource
  obtain rfl : lifecycle = .ready source := hsource
  refine ⟨entries, polling, source, rfl, hattended, hset, ?_, hstats, Option.some.inj hcounters, hagree⟩
  rw [hstate]

end Polling

end QueryFeed
