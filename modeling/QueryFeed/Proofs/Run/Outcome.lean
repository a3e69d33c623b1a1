import QueryFeed.CommandLine.Basic
import QueryFeed.Proofs.Run.Ledger
import QueryFeed.Proofs.Run.Schedule

/-!
**How runs end.**

When a run has ended, the poller has stopped and every failure has been heard.  So the runner has
counted exactly the failures that the poller counted, it knows the first fatal one if there is any,
and what it says about the end of the run is true.

Main definitions:

* `Event.IsFinal` — after such an event nothing is written any more.

Main results:

* `Run.failures_eq_counted` — **no failure is lost or counted twice**;
* `Run.result_decided` — **writing and fatal failures alone decide how a run ends**;
* `Run.complete_of_poller` — **a run that ends with its poller is complete**;
* `Run.emitted_le_counted` — a run writes no more messages than its poller counts, unless the last poll
  was cut off.
-/

set_option autoImplicit false

namespace QueryFeed

variable {σ τ ω : Type}

/-- An event after which nothing is written any more: a write that failed, or a fatal failure that
the runner heard of. -/
def Event.IsFinal : Event τ → Prop
  | taken _ (some _) => True
  | heard .standard failure => failure.error.isFatal = true
  | _ => False

namespace Run

/-! ### From the beginning -/

section

variable {setup : RunSetup σ τ ω} {source : σ} {options : RunOptions} {firstId : Nat} {out : ω}
  {events : List (Event τ)} {run : Run σ τ ω}

theorem unused_start (source : σ) (options : RunOptions) (firstId : Nat) (out : ω) :
    ((start source options firstId out : Run σ τ ω).polling.poller).Unused where
  stats := rfl
  output := rfl
  errors route channel hfound := by
    cases route with
    | standard => cases hfound; rfl
    | named name => cases hfound

theorem wired_start (source : σ) (options : RunOptions) (firstId : Nat) (out : ω) :
    ((start source options firstId out : Run σ τ ω).polling.poller).Wired :=
  ⟨⟨_, rfl, rfl⟩, fun _ => rfl⟩

theorem Traced.balanced (h : Traced setup (Run.start source options firstId out) events run) :
    Polling.Balanced events run.polling :=
  h.polling.balanced (.start (unused_start source options firstId out) _ _)

theorem Traced.limited (h : Traced setup (Run.start source options firstId out) events run) :
    run.polling.Limited :=
  h.polling.limited (.start _ _ _)

theorem kept_start (source : σ) (options : RunOptions) (firstId : Nat) (out : ω) :
    Kept [] (start source options firstId out : Run σ τ ω) :=
  ⟨rfl, rfl, rfl, rfl⟩

theorem sound_start (source : σ) (options : RunOptions) (firstId : Nat) (out : ω) :
    Sound [] (start source options firstId out : Run σ τ ω) := by
  refine ⟨fun _ => ⟨rfl, rfl, rfl, rfl, ?_⟩, nofun, nofun⟩
  intro limit _
  exact Nat.lt_of_lt_of_le Nat.zero_lt_one (Nat.le_max_right limit 1)

theorem Traced.sound (h : Traced setup (Run.start source options firstId out) events run) :
    Sound events run := by
  induction h with
  | start => exact sound_start ..
  | step traced _ made ih => exact ih.make traced.balanced traced.limited made

theorem Traced.kept (h : Traced setup (Run.start source options firstId out) events run) :
    Kept events run := by
  induction h with
  | start => exact kept_start ..
  | step traced _ made ih => exact ih.make traced.sound made

/-! ### At the end -/

theorem result?_cases {result : Except FeedError RunSummary} (h : run.result? = some result) :
    ∃ ending, run.phase = .finished ending ∧
      ((∃ reason, run.writeError = some reason ∧ result = .error (.output reason)) ∨
        (∃ e, run.writeError = none ∧ run.fatal = some e ∧ result = .error e) ∨
        (run.writeError = none ∧ run.fatal = none ∧
          result = .ok ⟨ending, run.emitted, run.failures, run.poller.stats⟩)) := by
  unfold result? at h
  split at h
  · rename_i ending hphase
    refine ⟨ending, hphase, ?_⟩
    cases hwrite : run.writeError with
    | some reason =>
        rw [hwrite] at h
        exact Or.inl ⟨reason, rfl, (Option.some.inj h).symm⟩
    | none =>
        right
        rw [hwrite] at h
        cases hfatal : run.fatal with
        | some e =>
            rw [hfatal] at h
            exact Or.inl ⟨e, rfl, rfl, (Option.some.inj h).symm⟩
        | none =>
            rw [hfatal] at h
            exact Or.inr ⟨rfl, rfl, (Option.some.inj h).symm⟩
  · cases h

/-- A run that did not fail knows of no error. -/
theorem result?_ok {summary : RunSummary} (h : run.result? = some (.ok summary)) :
    run.phase = .finished summary.ending ∧ run.writeError = none ∧ run.fatal = none ∧
      summary = ⟨summary.ending, run.emitted, run.failures, run.poller.stats⟩ := by
  obtain ⟨ending, hphase, ⟨_, _, hresult⟩ | ⟨_, _, _, hresult⟩ | ⟨hwrite, hfatal, hresult⟩⟩ :=
    result?_cases h
  · cases hresult
  · cases hresult
  · cases hresult
    exact ⟨hphase, hwrite, hfatal, rfl⟩

/-- When a run has ended, every failure was reported to the runner, which heard of them in the order
of the polls. -/
theorem Traced.heard_of_finished
    (h : Traced setup (Run.start source options firstId out) events run) {ending : RunEnd}
    (finished : run.phase = .finished ending) :
    errorsHeard events = events.filterMap Event.failed? ∧
      (events.filterMap (Event.reported? .standard)).map Failure.error =
        events.filterMap Event.failed? := by
  obtain ⟨left, reason, -, -, hstopped, hwaiting⟩ := h.sound.finished ending finished
  have hwired : (Run.start source options firstId out : Run σ τ ω).polling.poller.Wired :=
    wired_start ..
  obtain ⟨channel, hfound, hopen⟩ := (h.polling.wired hwired).standard
  have hfailed : (events.filterMap (Event.reported? .standard)).map Failure.error =
      events.filterMap Event.failed? := by
    -- a poller that stopped owes no failure to a channel
    rw [h.balanced.owed, h.polling.delivered hwired, hstopped]
    cases reason <;> exact (List.append_nil _).symm
  -- nothing waits any more, and the channel was never closed
  have hqueue : channel.queue = [] := by
    have herrors : run.poller.errors = some channel := hfound
    rw [waitingFailures, herrors] at hwaiting
    exact hwaiting
  have hheard := (h.balanced.errors .standard channel hfound).whole hopen
  rw [hqueue, List.append_nil] at hheard
  refine ⟨?_, hfailed⟩
  rw [errorsHeard, hheard, hfailed]

/-! ### Failures -/

/-- When a run has ended without a fatal failure, the runner has counted every failure. -/
theorem Traced.failures_of_finished
    (h : Traced setup (Run.start source options firstId out) events run) {ending : RunEnd}
    (finished : run.phase = .finished ending) (harmless : run.fatal = none) :
    run.failures = (events.filterMap Event.failed?).length := by
  have hheard := (h.heard_of_finished finished).1
  have hnone := h.kept.fatal
  rw [harmless, hheard, eq_comm, List.find?_eq_none] at hnone
  have hcounted : ∀ e ∈ events.filterMap Event.failed?, (!e.isFatal) = true := by
    intro e he
    rw [Bool.not_eq_true', Bool.eq_false_iff]
    exact hnone e he
  calc run.failures = (errorsHeard events).countP fun e => !e.isFatal := h.kept.failures
    _ = (events.filterMap Event.failed?).countP fun e => !e.isFatal := by rw [hheard]
    _ = (events.filterMap Event.failed?).length := List.countP_eq_length.2 hcounted

/-- **No failure is lost or counted twice**: when a run has ended without an error, the runner has
heard of each failure once, in the order of the polls, and has counted as many as the poller. -/
theorem failures_eq_counted (h : Traced setup (Run.start source options firstId out) events run)
    {summary : RunSummary} (ended : run.result? = some (.ok summary)) :
    errorsHeard events = events.filterMap Event.failed? ∧
      summary.failures = (events.filterMap Event.failed?).length ∧
      UInt64.ofNat summary.failures =
        summary.stats.resolutionFailures + summary.stats.databaseFailures ∧
      (summary.failures < UInt64.size → summary.failures =
        summary.stats.resolutionFailures.toNat + summary.stats.databaseFailures.toNat) := by
  obtain ⟨hphase, -, hfatal, hsummary⟩ := result?_ok ended
  have hheard := (h.heard_of_finished hphase).1
  have hcount : summary.failures = (events.filterMap Event.failed?).length := by
    rw [hsummary]
    exact h.failures_of_finished hphase hfatal
  obtain ⟨unresolved, refused, hsum, hres, hdb⟩ := h.balanced.failures
  have hresolution : summary.stats.resolutionFailures = UInt64.ofNat unresolved := by
    rw [hsummary]
    exact hres
  have hdatabase : summary.stats.databaseFailures = UInt64.ofNat refused := by
    rw [hsummary]
    exact hdb
  refine ⟨hheard, hcount, ?_, ?_⟩
  · rw [hresolution, hdatabase, ← UInt64.ofNat_add, hsum, hcount]
  · -- neither counter has wrapped around
    intro hbound
    have hunresolved : unresolved < UInt64.size := by omega
    have hrefused : refused < UInt64.size := by omega
    rw [hresolution, hdatabase, UInt64.toNat_ofNat_of_lt' hunresolved,
      UInt64.toNat_ofNat_of_lt' hrefused, hsum, hcount]

/-- A poll without a query, one that fails after a row, and one without rows, whose messages name a
channel that is not there. -/
def threePolls : Script :=
  [.error (.expression (.unknownVariable "since")),
    .ok (.stream [.ok (.int 1), .error (.query "canceled" none)]), .ok (.single (.ok none))]

theorem failures_eq_counted_threePolls :
    ∃ events, Traced (.onPage [(errorChannel, "elsewhere")] none)
        (Run.start threePolls ⟨1, some 3, none⟩ 0 .blank) events
        (played (.onPage [(errorChannel, "elsewhere")] none) threePolls ⟨1, some 3, none⟩) ∧
      errorsHeard events = events.filterMap Event.failed? ∧
      2 = (events.filterMap Event.failed?).length ∧ UInt64.ofNat 2 = 1 + 1 ∧
      (2 < UInt64.size → 2 = UInt64.toNat 1 + UInt64.toNat 1) := by
  obtain ⟨events, htraced⟩ := traced_played (.onPage [(errorChannel, "elsewhere")] none) threePolls
    ⟨1, some 3, none⟩
  have hended : (played (.onPage [(errorChannel, "elsewhere")] none) threePolls
      ⟨1, some 3, none⟩).result? = some (.ok ⟨.poller .maxPolls, 1, 2, ⟨3, 1, 1, 1, 1⟩⟩) := rfl
  exact ⟨events, htraced, failures_eq_counted htraced hended⟩

/-! ### Errors -/

/-- The write error that the runner keeps is the problem with some message. -/
theorem Kept.writeError_eq_some {events : List (Event τ)} {run : Run σ τ ω} (h : Kept events run)
    {reason : String} :
    run.writeError = some reason ↔ ∃ message, Event.taken message (some reason) ∈ events := by
  rw [← Option.mem_toList, ← h.writeError, List.mem_filterMap]
  constructor
  · rintro ⟨⟨message, problem⟩, hmem, hproblem⟩
    obtain ⟨event, hevent, htaken⟩ := List.mem_filterMap.1 hmem
    cases event with
    | taken second other =>
        cases htaken
        cases hproblem
        exact ⟨message, hevent⟩
    | _ => cases htaken
  · rintro ⟨message, hmem⟩
    exact ⟨(message, some reason), List.mem_filterMap.2 ⟨_, hmem, rfl⟩, rfl⟩

theorem Kept.writeError_eq_none {events : List (Event τ)} {run : Run σ τ ω} (h : Kept events run) :
    run.writeError = none ↔ ∀ message reason, Event.taken message (some reason) ∉ events := by
  rw [Option.eq_none_iff_forall_ne_some]
  constructor
  · intro hnone message reason hmem
    exact hnone reason (h.writeError_eq_some.2 ⟨message, hmem⟩)
  · intro hnone reason hsome
    obtain ⟨message, hmem⟩ := h.writeError_eq_some.1 hsome
    exact hnone message reason hmem

/-- While the runner knows of no error, nothing final has happened. -/
theorem Kept.not_isFinal {events : List (Event τ)} {run : Run σ τ ω} (h : Kept events run)
    (spotless : run.writeError = none) (harmless : run.fatal = none) {event : Event τ}
    (mem : event ∈ events) : ¬event.IsFinal := by
  match event with
  | .taken message (some reason) =>
      exact absurd mem (h.writeError_eq_none.1 spotless message reason)
  | .heard .standard failure =>
      have hfatal := h.fatal
      rw [harmless, eq_comm, List.find?_eq_none] at hfatal
      have hheard : failure ∈ events.filterMap (Event.heard? .standard) :=
        List.mem_filterMap.2 ⟨_, mem, rfl⟩
      exact hfatal _ (List.mem_map.2 ⟨failure, hheard, rfl⟩)
  | .heard (.named _) _ | .taken _ none | .began | .failed _ | .reported _ _ | .logged _ |
    .sent _ => exact id

/-- **Nothing is written after a write that failed or a fatal failure.** -/
theorem Traced.pairwise (h : Traced setup (Run.start source options firstId out) events run) :
    events.Pairwise fun earlier later => earlier.IsFinal → later.taken? = none := by
  induction h with
  | start => exact List.Pairwise.nil
  | @step events run next traced move made ih =>
      rw [List.pairwise_append]
      by_cases hmove : move = .takeMessage
      · -- the runner is in its loop, so nothing final has happened yet
        subst hmove
        obtain ⟨hphase, message, rest, _, problem, out, hqueue, -, hput, -⟩ :=
          takeMessage_cases made
        have hlooping := traced.sound.looping hphase
        rw [happenings_takeMessage hqueue hput]
        refine ⟨ih, List.pairwise_singleton _ _, ?_⟩
        intro earlier hearlier _ _ hfinal
        exact absurd hfinal
          (traced.kept.not_isFinal hlooping.writeError hlooping.fatal hearlier)
      · have hnothing := ((make_frame made).2 hmove).1
        rw [List.filterMap_eq_nil_iff] at hnothing
        refine ⟨ih, List.pairwise_of_forall_mem_list ?_, ?_⟩
        · intro _ _ later hlater _
          exact hnothing later hlater
        · intro _ _ later hlater _
          exact hnothing later hlater

/-- The program succeeds after a run that counted no failure, and after no other. -/
theorem code_ofRun (printed : String) (result : Except FeedError RunSummary) :
    (CommandLine.Outcome.ofRun printed result).code = 0 ↔
      ∃ summary, result = .ok summary ∧ summary.failures = 0 := by
  cases result with
  | error e => exact ⟨nofun, nofun⟩
  | ok summary =>
      unfold CommandLine.Outcome.ofRun
      by_cases hzero : summary.failures = 0
      · simp only [hzero, if_true]
        exact ⟨fun _ => ⟨summary, rfl, hzero⟩, fun _ => rfl⟩
      · simp only [hzero, if_false]
        refine ⟨nofun, ?_⟩
        rintro ⟨other, hother, hnone⟩
        cases hother
        exact absurd hnone hzero

/-- Only the last message that is taken can have been a problem. -/
theorem Traced.pairwise_taken (h : Traced setup (Run.start source options firstId out) events run) :
    (events.filterMap Event.taken?).Pairwise fun earlier _ => earlier.2 = none := by
  rw [List.pairwise_filterMap]
  refine h.pairwise.imp ?_
  intro earlier later hnothing entry hentry other hother
  cases earlier with
  | taken message problem =>
      cases problem with
      | none =>
          cases hentry
          rfl
      | some reason =>
          rw [hnothing trivial] at hother
          cases hother
  | _ => cases hentry

/-- Where a write failed, it is that of the last message that was taken. -/
theorem Traced.taken_of_writeError
    (h : Traced setup (Run.start source options firstId out) events run) {reason : String}
    (failed : run.writeError = some reason) : ∃ (written : List (Message τ)) (message : Message τ),
      events.filterMap Event.taken? = written.map (fun message => (message, none)) ++
        [(message, some reason)] := by
  have hproblems := h.kept.writeError
  have hlast := h.pairwise_taken
  rw [failed, Option.toList_some] at hproblems
  generalize events.filterMap Event.taken? = taken at hproblems hlast
  rcases List.eq_nil_or_concat' taken with rfl | ⟨written, ⟨message, problem⟩, rfl⟩
  · cases hproblems
  · have hspotless : ∀ entry ∈ written, entry.2 = none := by
      intro entry hmem
      exact (List.pairwise_append.1 hlast).2.2 entry hmem (message, problem) (List.mem_singleton_self _)
    have hnone : written.filterMap Prod.snd = [] := List.filterMap_eq_nil_iff.2 hspotless
    rw [List.filterMap_append, hnone, List.nil_append] at hproblems
    refine ⟨written.map Prod.fst, message, ?_⟩
    rw [map_spotless hspotless]
    cases problem with
    | none => cases hproblems
    | some other =>
        cases hproblems
        rfl

/-- **A run knows of a write error just if the last write failed**, after others that did not. -/
theorem Traced.writeError_eq_some_iff
    (h : Traced setup (Run.start source options firstId out) events run) {reason : String} :
    run.writeError = some reason ↔ ∃ (written : List (Message τ)) (message : Message τ) (middle : ω),
      events.filterMap Event.taken? = written.map (fun message => (message, none)) ++
        [(message, some reason)] ∧
      setup.Writes out (written.map fun message => (message, none)) middle ∧
      setup.Puts message middle (some reason) run.out := by
  constructor
  · intro hfailed
    obtain ⟨written, message, htaken⟩ := h.taken_of_writeError hfailed
    have hwrites := h.writes
    rw [htaken] at hwrites
    obtain ⟨middle, hwritten, hlast⟩ := hwrites.of_append
    cases hlast with
    | cons put more =>
        cases more
        exact ⟨written, message, middle, htaken, hwritten, put⟩
  · rintro ⟨written, message, middle, htaken, -, -⟩
    have hproblems := h.kept.writeError
    rw [htaken, List.filterMap_append, List.filterMap_map] at hproblems
    have hnone : written.filterMap (Prod.snd ∘ fun message => (message, (none : Option String))) = [] :=
      List.filterMap_eq_nil_iff.2 fun _ _ => rfl
    rw [hnone, List.nil_append] at hproblems
    exact Option.toList_eq_singleton_iff.1 hproblems.symm

/-- A run that knows of no write error has written every message that it took. -/
theorem Traced.writes_of_spotless
    (h : Traced setup (Run.start source options firstId out) events run)
    (spotless : run.writeError = none) : ∃ written : List (Message τ),
      events.filterMap Event.taken? = written.map (fun message => (message, none)) ∧
      setup.Writes out (written.map fun message => (message, none)) run.out := by
  have hwrites := h.writes
  rw [← h.kept.map_taken spotless] at hwrites ⊢
  exact ⟨_, rfl, hwrites⟩

/-- **Writing and fatal failures alone decide how a run ends.**  A run fails with a write error if
writing some message failed, be it at the writer, at the flush or at the payload; or else with the first
fatal failure, in the order in which the poller reported them, if there is one; and otherwise it
succeeds.  After the first of these nothing is written any more.  The program succeeds if no write and
no poll failed. -/
theorem result_decided (h : Traced setup (Run.start source options firstId out) events run)
    {result : Except FeedError RunSummary} (ended : run.result? = some result) (printed : String) :
    (∀ reason, result = .error (.output reason) ↔
      ∃ (written : List (Message τ)) (message : Message τ) (middle : ω),
        events.filterMap Event.taken? = written.map (fun message => (message, none)) ++
          [(message, some reason)] ∧
        setup.Writes out (written.map fun message => (message, none)) middle ∧
        setup.Puts message middle (some reason) run.out) ∧
      (∀ reason, result = .error (.output reason) ↔
        ∃ message, Event.taken message (some reason) ∈ events) ∧
      ((∀ message reason, Event.taken message (some reason) ∉ events) →
        (∃ written : List (Message τ),
          events.filterMap Event.taken? = written.map (fun message => (message, none)) ∧
          setup.Writes out (written.map fun message => (message, none)) run.out) ∧
        (∀ e, result = .error e ↔ ((events.filterMap (Event.reported? .standard)).map
            Failure.error).find? FeedError.isFatal = some e) ∧
          ((∃ summary, result = .ok summary) ↔
            ∀ failure ∈ events.filterMap (Event.reported? .standard),
              failure.error.isFatal = false)) ∧
      (events.Pairwise fun earlier later => earlier.IsFinal → later.taken? = none) ∧
      ((CommandLine.Outcome.ofRun printed result).code = 0 ↔
        (∀ message reason, Event.taken message (some reason) ∉ events) ∧
          events.filterMap Event.failed? = []) := by
  obtain ⟨ending, hphase, hcases⟩ := result?_cases ended
  obtain ⟨hheard, hreported⟩ := h.heard_of_finished hphase
  have hwritten := h.kept.writeError_eq_none
  have hfind := h.kept.fatal
  rw [hheard, ← hreported] at hfind
  simp only [← h.kept.writeError_eq_some, ← h.writeError_eq_some_iff, ← hwritten, ← hfind, code_ofRun]
  have hharmless : run.fatal = none ↔ ∀ failure ∈ events.filterMap (Event.reported? .standard),
      failure.error.isFatal = false := by
    rw [hfind, List.find?_eq_none, List.forall_mem_map]
    simp only [Bool.not_eq_true]
  rw [← hharmless]
  rcases hcases with ⟨reason, hwrite, rfl⟩ | ⟨e, hwrite, hfatal, rfl⟩ | ⟨hwrite, hfatal, rfl⟩
  · -- a write failed
    have hreason : ∀ other, (Except.error (.output reason) : Except FeedError RunSummary) =
        .error (.output other) ↔ run.writeError = some other := by
      intro other
      rw [hwrite, Except.error.injEq, FeedError.output.injEq, Option.some_inj]
    refine ⟨hreason, hreason, ?_, h.pairwise, ?_⟩
    · rw [hwrite]
      exact nofun
    · rw [hwrite]
      exact ⟨nofun, nofun⟩
  · -- no write failed, but a failure was fatal
    have hisFatal : e.isFatal = true := by
      rw [hfatal, eq_comm] at hfind
      exact List.find?_some hfind
    have hnever : ∀ reason, (Except.error e : Except FeedError RunSummary) =
        .error (.output reason) ↔ run.writeError = some reason := by
      intro reason
      rw [hwrite]
      refine ⟨?_, nofun⟩
      rintro ⟨⟩
      cases hisFatal
    refine ⟨hnever, hnever, fun _ => ⟨h.writes_of_spotless hwrite, ?_, ?_⟩, h.pairwise, ?_⟩
    · intro other
      rw [hfatal, Except.error.injEq, Option.some_inj]
    · rw [hfatal]
      exact ⟨nofun, nofun⟩
    · refine ⟨nofun, ?_⟩
      rintro ⟨-, hnone⟩
      rw [hreported, hnone, hfatal] at hfind
      cases hfind
  · -- neither
    have hnever : ∀ reason, (Except.ok ⟨ending, run.emitted, run.failures, run.poller.stats⟩ :
        Except FeedError RunSummary) = .error (.output reason) ↔ run.writeError = some reason := by
      intro reason
      rw [hwrite]
      exact ⟨nofun, nofun⟩
    refine ⟨hnever, hnever, fun _ => ⟨h.writes_of_spotless hwrite, ?_, ?_⟩, h.pairwise, ?_⟩
    · intro other
      rw [hfatal]
      exact ⟨nofun, nofun⟩
    · exact ⟨fun _ => hfatal, fun _ => ⟨_, rfl⟩⟩
    · rw [← List.length_eq_zero_iff, ← h.failures_of_finished hphase hfatal]
      constructor
      · rintro ⟨summary, hsummary, hzero⟩
        cases hsummary
        exact ⟨hwrite, hzero⟩
      · rintro ⟨-, hzero⟩
        exact ⟨_, rfl, hzero⟩

/-- Two rows that are written, and then a poll that the setup is to blame for. -/
def misconfigured : Script :=
  [.ok (.stream [.ok (.int 1), .ok (.int 2)]), .error (.queryType .null), .error .uninitialized]

/-- The surroundings of a run whose second flush fails. -/
def torn : RunSetup Script Json Page :=
  { RunSetup.onPage [] none with writer := Page.writer none (some 2) }

/-- With room for everything the fatal failure is told.  With room for one line the second write fails, and
with a bad flush the second flush does, and neither leaves anything of the fatal failure to be told. -/
theorem result_decided_misconfigured :
    (∃ events, Traced (.onPage [] none) (Run.start misconfigured ⟨1, some 3, none⟩ 0 .blank) events
        (played (.onPage [] none) misconfigured ⟨1, some 3, none⟩) ∧
      (∀ message reason, Event.taken message (some reason) ∉ events) ∧
      ((events.filterMap (Event.reported? .standard)).map Failure.error).find? FeedError.isFatal =
        some (.queryType .null) ∧
      (events.Pairwise fun earlier later => earlier.IsFinal → later.taken? = none) ∧
      events.filterMap Event.failed? ≠ []) ∧
    (∃ (written : List (Message Json)) (message : Message Json) (middle : Page),
      RunSetup.Writes (.onPage [] (some 1)) .blank (written.map fun message => (message, none)) middle ∧
      RunSetup.Puts (.onPage [] (some 1)) message middle (some "disk full")
        (played (.onPage [] (some 1)) misconfigured ⟨1, some 3, none⟩).out) ∧
    ∃ (written : List (Message Json)) (message : Message Json) (middle : Page),
      torn.Writes .blank (written.map fun message => (message, none)) middle ∧
      torn.Puts message middle (some "flush failed")
        (played torn misconfigured ⟨1, some 3, none⟩).out := by
  refine ⟨?_, ?_, ?_⟩
  · obtain ⟨events, htraced⟩ := traced_played (.onPage [] none) misconfigured ⟨1, some 3, none⟩
    have hended : (played (.onPage [] none) misconfigured ⟨1, some 3, none⟩).result? =
        some (.error (.queryType .null)) := rfl
    obtain ⟨-, hwrite, hfatal, hpairwise, hcode⟩ := result_decided htraced hended ""
    have hwritten : ∀ message reason, Event.taken message (some reason) ∉ events := by
      intro message reason hmem
      cases (hwrite reason).2 ⟨message, hmem⟩
    refine ⟨events, htraced, hwritten, ((hfatal hwritten).2.1 _).1 rfl, hpairwise, ?_⟩
    intro hnone
    cases hcode.2 ⟨hwritten, hnone⟩
  · obtain ⟨events, htraced⟩ := traced_played (.onPage [] (some 1)) misconfigured ⟨1, some 3, none⟩
    have hended : (played (.onPage [] (some 1)) misconfigured ⟨1, some 3, none⟩).result? =
        some (.error (.output "disk full")) := rfl
    obtain ⟨written, message, middle, -, hwritten, hput⟩ :=
      ((result_decided htraced hended "").1 "disk full").1 rfl
    exact ⟨written, message, middle, hwritten, hput⟩
  · obtain ⟨events, htraced⟩ := traced_played torn misconfigured ⟨1, some 3, none⟩
    have hended : (played torn misconfigured ⟨1, some 3, none⟩).result? =
        some (.error (.output "flush failed")) := rfl
    obtain ⟨written, message, middle, -, hwritten, hput⟩ :=
      ((result_decided htraced hended "").1 "flush failed").1 rfl
    exact ⟨written, message, middle, hwritten, hput⟩

/-! ### Complete runs -/

/-- Why the runner left its loop, told from the end of the run. -/
theorem Traced.leftFor_poller (h : Traced setup (Run.start source options firstId out) events run)
    {reason : StopReason} (finished : run.phase = .finished (.poller reason)) :
    run.LeftFor events none ∧ run.polling.phase = .stopped reason := by
  obtain ⟨left, stop, hending, hleft, hstopped, -⟩ := h.sound.finished _ finished
  match left with
  | none =>
      cases hending
      exact ⟨hleft, hstopped⟩
  | some (.poller _) => exact hleft.elim
  | some .messageLimit => cases hending
  | some .interrupted => cases hending

/-- **A run that ends with its poller is complete**: the poller made all the polls that it was
allowed, and every message that they sent is written, in the order in which it was sent. -/
theorem complete_of_poller (h : Traced setup (Run.start source options firstId out) events run)
    {summary : RunSummary} (ended : run.result? = some (.ok summary)) {reason : StopReason}
    (ending : summary.ending = .poller reason) :
    reason = .maxPolls ∧ ∃ polls, options.maxPolls = some polls ∧
      events.countP Event.isBegan = polls ∧
      summary.stats.polls = UInt64.ofNat polls ∧
      summary.stats.messages = UInt64.ofNat summary.emitted ∧
      summary.emitted = (events.filterMap Event.sent?).length ∧
      events.filterMap Event.taken? =
        (events.filterMap Event.sent?).map (fun message => (message, none)) ∧
      setup.Writes out ((events.filterMap Event.sent?).map fun message => (message, none)) run.out := by
  obtain ⟨hphase, hwrite, hfatal, hsummary⟩ := result?_ok ended
  rw [ending] at hphase
  obtain ⟨⟨-, hcomplete⟩, hstopped⟩ := h.leftFor_poller hphase
  obtain ⟨hlimit, hall⟩ := hcomplete hwrite hfatal
  have hreason : reason = .maxPolls := by
    rw [hstopped] at hlimit
    cases hlimit
    rfl
  have hpolls : options.maxPolls = some run.polling.polls :=
    h.polling.maxPolls.symm.trans (h.limited.reached hlimit)
  have hmessages : run.poller.stats.messages =
      UInt64.ofNat (events.filterMap Event.sent?).length := by
    -- between polls no message is left uncounted
    have hsettled := h.balanced.messages (by rw [hlimit]; rfl)
    rw [hlimit] at hsettled
    exact (UInt64.add_zero _).symm.trans hsettled
  have htaken : events.filterMap Event.taken? =
      (events.filterMap Event.sent?).map (fun message => (message, none)) := by
    rw [← hall, h.kept.map_taken hwrite]
  have hemitted : run.emitted = (events.filterMap Event.sent?).length := by
    rw [← hall, List.length_map]
    exact h.kept.emitted_of_spotless hwrite
  refine ⟨hreason, run.polling.polls, hpolls, h.balanced.began.symm, ?_, ?_, ?_, htaken, ?_⟩
  · rw [hsummary]
    exact h.balanced.polls
  · rw [hsummary, ← hmessages.trans (congrArg UInt64.ofNat hemitted.symm)]
  · rw [hsummary, hemitted]
  · rw [← htaken]
    exact h.writes

theorem complete_of_poller_threePolls :
    ∃ events, Traced (.onPage [] none) (Run.start threePolls ⟨1, some 3, none⟩ 0 .blank) events
        (played (.onPage [] none) threePolls ⟨1, some 3, none⟩) ∧
      events.countP Event.isBegan = 3 ∧ (events.filterMap Event.sent?).length = 1 ∧
      RunSetup.Writes (.onPage [] none) .blank
        ((events.filterMap Event.sent?).map fun message => (message, none))
        (played (.onPage [] none) threePolls ⟨1, some 3, none⟩).out := by
  obtain ⟨events, htraced⟩ := traced_played (.onPage [] none) threePolls ⟨1, some 3, none⟩
  have hended : (played (.onPage [] none) threePolls ⟨1, some 3, none⟩).result? =
      some (.ok ⟨.poller .maxPolls, 1, 2, ⟨3, 1, 1, 1, 1⟩⟩) := rfl
  obtain ⟨-, polls, hlimit, hbegan, -, -, hemitted, -, hout⟩ :=
    complete_of_poller htraced hended rfl
  cases hlimit
  exact ⟨events, htraced, hbegan, hemitted.symm, hout⟩

/-! ### Counted messages -/

/-- **A run writes no more messages than its poller counts**, unless the last poll was cut off. -/
theorem emitted_le_counted (h : Traced setup (Run.start source options firstId out) events run)
    {summary : RunSummary} (ended : run.result? = some (.ok summary))
    (whole : run.polling.phase ≠ .stopped .outputClosed)
    (few : (events.filterMap Event.sent?).length < UInt64.size) :
    summary.emitted ≤ summary.stats.messages.toNat := by
  obtain ⟨hphase, hwrite, -, hsummary⟩ := result?_ok ended
  obtain ⟨_, reason, -, -, hstopped, -⟩ := h.sound.finished _ hphase
  have hcurrent : run.polling.phase.current = .finished true := by
    rw [hstopped] at whole ⊢
    cases reason with
    | outputClosed => exact absurd rfl whole
    | shutdown | maxPolls => rfl
  have hmessages : run.poller.stats.messages =
      UInt64.ofNat (events.filterMap Event.sent?).length := by
    have hsettled := h.balanced.messages (by rw [hcurrent]; rfl)
    rw [hcurrent] at hsettled
    exact (UInt64.add_zero _).symm.trans hsettled
  have htaken := ((List.prefix_append _ _).trans h.balanced.output.early).length_le
  rw [List.length_map] at htaken
  rw [hsummary, hmessages, UInt64.toNat_ofNat_of_lt' few]
  exact Nat.le_trans (Nat.le_of_eq (h.kept.emitted_of_spotless hwrite)) htaken

/-- A run that leaves while rows are left counts none of the messages of its last poll, not even the
one that it wrote. -/
theorem exists_uncounted :
    ∃ run, Reaches (.onPage [] none) (Run.start [.ok (.stream [.ok (.int 1), .ok (.int 2)])]
        ⟨1, none, some 1⟩ 0 .blank) run ∧
      run.result? = some (.ok ⟨.messageLimit, 1, 0, ⟨1, 0, 0, 0, 0⟩⟩) :=
  ⟨_, (Reaches.start.round 5).round 5, rfl⟩

end

end Run

end QueryFeed
