import QueryFeed.Proofs.Poller.Acts
import QueryFeed.Proofs.Poller.Advance
import Mathlib.Data.List.ModifyLast

/-!
**A diary of polls.**

A history tells the events of all polls one after the other.  A diary has one entry for each poll: what
the source handed out, the answer to its payload, and the events of this poll alone.

Main definitions:

* `Delivery.rows`, `Delivery.error?` — the rows of a delivery before its first error, and that error;
* `PollEntry`, `PollEntry.opening`, `PollEntry.noted` — what is known of one poll;
* `Polling.Documented` — the histories of a poller with their diaries.

Main results:

* `Polling.Documented.invariant` — **what the beginning and every step of a poll keep holds of every
  diary**;
* `Polling.Documented.filterMap_events` — **a diary tells the same events as the history**.
-/

set_option autoImplicit false

namespace QueryFeed

variable {σ τ : Type}

/-! ### Rows and errors of a delivery -/

namespace Database

/-- The rows before the first error. -/
def leadingRows : List (Except Error τ) → List τ
  | .ok value :: rest => value :: leadingRows rest
  | _ => []

/-- The first error. -/
def firstError? : List (Except Error τ) → Option Error
  | [] => none
  | .error e :: _ => some e
  | .ok _ :: rest => firstError? rest

theorem leadingRows_append (rows : List τ) (items : List (Except Error τ)) :
    leadingRows (rows.map .ok ++ items) = rows ++ leadingRows items := by
  induction rows with
  | nil => rfl
  | cons value rest ih => exact congrArg (value :: ·) ih

theorem firstError?_append (rows : List τ) (items : List (Except Error τ)) :
    firstError? (rows.map .ok ++ items) = firstError? items := by
  induction rows with
  | nil => rfl
  | cons value rest ih => exact ih

end Database

namespace Delivery

/-- The rows before the first error. -/
def rows : Delivery τ → List τ
  | .single (.ok value?) => value?.toList
  | .single (.error _) => []
  | .stream items => Database.leadingRows items

/-- The first error. -/
def error? : Delivery τ → Option Database.Error
  | .single (.ok _) => none
  | .single (.error e) => some e
  | .stream items => Database.firstError? items

end Delivery

/-! ### Entries -/

/-- The failure that a channel took, whichever channel it was. -/
@[simp] def Event.report? : Event τ → Option Failure
  | reported _ failure => some failure
  | _ => none

namespace Poller

/-- A poll that fails sends nothing and has reported nothing yet. -/
theorem failing_silent (poller : Poller σ τ) (e : FeedError) (failed : Option Headers) :
    (poller.failing e failed : List (Event τ)).filterMap Event.sent? = [] ∧
      (poller.failing e failed : List (Event τ)).filterMap Event.report? = [] := by
  unfold failing
  split <;> exact ⟨rfl, rfl⟩

/-- A poll that begins has neither sent nor reported anything. -/
theorem beginning_silent (poller : Poller σ τ) (origin : MessageSource σ τ) :
    (poller.beginning origin).filterMap Event.sent? = [] ∧
      (poller.beginning origin).filterMap Event.report? = [] := by
  unfold beginning
  split
  · exact poller.failing_silent _ none
  · exact ⟨rfl, rfl⟩

end Poller

/-- What is known of one poll. -/
structure PollEntry (τ : Type) where
  /-- What the source handed out. -/
  received : Except FeedError (Message (Payload τ))
  /-- The answer to the payload, once it has come. -/
  delivery : Option (Delivery τ)
  /-- The events of the poll. -/
  events : List (Event τ)

namespace PollEntry

/-- The messages that the output took. -/
def sent (entry : PollEntry τ) : List (Message τ) := entry.events.filterMap Event.sent?

/-- The errors for which the poll failed. -/
def failed (entry : PollEntry τ) : List FeedError := entry.events.filterMap Event.failed?

/-- The failures that a channel took. -/
def reports (entry : PollEntry τ) : List Failure := entry.events.filterMap Event.report?

/-- The errors of the poll that arrived on a channel or with the operator. -/
def arrived (entry : PollEntry τ) : List FeedError := entry.events.filterMap Event.delivered?

/-- The rows that the poll has to send. -/
def rows (entry : PollEntry τ) : List τ := (entry.delivery.map Delivery.rows).getD []

/-- The error for which the poll has to fail. -/
def error? (entry : PollEntry τ) : Option FeedError :=
  match entry.received with
  | .error e => some e
  | .ok _ => (entry.delivery.bind Delivery.error?).map .database

/-- The entry of a poll that begins. -/
def opening (origin : MessageSource σ τ) (poller : Poller σ τ) : PollEntry τ :=
  ⟨(origin.receive poller.stamp poller.source).result, none, poller.beginning origin⟩

/-- The entry after a step of its poll. -/
def noted (entry : PollEntry τ) (answer : Option (Delivery τ)) (events : List (Event τ)) :
    PollEntry τ :=
  ⟨entry.received, answer.or entry.delivery, entry.events ++ events⟩

@[simp] theorem sent_noted (entry : PollEntry τ) (answer : Option (Delivery τ))
    (events : List (Event τ)) :
    (entry.noted answer events).sent = entry.sent ++ events.filterMap Event.sent? :=
  List.filterMap_append

@[simp] theorem failed_noted (entry : PollEntry τ) (answer : Option (Delivery τ))
    (events : List (Event τ)) :
    (entry.noted answer events).failed = entry.failed ++ events.filterMap Event.failed? :=
  List.filterMap_append

@[simp] theorem reports_noted (entry : PollEntry τ) (answer : Option (Delivery τ))
    (events : List (Event τ)) :
    (entry.noted answer events).reports = entry.reports ++ events.filterMap Event.report? :=
  List.filterMap_append

theorem arrived_noted (entry : PollEntry τ) (answer : Option (Delivery τ))
    (events : List (Event τ)) :
    (entry.noted answer events).arrived = entry.arrived ++ events.filterMap Event.delivered? :=
  List.filterMap_append

/-- What arrived is in a report, or the operator was told of it. -/
theorem mem_arrived {entry : PollEntry τ} {e : FeedError} (h : e ∈ entry.arrived) :
    (∃ report ∈ entry.reports, report.error = e) ∨ Event.logged e ∈ entry.events := by
  obtain ⟨event, hevent, hdelivered⟩ := List.mem_filterMap.1 h
  cases event with
  | reported route failure =>
      cases hdelivered
      exact Or.inl ⟨failure, List.mem_filterMap.2 ⟨_, hevent, rfl⟩, rfl⟩
  | logged other =>
      cases hdelivered
      exact Or.inr hevent
  | began | failed | sent | taken | heard => cases hdelivered

theorem sent_noted_of_nil {entry : PollEntry τ} {answer : Option (Delivery τ)}
    {events : List (Event τ)} (h : events.filterMap Event.sent? = []) :
    (entry.noted answer events).sent = entry.sent := by
  rw [sent_noted, h, List.append_nil]

theorem failed_noted_of_nil {entry : PollEntry τ} {answer : Option (Delivery τ)}
    {events : List (Event τ)} (h : events.filterMap Event.failed? = []) :
    (entry.noted answer events).failed = entry.failed := by
  rw [failed_noted, h, List.append_nil]

theorem reports_noted_of_nil {entry : PollEntry τ} {answer : Option (Delivery τ)}
    {events : List (Event τ)} (h : events.filterMap Event.report? = []) :
    (entry.noted answer events).reports = entry.reports := by
  rw [reports_noted, h, List.append_nil]

/-- A step that nobody notices leaves the entry as it is. -/
@[simp] theorem noted_nothing (entry : PollEntry τ) : entry.noted none [] = entry := by
  unfold noted
  rw [List.append_nil, Option.none_or]

/-- What the rows and the error of a poll are once its answer has come. -/
theorem rows_of_delivery {entry : PollEntry τ} {delivery : Delivery τ}
    (h : entry.delivery = some delivery) : entry.rows = delivery.rows := by
  rw [rows, h]
  rfl

theorem error?_of_delivery {entry : PollEntry τ} {message : Message (Payload τ)}
    {delivery : Delivery τ} (received : entry.received = .ok message)
    (h : entry.delivery = some delivery) : entry.error? = delivery.error?.map .database := by
  rw [error?, received, h]
  rfl

end PollEntry

/-! ### Diaries -/

namespace Polling

/-- The diary after an act. -/
def document (origin : MessageSource σ τ) (polling : Polling σ τ) (entries : List (PollEntry τ)) :
    Act → List (PollEntry τ)
  | .tick => entries ++ [.opening origin polling.poller]
  | .work =>
      match polling.phase with
      | .polling poll =>
          entries.modifyLast
            (·.noted (poll.answer? origin polling.poller) (poll.events origin polling.poller))
      | _ => entries
  | _ => entries

/-- The histories of a poller with their diaries. -/
inductive Documented (origin : MessageSource σ τ) (allowed : Act → Prop) (first : Polling σ τ) :
    List (Event τ) → List (PollEntry τ) → Polling σ τ → Prop where
  | start : Documented origin allowed first [] [] first
  | step {events : List (Event τ)} {entries : List (PollEntry τ)} {polling next : Polling σ τ}
      (documented : Documented origin allowed first events entries polling) (act : Act)
      (allows : allowed act) (h : polling.perform origin act = some next) :
      Documented origin allowed first (events ++ polling.happenings origin act)
        (polling.document origin entries act) next

section

variable {origin : MessageSource σ τ} {allowed : Act → Prop} {first polling next : Polling σ τ}
  {events : List (Event τ)} {entries : List (PollEntry τ)}

theorem Documented.traced (h : Documented origin allowed first events entries polling) :
    Traced origin allowed first events polling := by
  induction h with
  | start => exact .start
  | step _ act allows made ih => exact ih.step act allows made

/-- Every history has a diary. -/
theorem Traced.documented (h : Traced origin allowed first events polling) :
    ∃ entries, Documented origin allowed first events entries polling := by
  induction h with
  | start => exact ⟨[], .start⟩
  | step _ act allows made ih =>
      obtain ⟨entries, hdocumented⟩ := ih
      exact ⟨_, hdocumented.step act allows made⟩

/-- Apart from beginning a poll and working on it, nothing changes the current poll or what the
poller keeps to itself. -/
theorem perform_frame {act : Act} (h : polling.perform origin act = some next)
    (tick : act ≠ .tick) (work : act ≠ .work) :
    (∀ poll, next.phase = .polling poll → polling.phase = .polling poll) ∧
      next.phase.current = polling.phase.current ∧ next.polls = polling.polls ∧
      next.poller.source = polling.poller.source ∧ next.poller.stats = polling.poller.stats ∧
      next.poller.nextId = polling.poller.nextId := by
  cases act with
  | check =>
      obtain ⟨hphase, ⟨limit, -, -, rfl⟩ | ⟨-, rfl⟩⟩ := check_cases h
      · exact ⟨fun _ hnext => (by cases hnext), by rw [hphase]; rfl, rfl, rfl, rfl, rfl⟩
      · exact ⟨fun _ hnext => (by cases hnext), by rw [hphase]; rfl, rfl, rfl, rfl, rfl⟩
  | noticeShutdown =>
      obtain ⟨hphase, -, rfl⟩ := noticeShutdown_cases h
      exact ⟨fun _ hnext => (by cases hnext), by rw [hphase]; rfl, rfl, rfl, rfl, rfl⟩
  | tick => exact absurd rfl tick
  | work => exact absurd rfl work
  | takeMessage problem =>
      obtain ⟨_, _, _, rfl⟩ := takeMessage_cases h
      exact ⟨fun _ => id, rfl, rfl, rfl, rfl, rfl⟩
  | takeFailure route =>
      obtain ⟨_, _, _, _, _, rfl⟩ := takeFailure_cases h
      cases route <;> exact ⟨fun _ => id, rfl, rfl, rfl, rfl, rfl⟩
  | closeOutput =>
      cases h
      exact ⟨fun _ => id, rfl, rfl, rfl, rfl, rfl⟩
  | closeErrors route =>
      obtain ⟨_, _, rfl⟩ := Option.map_eq_some_iff.1 h
      cases route <;> exact ⟨fun _ => id, rfl, rfl, rfl, rfl, rfl⟩
  | signal =>
      cases h
      exact ⟨fun _ => id, rfl, rfl, rfl, rfl, rfl⟩
  | moveClock time =>
      cases h
      unfold moveClock
      split <;> exact ⟨fun _ => id, rfl, rfl, rfl, rfl, rfl⟩
  | tell notices =>
      cases h
      exact ⟨fun _ => id, rfl, rfl, rfl, rfl, rfl⟩

/-- Apart from beginning a poll and working on it, no act is written down. -/
theorem document_of_ne {act : Act} (tick : act ≠ .tick) (work : act ≠ .work) :
    polling.document origin entries act = entries := by
  cases act with
  | tick => exact absurd rfl tick
  | work => exact absurd rfl work
  | _ => rfl

/-- A poll that is going on has an entry, which is the last one. -/
theorem Documented.exists_last (h : Documented origin allowed first events entries polling)
    (idle : first.phase = .checking) {poll : Poll τ} (phase : polling.phase = .polling poll) :
    ∃ past last, entries = past ++ [last] := by
  induction h generalizing poll with
  | start => rw [idle] at phase; cases phase
  | @step events entries polling next _ act _ made ih =>
      by_cases htick : act = .tick
      · subst htick
        exact ⟨_, _, rfl⟩
      by_cases hwork : act = .work
      · subst hwork
        rcases work_cases made with ⟨outputOpen, -, -, rfl⟩ | ⟨before, _, _, hphase, _, _, rfl⟩
        · cases outputOpen <;> cases phase
        · obtain ⟨past, last, rfl⟩ := ih hphase
          simp only [document, hphase, List.modifyLast_concat]
          exact ⟨_, _, rfl⟩
      · rw [document_of_ne htick hwork]
        exact ih ((perform_frame made htick hwork).1 poll phase)

/-- What a poller that works on its poll writes down. -/
theorem document_work {past : List (PollEntry τ)} {last : PollEntry τ} {poll : Poll τ}
    (phase : polling.phase = .polling poll) :
    polling.document origin (past ++ [last]) .work = past ++
      [last.noted (poll.answer? origin polling.poller) (poll.events origin polling.poller)] := by
  simp only [document, phase, List.modifyLast_concat]

/-- What holds at the start of every diary and is kept whenever a poll begins, whenever it is worked on,
and by every other act, holds of every diary. -/
theorem Documented.induction {P : List (Event τ) → List (PollEntry τ) → Polling σ τ → Prop}
    (h : Documented origin allowed first events entries polling) (idle : first.phase = .checking)
    (start : P [] [] first)
    (begins : ∀ {events entries polling next}, P events entries polling →
      polling.tick origin = some next →
      P (events ++ polling.poller.beginning origin)
        (entries ++ [.opening origin polling.poller]) next)
    (works : ∀ {events past last polling next poll}, P events (past ++ [last]) polling →
      polling.phase = .polling poll → polling.work origin = some next →
      P (events ++ poll.events origin polling.poller) (past ++
        [last.noted (poll.answer? origin polling.poller) (poll.events origin polling.poller)]) next)
    (others : ∀ {events entries polling next act}, P events entries polling → act ≠ .tick →
      act ≠ .work → polling.perform origin act = some next →
      P (events ++ polling.happenings origin act) entries next) :
    P events entries polling := by
  induction h with
  | start => exact start
  | @step events entries polling next documented act _ made ih =>
      -- only a tick adds an entry, and only work adds something to the last one
      by_cases htick : act = .tick
      · subst htick
        exact begins ih made
      by_cases hwork : act = .work
      · subst hwork
        have hphase : ∃ poll, polling.phase = .polling poll := by
          rcases work_cases made with ⟨_, hphase, _⟩ | ⟨_, _, _, hphase, _⟩
          · exact ⟨_, hphase⟩
          · exact ⟨_, hphase⟩
        obtain ⟨poll, hphase⟩ := hphase
        obtain ⟨past, last, rfl⟩ := documented.exists_last idle hphase
        rw [document_work hphase]
        simp only [happenings, hphase]
        exact works ih hphase made
      · rw [document_of_ne htick hwork]
        exact others ih htick hwork made

/-- **What the beginning and every step of a poll keep holds of every diary**, together with the
current poll and what the poller keeps to itself. -/
theorem Documented.invariant {I : List (PollEntry τ) → Poll τ → Poller σ τ → Prop}
    (h : Documented origin allowed first events entries polling) (idle : first.phase = .checking)
    (start : I [] (.finished true) first.poller)
    (frame : ∀ {entries poll poller other}, I entries poll poller →
      other.source = poller.source → other.stats = poller.stats →
      other.nextId = poller.nextId → I entries poll other)
    (begins : ∀ {entries} (poller : Poller σ τ), I entries (.finished true) poller →
      I (entries ++ [.opening origin poller]) (poller.begin origin).1 (poller.begin origin).2)
    (advances : ∀ {past last poll answer events next poller after}, I (past ++ [last]) poll poller →
      Poll.Step origin poller poll answer events next after →
      Poller.Accounts events poll next poller after →
      I (past ++ [last.noted answer events]) next after) :
    I entries polling.phase.current polling.poller := by
  refine h.induction (P := fun _ entries polling => I entries polling.phase.current polling.poller)
    idle ?_ ?_ ?_ ?_
  · rw [idle]
    exact start
  · intro _ entries polling next ih made
    obtain ⟨hphase, -, rfl⟩ := tick_cases made
    rw [hphase] at ih
    exact begins polling.poller ih
  · intro _ past last polling next poll ih hphase made
    rw [hphase] at ih
    rcases work_cases made with
      ⟨outputOpen, hover, -, rfl⟩ | ⟨other, after, poller, hother, -, hadvance, rfl⟩
    · -- a poll that is over is only noticed to be so
      rw [hphase, Phase.polling.injEq] at hover
      subst hover
      change I (past ++ [last.noted none []]) _ _
      rw [PollEntry.noted_nothing]
      cases outputOpen <;> exact ih
    · rw [hphase, Phase.polling.injEq] at hother
      subst hother
      exact advances ih (Poll.step_of_advance hadvance) (Poller.advance_accounts hadvance)
  · intro _ entries polling next act ih htick hwork made
    obtain ⟨-, hcurrent, -, hsource, hstats, hnext⟩ := perform_frame made htick hwork
    rw [hcurrent]
    exact frame ih hsource hstats hnext

/-- The poller of a diary began as many polls as there are entries. -/
theorem Documented.length_entries (h : Documented origin allowed first events entries polling)
    (idle : first.phase = .checking) (unpolled : first.polls = 0) :
    entries.length = polling.polls := by
  refine h.induction (P := fun _ entries polling => entries.length = polling.polls) idle
    unpolled.symm
    ?_ ?_ ?_
  · intro _ entries polling next ih made
    obtain ⟨-, -, rfl⟩ := tick_cases made
    rw [List.length_append, ih]
    rfl
  · intro _ past last polling next _ ih _ made
    have hpolls : next.polls = polling.polls := by
      rcases work_cases made with ⟨_, _, _, rfl⟩ | ⟨_, _, _, _, _, _, rfl⟩ <;> rfl
    rw [hpolls, ← ih, List.length_append, List.length_append]
    rfl
  · intro _ entries polling next act ih htick hwork made
    rw [(perform_frame made htick hwork).2.2.1, ih]

/-- **A diary tells the same events as the history**, what others take from the channels aside. -/
theorem Documented.filterMap_events {β : Type} (view : Event τ → Option β)
    (taken : ∀ message problem, view (.taken message problem) = none)
    (heard : ∀ route failure, view (.heard route failure) = none)
    (h : Documented origin allowed first events entries polling) (idle : first.phase = .checking) :
    events.filterMap view = entries.flatMap fun entry => entry.events.filterMap view := by
  refine h.induction (P := fun events entries _ =>
    events.filterMap view = entries.flatMap fun entry => entry.events.filterMap view) idle rfl
    ?_ ?_ ?_
  · intro events entries polling next ih _
    rw [List.filterMap_append, ih, List.flatMap_append, List.flatMap_singleton]
    rfl
  · intro events past last polling next poll ih _ _
    rw [List.filterMap_append, ih, List.flatMap_append, List.flatMap_append, List.flatMap_singleton,
      List.flatMap_singleton, PollEntry.noted, List.filterMap_append, List.append_assoc]
  · intro events entries polling next act ih htick hwork _
    have hnothing : (polling.happenings origin act).filterMap view = [] := by
      unfold happenings
      split
      · exact absurd rfl htick
      · exact absurd rfl hwork
      · split
        · rfl
        · simp [taken]
      · split
        · rfl
        · split
          · rfl
          · simp [heard]
      · rfl
    rw [List.filterMap_append, hnothing, List.append_nil, ih]

end

end Polling

end QueryFeed
