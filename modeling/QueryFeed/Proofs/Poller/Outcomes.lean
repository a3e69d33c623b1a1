import QueryFeed.Proofs.Poller.Stages

/-!
**How polls turn out.**

A poll turns out in one of five ways: its query has no text, the database fails it, it has no rows,
its rows are delivered, or rows are left when its output is closed.  The way is told from the entry of
the poll alone.

Main definitions: `PollEntry.Outcome`, `PollEntry.outcome` — how a poll turned out.

Main results:

* `PollEntry.Exhausted.outcome_ne`, `PollEntry.CutOff.outcome_eq` — a poll is unfinished at the end if
  it was cut off, and only then;
* `PollEntry.length_eq_countP_outcome` — **every poll is in one class**.
-/

set_option autoImplicit false

namespace QueryFeed

variable {τ : Type}

namespace PollEntry

/-- How a poll turned out. -/
inductive Outcome where
  /-- The query had no text. -/
  | unresolved
  /-- The database failed the poll, before or after some rows. -/
  | refused
  /-- There were no rows. -/
  | empty
  /-- All rows were sent, and there were some. -/
  | delivered
  /-- Rows are left, or the answer has not come. -/
  | unfinished
  deriving DecidableEq

/-- Whether the answer has come and all its rows were sent. -/
def isThrough (entry : PollEntry τ) : Bool :=
  entry.delivery.isSome && entry.rows.length == entry.sent.length

/-- How a poll turned out, as far as its entry goes. -/
def outcome (entry : PollEntry τ) : Outcome :=
  match entry.received, entry.failed with
  | .error _, _ => .unresolved
  | .ok _, _ :: _ => .refused
  | .ok _, [] =>
      if entry.isThrough then (if entry.sent.isEmpty then .empty else .delivered) else .unfinished

theorem outcome_of_error {entry : PollEntry τ} {e : FeedError} (h : entry.received = .error e) :
    entry.outcome = .unresolved := by
  simp only [outcome, h]

theorem outcome_of_failed {entry : PollEntry τ} {message : Message (Payload τ)}
    (received : entry.received = .ok message) (failed : entry.failed ≠ []) :
    entry.outcome = .refused := by
  obtain ⟨e, rest, hfailed⟩ := List.exists_cons_of_ne_nil failed
  simp only [outcome, received, hfailed]

theorem outcome_of_unfailed {entry : PollEntry τ} {message : Message (Payload τ)}
    (received : entry.received = .ok message) (failed : entry.failed = []) :
    entry.outcome = if entry.isThrough then (if entry.sent.isEmpty then .empty else .delivered)
      else .unfinished := by
  simp only [outcome, received, failed]

theorem outcome_eq_unresolved {entry : PollEntry τ} :
    entry.outcome = .unresolved ↔ ∃ e, entry.received = .error e := by
  constructor
  · intro h
    cases hreceived : entry.received with
    | error e => exact ⟨e, rfl⟩
    | ok message =>
        by_cases hfailed : entry.failed = []
        · rw [outcome_of_unfailed hreceived hfailed] at h
          split at h
          · split at h <;> cases h
          · cases h
        · rw [outcome_of_failed hreceived hfailed] at h
          cases h
  · rintro ⟨e, hreceived⟩
    exact outcome_of_error hreceived

theorem outcome_eq_refused {entry : PollEntry τ} :
    entry.outcome = .refused ↔ (∃ message, entry.received = .ok message) ∧ entry.failed ≠ [] := by
  constructor
  · intro h
    cases hreceived : entry.received with
    | error e =>
        rw [outcome_of_error hreceived] at h
        cases h
    | ok message =>
        refine ⟨⟨message, rfl⟩, fun hfailed => ?_⟩
        rw [outcome_of_unfailed hreceived hfailed] at h
        split at h
        · split at h <;> cases h
        · cases h
  · rintro ⟨⟨message, hreceived⟩, hfailed⟩
    exact outcome_of_failed hreceived hfailed

theorem Exhausted.isThrough {entry : PollEntry τ} (h : entry.Exhausted)
    {message : Message (Payload τ)} (received : entry.received = .ok message) :
    entry.isThrough = true := by
  obtain ⟨delivery, hdelivery⟩ := h.answered.1 ⟨message, received⟩
  rw [PollEntry.isThrough, hdelivery, ← h.rows, List.length_map, beq_self_eq_true]
  rfl

/-- A poll that is over, and was not cut off, has turned out in one of the first four ways. -/
theorem Exhausted.outcome_ne {entry : PollEntry τ} (h : entry.Exhausted) :
    entry.outcome ≠ .unfinished := by
  cases hreceived : entry.received with
  | error e =>
      rw [outcome_of_error hreceived]
      decide
  | ok message =>
      by_cases hfailed : entry.failed = []
      · rw [outcome_of_unfailed hreceived hfailed, if_pos (h.isThrough hreceived)]
        split <;> decide
      · rw [outcome_of_failed hreceived hfailed]
        decide

/-- A poll that was cut off is in no other class. -/
theorem CutOff.outcome_eq {entry : PollEntry τ} (h : entry.CutOff) :
    entry.outcome = .unfinished := by
  obtain ⟨message, hreceived⟩ := h.received
  obtain ⟨value, rest, hrows⟩ := h.rows
  have hleft : entry.rows.length ≠ entry.sent.length := by
    rw [hrows, List.length_append, List.length_map, List.length_cons]
    omega
  have hthrough : entry.isThrough = false := by
    rw [isThrough, beq_false_of_ne hleft, Bool.and_false]
  rw [outcome_of_unfailed hreceived h.failed, hthrough]
  rfl

/-- An entry adds to the number of its own kind only. -/
theorem countP_outcome_concat (kind : Outcome) (past : List (PollEntry τ)) (entry : PollEntry τ) :
    (past ++ [entry]).countP (·.outcome = kind) =
      past.countP (·.outcome = kind) + if entry.outcome = kind then 1 else 0 := by
  rw [List.countP_append, List.countP_singleton]
  simp only [decide_eq_true_eq]

/-- **Every poll is in one class.** -/
theorem length_eq_countP_outcome (entries : List (PollEntry τ)) :
    entries.length = entries.countP (·.outcome = .unresolved) +
      entries.countP (·.outcome = .refused) + entries.countP (·.outcome = .empty) +
      entries.countP (·.outcome = .delivered) + entries.countP (·.outcome = .unfinished) := by
  induction entries with
  | nil => rfl
  | cons entry rest ih =>
      rw [List.length_cons, ih]
      cases h : entry.outcome <;> simp [h] <;> omega

end PollEntry

end QueryFeed
