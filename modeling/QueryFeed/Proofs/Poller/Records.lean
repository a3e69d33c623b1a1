import QueryFeed.Proofs.Poller.Room

/-!
**Records of polls.**

A record adds to the entry of a poll what the poller told its operator during the poll, and the
channel that its failure was offered to.  What the source itself had to say is left out of it, and so
is what others tell the operator in the meantime.

Main definitions:

* `PollRecord`, `PollRecord.opening`, `PollRecord.noted` — what is known of one poll;
* `PollRecord.places` — where the failures of a poll went;
* `Polling.Recorded` — the histories of a poller with their records.

Main results:

* `Polling.Recorded.documented`, `Polling.Documented.recorded` — **records are diaries with more in
  them, and every diary has its records**;
* `Polling.Recorded.invariant` — what the beginning and every step of a poll keep holds of all
  records.
-/

set_option autoImplicit false

namespace QueryFeed

variable {σ τ : Type}

/-! ### Records -/

/-- Whether an error went somewhere, to a channel or to the operator. -/
@[simp] def Event.isPlace : Event τ → Bool
  | reported _ _ | logged _ => true
  | _ => false

/-- What a poller has told its operator since it was in some state before. -/
def Poller.toldSince (poller before : Poller σ τ) : List Notice :=
  poller.notices.drop before.notices.length

/-- The channel that a failure is offered to, at the stage that offers it. -/
def Poll.offered? (poll : Poll τ) (poller : Poller σ τ) : Option (Channel Failure) :=
  match poll with
  | .reporting route _ _ => poller.channel? route
  | _ => none

/-- What is known of one poll. -/
structure PollRecord (τ : Type) where
  /-- What came of the poll, and its events. -/
  entry : PollEntry τ
  /-- What the poller told the operator during the poll. -/
  told : List Notice
  /-- The channel that the failure was offered to, as it was found, once it was. -/
  offered : Option (Channel Failure)

namespace PollRecord

/-- Where the failures of a poll went. -/
def places (record : PollRecord τ) : List (Event τ) := record.entry.events.filter Event.isPlace

/-- The record of a poll that begins.  The source has its say before. -/
def opening (origin : MessageSource σ τ) (poller : Poller σ τ) : PollRecord τ :=
  ⟨.opening origin poller, (poller.begin origin).2.toldSince (poller.asked origin), none⟩

/-- The record after a step of its poll. -/
def noted (record : PollRecord τ) (answer : Option (Delivery τ)) (events : List (Event τ))
    (told : List Notice) (offered : Option (Channel Failure)) : PollRecord τ :=
  ⟨record.entry.noted answer events, record.told ++ told, offered.or record.offered⟩

@[simp] theorem places_noted (record : PollRecord τ) (answer : Option (Delivery τ))
    (events : List (Event τ)) (told : List Notice) (offered : Option (Channel Failure)) :
    (record.noted answer events told offered).places =
      record.places ++ events.filter Event.isPlace :=
  List.filter_append ..

/-- A step that nobody notices leaves the record as it is. -/
theorem noted_nothing (record : PollRecord τ) : record.noted none [] [] none = record := by
  rw [noted, PollEntry.noted_nothing, List.append_nil, Option.none_or]

end PollRecord

/-! ### Histories with records -/

namespace Polling

/-- The records after an act that led to `next`. -/
def record (origin : MessageSource σ τ) (polling next : Polling σ τ)
    (records : List (PollRecord τ)) : Act → List (PollRecord τ)
  | .tick => records ++ [.opening origin polling.poller]
  | .work =>
      match polling.phase with
      | .polling poll =>
          records.modifyLast
            (·.noted (poll.answer? origin polling.poller) (poll.events origin polling.poller)
              (next.poller.toldSince polling.poller) (poll.offered? polling.poller))
      | _ => records
  | _ => records

/-- The histories of a poller with their records. -/
inductive Recorded (origin : MessageSource σ τ) (allowed : Act → Prop) (first : Polling σ τ) :
    List (Event τ) → List (PollRecord τ) → Polling σ τ → Prop where
  | start : Recorded origin allowed first [] [] first
  | step {events : List (Event τ)} {records : List (PollRecord τ)} {polling next : Polling σ τ}
      (recorded : Recorded origin allowed first events records polling) (act : Act)
      (allows : allowed act) (h : polling.perform origin act = some next) :
      Recorded origin allowed first (events ++ polling.happenings origin act)
        (polling.record origin next records act) next

section

variable {origin : MessageSource σ τ} {allowed : Act → Prop} {first polling next : Polling σ τ}
  {events : List (Event τ)} {records : List (PollRecord τ)}

/-- The records of an act tell what its diary does. -/
theorem map_entry_record (act : Act) :
    (polling.record origin next records act).map PollRecord.entry =
      polling.document origin (records.map PollRecord.entry) act := by
  cases act with
  | tick =>
      simp only [record, document, List.map_append]
      rfl
  | work =>
      cases hphase : polling.phase with
      | polling poll =>
          simp only [record, document, hphase]
          rcases List.eq_nil_or_concat records with rfl | ⟨past, last, rfl⟩
          · rfl
          · simp only [List.concat_eq_append, List.map_append, List.map_cons, List.map_nil,
              List.modifyLast_concat]
            rfl
      | _ => simp only [record, document, hphase]
  | _ => rfl

/-- **Records are diaries with more in them.** -/
theorem Recorded.documented (h : Recorded origin allowed first events records polling) :
    Documented origin allowed first events (records.map PollRecord.entry) polling := by
  induction h with
  | start => exact .start
  | step _ act allows made ih =>
      rw [map_entry_record]
      exact ih.step act allows made

/-- **Every diary has its records.** -/
theorem Documented.recorded {entries : List (PollEntry τ)}
    (h : Documented origin allowed first events entries polling) :
    ∃ records, records.map PollRecord.entry = entries ∧
      Recorded origin allowed first events records polling := by
  induction h with
  | start => exact ⟨[], rfl, .start⟩
  | step _ act allows made ih =>
      obtain ⟨records, rfl, hrecorded⟩ := ih
      exact ⟨_, map_entry_record act, hrecorded.step act allows made⟩

/-- A poll that is going on has a record, which is the last one. -/
theorem Recorded.exists_last (h : Recorded origin allowed first events records polling)
    (idle : first.phase = .checking) {poll : Poll τ} (phase : polling.phase = .polling poll) :
    ∃ past last, records = past ++ [last] := by
  obtain ⟨_, _, hentries⟩ := h.documented.exists_last idle phase
  obtain ⟨past, rest, rfl, -, hrest⟩ := List.map_eq_append_iff.1 hentries
  obtain ⟨last, rfl, -⟩ := List.map_eq_singleton_iff.1 hrest
  exact ⟨past, last, rfl⟩

/-- Apart from beginning a poll and working on it, no act is recorded. -/
theorem record_of_ne {act : Act} (tick : act ≠ .tick) (work : act ≠ .work) :
    polling.record origin next records act = records := by
  cases act with
  | tick => exact absurd rfl tick
  | work => exact absurd rfl work
  | _ => rfl

/-- What the beginning and every step of a poll keep holds of all records, together with the current
poll.  All the time the poller has the channels that it had at the start. -/
theorem Recorded.invariant {I : List (PollRecord τ) → Poll τ → Prop}
    (h : Recorded origin allowed first events records polling) (idle : first.phase = .checking)
    (start : I [] (.finished true))
    (begins : ∀ {records} {poller : Poller σ τ}, first.poller.SameRooms poller →
      I records (.finished true) → I (records ++ [.opening origin poller]) (poller.begin origin).1)
    (advances : ∀ {past last poll answer noted next} {poller after : Poller σ τ},
      first.poller.SameRooms poller → I (past ++ [last]) poll →
      Poll.Step origin poller poll answer noted next after →
      I (past ++ [last.noted answer noted (after.toldSince poller) (poll.offered? poller)]) next) :
    I records polling.phase.current := by
  induction h with
  | start =>
      rw [idle]
      exact start
  | @step events records polling next recorded act _ made ih =>
      have hrooms := recorded.documented.traced.capacity
      by_cases htick : act = .tick
      · subst htick
        obtain ⟨hphase, -, rfl⟩ := tick_cases made
        rw [hphase] at ih
        exact begins hrooms ih
      by_cases hwork : act = .work
      · subst hwork
        rcases work_cases made with
          ⟨outputOpen, hphase, -, rfl⟩ | ⟨poll, after, poller, hphase, -, hadvance, rfl⟩
        · -- a poll that is over is only noticed to be so
          obtain ⟨past, last, rfl⟩ := recorded.exists_last idle hphase
          rw [hphase] at ih
          simp only [record, hphase, List.modifyLast_concat]
          have hnothing : polling.poller.toldSince polling.poller = [] := List.drop_length
          change I (past ++ [last.noted none [] (polling.poller.toldSince polling.poller) none]) _
          rw [hnothing, PollRecord.noted_nothing]
          cases outputOpen <;> exact ih
        · obtain ⟨past, last, rfl⟩ := recorded.exists_last idle hphase
          rw [hphase] at ih
          simp only [record, hphase, List.modifyLast_concat]
          exact advances hrooms ih (Poll.step_of_advance hadvance)
      · rw [record_of_ne htick hwork, (perform_frame made htick hwork).2.1]
        exact ih

end

end Polling

end QueryFeed
