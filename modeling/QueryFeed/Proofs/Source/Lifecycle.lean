import QueryFeed.Proofs.Source.Desk

/-!
**A lifecycle is one source, once it is set up.**

A lifecycle refuses everything that it is asked before it is set up.  The first registry makes it a
source, and from then on it answers as this source would, whatever registries come later.

Main definitions:

* `Turn`, `Desk.takeTurn` — what is done at a desk whose source may have to be set up;
* `Desk.afterTurns`, `Desk.turnDiary` — many turns one after the other;
* `Turn.refused` — what is noticed of a turn before the source is set up.

Main results:

* `Desk.turns_pending` — before it is set up, a source refuses everything and stays as it is;
* `Desk.turns_ready` — a source that is set up answers as it would by itself;
* `Desk.turns_follow_source` — **a lifecycle is a source that refuses everything, followed by the one
  source that the first registry makes**.
-/

set_option autoImplicit false

namespace QueryFeed

open Database (Scripted)

variable {τ : Type}

/-! ### Turns -/

/-- What is done at a desk whose source may have to be set up. -/
inductive Turn where
  | setUp (registry : Registry)
  | isSetUp
  | deed (deed : Deed)

namespace Turn

def setsUp : Turn → Bool
  | setUp _ => true
  | isSetUp | deed _ => false

def deed? : Turn → Option Deed
  | deed made => some made
  | setUp _ | isSetUp => none

def closes : Turn → Bool
  | deed made => made.closes
  | setUp _ | isSetUp => false

/-- What a source says to a turn that is set up already. -/
def answer? : Turn → Option Bool
  | setUp _ => some false
  | isSetUp => some true
  | deed _ => none

end Turn

/-- What is written down of a turn. -/
inductive Turned (τ : Type) where
  | answered (answer : Bool)
  | made (entry : Entry τ)

namespace Turned

def entry? : Turned τ → Option (Entry τ)
  | made entry => some entry
  | answered _ => none

def answer? : Turned τ → Option Bool
  | answered answer => some answer
  | made _ => none

end Turned

/-- What is written down of a deed at a desk whose source was not set up: whatever is asked is refused,
and there is no handle to drive. -/
def Deed.refused (deed : Deed) : Entry τ where
  deed := deed
  noticed := match deed with
    | ask _ => .replied (.error .uninitialized) []
    | drive _ => .yielded none
    | drop _ | close => .nothing
  gained := []

/-- What is written down of a turn at a desk whose source was not set up. -/
def Turn.refused : Turn → Turned τ
  | setUp _ => .answered true
  | isSetUp => .answered false
  | deed made => .made made.refused

namespace Desk

/-- Takes a turn. -/
def takeTurn (desk : Desk (Lifecycle τ) τ) : Turn → Turned τ × Desk (Lifecycle τ) τ
  | .setUp registry =>
      let (answer, lifecycle) := desk.source.setUp registry
      (.answered answer, { desk with source := lifecycle })
  | .isSetUp => (.answered desk.source.isSetUp, desk)
  | .deed deed => (.made (desk.entry Lifecycle.serve deed), desk.after Lifecycle.serve deed)

/-- The desk after some turns. -/
def afterTurns (desk : Desk (Lifecycle τ) τ) (turns : List Turn) : Desk (Lifecycle τ) τ :=
  turns.foldl (fun desk turn => (desk.takeTurn turn).2) desk

/-- What is written down of some turns. -/
def turnDiary (desk : Desk (Lifecycle τ) τ) : List Turn → List (Turned τ)
  | [] => []
  | turn :: rest => (desk.takeTurn turn).1 :: (desk.takeTurn turn).2.turnDiary rest

theorem afterTurns_append (desk : Desk (Lifecycle τ) τ) (early late : List Turn) :
    desk.afterTurns (early ++ late) = (desk.afterTurns early).afterTurns late :=
  List.foldl_append

theorem turnDiary_append (desk : Desk (Lifecycle τ) τ) (early late : List Turn) :
    desk.turnDiary (early ++ late) =
      desk.turnDiary early ++ (desk.afterTurns early).turnDiary late := by
  induction early generalizing desk with
  | nil => rfl
  | cons turn rest ih =>
      rw [List.cons_append, turnDiary, ih]
      rfl

end Desk

/-! ### Before a source is set up -/

/-- A source that was not set up refuses whatever it is asked. -/
theorem Lifecycle.serve_pending (plan : SourcePlan τ) (request : Request) :
    (pending plan).serve request = ⟨.error .uninitialized, pending plan, []⟩ := by
  cases request <;> rfl

namespace Desk

/-- A desk whose source was not set up. -/
def ofPending (plan : SourcePlan τ) (connection : Scripted) : Desk (Lifecycle τ) τ :=
  ⟨.pending plan, connection, []⟩

/-- A turn that does not set the source up is refused, and at most closes the connection. -/
theorem takeTurn_pending (plan : SourcePlan τ) (connection : Scripted) {turn : Turn}
    (unset : turn.setsUp = false) :
    (ofPending plan connection).takeTurn turn = (turn.refused,
      ofPending plan { connection with isClosed := connection.isClosed || turn.closes }) := by
  cases turn with
  | setUp registry => cases unset
  | isSetUp => simp [takeTurn, Turn.refused, Turn.closes, ofPending, Lifecycle.isSetUp]
  | deed deed =>
      cases deed with
      | ask request =>
          simp [takeTurn, entry, after, perform, ofPending, Lifecycle.serve_pending, Polled.handles,
            Turn.refused, Deed.refused, Turn.closes, Deed.closes]
      | drive index | drop index =>
          simp [takeTurn, entry, after, perform, ofPending, Turn.refused, Deed.refused, Turn.closes,
            Deed.closes]
      | close =>
          simp [takeTurn, entry, after, perform, ofPending, Scripted.close, Turn.refused,
            Deed.refused, Turn.closes, Deed.closes]

/-- **Before it is set up, a source refuses whatever it is asked**, and nothing comes of it: no query is
evaluated or logged, and no handle is handed out. -/
theorem turns_pending (plan : SourcePlan τ) (connection : Scripted) {turns : List Turn}
    (unset : turns.all (!·.setsUp) = true) :
    (ofPending plan connection).turnDiary turns = turns.map Turn.refused ∧
      (ofPending plan connection).afterTurns turns = ofPending plan
        { connection with isClosed := connection.isClosed || turns.any (·.closes) } := by
  induction turns generalizing connection with
  | nil => simp [turnDiary, afterTurns]
  | cons turn rest ih =>
      simp only [List.all_cons, Bool.and_eq_true, Bool.not_eq_eq_eq_not, Bool.not_true] at unset
      have hturn := takeTurn_pending plan connection unset.1
      obtain ⟨hdiary, hafter⟩ :=
        ih { connection with isClosed := connection.isClosed || turn.closes } (by simpa using unset.2)
      refine ⟨?_, ?_⟩
      · rw [turnDiary, hturn, hdiary, List.map_cons]
      · rw [afterTurns, List.foldl_cons, hturn]
        rw [afterTurns] at hafter
        rw [hafter, List.any_cons, Bool.or_assoc]

end Desk

/-! ### Once a source is set up -/

/-- A source that is set up answers as it would by itself. -/
theorem Lifecycle.serve_ready (source : Source τ) (request : Request) :
    (ready source).serve request = ⟨(source.serve request).result,
      ready (source.serve request).source, (source.serve request).notices⟩ := by
  cases request <;> rfl

namespace Desk

/-- A desk at which a source was set up. -/
def ofReady (desk : Desk (Source τ) τ) : Desk (Lifecycle τ) τ :=
  ⟨.ready desk.source, desk.connection, desk.handles⟩

theorem perform_ready (desk : Desk (Source τ) τ) (deed : Deed) :
    desk.ofReady.perform Lifecycle.serve deed =
      ((desk.perform Source.serve deed).1, (desk.perform Source.serve deed).2.ofReady) := by
  cases deed with
  | ask request =>
      simp only [perform, ofReady, Lifecycle.serve_ready]
      rfl
  | drive index =>
      simp only [perform, ofReady]
      cases desk.handles[index]? <;> rfl
  | drop | close => rfl

theorem takeTurn_deed (desk : Desk (Source τ) τ) (deed : Deed) :
    desk.ofReady.takeTurn (.deed deed) =
      (.made (desk.entry Source.serve deed), (desk.after Source.serve deed).ofReady) := by
  simp only [takeTurn, entry, after, perform_ready]
  rfl

/-- **A source that is set up answers as it would by itself**: only deeds do anything, and whoever sets
it up again is told that it was. -/
theorem turns_ready (desk : Desk (Source τ) τ) (turns : List Turn) :
    (desk.ofReady.turnDiary turns).filterMap Turned.entry? =
        desk.diary Source.serve (turns.filterMap Turn.deed?) ∧
      (desk.ofReady.turnDiary turns).map Turned.answer? = turns.map Turn.answer? ∧
      desk.ofReady.afterTurns turns =
        (desk.run Source.serve (turns.filterMap Turn.deed?)).ofReady := by
  induction turns generalizing desk with
  | nil => exact ⟨rfl, rfl, rfl⟩
  | cons turn rest ih =>
      cases turn with
      | setUp registry =>
          obtain ⟨hentries, hanswers, hafter⟩ := ih desk
          exact ⟨hentries, congrArg (some false :: ·) hanswers, hafter⟩
      | isSetUp =>
          obtain ⟨hentries, hanswers, hafter⟩ := ih desk
          exact ⟨hentries, congrArg (some true :: ·) hanswers, hafter⟩
      | deed deed =>
          obtain ⟨hentries, hanswers, hafter⟩ := ih (desk.after Source.serve deed)
          rw [turnDiary, afterTurns, List.foldl_cons, takeTurn_deed]
          exact ⟨congrArg (desk.entry Source.serve deed :: ·) hentries,
            congrArg (none :: ·) hanswers, hafter⟩

/-! ### Before and after -/

/-- **A lifecycle is a source that refuses everything, followed by the one source that the first
registry makes.**  Before the first registry every request is refused, with nothing else to be noticed
of it, and the connection is only closed, if at all.  The first registry sets the source up, and no
later one does.  From then on, every entry of the diary is that of the plain source that the plan makes
of the first registry, and so are the context, the counters, the log and the handles in the end. -/
theorem turns_follow_source (plan : SourcePlan τ) (connection : Scripted) (before : List Turn)
    (first : Registry) (later : List Turn) (unset : before.all (!·.setsUp) = true) :
    let start := ofPending plan connection
    let waiting := start.afterTurns before
    let plain := ofPlan plan first waiting.connection
    let deeds := later.filterMap Turn.deed?
    let turned := start.turnDiary (before ++ .setUp first :: later)
    start.turnDiary before = before.map Turn.refused ∧
      waiting = ofPending plan
        { connection with isClosed := connection.isClosed || before.any (·.closes) } ∧
      ∃ more, turned = before.map Turn.refused ++ .answered true :: more ∧
        more.filterMap Turned.entry? = plain.diary Source.serve deeds ∧
        more.map Turned.answer? = later.map Turn.answer? ∧
        start.afterTurns (before ++ .setUp first :: later) =
          (plain.run Source.serve deeds).ofReady := by
  intro start waiting plain deeds turned
  obtain ⟨hdiary, hwaiting⟩ := turns_pending plan connection unset
  obtain ⟨hentries, hanswers, hafter⟩ := turns_ready plain later
  have hfirst : waiting.takeTurn (.setUp first) = (.answered true, plain.ofReady) := by
    have hsource : waiting.source = .pending plan := congrArg Desk.source hwaiting
    have hhandles : waiting.handles = [] := congrArg Desk.handles hwaiting
    rw [takeTurn, hsource, hhandles]
    rfl
  refine ⟨hdiary, hwaiting, plain.ofReady.turnDiary later, ?_, hentries, hanswers, ?_⟩
  · rw [show turned = _ from turnDiary_append _ _ _, hdiary, turnDiary, hfirst]
  · rw [afterTurns_append, afterTurns, List.foldl_cons, hfirst]
    exact hafter

/-- A source that is polled, set up, set up once more with another query, polled again and read. -/
theorem turns_follow_source_twice :
    [Turn.deed (.ask .poll), .isSetUp, .deed (.drive 0)].all (!·.setsUp) = true ∧
      ∃ more : List (Turned Value),
        (ofPending ⟨.named "query", .single, false, []⟩
            (.ofAnswers [("a", .rows [⟨[("id", .int32 1)]⟩])])).turnDiary
            ([.deed (.ask .poll), .isSetUp, .deed (.drive 0)] ++ .setUp [("query", .str "a")] ::
              [.setUp [("query", .str "b")], .deed (.ask .poll), .isSetUp, .deed (.drive 0)]) =
          [.made (Deed.ask .poll).refused, .answered false, .made (Deed.drive 0).refused] ++
            .answered true :: more ∧
        (more.filterMap Turned.entry?).map Entry.gained = [[], [("a", [])]] ∧
        more.map Turned.answer? = [some false, none, some true, none] := by
  obtain ⟨-, -, more, hturned, hentries, hanswers, -⟩ :=
    turns_follow_source ⟨.named "query", RowMapper.single, false, []⟩
      (.ofAnswers [("a", .rows [⟨[("id", .int32 1)]⟩])])
      [.deed (.ask .poll), .isSetUp, .deed (.drive 0)] [("query", .str "a")]
      [.setUp [("query", .str "b")], .deed (.ask .poll), .isSetUp, .deed (.drive 0)] (by decide)
  refine ⟨by decide, more, hturned, ?_, hanswers⟩
  rw [hentries]
  rfl

end Desk

end QueryFeed
