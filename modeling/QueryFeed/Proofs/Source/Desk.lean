import QueryFeed.Database.RowStream
import QueryFeed.Database.Scripted
import QueryFeed.Source

/-!
**Handles at a desk.**

A payload is a handle on rows that nobody has asked for yet.  At a desk, somebody asks a source, keeps
the handles that it hands out, drives each of them item by item or drops it, and closes the connection,
in any order.  The diary of a desk has an entry for each deed, with what was noticed and with the
queries that the connection logged.

Main definitions:

* `Handle`, `Handle.drive` — what is left of a payload, and the step to its next item;
* `Request`, `Source.serve`, `Lifecycle.serve` — everything that a source can be asked;
* `Deed`, `Desk`, `Desk.perform` — what is done at a desk;
* `Desk.run`, `Desk.diary` — many deeds one after the other.

Main results:

* `Handle.drive_of_left`, `Handle.drive_ofPayload` — **what driving a handle does**;
* `Desk.log_run` — the log is what the entries of the diary gained.
-/

set_option autoImplicit false

namespace QueryFeed

open Database (Ask RowStream Scripted)

variable {κ σ τ : Type}

/-! ### Payloads -/

/-- What a payload delivers whose query is run on a connection that is open, or closed. -/
def Payload.delivery (payload : Payload τ) (connection : Scripted) (opened : Bool) : Delivery τ :=
  payload.deliver (if opened then connection.answerTo payload.fetch.sql else .error .closed)

/-- What a connection logs on which the query of a payload is run: a closed one logs nothing. -/
def Payload.logged (payload : Payload τ) (opened : Bool) : List (String × List Value) :=
  if opened then [(payload.fetch.sql, payload.fetch.params)] else []

/-- **What running a payload does**: an open connection logs its query. -/
theorem Payload.run_submit (payload : Payload τ) (connection : Scripted) :
    payload.run Scripted.submit connection =
      (payload.delivery connection (!connection.isClosed),
        { connection with log := connection.log ++ payload.logged (!connection.isClosed) }) := by
  obtain ⟨answers, log, isClosed⟩ := connection
  cases isClosed with
  | true => simp [run, Database.Fetch.run, Scripted.submit, delivery, logged]
  | false => simp [run, Database.Fetch.run, Scripted.submit, delivery, logged]

/-! ### Handles -/

/-- What driving a handle gives: the only row, if there is one, or the next item. -/
inductive Yield (τ : Type) where
  | outcome (outcome : Except Database.Error (Option τ))
  | item (item : Except Database.Error τ)

/-- All that a delivery gives, in order. -/
def Delivery.yields : Delivery τ → List (Yield τ)
  | .single outcome => [.outcome outcome]
  | .stream items => items.map .item

/-- What is left of a payload. -/
inductive Handle (τ : Type) where
  | only (fetch : Database.Fetch τ)
  | rows (stream : RowStream τ)
  | gone

namespace Handle

/-- A payload that nobody has driven. -/
def ofPayload (payload : Payload τ) : Handle τ :=
  if payload.single then .only payload.fetch else .rows (.unopened payload.fetch)

/-- Drives a handle: waits for its only row, or for its next item. -/
def drive (ask : Ask κ) (connection : κ) : Handle τ → Option (Yield τ) × Handle τ × κ
  | only fetch =>
      let (outcome, connection) := fetch.one ask connection
      (some (.outcome outcome), gone, connection)
  | rows stream =>
      match stream.next ask connection with
      | (some (item, rest), connection) => (some (.item item), rows rest, connection)
      | (none, connection) => (none, rows (.opened []), connection)
  | gone => (none, gone, connection)

/-- What is left to yield, once the query was run. -/
def left? : Handle τ → Option (List (Yield τ))
  | rows (.opened items) => some (items.map .item)
  | gone => some []
  | only _ | rows (.unopened _) => none

/-- **A handle whose query was run yields what is left**, one after the other, and leaves the connection
alone. -/
theorem drive_of_left {handle : Handle τ} {left : List (Yield τ)} (h : handle.left? = some left)
    (ask : Ask κ) (connection : κ) :
    ∃ next, handle.drive ask connection = (left.head?, next, connection) ∧
      next.left? = some left.tail := by
  cases handle with
  | only fetch => cases h
  | gone =>
      cases h
      exact ⟨gone, rfl, rfl⟩
  | rows stream =>
      cases stream with
      | unopened fetch => cases h
      | opened items =>
          cases h
          cases items with
          | nil => exact ⟨rows (.opened []), rfl, rfl⟩
          | cons item rest => exact ⟨rows (.opened rest), rfl, rfl⟩

/-- **A handle that nobody has driven runs its query**, and has all that the payload delivers to yield.
-/
theorem drive_ofPayload (payload : Payload τ) (ask : Ask κ) (connection : κ) :
    ∃ next, (ofPayload payload).drive ask connection =
        ((payload.run ask connection).1.yields.head?, next, (payload.run ask connection).2) ∧
      next.left? = some (payload.run ask connection).1.yields.tail := by
  obtain ⟨fetch, single⟩ := payload
  cases single with
  | true => exact ⟨gone, rfl, rfl⟩
  | false =>
      obtain ⟨answer, after, hrun⟩ : ∃ answer after, fetch.run ask connection = (answer, after) :=
        ⟨_, _, rfl⟩
      simp only [ofPayload, Bool.false_eq_true, if_false, drive, RowStream.next,
        RowStream.remaining, Payload.run, hrun, Payload.deliver, Delivery.yields]
      cases answer.all fetch.mapper with
      | nil => exact ⟨rows (.opened []), rfl, rfl⟩
      | cons item rest => exact ⟨rows (.opened rest), rfl, rfl⟩

/-- A handle has run its query, or nobody has driven it. -/
theorem left?_or_ofPayload (handle : Handle τ) :
    (∃ left, handle.left? = some left) ∨ ∃ payload, handle = ofPayload payload := by
  cases handle with
  | only fetch => exact Or.inr ⟨⟨fetch, true⟩, rfl⟩
  | gone => exact Or.inl ⟨[], rfl⟩
  | rows stream =>
      cases stream with
      | unopened fetch => exact Or.inr ⟨⟨fetch, false⟩, rfl⟩
      | opened items => exact Or.inl ⟨_, rfl⟩

/-- Driving a handle can only add to the log of the connection. -/
theorem drive_connection (handle : Handle τ) (connection : Scripted) :
    ∃ more, (handle.drive Scripted.submit connection).2.2 =
      { connection with log := connection.log ++ more } := by
  rcases handle.left?_or_ofPayload with ⟨left, hleft⟩ | ⟨payload, rfl⟩
  · obtain ⟨next, hdrive, -⟩ := drive_of_left hleft Scripted.submit connection
    exact ⟨[], by rw [hdrive, List.append_nil]⟩
  · obtain ⟨next, hdrive, -⟩ := drive_ofPayload payload Scripted.submit connection
    exact ⟨_, by rw [hdrive, payload.run_submit]⟩

end Handle

/-! ### Requests -/

/-- What a source can be asked, itself or through its context. -/
inductive Request where
  | poll
  | receive (stamp : Stamp)
  | setVariable (name : String) (value : Json)
  | removeVariable (name : String)
  | lookup (name : String)
  | stats

/-- What a source says to a request. -/
inductive Reply (τ : Type) where
  | payload (payload : Payload τ)
  | message (message : Message (Payload τ))
  | changed
  | value (value? : Option Json)
  | stats (stats : Stats)

/-- Whether a request is for rows. -/
def Request.polls : Request → Bool
  | poll | receive _ => true
  | setVariable _ _ | removeVariable _ | lookup _ | stats => false

/-- The handles in a reply. -/
def Reply.handles : Reply τ → List (Handle τ)
  | .payload handedOut => [.ofPayload handedOut]
  | .message handedOut => [.ofPayload handedOut.payload]
  | .changed | .value _ | .stats _ => []

/-- The handles that come of asking a source: none where the source fails. -/
def Polled.handles (polled : Polled σ (Reply τ)) : List (Handle τ) :=
  match polled.result with
  | .ok reply => reply.handles
  | .error _ => []

/-- The same with another result. -/
def Polled.map {ρ ρ' : Type} (f : ρ → ρ') (polled : Polled σ ρ) : Polled σ ρ' :=
  { polled with result := polled.result.map f }

/-- Asks a source. -/
def Source.serve (source : Source τ) : Request → Polled (Source τ) (Reply τ)
  | .poll => source.poll.map .payload
  | .receive stamp => (source.receive stamp).map .message
  | .setVariable name value =>
      ⟨.ok .changed, { source with context := source.context.setVariable name value }, []⟩
  | .removeVariable name =>
      ⟨.ok .changed, { source with context := source.context.removeVariable name }, []⟩
  | .lookup name => ⟨.ok (.value (source.context.lookup name)), source, []⟩
  | .stats => ⟨.ok (.stats source.stats), source, []⟩

/-- Asks a source that may not have its context yet. -/
def Lifecycle.serve (lifecycle : Lifecycle τ) : Request → Polled (Lifecycle τ) (Reply τ)
  | .poll => lifecycle.poll.map .payload
  | .receive stamp => (lifecycle.receive stamp).map .message
  | request => lifecycle.ask (·.serve request)

/-! ### Deeds -/

/-- What is done at a desk.  Handles are numbered in the order in which they were handed out. -/
inductive Deed where
  | ask (request : Request)
  | drive (index : Nat)
  | drop (index : Nat)
  | close

namespace Deed

def drives (index : Nat) : Deed → Bool
  | drive other => other == index
  | ask _ | drop _ | close => false

def drops (index : Nat) : Deed → Bool
  | drop other => other == index
  | ask _ | drive _ | close => false

def closes : Deed → Bool
  | close => true
  | ask _ | drive _ | drop _ => false

def polls : Deed → Bool
  | ask request => request.polls
  | drive _ | drop _ | close => false

@[simp] theorem drives_drive_self (index : Nat) : (drive index).drives index = true :=
  beq_self_eq_true index

@[simp] theorem drives_drop (index other : Nat) : (drop other).drives index = false := rfl

@[simp] theorem drops_drop_self (index : Nat) : (drop index).drops index = true :=
  beq_self_eq_true index

@[simp] theorem drops_drive (index other : Nat) : (drive other).drops index = false := rfl

/-- A deed drives a handle, or drops it, or does neither. -/
theorem drive_or_drop (deed : Deed) (index : Nat) :
    deed = .drive index ∨ deed = .drop index ∨
      (deed.drives index = false ∧ deed.drops index = false) := by
  cases deed with
  | ask request => exact Or.inr (Or.inr ⟨rfl, rfl⟩)
  | close => exact Or.inr (Or.inr ⟨rfl, rfl⟩)
  | drive other =>
      by_cases h : other = index
      · exact Or.inl (congrArg drive h)
      · exact Or.inr (Or.inr ⟨beq_eq_false_iff_ne.2 h, rfl⟩)
  | drop other =>
      by_cases h : other = index
      · exact Or.inr (Or.inl (congrArg drop h))
      · exact Or.inr (Or.inr ⟨rfl, beq_eq_false_iff_ne.2 h⟩)

end Deed

/-- What is noticed of a deed. -/
inductive Noticed (τ : Type) where
  | replied (result : Except FeedError (Reply τ)) (notices : List Notice)
  | yielded (yield? : Option (Yield τ))
  | nothing

/-- An entry of a diary: a deed, what was noticed of it, and the queries that the connection logged. -/
structure Entry (τ : Type) where
  deed : Deed
  noticed : Noticed τ
  gained : List (String × List Value)

/-- Whether the deed was a poll that failed. -/
def Entry.isFailedPoll (entry : Entry τ) : Bool :=
  match entry.noticed with
  | .replied (.error _) _ => entry.deed.polls
  | _ => false

/-- What driving a certain handle gave, where the deed was to drive it. -/
def Entry.driving? (index : Nat) (entry : Entry τ) :
    Option (Option (Yield τ) × List (String × List Value)) :=
  match entry.noticed with
  | .yielded yield? => if entry.deed.drives index then some (yield?, entry.gained) else none
  | _ => none

/-- A source, a connection, and the handles that the source has handed out. -/
structure Desk (σ τ : Type) where
  source : σ
  connection : Scripted
  handles : List (Handle τ)

namespace Desk

/-- A desk at which nothing was done yet. -/
def ofPlan (plan : SourcePlan τ) (registry : Registry) (connection : Scripted) :
    Desk (Source τ) τ :=
  ⟨plan.setUp registry, connection, []⟩

/-- Does a deed at a desk whose source answers requests in a certain way. -/
def perform (serve : σ → Request → Polled σ (Reply τ)) (desk : Desk σ τ) :
    Deed → Noticed τ × Desk σ τ
  | .ask request =>
      let polled := serve desk.source request
      (.replied polled.result polled.notices,
        { desk with source := polled.source, handles := desk.handles ++ polled.handles })
  | .drive index =>
      match desk.handles[index]? with
      | none => (.yielded none, desk)
      | some handle =>
          let (yield?, handle, connection) := handle.drive Scripted.submit desk.connection
          (.yielded yield?,
            { desk with connection := connection, handles := desk.handles.set index handle })
  | .drop index => (.nothing, { desk with handles := desk.handles.set index .gone })
  | .close => (.nothing, { desk with connection := desk.connection.close })

variable (serve : σ → Request → Polled σ (Reply τ))

/-- The desk after a deed. -/
def after (desk : Desk σ τ) (deed : Deed) : Desk σ τ := (desk.perform serve deed).2

/-- What is written down of a deed. -/
def entry (desk : Desk σ τ) (deed : Deed) : Entry τ where
  deed := deed
  noticed := (desk.perform serve deed).1
  gained := (desk.after serve deed).connection.log.drop desk.connection.log.length

/-- The desk after some deeds. -/
def run (desk : Desk σ τ) (deeds : List Deed) : Desk σ τ := deeds.foldl (after serve) desk

/-- What is written down of some deeds. -/
def diary (desk : Desk σ τ) : List Deed → List (Entry τ)
  | [] => []
  | deed :: rest => desk.entry serve deed :: (desk.after serve deed).diary rest

/-- What driving a certain handle gave, each time. -/
def drivings (index : Nat) (entries : List (Entry τ)) :
    List (Option (Yield τ) × List (String × List Value)) :=
  entries.filterMap (Entry.driving? index)

variable {serve} {desk : Desk σ τ}

@[simp] theorem run_nil : desk.run serve [] = desk := rfl

@[simp] theorem run_cons (deed : Deed) (rest : List Deed) :
    desk.run serve (deed :: rest) = (desk.after serve deed).run serve rest := rfl

theorem diary_append (early late : List Deed) :
    desk.diary serve (early ++ late) =
      desk.diary serve early ++ (desk.run serve early).diary serve late := by
  induction early generalizing desk with
  | nil => rfl
  | cons deed rest ih =>
      rw [List.cons_append, diary, ih]
      rfl

/-! ### The connection -/

/-- **What a deed does to the connection.**  Its log grows by what is written down of the deed, which
is nothing unless a handle is driven, and its answers stay as they are. -/
theorem after_connection (serve : σ → Request → Polled σ (Reply τ)) (desk : Desk σ τ) (deed : Deed) :
    (desk.after serve deed).connection = { desk.connection with
        log := desk.connection.log ++ (desk.entry serve deed).gained,
        isClosed := desk.connection.isClosed || deed.closes } ∧
      ((desk.entry serve deed).gained = [] ∨ ∃ index, deed = .drive index) := by
  -- what is written down is the rest of the log
  have hmore : ∀ (more : List (String × List Value)) (closed : Bool),
      (desk.after serve deed).connection =
          { desk.connection with log := desk.connection.log ++ more, isClosed := closed } →
        (desk.entry serve deed).gained = more := by
    intro more closed hafter
    rw [entry, hafter]
    exact List.drop_left
  have hnothing : ∀ closed : Bool,
      (desk.after serve deed).connection = { desk.connection with isClosed := closed } →
        (desk.entry serve deed).gained = [] := by
    intro closed hafter
    refine hmore [] closed ?_
    rw [hafter, List.append_nil]
  cases deed with
  | ask request | drop index =>
      have hgained := hnothing desk.connection.isClosed rfl
      rw [hgained, List.append_nil, Deed.closes, Bool.or_false]
      exact ⟨rfl, Or.inl rfl⟩
  | close =>
      have hgained := hnothing true rfl
      rw [hgained, List.append_nil, Deed.closes, Bool.or_true]
      exact ⟨rfl, Or.inl rfl⟩
  | drive index =>
      obtain ⟨more, hafter⟩ : ∃ more, (desk.after serve (.drive index)).connection =
          { desk.connection with log := desk.connection.log ++ more } := by
        simp only [after, perform]
        cases desk.handles[index]? with
        | none => exact ⟨[], by rw [List.append_nil]⟩
        | some handle => exact handle.drive_connection desk.connection
      rw [hmore more _ hafter, Deed.closes, Bool.or_false]
      exact ⟨hafter, Or.inr ⟨index, rfl⟩⟩

/-- The log of the connection after some deeds is what it was, and what is written down of them. -/
theorem log_run (desk : Desk σ τ) (deeds : List Deed) :
    (desk.run serve deeds).connection.log =
      desk.connection.log ++ (desk.diary serve deeds).flatMap Entry.gained := by
  induction deeds generalizing desk with
  | nil => exact (List.append_nil _).symm
  | cons deed rest ih =>
      rw [run_cons, ih, (after_connection serve desk deed).1, diary, List.flatMap_cons,
        List.append_assoc]

/-- Only driving a handle makes the connection log anything. -/
theorem gained_eq_nil_of_mem_diary {deeds : List Deed} {entry : Entry τ}
    (h : entry ∈ desk.diary serve deeds) : entry.gained = [] ∨ ∃ index, entry.deed = .drive index := by
  induction deeds generalizing desk with
  | nil => cases h
  | cons deed rest ih =>
      rcases List.mem_cons.1 h with rfl | hrest
      · exact (after_connection serve desk deed).2
      · exact ih hrest

end Desk

end QueryFeed
