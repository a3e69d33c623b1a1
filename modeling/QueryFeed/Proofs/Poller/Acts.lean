import QueryFeed.Proofs.Poller.History

/-!
**A poller among others.**

A poller shares its channels with their readers, and others signal a shutdown and move the clock.
An act is one step of the poller or of those around it, and a trace is a sequence of acts in any
order, with the events that can be noticed.

Main definitions:

* `Polling.Act`, `Polling.perform`, `Polling.happenings` — the acts, what each leads to and what can
  be noticed of it;
* `Polling.Traced` — the histories of a poller.

Main results:

* `Polling.check_cases`, `Polling.noticeShutdown_cases`, `Polling.tick_cases`, `Polling.work_cases`,
  `Polling.takeMessage_cases`, `Polling.takeFailure_cases` — everything that each act can do.
-/

set_option autoImplicit false

namespace QueryFeed.Polling

variable {σ τ : Type}

/-! ### Acts -/

/-- What a poller does, or those around it do. -/
inductive Act where
  | check
  | noticeShutdown
  | tick
  | work
  /-- A message is taken from the output, and there is a problem with passing it on or none. -/
  | takeMessage (problem : Option String)
  | takeFailure (route : Route)
  | closeOutput
  | closeErrors (route : Route)
  | signal
  | moveClock (time : Nat)
  | tell (notices : List Notice)

/-- An act of the poller itself, or of the clock. -/
def Act.IsOwn : Act → Prop
  | check | noticeShutdown | tick | work | moveClock _ => True
  | _ => False

/-- An act that leaves the channels for failures open. -/
def Act.SparesErrors : Act → Prop
  | closeErrors _ => False
  | _ => True

/-- Changes what the poller works with. -/
def withPoller (polling : Polling σ τ) (poller : Poller σ τ) : Polling σ τ :=
  { polling with poller := poller }

@[simp] theorem withPoller_poller (polling : Polling σ τ) (poller : Poller σ τ) :
    (polling.withPoller poller).poller = poller := rfl

@[simp] theorem withPoller_phase (polling : Polling σ τ) (poller : Poller σ τ) :
    (polling.withPoller poller).phase = polling.phase := rfl

@[simp] theorem withPoller_polls (polling : Polling σ τ) (poller : Poller σ τ) :
    (polling.withPoller poller).polls = polling.polls := rfl

/-- Takes a message from the output. -/
def takeMessage (polling : Polling σ τ) : Option (Polling σ τ) :=
  match polling.poller.output.queue with
  | [] => none
  | _ :: _ =>
      some (polling.withPoller
        { polling.poller with output := (polling.poller.output.take 1).2 })

/-- Takes a failure from the channel of a route. -/
def takeFailure (polling : Polling σ τ) (route : Route) : Option (Polling σ τ) :=
  match polling.poller.channel? route with
  | none => none
  | some channel =>
      match channel.queue with
      | [] => none
      | _ :: _ => some (polling.withPoller (polling.poller.withChannel route (channel.take 1).2))

/-- What an act leads to, where it is possible. -/
def perform (origin : MessageSource σ τ) (polling : Polling σ τ) : Act → Option (Polling σ τ)
  | .check => polling.check
  | .noticeShutdown => polling.noticeShutdown
  | .tick => polling.tick origin
  | .work => polling.work origin
  | .takeMessage _ => polling.takeMessage
  | .takeFailure route => polling.takeFailure route
  | .closeOutput =>
      some (polling.withPoller { polling.poller with output := polling.poller.output.close })
  | .closeErrors route =>
      (polling.poller.channel? route).map fun channel =>
        polling.withPoller (polling.poller.withChannel route channel.close)
  | .signal => some polling.signal.2
  | .moveClock time => some (polling.moveClock time)
  | .tell notices => some (polling.withPoller (polling.poller.tell notices))

/-- What can be noticed of an act. -/
def happenings (origin : MessageSource σ τ) (polling : Polling σ τ) : Act → List (Event τ)
  | .tick => polling.poller.beginning origin
  | .work =>
      match polling.phase with
      | .polling poll => poll.events origin polling.poller
      | _ => []
  | .takeMessage problem =>
      match polling.poller.output.queue with
      | [] => []
      | message :: _ => [.taken message problem]
  | .takeFailure route =>
      match polling.poller.channel? route with
      | none => []
      | some channel =>
          match channel.queue with
          | [] => []
          | failure :: _ => [.heard route failure]
  | _ => []

/-- The histories of a poller: what can be noticed up to a state, when the poller and those around
it take their turns in any order, as far as their acts are allowed. -/
inductive Traced (origin : MessageSource σ τ) (allowed : Act → Prop) (first : Polling σ τ) :
    List (Event τ) → Polling σ τ → Prop where
  | start : Traced origin allowed first [] first
  | step {events : List (Event τ)} {polling next : Polling σ τ}
      (traced : Traced origin allowed first events polling) (act : Act) (allows : allowed act)
      (h : polling.perform origin act = some next) :
      Traced origin allowed first (events ++ polling.happenings origin act) next

/-- An act that nobody notices leaves the history as it is. -/
theorem Traced.silent {origin : MessageSource σ τ} {allowed : Act → Prop}
    {first polling next : Polling σ τ} {events : List (Event τ)}
    (h : Traced origin allowed first events polling) (act : Act) (allows : allowed act)
    (made : polling.perform origin act = some next)
    (nothing : polling.happenings origin act = []) : Traced origin allowed first events next := by
  have hnext := h.step act allows made
  rw [nothing, List.append_nil] at hnext
  exact hnext

/-! ### Everything that an act can do -/

theorem check_cases {polling next : Polling σ τ} (h : polling.check = some next) :
    polling.phase = .checking ∧
      ((∃ limit, polling.maxPolls = some limit ∧ limit ≤ polling.polls ∧
          next = { polling with phase := .stopped .maxPolls }) ∨
        ((∀ limit, polling.maxPolls = some limit → polling.polls < limit) ∧
          next = { polling with phase := .waiting })) := by
  unfold check at h
  split at h
  · rename_i hphase
    refine ⟨hphase, ?_⟩
    cases hlimit : polling.maxPolls with
    | none =>
        rw [hlimit] at h
        right
        constructor
        · intro limit hsome
          cases hsome
        · simpa [eq_comm] using h
    | some limit =>
        rw [hlimit] at h
        by_cases hle : limit ≤ polling.polls
        · left
          refine ⟨limit, rfl, hle, ?_⟩
          simpa [hle, eq_comm] using h
        · right
          refine ⟨fun other hother => ?_, ?_⟩
          · rw [Option.some_inj] at hother
            omega
          · simpa [hle, eq_comm] using h
  · cases h

theorem noticeShutdown_cases {polling next : Polling σ τ}
    (h : polling.noticeShutdown = some next) :
    polling.phase = .waiting ∧ polling.shutdown = true ∧
      next = { polling with phase := .stopped .shutdown } := by
  unfold noticeShutdown at h
  split at h
  · rename_i hphase
    split at h
    · rename_i hshutdown
      exact ⟨hphase, hshutdown, (Option.some.inj h).symm⟩
    · cases h
  · cases h

theorem tick_cases {origin : MessageSource σ τ} {polling next : Polling σ τ}
    (h : polling.tick origin = some next) :
    polling.phase = .waiting ∧ polling.deadline ≤ polling.poller.now ∧
      next = { polling with
        poller := (polling.poller.begin origin).2
        polls := polling.polls + 1
        deadline := nextDeadline polling.interval polling.deadline polling.poller.now
        began := polling.began ++ [polling.poller.now]
        phase := .polling (polling.poller.begin origin).1 } := by
  unfold tick at h
  split at h
  · rename_i hphase
    simp only at h
    split at h
    · rename_i hdue
      exact ⟨hphase, hdue, (Option.some.inj h).symm⟩
    · cases h
  · cases h

theorem work_cases {origin : MessageSource σ τ} {polling next : Polling σ τ}
    (h : polling.work origin = some next) :
    (∃ outputOpen, polling.phase = .polling (.finished outputOpen) ∧
      polling.happenings origin .work = [] ∧
      next = { polling with
        phase := if outputOpen then .checking else .stopped .outputClosed }) ∨
    (∃ poll after poller, polling.phase = .polling poll ∧
      polling.happenings origin .work = poll.events origin polling.poller ∧
      poll.advance origin polling.poller = some (after, poller) ∧
      next = { polling with poller := poller, phase := .polling after }) := by
  unfold work at h
  split at h
  · rename_i outputOpen hphase
    refine Or.inl ⟨outputOpen, hphase, ?_, (Option.some.inj h).symm⟩
    simp only [happenings, hphase]
    rfl
  · rename_i poll _ hphase
    rw [Option.map_eq_some_iff] at h
    obtain ⟨⟨after, poller⟩, hadvance, hnext⟩ := h
    refine Or.inr ⟨poll, after, poller, hphase, ?_, hadvance, hnext.symm⟩
    simp only [happenings, hphase]
  · cases h

theorem takeMessage_cases {polling next : Polling σ τ} (h : polling.takeMessage = some next) :
    ∃ message rest, polling.poller.output.queue = message :: rest ∧
      next = polling.withPoller
        { polling.poller with output := { polling.poller.output with queue := rest } } := by
  unfold takeMessage at h
  split at h
  · cases h
  · rename_i message rest hqueue
    refine ⟨message, rest, hqueue, ?_⟩
    simpa [Channel.take, hqueue, eq_comm] using h

theorem takeFailure_cases {polling next : Polling σ τ} {route : Route}
    (h : polling.takeFailure route = some next) :
    ∃ channel failure rest, polling.poller.channel? route = some channel ∧
      channel.queue = failure :: rest ∧
      next = polling.withPoller
        (polling.poller.withChannel route { channel with queue := rest }) := by
  unfold takeFailure at h
  split at h
  · cases h
  · rename_i channel hfound
    split at h
    · cases h
    · rename_i failure rest hqueue
      refine ⟨channel, failure, rest, hfound, hqueue, ?_⟩
      simpa [Channel.take, hqueue, eq_comm] using h

/-! ### Stopped -/

/-- The poll of a poller that has stopped was cut off if the output was closed, and otherwise it is
settled. -/
theorem current_of_stopped {polling : Polling σ τ} {reason : StopReason}
    (stopped : polling.phase = .stopped reason) :
    polling.phase.current = .finished (reason != .outputClosed) := by
  rw [stopped]
  cases reason <;> rfl

end QueryFeed.Polling
