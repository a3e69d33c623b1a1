import QueryFeed.Proofs.Source.Desk

/-!
**Handles do not disturb each other.**

A handle runs its query when it is first driven.  From then on, what it yields is settled, whatever
happens to the other handles, to the source and to the connection.

Main definitions:

* `Desk.opens` — whether the connection is open when a handle is first driven;
* `Deed.contextAfter` — what a deed does to the context of a source.

Main results:

* `Desk.drivings_of_left` — a handle whose query was run yields what is left;
* `Desk.drivings_of_fresh` — a handle that nobody has driven yields what its payload delivers;
* `Desk.drivings_append` — until it is dropped, and nothing then;
* `Desk.run_source` — only polls evaluate the query of a source and are counted;
* `Desk.after_poll` — a poll leaves the connection alone and hands out at most one handle;
* `Desk.handles_independent` — **every handle runs its query once, when it is first driven, and yields
  the same as if it were the only one**.
-/

set_option autoImplicit false

namespace QueryFeed

open Database (Scripted)

variable {σ τ : Type}

namespace Desk

section

variable (serve : σ → Request → Polled σ (Reply τ)) {desk : Desk σ τ} {index : Nat}
  {handle : Handle τ} {deed : Deed}

/-! ### One deed -/

/-- Only a deed that drives a handle is written down for it. -/
theorem driving?_of_undriven (desk : Desk σ τ) (undriven : deed.drives index = false) :
    (desk.entry serve deed).driving? index = none := by
  have hdeed : (desk.entry serve deed).deed = deed := rfl
  unfold Entry.driving?
  split
  · rw [hdeed, undriven]
    rfl
  · rfl

/-- A deed that neither drives nor drops a handle leaves it as it is. -/
theorem after_of_other (there : desk.handles[index]? = some handle)
    (undriven : deed.drives index = false) (kept : deed.drops index = false) :
    (desk.after serve deed).handles[index]? = some handle := by
  cases deed with
  | ask request =>
      have hlt := (List.getElem?_eq_some_iff.1 there).1
      exact (List.getElem?_append_left hlt).trans there
  | drive other =>
      have hother : other ≠ index := beq_eq_false_iff_ne.1 undriven
      simp only [after, perform]
      cases desk.handles[other]? with
      | none => exact there
      | some found => exact (List.getElem?_set_ne hother).trans there
  | drop other =>
      have hother : other ≠ index := beq_eq_false_iff_ne.1 kept
      exact (List.getElem?_set_ne hother).trans there
  | close => exact there

/-- Driving a handle puts the next one in its place. -/
theorem after_drive {yield? : Option (Yield τ)} {next : Handle τ} {connection : Scripted}
    {more : List (String × List Value)} (there : desk.handles[index]? = some handle)
    (drive : handle.drive Scripted.submit desk.connection = (yield?, next, connection))
    (logged : connection.log = desk.connection.log ++ more) :
    (desk.after serve (.drive index)).handles[index]? = some next ∧
      (desk.entry serve (.drive index)).driving? index = some (yield?, more) := by
  have hlt := (List.getElem?_eq_some_iff.1 there).1
  simp only [entry, Entry.driving?, after, perform, there, drive, logged, List.drop_left]
  exact ⟨List.getElem?_set_self hlt, by simp⟩

/-- A handle that is dropped is gone. -/
theorem after_drop (there : desk.handles[index]? = some handle) :
    (desk.after serve (.drop index)).handles[index]? = some .gone :=
  List.getElem?_set_self (List.getElem?_eq_some_iff.1 there).1

/-! ### One handle among many -/

variable {serve}

theorem drivings_cons_of_some {deed : Deed} (rest : List Deed)
    {driving : Option (Yield τ) × List (String × List Value)}
    (driven : (desk.entry serve deed).driving? index = some driving) :
    drivings index (desk.diary serve (deed :: rest)) =
      driving :: drivings index ((desk.after serve deed).diary serve rest) :=
  List.filterMap_cons_some driven

theorem drivings_cons_of_undriven {deed : Deed} (rest : List Deed)
    (undriven : deed.drives index = false) :
    drivings index (desk.diary serve (deed :: rest)) =
      drivings index ((desk.after serve deed).diary serve rest) :=
  List.filterMap_cons_none (driving?_of_undriven serve desk undriven)

/-- What is yielded first, and what is yielded then. -/
theorem cons_map_range (yields : List (Yield τ)) (first : List (String × List Value)) (count : Nat) :
    (yields.head?, first) :: (List.range count).map (fun i => (yields.tail[i]?, [])) =
      (List.range (count + 1)).map fun i => (yields[i]?, if i = 0 then first else []) := by
  rw [List.range_succ_eq_map, List.map_cons, List.map_map]
  refine List.cons_eq_cons.2 ⟨?_, List.map_congr_left fun i _ => ?_⟩
  · cases yields <;> rfl
  · cases yields <;> rfl

/-- **A handle whose query was run yields what is left**, one after the other, and makes the connection
log nothing. -/
theorem drivings_of_left {left : List (Yield τ)} {deeds : List Deed}
    (there : desk.handles[index]? = some handle) (settled : handle.left? = some left)
    (kept : left = [] ∨ deeds.all (!·.drops index) = true) :
    drivings index (desk.diary serve deeds) =
      (List.range (deeds.countP (·.drives index))).map fun i => (left[i]?, []) := by
  induction deeds generalizing desk handle left with
  | nil => rfl
  | cons deed rest ih =>
      rcases deed.drive_or_drop index with rfl | rfl | ⟨hundriven, hkept⟩
      · obtain ⟨next, hdrive, hleft⟩ := Handle.drive_of_left settled Scripted.submit desk.connection
        obtain ⟨hthere, hentry⟩ := after_drive serve there hdrive (List.append_nil _).symm
        have hrest := ih hthere hleft (kept.imp (congrArg List.tail) (fun h => by simpa using h))
        rw [drivings_cons_of_some rest hentry, hrest, cons_map_range,
          List.countP_cons_of_pos (Deed.drives_drive_self index)]
        simp only [ite_self]
      · -- only a handle that has nothing left is dropped
        obtain rfl : left = [] := kept.resolve_right (by simp)
        rw [drivings_cons_of_undriven rest (Deed.drives_drop index index),
          ih (after_drop serve there) rfl (Or.inl rfl), List.countP_cons_of_neg (by simp)]
      · have hthere := after_of_other serve there hundriven hkept
        rw [drivings_cons_of_undriven rest hundriven,
          ih hthere settled (kept.imp id (fun h => by simpa [hkept] using h)),
          List.countP_cons_of_neg (by simp [hundriven])]

/-- Whether the connection is open when a handle is first driven, if it is driven at all. -/
def opens (desk : Desk σ τ) (index : Nat) (deeds : List Deed) : Bool :=
  !desk.connection.isClosed && (deeds.takeWhile (!·.drives index)).all (!·.closes)

/-- **A handle that nobody has driven yields what its payload delivers**, one after the other.  Its
query is logged when it is first driven, if the connection is open then. -/
theorem drivings_of_fresh {payload : Payload τ} {deeds : List Deed}
    (there : desk.handles[index]? = some (.ofPayload payload))
    (kept : deeds.all (!·.drops index) = true) :
    drivings index (desk.diary serve deeds) =
      (List.range (deeds.countP (·.drives index))).map fun i =>
        ((payload.delivery desk.connection (desk.opens index deeds)).yields[i]?,
          if i = 0 then payload.logged (desk.opens index deeds) else []) := by
  induction deeds generalizing desk with
  | nil => rfl
  | cons deed rest ih =>
      rcases deed.drive_or_drop index with rfl | rfl | ⟨hundriven, hkept⟩
      · have hopens : desk.opens index (.drive index :: rest) = !desk.connection.isClosed := by
          simp [opens]
        obtain ⟨next, hdrive, hleft⟩ :=
          Handle.drive_ofPayload payload Scripted.submit desk.connection
        rw [payload.run_submit] at hdrive hleft
        obtain ⟨hthere, hentry⟩ := after_drive serve there hdrive rfl
        rw [drivings_cons_of_some rest hentry,
          drivings_of_left hthere hleft (Or.inr (by simpa using kept)), cons_map_range,
          List.countP_cons_of_pos (Deed.drives_drive_self index), hopens]
      · simp at kept
      · have hthere := after_of_other serve there hundriven hkept
        have hconnection := (after_connection serve desk deed).1
        have hopens : (desk.after serve deed).opens index rest = desk.opens index (deed :: rest) := by
          simp [opens, hconnection, hundriven, Bool.and_assoc]
        have hdelivery : payload.delivery (desk.after serve deed).connection =
            payload.delivery desk.connection := by
          funext opened
          simp only [Payload.delivery, Scripted.answerTo, hconnection]
        rw [drivings_cons_of_undriven rest hundriven, ih hthere (by simpa [hkept] using kept), hopens,
          hdelivery, List.countP_cons_of_neg (by simp [hundriven])]

/-! ### Before and after -/

theorem length_handles_after (serve : σ → Request → Polled σ (Reply τ)) (desk : Desk σ τ)
    (deed : Deed) : desk.handles.length ≤ (desk.after serve deed).handles.length := by
  cases deed with
  | ask request => simp [after, perform]
  | drive other =>
      simp only [after, perform]
      cases desk.handles[other]? <;> simp
  | drop other => simp [after, perform]
  | close => exact Nat.le_refl _

/-- Handles are never taken off the desk. -/
theorem length_handles_run (serve : σ → Request → Polled σ (Reply τ)) (desk : Desk σ τ)
    (deeds : List Deed) : desk.handles.length ≤ (desk.run serve deeds).handles.length := by
  induction deeds generalizing desk with
  | nil => exact Nat.le_refl _
  | cons deed rest ih => exact Nat.le_trans (length_handles_after serve desk deed) (ih _)

/-- A handle that was not handed out yields nothing yet. -/
theorem drivings_of_absent {deeds : List Deed}
    (absent : (desk.run serve deeds).handles.length ≤ index) :
    drivings index (desk.diary serve deeds) =
      List.replicate (deeds.countP (·.drives index)) (none, []) := by
  induction deeds generalizing desk with
  | nil => rfl
  | cons deed rest ih =>
      rw [run_cons] at absent
      cases hdrives : deed.drives index with
      | false =>
          rw [drivings_cons_of_undriven rest hdrives, ih absent,
            List.countP_cons_of_neg (by simp [hdrives])]
      | true =>
          obtain rfl : deed = .drive index := by
            rcases deed.drive_or_drop index with rfl | rfl | ⟨hundriven, -⟩
            · rfl
            · cases hdrives
            · rw [hdrives] at hundriven
              cases hundriven
          have hnone : desk.handles[index]? = none :=
            List.getElem?_eq_none (Nat.le_trans (length_handles_run serve desk (.drive index :: rest))
              absent)
          have hentry : (desk.entry serve (.drive index)).driving? index = some (none, []) := by
            simp [entry, Entry.driving?, after, perform, hnone]
          rw [drivings_cons_of_some rest hentry, ih absent, List.countP_cons_of_pos hdrives,
            List.replicate_succ]

/-- The first deed that does not keep a handle drops it. -/
theorem head?_dropWhile_drops (deeds : List Deed) (index : Nat) :
    deeds.dropWhile (!·.drops index) = [] ∨
      ∃ rest, deeds.dropWhile (!·.drops index) = .drop index :: rest := by
  cases hdropped : deeds.dropWhile (!·.drops index) with
  | nil => exact Or.inl rfl
  | cons deed rest =>
      have hdrops := List.head?_dropWhile_not (!·.drops index) deeds
      rw [hdropped, List.head?_cons] at hdrops
      rcases deed.drive_or_drop index with rfl | rfl | ⟨-, hkeeps⟩
      · cases hdrops
      · exact Or.inr ⟨rest, rfl⟩
      · simp [hkeeps] at hdrops

/-- A handle that is dropped yields nothing any more. -/
theorem drivings_of_dropped {deeds : List Deed}
    (dropped : deeds = [] ∨ ∃ rest, deeds = .drop index :: rest)
    (there : desk.handles[index]? = some handle) :
    drivings index (desk.diary serve deeds) =
      List.replicate (deeds.countP (·.drives index)) (none, []) := by
  rcases dropped with rfl | ⟨rest, rfl⟩
  · rfl
  · rw [drivings_cons_of_undriven rest (Deed.drives_drop index index),
      drivings_of_left (after_drop serve there) rfl (Or.inl rfl), List.countP_cons_of_neg (by simp)]
    simp [List.map_const']

/-- **What driving a handle gives**: what its payload delivers, one after the other, until it is dropped,
and then nothing. -/
theorem drivings_append {payload : Payload τ} {early late : List Deed}
    (there : desk.handles[index]? = some (.ofPayload payload))
    (kept : early.all (!·.drops index) = true)
    (dropped : late = [] ∨ ∃ rest, late = .drop index :: rest) :
    drivings index (desk.diary serve (early ++ late)) =
      ((List.range (early.countP (·.drives index))).map fun i =>
        ((payload.delivery desk.connection (desk.opens index early)).yields[i]?,
          if i = 0 then payload.logged (desk.opens index early) else [])) ++
        List.replicate (late.countP (·.drives index)) (none, []) := by
  have hlt := Nat.lt_of_lt_of_le (List.getElem?_eq_some_iff.1 there).1
    (length_handles_run serve desk early)
  rw [diary_append, drivings, List.filterMap_append, ← drivings, ← drivings,
    drivings_of_fresh there kept, drivings_of_dropped dropped (List.getElem?_eq_getElem hlt)]

end

end Desk

/-! ### The source -/

/-- What a deed does to the context of a source: a poll evaluates the query, once. -/
def Deed.contextAfter (query : Query) (context : Context) : Deed → Context
  | ask .poll | ask (.receive _) => (query.evaluate context).2
  | ask (.setVariable name value) => context.setVariable name value
  | ask (.removeVariable name) => context.removeVariable name
  | ask (.lookup _) | ask .stats | drive _ | drop _ | close => context

theorem Deed.contextAfter_of_polls {request : Request} (polls : request.polls = true) (query : Query)
    (context : Context) :
    (ask request).contextAfter query context = (query.evaluate context).2 := by
  cases request with
  | poll | receive => rfl
  | setVariable | removeVariable | lookup | stats => cases polls

/-- What is not a poll has not failed as one. -/
theorem Entry.isFailedPoll_of_not_polls {entry : Entry τ} (other : entry.deed.polls = false) :
    entry.isFailedPoll = false := by
  unfold isFailedPoll
  split
  · exact other
  · rfl

/-- **What a poll does**: it fails, or hands out one handle, which has the text of the query as it is
now.  Either way it evaluates the query, and counts. -/
theorem Source.serve_poll (source : Source τ) {request : Request} (polls : request.polls = true) :
    (∀ e, (source.plan.query.resolve source.context).1 = .error e →
        (source.serve request).result = .error e ∧
        (source.serve request).source = ⟨source.plan, (source.plan.query.evaluate source.context).2,
          source.stats.recordPoll.recordResolutionFailure⟩) ∧
      ∀ sql, (source.plan.query.resolve source.context).1 = .ok sql →
        (∃ reply, (source.serve request).result = .ok reply ∧
          reply.handles = [.ofPayload ⟨⟨sql, [], source.plan.mapper⟩, source.plan.single⟩]) ∧
        (source.serve request).source = ⟨source.plan, (source.plan.query.evaluate source.context).2,
          source.stats.recordPoll⟩ := by
  have hcontext : (source.plan.query.resolve source.context).2 =
      (source.plan.query.evaluate source.context).2 := rfl
  cases request with
  | setVariable | removeVariable | lookup | stats => cases polls
  | poll =>
      refine ⟨fun e he => ?_, fun sql hsql => ?_⟩
      · simp only [serve, poll, Polled.map, he, hcontext]
        exact ⟨rfl, trivial⟩
      · simp only [serve, poll, Polled.map, hsql, hcontext]
        exact ⟨⟨_, rfl, rfl⟩, trivial⟩
  | receive stamp =>
      refine ⟨fun e he => ?_, fun sql hsql => ?_⟩
      · simp only [serve, receive, poll, Polled.map, he, hcontext]
        exact ⟨rfl, trivial⟩
      · simp only [serve, receive, poll, Polled.map, hsql, hcontext]
        exact ⟨⟨_, rfl, rfl⟩, trivial⟩

namespace Desk

/-- What is not a poll changes at most the variables of a source. -/
theorem after_source_of_not_polls (desk : Desk (Source τ) τ) {deed : Deed}
    (other : deed.polls = false) :
    (desk.after Source.serve deed).source = ⟨desk.source.plan,
      deed.contextAfter desk.source.plan.query desk.source.context, desk.source.stats⟩ := by
  cases deed with
  | ask request =>
      cases request with
      | poll | receive => cases other
      | setVariable | removeVariable | lookup | stats => rfl
  | drive index =>
      simp only [after, perform]
      cases desk.handles[index]? <;> rfl
  | drop | close => rfl

/-- **What a deed does to a source**: only polls evaluate its query, and only they are counted, and
those of them that fail. -/
theorem after_source (desk : Desk (Source τ) τ) (deed : Deed) :
    (desk.after Source.serve deed).source = ⟨desk.source.plan,
      deed.contextAfter desk.source.plan.query desk.source.context,
      { desk.source.stats with
        polls := desk.source.stats.polls + UInt64.ofNat (if deed.polls then 1 else 0)
        resolutionFailures := desk.source.stats.resolutionFailures +
          UInt64.ofNat (if (desk.entry Source.serve deed).isFailedPoll then 1 else 0) }⟩ := by
  cases hpolls : deed.polls with
  | false =>
      have hfailed : (desk.entry Source.serve deed).isFailedPoll = false :=
        Entry.isFailedPoll_of_not_polls hpolls
      rw [after_source_of_not_polls desk hpolls, hfailed]
      simp [show UInt64.ofNat 0 = 0 from rfl]
  | true =>
      cases deed with
      | drive | drop | close => cases hpolls
      | ask request =>
          obtain ⟨hfails, hsucceeds⟩ := desk.source.serve_poll hpolls
          have hafter : (desk.after Source.serve (.ask request)).source =
              (desk.source.serve request).source := rfl
          rw [Deed.contextAfter_of_polls hpolls, hafter]
          cases hresolved : (desk.source.plan.query.resolve desk.source.context).1 with
          | error e =>
              obtain ⟨hresult, hsource⟩ := hfails e hresolved
              have hfailed : (desk.entry Source.serve (.ask request)).isFailedPoll = true := by
                simp only [entry, perform, hresult, Entry.isFailedPoll, hpolls]
              rw [hsource, hfailed]
              rfl
          | ok sql =>
              obtain ⟨⟨reply, hresult, -⟩, hsource⟩ := hsucceeds sql hresolved
              have hfailed : (desk.entry Source.serve (.ask request)).isFailedPoll = false := by
                simp only [entry, perform, hresult, Entry.isFailedPoll]
              rw [hsource, hfailed]
              simp [Stats.recordPoll]

/-- **What deeds do to a source**, one after the other. -/
theorem run_source (desk : Desk (Source τ) τ) (deeds : List Deed) :
    (desk.run Source.serve deeds).source = ⟨desk.source.plan,
      deeds.foldl (Deed.contextAfter desk.source.plan.query) desk.source.context,
      { desk.source.stats with
        polls := desk.source.stats.polls +
          UInt64.ofNat ((desk.diary Source.serve deeds).countP (·.deed.polls))
        resolutionFailures := desk.source.stats.resolutionFailures +
          UInt64.ofNat ((desk.diary Source.serve deeds).countP (·.isFailedPoll)) }⟩ := by
  induction deeds generalizing desk with
  | nil => simp [diary]
  | cons deed rest ih =>
      have hdeed : (desk.entry Source.serve deed).deed = deed := rfl
      rw [run_cons, ih, after_source, List.foldl_cons, diary, List.countP_cons, List.countP_cons,
        hdeed, Nat.add_comm _ (if deed.polls = true then 1 else 0), UInt64.ofNat_add,
        Nat.add_comm _ (if _ = true then 1 else 0), UInt64.ofNat_add, UInt64.add_assoc,
        UInt64.add_assoc]

/-! ### All handles -/

/-- What a handle delivers that is first driven while the connection of its poll is open is what its
payload delivers when it is run by itself. -/
theorem delivery_opens (desk : Desk σ τ) (payload : Payload τ) (index : Nat) (deeds : List Deed) :
    payload.delivery desk.connection (desk.opens index deeds) =
      if desk.opens index deeds then (payload.run Scripted.submit desk.connection).1
      else payload.deliver (.error .closed) := by
  cases hopens : desk.opens index deeds with
  | false => rfl
  | true =>
      have hopen : desk.connection.isClosed = false :=
        Bool.not_eq_eq_eq_not.1 (Bool.and_eq_true_iff.1 hopens).1
      rw [payload.run_submit, hopen]
      rfl

/-- **What comes of a poll**: it leaves the connection alone, and it either fails or hands out one
handle, whose query was fixed by the poll. -/
theorem after_poll (desk : Desk (Source τ) τ) {request : Request} (polls : request.polls = true)
    (late : List Deed) :
    let next := desk.after Source.serve (.ask request)
    let index := desk.handles.length
    let kept := late.takeWhile (!·.drops index)
    let dropped := late.dropWhile (!·.drops index)
    let opened := next.opens index kept
    next.connection = desk.connection ∧
    (∀ e, (desk.source.plan.query.resolve desk.source.context).1 = .error e →
      (desk.source.serve request).result = .error e ∧ next.handles = desk.handles) ∧
    ∀ sql, (desk.source.plan.query.resolve desk.source.context).1 = .ok sql →
      let payload : Payload τ := ⟨⟨sql, [], desk.source.plan.mapper⟩, desk.source.plan.single⟩
      let delivery := if opened then (payload.run Scripted.submit desk.connection).1
        else payload.deliver (.error .closed)
      next.handles = desk.handles ++ [.ofPayload payload] ∧
      drivings index (next.diary Source.serve late) =
        ((List.range (kept.countP (·.drives index))).map fun i =>
          (delivery.yields[i]?, if i = 0 ∧ opened then [(sql, [])] else [])) ++
        List.replicate (dropped.countP (·.drives index)) (none, []) := by
  intro next index kept dropped opened
  have hnext : next.handles = desk.handles ++ (desk.source.serve request).handles := rfl
  obtain ⟨hfails, hsucceeds⟩ := desk.source.serve_poll polls
  refine ⟨rfl, ?_, ?_⟩
  · intro e he
    obtain ⟨hresult, -⟩ := hfails e he
    rw [hnext, Polled.handles, hresult]
    exact ⟨rfl, List.append_nil _⟩
  · intro sql hsql payload delivery
    obtain ⟨⟨reply, hresult, hreply⟩, -⟩ := hsucceeds sql hsql
    have hhandles : next.handles = desk.handles ++ [.ofPayload payload] := by
      rw [hnext, Polled.handles, hresult]
      exact congrArg (desk.handles ++ ·) hreply
    have hthere : next.handles[index]? = some (.ofPayload payload) := by
      rw [hhandles]
      exact List.getElem?_concat_length
    have hdelivery : payload.delivery next.connection opened = delivery :=
      next.delivery_opens payload index kept
    have hlogged : ∀ i, (if i = 0 then payload.logged opened else []) =
        if i = 0 ∧ opened then [(sql, [])] else [] := by
      intro i
      by_cases hi : i = 0 <;> simp [hi, Payload.logged, payload]
    have hdrivings : drivings index (next.diary Source.serve (kept ++ dropped)) = _ :=
      drivings_append hthere List.all_takeWhile (head?_dropWhile_drops late index)
    rw [show kept ++ dropped = late from List.takeWhile_append_dropWhile, hdelivery] at hdrivings
    refine ⟨hhandles, hdrivings.trans ?_⟩
    exact congrArg (· ++ _) (List.map_congr_left fun i _ => congrArg (Prod.mk _) (hlogged i))

/-- **Every handle runs its query once, when it is first driven, and yields the same as if it were the
only one.**  Whatever is done at a desk, in whatever order:

* the context is what polls, of which each evaluates the query once, and changes of the variables make
  of it, and the counters are the numbers of all polls and of those that failed;
* the log is what the entries of the diary gained, and only driving a handle gains anything;
* a poll leaves the connection alone, and hands out one handle, or none where it fails;
* driving this handle gives nothing before the poll, then, until it is dropped, what its payload
  delivers when it is run by itself at the time of the poll, or only the error of a closed connection
  if it was closed before the handle was first driven, and nothing afterwards; the query is logged
  when the handle is first driven, if the connection is open then, without parameters and with the text
  that it had at the time of the poll. -/
theorem handles_independent (plan : SourcePlan τ) (registry : Registry) (connection : Scripted)
    (deeds : List Deed) :
    let first := ofPlan plan registry connection
    let diary := first.diary Source.serve deeds
    (first.run Source.serve deeds).source =
        ⟨plan, deeds.foldl (Deed.contextAfter plan.query) (.ofRegistry registry),
          ⟨.ofNat (diary.countP (·.deed.polls)), .ofNat (diary.countP (·.isFailedPoll)), 0, 0, 0⟩⟩ ∧
      (first.run Source.serve deeds).connection.log =
        connection.log ++ diary.flatMap Entry.gained ∧
      (∀ entry ∈ diary, entry.gained = [] ∨ ∃ index, entry.deed = .drive index) ∧
      ∀ early request late, deeds = early ++ .ask request :: late → request.polls = true →
        let desk := first.run Source.serve early
        let next := desk.after Source.serve (.ask request)
        let index := desk.handles.length
        let kept := late.takeWhile (!·.drops index)
        let dropped := late.dropWhile (!·.drops index)
        let opened := next.opens index kept
        next.connection = desk.connection ∧
        (∀ e, (plan.query.resolve desk.source.context).1 = .error e →
          (desk.source.serve request).result = .error e ∧ next.handles = desk.handles) ∧
        ∀ sql, (plan.query.resolve desk.source.context).1 = .ok sql →
          let payload : Payload τ := ⟨⟨sql, [], plan.mapper⟩, plan.single⟩
          let delivery := if opened then (payload.run Scripted.submit desk.connection).1
            else payload.deliver (.error .closed)
          next.handles = desk.handles ++ [.ofPayload payload] ∧
          drivings index diary =
            List.replicate (early.countP (·.drives index)) (none, []) ++
            (((List.range (kept.countP (·.drives index))).map fun i =>
              (delivery.yields[i]?, if i = 0 ∧ opened then [(sql, [])] else [])) ++
            List.replicate (dropped.countP (·.drives index)) (none, [])) := by
  intro first diary
  refine ⟨?_, log_run first deeds, fun entry hentry => gained_eq_nil_of_mem_diary hentry, ?_⟩
  · rw [run_source first deeds, show first.source.stats = ⟨0, 0, 0, 0, 0⟩ from rfl, UInt64.zero_add,
      UInt64.zero_add]
    rfl
  · intro early request late hdeeds polls desk next index kept dropped opened
    have hplan : desk.source.plan = plan := congrArg Source.plan (run_source first early)
    obtain ⟨hconnection, hfails, hsucceeds⟩ := after_poll desk polls late
    rw [hplan] at hfails hsucceeds
    refine ⟨hconnection, hfails, ?_⟩
    intro sql hsql payload delivery
    obtain ⟨hhandles, hdrivings⟩ := hsucceeds sql hsql
    refine ⟨hhandles, ?_⟩
    calc drivings index diary
      _ = drivings index (first.diary Source.serve early) ++
            drivings index (desk.diary Source.serve (.ask request :: late)) := by
          rw [show diary = first.diary Source.serve deeds from rfl, hdeeds, diary_append, drivings,
            List.filterMap_append]
          rfl
      _ = _ := by
          rw [drivings_of_absent (Nat.le_refl _), drivings_cons_of_undriven late rfl, hdrivings]

/-- A desk whose source takes its query from the variable `query`, or else from the registry. -/
def named : Desk (Source Value) Value :=
  ofPlan ⟨.named "query", .single, false, []⟩ [("query", .str "a")]
    (.ofAnswers [("a", .rows [⟨[("id", .int32 1)]⟩, ⟨[("id", .int32 2)]⟩])])

/-- Two polls with different queries; the connection is closed while the rows of the first one are
read. -/
def twoPolls : List Deed :=
  [.ask .poll, .ask (.setVariable "query" (.str "b")), .ask .poll, .drive 0, .close, .drive 0,
    .drive 1, .drive 0]

theorem handles_independent_twoPolls :
    twoPolls = twoPolls.take 2 ++ .ask .poll :: twoPolls.drop 3 ∧ Request.poll.polls = true ∧
      drivings 0 (named.diary Source.serve twoPolls) =
        [(some (.item (.ok (.int32 1))), [("a", [])]), (some (.item (.ok (.int32 2))), []),
          (none, [])] ∧
      drivings 1 (named.diary Source.serve twoPolls) = [(some (.item (.error .closed)), [])] := by
  obtain ⟨-, -, -, hpolls⟩ := handles_independent ⟨.named "query", RowMapper.single, false, []⟩
    [("query", .str "a")]
    (.ofAnswers [("a", .rows [⟨[("id", .int32 1)]⟩, ⟨[("id", .int32 2)]⟩])]) twoPolls
  have hfirst := ((hpolls [] .poll _ rfl rfl).2.2 "a" rfl).2
  have hsecond := ((hpolls (twoPolls.take 2) .poll _ rfl rfl).2.2 "b" rfl).2
  exact ⟨rfl, rfl, hfirst.trans rfl, hsecond.trans rfl⟩

end Desk

end QueryFeed
