import QueryFeed.Proofs.Poller.Records
import QueryFeed.Proofs.Poller.Script
import QueryFeed.Proofs.Poller.Stages

/-!
**Where failures go.**

The failure of a poll goes to the channel that its message asks for, if it is registered, and to the
standard channel otherwise.  Where there is no such channel, or it is closed, the operator is told of
the failure instead.  So every failure arrives in one place, and polling goes on.

Main definitions:

* `Destined` — the channel for the failures of a poll, and the warnings that come before;
* `PollRecord.Lands` — the failure of a poll went to one place;
* `PollRecord.At` — what a record says while its poll is at a given stage;
* `Polling.FailuresArrive` — everything that is known of the failures of a history.

Main results:

* `PollRecord.At.step` — every step of a poll keeps to its destination;
* `Polling.Recorded.landed` — every poll but the last one has landed;
* `Polling.Recorded.failures_arrive` — **every failure arrives in one place**.
-/

set_option autoImplicit false

namespace QueryFeed

variable {σ τ : Type}

/-! ### Destinations -/

/-- The channel for the failures of polls whose message asks for a name or for none, and what the
operator is told before. -/
inductive Destined (registrations : List (String × Channel Failure)) :
    Option String → Route → List Notice → Prop where
  | unnamed : Destined registrations none .standard []
  | registered {name : String} (known : name ∈ registrations.map Prod.fst) :
      Destined registrations (some name) (.named name) []
  | unknown {name : String} (unknown : name ∉ registrations.map Prod.fst) :
      Destined registrations (some name) .standard [.unknownErrorChannel name]

/-- An open channel without room makes its sender wait, and no other one does. -/
theorem Channel.offer_eq_full_iff {α : Type} {channel : Channel α} (item : α) :
    channel.offer item = .full ↔
      channel.isOpen = true ∧ channel.capacity ≤ channel.queue.length := by
  refine ⟨full_of_offer, ?_⟩
  rintro ⟨hopen, hfull⟩
  simp only [offer, hopen, Nat.not_lt.2 hfull]
  rfl

namespace Poller

/-- A channel is there if and only if it was there at the start. -/
theorem SameRooms.isSome_channel? {poller after : Poller σ τ} (h : SameRooms poller after)
    (route : Route) : (after.channel? route).isSome = (poller.channel? route).isSome := by
  rw [← Option.isSome_map (f := Channel.capacity), h.errors, Option.isSome_map]

/-- The channel of a name is the one that was registered last. -/
theorem channel?_named {poller : Poller σ τ} {registrations : List (String × Channel Failure)}
    (named : poller.namedErrors = Table.ofEntries registrations) (name : String) :
    poller.channel? (.named name) = registrations.reverse.lookup name := by
  rw [channel?, named, Table.get?_ofEntries]

theorem isSome_channel?_named {poller : Poller σ τ}
    {registrations : List (String × Channel Failure)}
    (named : poller.namedErrors = Table.ofEntries registrations) (name : String) :
    (poller.channel? (.named name)).isSome ↔ name ∈ registrations.map Prod.fst := by
  rw [channel?_named named, List.lookup_isSome_iff, List.mem_map]
  constructor
  · rintro ⟨entry, hmem, hname⟩
    exact ⟨entry, List.mem_reverse.1 hmem, (eq_of_beq hname).symm⟩
  · rintro ⟨entry, hmem, rfl⟩
    exact ⟨entry, List.mem_reverse.2 hmem, beq_self_eq_true _⟩

/-- A poller with the registered channels picks the destined one. -/
theorem destined_routeFor {poller after : Poller σ τ}
    {registrations : List (String × Channel Failure)}
    (named : poller.namedErrors = Table.ofEntries registrations) (rooms : SameRooms poller after)
    (failed : Option Headers) :
    Destined registrations (failed.bind (·.get? errorChannel)) (after.routeFor failed).1
      (after.routeFor failed).2 := by
  unfold routeFor
  cases failed.bind (·.get? errorChannel) with
  | none => exact .unnamed
  | some name =>
      have hthere : Table.contains after.namedErrors name = true ↔
          name ∈ registrations.map Prod.fst := by
        rw [← isSome_channel?_named named, ← rooms.isSome_channel?]
        rfl
      by_cases hknown : name ∈ registrations.map Prod.fst
      · simp only [hthere.2 hknown, if_true]
        exact .registered hknown
      · simp only [mt hthere.1 hknown]
        exact .unknown hknown

/-! ### What is told -/

@[simp] theorem notices_countSent (poller : Poller σ τ) (sent : Nat) :
    (poller.countSent sent).notices = poller.notices := by
  unfold countSent
  split <;> rfl

@[simp] theorem notices_withChannel (poller : Poller σ τ) (route : Route)
    (channel : Channel Failure) : (poller.withChannel route channel).notices = poller.notices := by
  cases route <;> rfl

/-- What was added to the notices was told since. -/
theorem toldSince_of_append {poller before : Poller σ τ} {told : List Notice}
    (h : poller.notices = before.notices ++ told) : poller.toldSince before = told := by
  rw [toldSince, h, List.drop_left]

theorem toldSince_of_eq {poller before : Poller σ τ} (h : poller.notices = before.notices) :
    poller.toldSince before = [] :=
  toldSince_of_append (h.trans (List.append_nil _).symm)

end Poller

/-! ### Records of polls that fail -/

/-- The headers of the message that the source handed out. -/
def PollEntry.headers? (entry : PollEntry τ) : Option Headers :=
  match entry.received with
  | .ok message => some message.headers
  | .error _ => none

namespace PollRecord

/-- The name of the channel that the message of the poll asks for. -/
def wanted? (record : PollRecord τ) : Option String :=
  record.entry.headers?.bind (·.get? errorChannel)

/-- A failure reports an error of the poll, and the message of the poll if there is one. -/
def Reports (record : PollRecord τ) (component : String) (e : FeedError) (failure : Failure) :
    Prop :=
  ∃ stamp, failure = match record.entry.headers? with
    | none => .ofPoll stamp component e
    | some headers => .ofMessage stamp component e headers

section

variable (component : String) (poller : Poller σ τ)
  (registrations : List (String × Channel Failure)) (record : PollRecord τ)

/-- A poll that is over did not fail, or its failure went to one place: the destined channel, or the
operator where this channel is closed or is not there. -/
inductive Lands : Prop where
  | unfailed (failed : record.entry.failed = []) (places : record.places = [])
      (told : record.told = [])
  | reported {e : FeedError} {route : Route} {warnings : List Notice} {channel : Channel Failure}
      {failure : Failure} (failed : record.entry.failed = [e])
      (destined : Destined registrations record.wanted? route warnings)
      (there : (poller.channel? route).isSome) (offered : record.offered = some channel)
      (isOpen : channel.isOpen = true) (reports : record.Reports component e failure)
      (places : record.places = [.reported route failure]) (told : record.told = warnings)
  | closed {e : FeedError} {route : Route} {warnings : List Notice} {channel : Channel Failure}
      (failed : record.entry.failed = [e])
      (destined : Destined registrations record.wanted? route warnings)
      (there : (poller.channel? route).isSome) (offered : record.offered = some channel)
      (isClosed : channel.isOpen = false) (places : record.places = [.logged e])
      (told : record.told = warnings ++ [.closedErrorChannel component e])
  | missing {e : FeedError} {route : Route} {warnings : List Notice}
      (failed : record.entry.failed = [e])
      (destined : Destined registrations record.wanted? route warnings)
      (missing : poller.channel? route = none) (places : record.places = [.logged e])
      (told : record.told = warnings ++ [.failedPoll component e])

/-- Nothing has gone wrong so far, and nothing was told. -/
structure Quiet : Prop where
  failed : record.entry.failed = []
  places : record.places = []
  told : record.told = []

/-- What a record says while its poll is at a given stage. -/
def At : Poll τ → Prop
  | .awaiting headers _ _ | .delivering headers _ _ | .sendingRow headers _ _ _ =>
      record.Quiet ∧ record.entry.headers? = some headers
  | .sendingOnly _ => record.Quiet
  | .reporting route failure _ =>
      record.entry.failed = [failure.error] ∧ record.places = [] ∧
        Destined registrations record.wanted? route record.told ∧
        (poller.channel? route).isSome ∧ record.Reports component failure.error failure
  | .finished true => record.Lands component poller registrations
  | .finished false =>
      record.entry.failed = [] ∧ record.places = [] ∧ record.told = [.outputClosed component]

end

/-- What a channel took was reported. -/
theorem reports_eq (record : PollRecord τ) :
    record.entry.reports = record.places.filterMap Event.report? := by
  rw [PollEntry.reports, places, List.filterMap_filter]
  congr 1
  funext event
  cases event <;> rfl

/-- **The failure of a poll arrives once**: one channel takes it, or the operator is told of one
error. -/
theorem Lands.once {component : String} {poller : Poller σ τ}
    {registrations : List (String × Channel Failure)} {record : PollRecord τ}
    (h : record.Lands component poller registrations) :
    record.places.length = record.entry.failed.length ∧
      record.entry.reports.length + record.told.countP (·.level = .error) =
        record.entry.failed.length := by
  have hwarnings : ∀ {wanted? : Option String} {route : Route} {warnings : List Notice},
      Destined registrations wanted? route warnings →
        warnings.countP (·.level = .error) = 0 := by
    rintro _ _ _ (_ | _ | _) <;> rfl
  cases h with
  | unfailed failed places told =>
      rw [reports_eq, failed, places, told]
      exact ⟨rfl, rfl⟩
  | reported failed destined there offered isOpen reports places told =>
      rw [reports_eq, failed, places, told, hwarnings destined]
      exact ⟨rfl, rfl⟩
  | closed failed destined there offered isClosed places told
  | missing failed destined missing places told =>
      rw [reports_eq, failed, places, told, List.countP_append, hwarnings destined]
      exact ⟨rfl, rfl⟩

/-! ### Steps -/

section

variable {poller : Poller σ τ} {registrations : List (String × Channel Failure)}
  {record : PollRecord τ}

/-- A quiet step keeps a record quiet. -/
theorem Quiet.noted (h : record.Quiet) (answer : Option (Delivery τ)) {events : List (Event τ)}
    {told : List Notice} (offered : Option (Channel Failure))
    (failed : events.filterMap Event.failed? = []) (places : events.filter Event.isPlace = [])
    (nothing : told = []) : (record.noted answer events told offered).Quiet where
  failed := (PollEntry.failed_noted_of_nil failed).trans h.failed
  places := by rw [places_noted, h.places, places]; rfl
  told := by
    change record.told ++ told = []
    rw [h.told, nothing]
    rfl

/-- A poll that ends quietly did not fail. -/
theorem Quiet.lands (h : record.Quiet) (component : String) :
    record.Lands component poller registrations :=
  .unfailed h.failed h.places h.told

/-- The notice that the output is closed is the only one of a poll that is cut off. -/
theorem Quiet.cutOff (h : record.Quiet) {component : String} {after : Poller σ τ}
    (answer : Option (Delivery τ)) (offered : Option (Channel Failure)) :
    (record.noted answer [] ((after.tell [.outputClosed component]).toldSince after) offered).At
      component poller registrations (.finished false) := by
  refine ⟨?_, ?_, ?_⟩
  · exact (PollEntry.failed_noted_of_nil rfl).trans h.failed
  · rw [places_noted, h.places]
    rfl
  · change record.told ++ _ = _
    rw [h.told, Poller.toldSince_of_append rfl]
    rfl

/-- A poll that fails keeps to its destination. -/
theorem at_report {after : Poller σ τ} (named : poller.namedErrors = Table.ofEntries registrations)
    (rooms : poller.SameRooms after) (quiet : record.Quiet) (answer : Option (Delivery τ))
    (component : String) (e : FeedError) (sent : Nat) :
    (record.noted answer (after.failing e record.entry.headers?)
      ((after.report (τ := τ) component e record.entry.headers? sent).2.toldSince after) none).At
      component poller registrations (after.report component e record.entry.headers? sent).1 := by
  have hdestined := Poller.destined_routeFor named rooms record.entry.headers?
  cases hfound : after.channel? (after.routeFor record.entry.headers?).1 with
  | none =>
      have hmissing : poller.channel? (after.routeFor record.entry.headers?).1 = none := by
        rw [← Option.isNone_iff_eq_none, ← Option.not_isSome, ← rooms.isSome_channel?, hfound]
        rfl
      have hevents : (after.failing e record.entry.headers? : List (Event τ)) =
          [.failed e, .logged e] := by
        simp only [Poller.failing, hfound]
      rw [hevents, Poller.report_of_none hfound]
      refine Lands.missing (e := e) ?_ hdestined hmissing ?_ ?_
      · exact (PollEntry.failed_noted _ _ _).trans (by rw [quiet.failed]; rfl)
      · rw [places_noted, quiet.places]
        rfl
      · change record.told ++ _ = _
        rw [quiet.told, List.nil_append]
        refine Poller.toldSince_of_append ?_
        rw [Poller.notices_countSent]
        exact List.append_assoc ..
  | some channel =>
      have hthere : (poller.channel? (after.routeFor record.entry.headers?).1).isSome := by
        rw [← rooms.isSome_channel?, hfound]
        rfl
      have hevents : (after.failing e record.entry.headers? : List (Event τ)) = [.failed e] := by
        simp only [Poller.failing, hfound]
      have htold : (((after.tell (after.routeFor record.entry.headers?).2).stamped).toldSince
          after) = (after.routeFor record.entry.headers?).2 :=
        Poller.toldSince_of_append rfl
      rw [hevents, Poller.report_of_some hfound]
      refine ⟨?_, ?_, ?_, hthere, after.stamp, ?_⟩
      · rw [Poller.failure_error]
        exact (PollEntry.failed_noted _ _ _).trans (by rw [quiet.failed]; rfl)
      · rw [places_noted, quiet.places]
        rfl
      · change Destined _ _ _ (record.told ++ _)
        rw [quiet.told, List.nil_append, htold]
        exact hdestined
      · rw [Poller.failure_error]
        rfl

/-- A poll that begins keeps to its destination. -/
theorem at_opening {after : Poller σ τ} (named : poller.namedErrors = Table.ofEntries registrations)
    (rooms : poller.SameRooms after) (origin : MessageSource σ τ) :
    (opening origin after).At origin.component poller registrations (after.begin origin).1 := by
  cases h : (origin.receive after.stamp after.source).result with
  | error e =>
      have hrooms : poller.SameRooms ((after.asked origin).counted Stats.recordResolutionFailure) :=
        ⟨rooms.output, rooms.errors⟩
      have hquiet : (⟨⟨.error e, none, [.began]⟩, [], none⟩ : PollRecord τ).Quiet :=
        ⟨rfl, rfl, rfl⟩
      have hreport := at_report named hrooms hquiet none origin.component e 0
      rw [Poller.failing_counted] at hreport
      rw [opening, PollEntry.opening, Poller.begin_of_error h, Poller.beginning_of_error h, h]
      exact hreport
  | ok message =>
      obtain ⟨due, source, -, hbegin⟩ := Poller.begin_of_ok h
      rw [opening, PollEntry.opening, hbegin, Poller.beginning_of_ok h, h]
      exact ⟨⟨rfl, rfl, Poller.toldSince_of_eq rfl⟩, rfl⟩

/-- **Every step of a poll keeps to its destination.** -/
theorem At.step {origin : MessageSource σ τ} {poll next : Poll τ} {answer : Option (Delivery τ)}
    {events : List (Event τ)} {before after : Poller σ τ}
    (named : poller.namedErrors = Table.ofEntries registrations) (rooms : poller.SameRooms before)
    (h : record.At origin.component poller registrations poll)
    (step : Poll.Step origin before poll answer events next after) :
    (record.noted answer events (after.toldSince before) (poll.offered? before)).At
      origin.component poller registrations next := by
  cases step with
  | only =>
      obtain ⟨hquiet, -⟩ := h
      exact hquiet.noted _ _ rfl rfl (Poller.toldSince_of_eq rfl)
  | stream | row | sentRow =>
      obtain ⟨hquiet, hheaders⟩ := h
      exact ⟨hquiet.noted _ _ rfl rfl (Poller.toldSince_of_eq rfl), hheaders⟩
  | nothing | through =>
      obtain ⟨hquiet, -⟩ := h
      exact (hquiet.noted _ _ rfl rfl (Poller.toldSince_of_eq rfl)).lands _
  | sentOnly =>
      exact (Quiet.noted h _ _ rfl rfl (Poller.toldSince_of_eq rfl)).lands _
  | @refused headers payload due e source answer =>
      obtain ⟨hquiet, hheaders⟩ := h
      have hrooms : poller.SameRooms
          ({ before with source := source }.counted Stats.recordDatabaseFailure) :=
        ⟨rooms.output, rooms.errors⟩
      have hreport := at_report named hrooms hquiet (some (.single (.error e))) origin.component
        (.database e) 0
      rw [Poller.failing_counted, hheaders] at hreport
      exact hreport
  | @broken headers e items sent =>
      obtain ⟨hquiet, hheaders⟩ := h
      have hrooms : poller.SameRooms (before.counted Stats.recordDatabaseFailure) :=
        ⟨rooms.output, rooms.errors⟩
      have hreport := at_report named hrooms hquiet none origin.component (.database e) sent
      rw [Poller.failing_counted, hheaders] at hreport
      exact hreport
  | cutRow => exact h.1.cutOff _ _
  | cutOnly => exact Quiet.cutOff h _ _
  | @reported route failure sent channel taking found offer =>
      obtain ⟨hfailed, hplaces, hdestined, hthere, hreports⟩ := h
      refine .reported ?_ hdestined hthere ?_ (Channel.eq_of_offer_accepted offer).1 hreports ?_ ?_
      · exact (PollEntry.failed_noted_of_nil rfl).trans hfailed
      · exact congrArg (·.or record.offered) found
      · rw [places_noted, hplaces]
        rfl
      · change record.told ++ _ = _
        rw [Poller.toldSince_of_eq (by simp), List.append_nil]
  | @logged route failure sent channel found offer =>
      obtain ⟨hfailed, hplaces, hdestined, hthere, -⟩ := h
      refine .closed (e := failure.error) ?_ hdestined hthere ?_ (Channel.isOpen_of_offer_closed offer) ?_ ?_
      · exact (PollEntry.failed_noted_of_nil rfl).trans hfailed
      · exact congrArg (·.or record.offered) found
      · rw [places_noted, hplaces]
        rfl
      · change record.told ++ _ = _
        rw [Poller.toldSince_of_append (Poller.notices_countSent ..)]

end

end PollRecord

/-! ### Whole histories -/

namespace Polling

section

variable {origin : MessageSource σ τ} {allowed : Act → Prop} {poller : Poller σ τ}
  {registrations : List (String × Channel Failure)} {first polling : Polling σ τ}
  {events : List (Event τ)} {records : List (PollRecord τ)}

/-- Every poll but the last one has landed, and the record of the last one agrees with its stage. -/
theorem Recorded.landed (h : Recorded origin allowed first events records polling)
    (idle : first.phase = .checking)
    (named : first.poller.namedErrors = Table.ofEntries registrations) :
    ∀ past last, records = past ++ [last] →
      (∀ record ∈ past, record.Lands origin.component first.poller registrations) ∧
        last.At origin.component first.poller registrations polling.phase.current := by
  refine h.invariant (I := fun records poll => ∀ past last, records = past ++ [last] →
    (∀ record ∈ past, record.Lands origin.component first.poller registrations) ∧
      last.At origin.component first.poller registrations poll) idle ?_ ?_ ?_
  · exact fun past last hnil => absurd hnil.symm (List.append_ne_nil_of_right_ne_nil _ nofun)
  · intro records poller hrooms ih past last hsame
    obtain ⟨rfl, hlast⟩ := List.append_inj' hsame rfl
    obtain rfl := List.singleton_inj.1 hlast
    refine ⟨?_, PollRecord.at_opening named hrooms origin⟩
    -- between two polls all of them have landed
    rcases List.eq_nil_or_concat records with rfl | ⟨early, before, rfl⟩
    · exact List.forall_mem_nil _
    · rw [List.concat_eq_append, List.forall_mem_append, List.forall_mem_singleton]
      exact ih early before (List.concat_eq_append ..)
  · intro past last poll answer noted next poller after hrooms ih hstep other final hsame
    obtain ⟨rfl, hfinal⟩ := List.append_inj' hsame rfl
    obtain rfl := List.singleton_inj.1 hfinal
    obtain ⟨hpast, hlast⟩ := ih past last rfl
    exact ⟨hpast, hlast.step named hrooms hstep⟩

/-- What the poller itself does to the channels for failures is to put in what is reported. -/
theorem channel?_of_own {next : Polling σ τ} {act : Act}
    (h : polling.perform origin act = some next) (own : act.IsOwn) (route : Route) :
    next.poller.channel? route = (polling.poller.channel? route).map fun channel =>
      { channel with queue :=
        channel.queue ++ (polling.happenings origin act).filterMap (Event.reported? route) } := by
  have hquiet : polling.happenings origin act = [] →
      next.poller.channel? route = polling.poller.channel? route →
      next.poller.channel? route = (polling.poller.channel? route).map fun channel =>
        { channel with queue :=
          channel.queue ++ (polling.happenings origin act).filterMap (Event.reported? route) } := by
    intro hnothing hsame
    rw [hnothing, hsame]
    cases polling.poller.channel? route <;> simp
  cases act with
  | check =>
      refine hquiet rfl ?_
      obtain ⟨-, ⟨_, -, -, rfl⟩ | ⟨-, rfl⟩⟩ := check_cases h <;> rfl
  | noticeShutdown =>
      obtain ⟨-, -, rfl⟩ := noticeShutdown_cases h
      exact hquiet rfl rfl
  | tick =>
      obtain ⟨-, -, rfl⟩ := tick_cases h
      exact (Poller.begin_accounts origin polling.poller).channel? route
  | work =>
      rcases work_cases h with ⟨_, -, hnothing, rfl⟩ | ⟨poll, _, _, -, hevents, hadvance, rfl⟩
      · exact hquiet hnothing rfl
      · rw [hevents]
        exact (Poller.advance_accounts hadvance).channel? route
  | moveClock time =>
      cases h
      refine hquiet rfl ?_
      unfold moveClock
      split
      · rfl
      · cases route <;> rfl
  | takeMessage | takeFailure | closeOutput | closeErrors | signal | tell => exact own.elim

/-- Whoever reports a failure waits only while its channel is open and full. -/
theorem work_eq_none_iff {route : Route} {failure : Failure} {sent : Nat} {channel : Channel Failure}
    (phase : polling.phase = .polling (.reporting route failure sent))
    (found : polling.poller.channel? route = some channel) :
    polling.work origin = none ↔
      channel.isOpen = true ∧ channel.capacity ≤ channel.queue.length := by
  rw [← Channel.offer_eq_full_iff failure]
  simp only [work, phase, Poll.advance, found, Option.map_eq_none_iff]
  cases channel.offer failure <;> simp

/-- The polls that are over, but for one that was cut off. -/
def settledRecords (records : List (PollRecord τ)) (poll : Poll τ) : List (PollRecord τ) :=
  if poll.isSettled then records else records.dropLast

/-- The record of the last poll agrees with its stage. -/
theorem Recorded.at_last (h : Recorded origin allowed first events records polling)
    (idle : first.phase = .checking)
    (named : first.poller.namedErrors = Table.ofEntries registrations) :
    ∀ last ∈ records.getLast?,
      last.At origin.component first.poller registrations polling.phase.current := by
  intro last hlast
  obtain ⟨past, rfl⟩ := List.getLast?_eq_some_iff.1 hlast
  exact (h.landed idle named past last rfl).2

/-- Every poll that is over has landed. -/
theorem Recorded.lands_of_settled (h : Recorded origin allowed first events records polling)
    (idle : first.phase = .checking)
    (named : first.poller.namedErrors = Table.ofEntries registrations) :
    ∀ record ∈ settledRecords records polling.phase.current,
      record.Lands origin.component first.poller registrations := by
  intro record hmem
  unfold settledRecords at hmem
  rcases List.eq_nil_or_concat records with rfl | ⟨past, last, rfl⟩
  · split at hmem <;> cases hmem
  · rw [List.concat_eq_append] at hmem h
    obtain ⟨hpast, hat⟩ := h.landed idle named past last rfl
    split at hmem
    · rename_i hsettled
      rcases List.mem_append.1 hmem with hbefore | hsame
      · exact hpast record hbefore
      · obtain rfl := List.mem_singleton.1 hsame
        cases hcurrent : polling.phase.current <;> rw [hcurrent] at hsettled hat
        case finished outputOpen =>
          obtain rfl : outputOpen = true := hsettled
          exact hat
        all_goals cases hsettled
    · rw [List.dropLast_concat] at hmem
      exact hpast record hmem

/-- Polling goes on after a poll that failed, since only a poll that did not fail is cut off. -/
theorem goesOn_of_at {last : PollRecord τ} {component : String}
    (h : last.At component poller registrations polling.phase.current)
    (failed : last.entry.failed ≠ []) :
    polling.phase ≠ .stopped .outputClosed ∧
      ∀ outputOpen, polling.phase = .polling (.finished outputOpen) →
        polling.work origin = some { polling with phase := .checking } := by
  have huncut : polling.phase.current ≠ .finished false := by
    intro hcut
    rw [hcut] at h
    exact failed h.1
  constructor
  · intro hstopped
    rw [hstopped] at huncut
    exact huncut rfl
  · intro outputOpen hphase
    rw [hphase] at huncut
    cases outputOpen with
    | false => exact absurd rfl huncut
    | true =>
        unfold work
        rw [hphase]
        rfl

/-- Where the failures of a poller went that began with some channels, the named ones registered one
after the other. -/
structure FailuresArrive (origin : MessageSource σ τ) (poller : Poller σ τ)
    (registrations : List (String × Channel Failure)) (events : List (Event τ))
    (records : List (PollRecord τ)) (polling : Polling σ τ) : Prop where
  /-- The channel of a name is the one that was registered last. -/
  registered : ∀ name, poller.channel? (.named name) = registrations.reverse.lookup name
  /-- The failure of every poll that is over went to the one place that it was destined for. -/
  landed : ∀ record ∈ settledRecords records polling.phase.current,
    record.Lands origin.component poller registrations ∧
      record.places.length = record.entry.failed.length ∧
      record.entry.reports.length + record.told.countP (·.level = .error) =
        record.entry.failed.length
  /-- The failure of the current poll is on its way there. -/
  current : ∀ last ∈ records.getLast?,
    last.At origin.component poller registrations polling.phase.current
  /-- Nothing else is reported. -/
  places : events.filter Event.isPlace = records.flatMap PollRecord.places
  /-- What is reported is put into its channel, and nothing else is. -/
  queued : ∀ act next, polling.perform origin act = some next → act.IsOwn → ∀ route,
    next.poller.channel? route = (polling.poller.channel? route).map fun channel =>
      { channel with queue :=
        channel.queue ++ (polling.happenings origin act).filterMap (Event.reported? route) }
  /-- A report waits only while its channel is open and full. -/
  waits : ∀ route failure sent, polling.phase = .polling (.reporting route failure sent) →
    ∃ channel, polling.poller.channel? route = some channel ∧
      (polling.work origin = none ↔
        channel.isOpen = true ∧ channel.capacity ≤ channel.queue.length)
  /-- Polling goes on after a poll that failed. -/
  goesOn : ∀ last ∈ records.getLast?, last.entry.failed ≠ [] →
    polling.phase ≠ .stopped .outputClosed ∧
      ∀ outputOpen, polling.phase = .polling (.finished outputOpen) →
        polling.work origin = some { polling with phase := .checking }

/-- **Every failure arrives in one place.** -/
theorem Recorded.failures_arrive {interval : Nat} {maxPolls : Option Nat}
    (named : poller.namedErrors = Table.ofEntries registrations)
    (h : Recorded origin allowed (.start poller interval maxPolls) events records polling) :
    FailuresArrive origin poller registrations events records polling := by
  have hlast := h.at_last rfl named
  refine ⟨poller.channel?_named named, ?_, hlast, ?_, ?_, ?_, fun last hmem hfailed =>
    goesOn_of_at (hlast last hmem) hfailed⟩
  · intro record hmem
    have hlands := h.lands_of_settled rfl named record hmem
    exact ⟨hlands, hlands.once⟩
  · have hevents := Documented.filterMap_events (Option.guard Event.isPlace) (fun _ _ => rfl)
      (fun _ _ => rfl) h.documented rfl
    simp only [List.flatMap_map, List.filterMap_eq_filter] at hevents
    exact hevents
  · exact fun act next made own route => channel?_of_own made own route
  · intro route failure sent hphase
    obtain ⟨channel, hfound⟩ := h.documented.traced.routed rfl route failure sent
      (by rw [hphase]; rfl)
    exact ⟨channel, hfound, work_eq_none_iff hphase hfound⟩

end

end Polling

/-- A poller with a script of three failures, and a channel that is registered twice. -/
def Poller.auditing : Poller Script Json :=
  ⟨[.error .uninitialized, .ok (.single (.error (.timeout "late"))),
    .ok (.single (.error (.timeout "late")))], .empty 1, some (.empty 1),
    .ofEntries [("audit", .empty 0), ("audit", .empty 1)], .zero, 0, 0, []⟩

/-- The first failure has no message and goes to the standard channel, the second one goes to the channel
that its message asks for, and the third one to the operator, since that channel is closed by then. -/
theorem Polling.failures_arrive_threePolls :
    ∃ events records polling,
      Recorded (MessageSource.scripted [(errorChannel, "audit")]) (fun _ => True)
        (.start .auditing 0 none) events records polling ∧
      records.map (fun record => ((record.entry.events.filter Event.isPlace).length,
          (record.entry.events.filterMap (Event.reported? .standard)).length,
          (record.entry.events.filterMap (Event.reported? (.named "audit"))).length)) =
        [(1, 1, 0), (1, 0, 1), (1, 0, 0)] ∧
      FailuresArrive (MessageSource.scripted [(errorChannel, "audit")]) .auditing
        [("audit", .empty 0), ("audit", .empty 1)] events records polling := by
  have hrun : (enact (MessageSource.scripted [(errorChannel, "audit")]) (.start .auditing 0 none) []
      (polled 2 ++ polled 3 ++ [.closeErrors (.named "audit")] ++ polled 3)).map
        (fun seen => seen.2.map fun entry => ((entry.events.filter Event.isPlace).length,
          (entry.events.filterMap (Event.reported? .standard)).length,
          (entry.events.filterMap (Event.reported? (.named "audit"))).length)) =
      some [(1, 1, 0), (1, 0, 1), (1, 0, 0)] := by decide +kernel
  obtain ⟨events, entries, polling, hdocumented, hseen⟩ := exists_documented _ hrun
  obtain ⟨records, rfl, hrecorded⟩ := hdocumented.recorded
  rw [List.map_map] at hseen
  exact ⟨events, records, polling, hrecorded, hseen, Recorded.failures_arrive rfl hrecorded⟩

end QueryFeed
