import QueryFeed.Proofs.Poller.History

/-!
**What one stage of a poll leaves behind.**

Beginning a poll and advancing it change the channels and the counters of the poller.  The change is
told here once for each of the two, in terms of the events of the stage; everything that is known of
a whole run is derived from it.

Main definitions:

* `Stats.CountsFailure` — what counting a failed poll changes;
* `Poller.Accounts` — the change of a poller compared with events;
* `Poller.asked` — the poller that has asked its source.

Main results:

* `Poller.fail_accounts` — a failure is counted, and then owed to a channel or told the operator;
* `Poller.begin_accounts`, `Poller.advance_accounts` — **the events account for the change**;
* `Poller.began_beginning`, `Poller.began_events` — a poll begins with a tick and at no other time.
-/

set_option autoImplicit false

namespace QueryFeed

variable {σ τ : Type}

namespace Poller

/-! ### What counting and telling leave alone -/

@[simp] theorem channel?_counted (poller : Poller σ τ) (record : Stats → Stats) (route : Route) :
    (poller.counted record).channel? route = poller.channel? route := by
  cases route <;> rfl

@[simp] theorem channel?_tell (poller : Poller σ τ) (notices : List Notice) (route : Route) :
    (poller.tell notices).channel? route = poller.channel? route := by
  cases route <;> rfl

@[simp] theorem channel?_stamped (poller : Poller σ τ) (route : Route) :
    poller.stamped.channel? route = poller.channel? route := by
  cases route <;> rfl

@[simp] theorem channel?_countSent (poller : Poller σ τ) (sent : Nat) (route : Route) :
    (poller.countSent sent).channel? route = poller.channel? route := by
  unfold countSent
  split
  · rfl
  · exact channel?_counted _ _ _

@[simp] theorem output_countSent (poller : Poller σ τ) (sent : Nat) :
    (poller.countSent sent).output = poller.output := by
  unfold countSent
  split <;> rfl

/-- Counting the messages of a failed poll changes no other counter. -/
theorem stats_countSent (poller : Poller σ τ) (sent : Nat) :
    (poller.countSent sent).stats.polls = poller.stats.polls ∧
      (poller.countSent sent).stats.resolutionFailures = poller.stats.resolutionFailures ∧
      (poller.countSent sent).stats.databaseFailures = poller.stats.databaseFailures ∧
      (poller.countSent sent).stats.messages = poller.stats.messages + UInt64.ofNat sent := by
  unfold countSent
  split
  · rename_i hzero
    subst hzero
    exact ⟨rfl, rfl, rfl, (UInt64.add_zero _).symm⟩
  · exact ⟨rfl, rfl, rfl, rfl⟩

/-- Putting a channel back changes no other channel. -/
theorem channel?_withChannel (poller : Poller σ τ) (route other : Route)
    (channel : Channel Failure) :
    (poller.withChannel route channel).channel? other =
      if route = other then some channel else poller.channel? other := by
  cases route with
  | standard =>
      cases other with
      | standard => rfl
      | named name => rw [if_neg (by simp)]; rfl
  | named name =>
      cases other with
      | standard => rw [if_neg (by simp)]; rfl
      | named second =>
          by_cases h : name = second
          · subst h
            rw [if_pos rfl]
            exact Table.get?_insert_self _ _ _
          · rw [if_neg (by simpa using h)]
            exact Table.get?_insert_of_ne _ _ h

@[simp] theorem output_withChannel (poller : Poller σ τ) (route : Route)
    (channel : Channel Failure) : (poller.withChannel route channel).output = poller.output := by
  cases route <;> rfl

@[simp] theorem stats_withChannel (poller : Poller σ τ) (route : Route)
    (channel : Channel Failure) : (poller.withChannel route channel).stats = poller.stats := by
  cases route <;> rfl

/-! ### Reporting -/

theorem report_of_none {poller : Poller σ τ} {failed : Option Headers}
    (h : poller.channel? (poller.routeFor failed).1 = none) (component : String) (e : FeedError)
    (sent : Nat) :
    poller.report component e failed sent = (.finished true,
      ((poller.tell (poller.routeFor failed).2).tell [.failedPoll component e]).countSent
        sent) := by
  simp only [report, channel?_tell, h]

/-- The report of an error of the poll, or of the message with the given headers. -/
def failure (poller : Poller σ τ) (component : String) (e : FeedError) : Option Headers → Failure
  | none => .ofPoll poller.stamp component e
  | some headers => .ofMessage poller.stamp component e headers

@[simp] theorem failure_error (poller : Poller σ τ) (component : String) (e : FeedError)
    (failed : Option Headers) : (poller.failure component e failed).error = e := by
  cases failed <;> rfl

theorem report_of_some {poller : Poller σ τ} {failed : Option Headers} {channel : Channel Failure}
    (h : poller.channel? (poller.routeFor failed).1 = some channel) (component : String)
    (e : FeedError) (sent : Nat) :
    poller.report component e failed sent =
      (.reporting (poller.routeFor failed).1 (poller.failure component e failed) sent,
        (poller.tell (poller.routeFor failed).2).stamped) := by
  simp only [report, channel?_tell, h]
  cases failed <;> rfl

end Poller

/-! ### Accounts -/

/-- The counters that a failed poll changes: one of the two counters of failures by one, and no
other. -/
structure Stats.CountsFailure (record : Stats → Stats) : Prop where
  polls : ∀ stats, (record stats).polls = stats.polls
  messages : ∀ stats, (record stats).messages = stats.messages
  failures : ∃ unresolved refused : Nat, unresolved + refused = 1 ∧ ∀ stats,
    (record stats).resolutionFailures = stats.resolutionFailures + UInt64.ofNat unresolved ∧
      (record stats).databaseFailures = stats.databaseFailures + UInt64.ofNat refused

theorem Stats.countsFailure_resolution : CountsFailure recordResolutionFailure :=
  ⟨fun _ => rfl, fun _ => rfl, 1, 0, rfl, fun stats =>
    ⟨rfl, (UInt64.add_zero stats.databaseFailures).symm⟩⟩

theorem Stats.countsFailure_database : CountsFailure recordDatabaseFailure :=
  ⟨fun _ => rfl, fun _ => rfl, 0, 1, rfl, fun stats =>
    ⟨(UInt64.add_zero stats.resolutionFailures).symm, rfl⟩⟩

/-- The events account for the change of a poller between two stages: the queues grow by what was
sent and reported, what failed is delivered or still owed, and the counters grow by the number of
events. -/
structure Poller.Accounts (events : List (Event τ)) (poll next : Poll τ)
    (poller after : Poller σ τ) : Prop where
  output : after.output =
    { poller.output with queue := poller.output.queue ++ events.filterMap Event.sent? }
  open_of_sent : events.filterMap Event.sent? ≠ [] → poller.output.isOpen = true
  channel? : ∀ route, after.channel? route = (poller.channel? route).map fun channel =>
    { channel with queue := channel.queue ++ events.filterMap (Event.reported? route) }
  open_of_reported : ∀ route channel, poller.channel? route = some channel →
    events.filterMap (Event.reported? route) ≠ [] → channel.isOpen = true
  owed : poll.owed ++ events.filterMap Event.failed? =
    events.filterMap Event.delivered? ++ next.owed
  failures : ∃ unresolved refused : Nat,
    unresolved + refused = (events.filterMap Event.failed?).length ∧
      after.stats.resolutionFailures =
        poller.stats.resolutionFailures + UInt64.ofNat unresolved ∧
      after.stats.databaseFailures = poller.stats.databaseFailures + UInt64.ofNat refused
  messages : next.isCutOff = false →
    after.stats.messages + UInt64.ofNat next.unsettled =
      poller.stats.messages +
        UInt64.ofNat (poll.unsettled + (events.filterMap Event.sent?).length)
  cutOff : next.isCutOff = true → poll.isCutOff = true ∨ poller.output.isOpen = false
  polls : after.stats.polls = poller.stats.polls + UInt64.ofNat (events.countP Event.isBegan)
  taken : events.filterMap Event.taken? = []
  heard : ∀ route, events.filterMap (Event.heard? route) = []

namespace Poller

/-- A stage that sends nothing and reports nothing leaves the channels alone. -/
theorem Accounts.quiet {events : List (Event τ)} {poll next : Poll τ} {poller after : Poller σ τ}
    (sent : events.filterMap Event.sent? = [])
    (reported : ∀ route, events.filterMap (Event.reported? route) = [])
    (taken : events.filterMap Event.taken? = [])
    (heard : ∀ route, events.filterMap (Event.heard? route) = [])
    (began : events.countP Event.isBegan = 0)
    (output : after.output = poller.output)
    (channel? : ∀ route, after.channel? route = poller.channel? route)
    (owed : poll.owed ++ events.filterMap Event.failed? =
      events.filterMap Event.delivered? ++ next.owed)
    (failures : ∃ unresolved refused : Nat,
      unresolved + refused = (events.filterMap Event.failed?).length ∧
        after.stats.resolutionFailures =
          poller.stats.resolutionFailures + UInt64.ofNat unresolved ∧
        after.stats.databaseFailures = poller.stats.databaseFailures + UInt64.ofNat refused)
    (polls : after.stats.polls = poller.stats.polls)
    (messages : next.isCutOff = false → after.stats.messages + UInt64.ofNat next.unsettled =
      poller.stats.messages + UInt64.ofNat poll.unsettled)
    (cutOff : next.isCutOff = true → poll.isCutOff = true ∨ poller.output.isOpen = false) :
    Accounts events poll next poller after where
  output := by rw [output, sent, List.append_nil]
  open_of_sent h := absurd sent h
  channel? route := by
    rw [channel?, reported]
    cases poller.channel? route <;> simp
  open_of_reported route _ _ h := absurd (reported route) h
  owed := owed
  failures := failures
  messages h := by rw [messages h, sent]; rfl
  cutOff := cutOff
  polls := by rw [polls, began]; simp
  taken := taken
  heard := heard

/-- A stage without events. -/
theorem Accounts.silent {poll next : Poll τ} {poller after : Poller σ τ}
    (output : after.output = poller.output)
    (channel? : ∀ route, after.channel? route = poller.channel? route)
    (resolution : after.stats.resolutionFailures = poller.stats.resolutionFailures)
    (database : after.stats.databaseFailures = poller.stats.databaseFailures)
    (polls : after.stats.polls = poller.stats.polls)
    (owed : poll.owed = next.owed)
    (messages : next.isCutOff = false → after.stats.messages + UInt64.ofNat next.unsettled =
      poller.stats.messages + UInt64.ofNat poll.unsettled)
    (cutOff : next.isCutOff = true → poll.isCutOff = true ∨ poller.output.isOpen = false) :
    Accounts [] poll next poller after :=
  .quiet rfl (fun _ => rfl) rfl (fun _ => rfl) rfl output channel? (by rw [owed]; simp)
    ⟨0, 0, rfl, by rw [resolution]; simp, by rw [database]; simp⟩ polls messages cutOff

/-- Only the channels and the compared counters of the first poller matter. -/
theorem Accounts.rebase {events : List (Event τ)} {poll next : Poll τ}
    {poller other after : Poller σ τ} (h : Accounts events poll next other after)
    (output : other.output = poller.output)
    (channel? : ∀ route, other.channel? route = poller.channel? route)
    (resolution : other.stats.resolutionFailures = poller.stats.resolutionFailures)
    (database : other.stats.databaseFailures = poller.stats.databaseFailures)
    (messages : other.stats.messages = poller.stats.messages)
    (polls : other.stats.polls = poller.stats.polls) :
    Accounts events poll next poller after where
  output := output ▸ h.output
  open_of_sent := output ▸ h.open_of_sent
  channel? route := channel? route ▸ h.channel? route
  open_of_reported route := channel? route ▸ h.open_of_reported route
  owed := h.owed
  failures := resolution ▸ database ▸ h.failures
  messages := messages ▸ h.messages
  cutOff := output ▸ h.cutOff
  polls := polls ▸ h.polls
  taken := h.taken
  heard := h.heard

/-- A poll that fails counts the failure and owes its report, or tells the operator at once. -/
theorem fail_accounts {record : Stats → Stats} (counts : Stats.CountsFailure record)
    {poll : Poll τ} (owed : poll.owed = []) (poller : Poller σ τ) (component : String)
    (e : FeedError) (failed : Option Headers) :
    Accounts (poller.failing e failed) poll
      ((poller.counted record).report component e failed poll.unsettled).1 poller
      ((poller.counted record).report component e failed poll.unsettled).2 := by
  obtain ⟨unresolved, refused, hone, hrecord⟩ := counts.failures
  cases h : poller.channel? (poller.routeFor failed).1 with
  | none =>
      -- nobody takes the failure, so the poll is over at once
      have hevents : (poller.failing e failed : List (Event τ)) = [.failed e, .logged e] := by
        simp only [failing, h]
      have hcounted : (poller.counted record).channel?
          ((poller.counted record).routeFor failed).1 = none := (channel?_counted ..).trans h
      rw [hevents, report_of_none hcounted]
      obtain ⟨hpolls, hres, hdb, hmsg⟩ := stats_countSent
        (((poller.counted record).tell (poller.routeFor failed).2).tell
          [.failedPoll component e]) poll.unsettled
      refine .quiet rfl (fun _ => rfl) rfl (fun _ => rfl) rfl (output_countSent ..) ?_ ?_
        ⟨unresolved, refused, hone, hres.trans (hrecord poller.stats).1,
          hdb.trans (hrecord poller.stats).2⟩ (hpolls.trans (counts.polls _)) ?_ nofun
      · intro route
        simp
      · rw [owed]
        rfl
      · intro _
        rw [← counts.messages poller.stats]
        exact (UInt64.add_zero _).trans hmsg
  | some channel =>
      -- the poll goes on until the channel takes the failure
      have hevents : (poller.failing e failed : List (Event τ)) = [.failed e] := by
        simp only [failing, h]
      have hcounted : (poller.counted record).channel?
          ((poller.counted record).routeFor failed).1 = some channel :=
        (channel?_counted ..).trans h
      rw [hevents, report_of_some hcounted component e poll.unsettled]
      refine .quiet rfl (fun _ => rfl) rfl (fun _ => rfl) rfl rfl ?_ ?_
        ⟨unresolved, refused, hone, (hrecord poller.stats).1, (hrecord poller.stats).2⟩
        (counts.polls _) ?_ nofun
      · intro route
        simp
      · rw [owed, Poll.owed, failure_error]
        rfl
      · intro _
        rw [← counts.messages poller.stats]
        rfl

/-! ### Beginning -/

/-- The poller that has asked its source. -/
def asked (poller : Poller σ τ) (origin : MessageSource σ τ) : Poller σ τ :=
  let polled := origin.receive poller.stamp poller.source
  { (poller.counted Stats.recordPoll).stamped.tell polled.notices with source := polled.source }

theorem begin_of_error {origin : MessageSource σ τ} {poller : Poller σ τ} {e : FeedError}
    (h : (origin.receive poller.stamp poller.source).result = .error e) :
    poller.begin origin =
      ((poller.asked origin).counted Stats.recordResolutionFailure).report origin.component e none
        0 := by
  have hresult : (origin.receive (poller.counted Stats.recordPoll).stamp
      (poller.counted Stats.recordPoll).source).result = .error e := h
  simp only [begin, hresult]
  rfl

theorem begin_of_ok {origin : MessageSource σ τ} {poller : Poller σ τ}
    {message : Message (Payload τ)}
    (h : (origin.receive poller.stamp poller.source).result = .ok message) :
    ∃ due source,
      origin.submit poller.now message.payload (poller.asked origin).source = (due, source) ∧
        poller.begin origin = (.awaiting message.headers message.payload due,
          { poller.asked origin with source := source }) := by
  have hresult : (origin.receive (poller.counted Stats.recordPoll).stamp
      (poller.counted Stats.recordPoll).source).result = .ok message := h
  simp only [begin, hresult]
  exact ⟨_, _, rfl, rfl⟩

theorem beginning_of_error {origin : MessageSource σ τ} {poller : Poller σ τ} {e : FeedError}
    (h : (origin.receive poller.stamp poller.source).result = .error e) :
    poller.beginning origin = .began :: (poller.asked origin).failing e none := by
  simp only [beginning, h]
  rfl

theorem beginning_of_ok {origin : MessageSource σ τ} {poller : Poller σ τ}
    {message : Message (Payload τ)}
    (h : (origin.receive poller.stamp poller.source).result = .ok message) :
    poller.beginning origin = [.began] := by
  simp only [beginning, h]

/-- Asking the source shows in no channel, and in the counter of polls only. -/
theorem Accounts.began {origin : MessageSource σ τ} {events : List (Event τ)} {poll next : Poll τ}
    {poller after : Poller σ τ} (h : Accounts events poll next (poller.asked origin) after) :
    Accounts (.began :: events) poll next poller after where
  output := h.output
  open_of_sent := h.open_of_sent
  channel? := h.channel?
  open_of_reported := h.open_of_reported
  owed := h.owed
  failures := h.failures
  messages := h.messages
  cutOff := h.cutOff
  polls := by
    rw [h.polls, List.countP_cons_of_pos rfl]
    change poller.stats.polls + 1 + _ = _
    rw [UInt64.ofNat_add, UInt64.add_assoc, UInt64.add_comm 1]
    rfl
  taken := h.taken
  heard := h.heard

/-- **The events of the beginning of a poll account for it.** -/
theorem begin_accounts (origin : MessageSource σ τ) (poller : Poller σ τ) :
    Accounts (poller.beginning origin) (.finished true) (poller.begin origin).1 poller
      (poller.begin origin).2 := by
  cases h : (origin.receive poller.stamp poller.source).result with
  | error e =>
      rw [begin_of_error h, beginning_of_error h]
      have hover : (Poll.finished true : Poll τ).owed = [] := rfl
      have hfail := fail_accounts Stats.countsFailure_resolution hover (poller.asked origin)
        origin.component e none
      exact hfail.began
  | ok message =>
      obtain ⟨due, source, -, hbegin⟩ := begin_of_ok h
      rw [hbegin, beginning_of_ok h]
      have hasked : Accounts [] (.finished true)
          (.awaiting message.headers message.payload due) (poller.asked origin)
          { poller.asked origin with source := source } :=
        .silent rfl (fun _ => rfl) rfl rfl rfl rfl (fun _ => rfl) nofun
      exact hasked.began

/-- One poll begins. -/
theorem began_beginning (poller : Poller σ τ) (origin : MessageSource σ τ) :
    (poller.beginning origin).countP Event.isBegan = 1 := by
  unfold beginning
  split
  · unfold failing
    split <;> rfl
  · rfl

/-! ### Advancing -/

/-- No poll begins while another one goes on. -/
theorem began_events (origin : MessageSource σ τ) (poll : Poll τ) (poller : Poller σ τ) :
    (poll.events origin poller).countP Event.isBegan = 0 := by
  have hfailing : ∀ (e : FeedError) (headers : Headers),
      (poller.failing e (some headers) : List (Event τ)).countP Event.isBegan = 0 := by
    intro e headers
    unfold failing
    split <;> rfl
  unfold Poll.events
  split
  · unfold answering
    split
    · exact hfailing _ _
    · rfl
  · exact hfailing _ _
  · split <;> rfl
  · split <;> rfl
  · split
    · rfl
    · split <;> rfl
  · rfl

theorem uncut_of_advance {origin : MessageSource σ τ} {poll next : Poll τ}
    {poller after : Poller σ τ} (h : poll.advance origin poller = some (next, after)) :
    poll.isCutOff = false := by
  cases poll with
  | finished outputOpen => cases h
  | _ => rfl

/-- The output takes a message. -/
theorem send_accounts {poll next : Poll τ} {poller after : Poller σ τ} {row : Message τ}
    {output : Channel (Message τ)} (offered : poller.output.offer row = .accepted output)
    (taken : after.output = output)
    (channel? : ∀ route, after.channel? route = poller.channel? route)
    (resolution : after.stats.resolutionFailures = poller.stats.resolutionFailures)
    (database : after.stats.databaseFailures = poller.stats.databaseFailures)
    (polls : after.stats.polls = poller.stats.polls)
    (owed : poll.owed = next.owed) (uncut : next.isCutOff = false)
    (messages : after.stats.messages + UInt64.ofNat next.unsettled =
      poller.stats.messages + UInt64.ofNat (poll.unsettled + 1)) :
    Accounts [.sent row] poll next poller after := by
  obtain ⟨hopen, rfl⟩ := Channel.eq_of_offer_accepted offered
  exact {
    output := taken
    open_of_sent := fun _ => hopen
    channel? := fun route => by
      rw [channel? route]
      cases poller.channel? route <;> simp [List.filterMap_cons]
    open_of_reported := fun _ _ _ h => absurd rfl h
    owed := by simp [owed, List.filterMap_cons]
    failures := ⟨0, 0, rfl, by rw [resolution]; simp, by rw [database]; simp⟩
    messages := fun _ => messages
    cutOff := fun h => absurd h (by simp [uncut])
    polls := by rw [polls]; simp
    taken := rfl
    heard := fun _ => rfl }

/-- A channel takes the failure that is owed. -/
theorem report_accounts {poller : Poller σ τ} {route : Route} {failure : Failure}
    {channel taking : Channel Failure} (found : poller.channel? route = some channel)
    (offered : channel.offer failure = .accepted taking) (sent : Nat) :
    Accounts [.reported route failure] (.reporting route failure sent) (.finished true) poller
      ((poller.withChannel route taking).countSent sent) := by
  obtain ⟨hopen, rfl⟩ := Channel.eq_of_offer_accepted offered
  obtain ⟨hpolls, hres, hdb, hmsg⟩ := stats_countSent (poller.withChannel route
    { channel with queue := channel.queue ++ [failure] }) sent
  rw [stats_withChannel] at hpolls hres hdb hmsg
  exact {
    output := by simp [List.filterMap_cons]
    open_of_sent := fun h => absurd rfl h
    channel? := fun other => by
      rw [channel?_countSent, channel?_withChannel]
      by_cases h : route = other
      · subst h
        simp [found]
      · rw [if_neg h]
        cases poller.channel? other <;> simp [h]
    open_of_reported := fun other second hsecond h => by
      by_cases hroute : route = other
      · subst hroute
        rw [found, Option.some_inj] at hsecond
        exact hsecond ▸ hopen
      · exact absurd (by simp [hroute]) h
    owed := rfl
    failures := ⟨0, 0, rfl, by rw [hres]; simp, by rw [hdb]; simp⟩
    messages := fun _ => by
      rw [hmsg]
      simp [Poll.unsettled, List.filterMap_cons]
    cutOff := fun h => absurd h (by simp [Poll.isCutOff])
    polls := by rw [hpolls]; simp
    taken := rfl
    heard := fun _ => rfl }

/-- The operator is told of the failure that is owed, when its channel is closed. -/
theorem log_accounts (poller : Poller σ τ) (route : Route) (failure : Failure) (sent : Nat)
    (notices : List Notice) :
    Accounts [.logged failure.error] (.reporting route failure sent) (.finished true) poller
      ((poller.tell notices).countSent sent) := by
  obtain ⟨hpolls, hres, hdb, hmsg⟩ := stats_countSent (poller.tell notices) sent
  refine .quiet rfl (fun _ => rfl) rfl (fun _ => rfl) rfl (output_countSent ..) ?_ rfl
    ⟨0, 0, rfl, hres.trans (by simp [tell]), hdb.trans (by simp [tell])⟩ hpolls ?_
    nofun
  · intro other
    simp
  · intro _
    exact (UInt64.add_zero _).trans hmsg

/-- A poll that waits for its answer goes on with what the answer is. -/
theorem answer_accounts (poller : Poller σ τ) (component : String) (headers : Headers)
    (payload : Payload τ) (due : Option Nat) (delivery : Delivery τ) (source : σ) :
    Accounts (poller.answering headers delivery) (.awaiting headers payload due)
      ({ poller with source := source }.takeAnswer component headers delivery).1 poller
      ({ poller with source := source }.takeAnswer component headers delivery).2 := by
  match delivery with
  | .single (.ok (some value)) =>
      exact .silent rfl (fun _ => rfl) rfl rfl rfl rfl (fun _ => rfl) nofun
  | .single (.ok none) =>
      refine .silent rfl (fun _ => rfl) rfl rfl rfl rfl (fun _ => ?_) nofun
      change poller.stats.messages + 0 + UInt64.ofNat 0 = poller.stats.messages + UInt64.ofNat 0
      rw [UInt64.add_zero]
  | .single (.error e) =>
      have hwaits : (Poll.awaiting headers payload due).owed = [] := rfl
      have hfail := fail_accounts Stats.countsFailure_database hwaits
        { poller with source := source } component (.database e) (some headers)
      exact Accounts.rebase hfail rfl (fun _ => rfl) rfl rfl rfl rfl
  | .stream items =>
      exact .silent rfl (fun _ => rfl) rfl rfl rfl rfl (fun _ => rfl) nofun

/-- **The events of an advance account for it.** -/
theorem advance_accounts {origin : MessageSource σ τ} {poll next : Poll τ}
    {poller after : Poller σ τ} (h : poll.advance origin poller = some (next, after)) :
    Accounts (poll.events origin poller) poll next poller after := by
  match poll with
  | .awaiting headers payload due =>
      simp only [Poll.advance] at h
      split at h
      · have hnext := Option.some.inj h
        obtain rfl : _ = next := congrArg Prod.fst hnext
        obtain rfl : _ = after := congrArg Prod.snd hnext
        exact answer_accounts poller origin.component headers payload due _ _
      · cases h
  | .delivering headers [] sent =>
      cases h
      exact .silent rfl (fun _ => rfl) rfl rfl rfl rfl (fun _ => UInt64.add_zero _)
        nofun
  | .delivering headers (.ok value :: items) sent =>
      cases h
      exact .silent rfl (fun _ => rfl) rfl rfl rfl rfl (fun _ => rfl) nofun
  | .delivering headers (.error e :: items) sent =>
      have hnext := Option.some.inj h
      obtain rfl : _ = next := congrArg Prod.fst hnext
      obtain rfl : _ = after := congrArg Prod.snd hnext
      -- the items that are left are dropped
      have hrest : (Poll.delivering headers (.error e :: items) sent).owed = [] := rfl
      exact fail_accounts Stats.countsFailure_database hrest poller origin.component (.database e)
        (some headers)
  | .sendingRow headers row items sent =>
      simp only [Poll.advance] at h
      cases hoffer : poller.output.offer row with
      | accepted output =>
          rw [hoffer] at h
          cases h
          simp only [Poll.events, hoffer]
          exact send_accounts hoffer rfl (fun _ => rfl) rfl rfl rfl rfl rfl rfl
      | full =>
          rw [hoffer] at h
          cases h
      | closed =>
          -- the poll is cut off, and what it sent before is never counted
          rw [hoffer] at h
          cases h
          simp only [Poll.events, hoffer]
          exact .silent rfl (fun _ => rfl) rfl rfl rfl rfl nofun
            (fun _ => Or.inr (Channel.isOpen_of_offer_closed hoffer))
  | .sendingOnly row =>
      simp only [Poll.advance] at h
      cases hoffer : poller.output.offer row with
      | accepted output =>
          rw [hoffer] at h
          cases h
          simp only [Poll.events, hoffer]
          exact send_accounts hoffer rfl (fun _ => rfl) rfl rfl rfl rfl rfl (UInt64.add_zero _)
      | full =>
          rw [hoffer] at h
          cases h
      | closed =>
          -- the poll is cut off, and what it sent before is never counted
          rw [hoffer] at h
          cases h
          simp only [Poll.events, hoffer]
          exact .silent rfl (fun _ => rfl) rfl rfl rfl rfl nofun
            (fun _ => Or.inr (Channel.isOpen_of_offer_closed hoffer))
  | .reporting route failure sent =>
      simp only [Poll.advance] at h
      cases hfound : poller.channel? route with
      | none =>
          rw [hfound] at h
          cases h
      | some channel =>
          rw [hfound] at h
          cases hoffer : channel.offer failure with
          | accepted taking =>
              simp only [hoffer] at h
              cases h
              simp only [Poll.events, hfound, hoffer]
              exact report_accounts hfound hoffer sent
          | full =>
              simp only [hoffer] at h
              cases h
          | closed =>
              simp only [hoffer] at h
              cases h
              simp only [Poll.events, hfound, hoffer]
              exact log_accounts poller route failure sent _
  | .finished outputOpen => cases h

end Poller

end QueryFeed
