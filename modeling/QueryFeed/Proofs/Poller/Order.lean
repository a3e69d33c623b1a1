import QueryFeed.Proofs.Poller.Calls
import QueryFeed.Proofs.Poller.Room

/-!
**A poll sends first, and then fails.**

As long as nobody closes a channel, what can be noticed of a poll comes in one order: the poll begins,
it sends messages, and if it fails, it reports its failure and is over.  The items of its answer are
read one at a time, each row right before it is sent, and nothing is read behind the first error.

Main definitions:

* `Poller.KeepsOpen` — no channel is closed, and there is one for failures;
* `PollEntry.Tells` — the events of a poll at each of its stages;
* `Poll.reads`, `Delivery.needed`, `PollEntry.Reads` — the items that a poll reads, those that it has to
  read, and those that it has read at each of its stages;
* `PollEntry.KeepsHeaders` — the only row is sent with the headers of the poll.

Main results:

* `Poller.Accounts.keepsOpen_iff`, `Poller.Meanwhile.keepsOpen` — channels that are open now were open
  before;
* `PollEntry.Tells.step` — **every step of a poll keeps the order of events**;
* `PollEntry.Reads.step` — **every step of a poll keeps the account of the items**;
* `PollEntry.KeepsHeaders.step` — every step of a poll keeps the headers of the only row.
-/

set_option autoImplicit false

namespace QueryFeed

variable {σ τ : Type}

/-! ### Channels that stay open -/

namespace Poller

/-- No channel was closed, and there is one for failures. -/
structure KeepsOpen (poller : Poller σ τ) : Prop where
  output : poller.output.isOpen = true
  standard : ∃ channel, poller.channel? .standard = some channel
  errors : ∀ route channel, poller.channel? route = some channel → channel.isOpen = true

namespace KeepsOpen

/-- It only matters which channels there are, and which of them are open. -/
theorem congr {poller other : Poller σ τ} (h : poller.KeepsOpen)
    (output : other.output.isOpen = poller.output.isOpen)
    (channel? : ∀ route, (other.channel? route).map Channel.isOpen =
      (poller.channel? route).map Channel.isOpen) : other.KeepsOpen := by
  refine ⟨output.trans h.output, ?_, ?_⟩
  · obtain ⟨channel, hfound⟩ := h.standard
    have hother := channel? .standard
    rw [hfound] at hother
    obtain ⟨second, hsecond, -⟩ := Option.map_eq_some_iff.1 hother
    exact ⟨second, hsecond⟩
  · intro route channel hfound
    have hother := channel? route
    rw [hfound] at hother
    obtain ⟨before, hbefore, hopen⟩ := Option.map_eq_some_iff.1 hother.symm
    rw [← hopen, h.errors route before hbefore]

/-- Every failure has a channel to go to. -/
theorem exists_channel {poller : Poller σ τ} (h : poller.KeepsOpen) (failed : Option Headers) :
    ∃ channel, poller.channel? (poller.routeFor failed).1 = some channel := by
  unfold routeFor
  cases failed.bind (·.get? errorChannel) with
  | none => exact h.standard
  | some name =>
      cases hfound : Table.get? poller.namedErrors name with
      | none =>
          simp only [Table.contains, hfound]
          exact h.standard
      | some channel =>
          simp only [Table.contains, hfound]
          exact ⟨channel, hfound⟩

/-- A poll that fails is about to report its failure. -/
theorem failing {poller : Poller σ τ} (h : poller.KeepsOpen) (e : FeedError)
    (failed : Option Headers) : (poller.failing e failed : List (Event τ)) = [.failed e] := by
  obtain ⟨channel, hfound⟩ := h.exists_channel failed
  simp only [Poller.failing, hfound]

end KeepsOpen

/-- A stage of a poll neither opens nor closes a channel. -/
theorem Accounts.keepsOpen_iff {events : List (Event τ)} {poll next : Poll τ}
    {poller after : Poller σ τ} (h : Accounts events poll next poller after) :
    after.KeepsOpen ↔ poller.KeepsOpen := by
  have houtput : after.output.isOpen = poller.output.isOpen := by rw [h.output]
  have hchannels : ∀ route, (after.channel? route).map Channel.isOpen =
      (poller.channel? route).map Channel.isOpen := by
    intro route
    rw [h.channel?, Option.map_map]
    rfl
  constructor
  · intro hafter
    exact hafter.congr houtput.symm fun route => (hchannels route).symm
  · intro hbefore
    exact hbefore.congr houtput hchannels

namespace Meanwhile

variable {poller after : Poller σ τ} {events : List (Event τ)}

/-- Others add no channel, and take none away. -/
theorem sameRooms (h : poller.Meanwhile events after) : poller.SameRooms after := by
  cases h with
  | takeMessage | closeOutput | pass => exact ⟨rfl, fun route => by cases route <;> rfl⟩
  | takeFailure found | closeErrors found => exact sameRooms_withChannel found rfl
  | tell => exact ⟨rfl, fun route => by rw [channel?_tell]⟩

/-- Others leave the source alone. -/
theorem source_eq (h : poller.Meanwhile events after) : after.source = poller.source := by
  cases h with
  | takeMessage | closeOutput | pass | tell => rfl
  | @takeFailure route | @closeErrors route => cases route <;> rfl

/-- Time does not go backwards. -/
theorem now_le (h : poller.Meanwhile events after) : poller.now ≤ after.now := by
  cases h with
  | takeMessage | closeOutput | tell => exact Nat.le_refl _
  | @takeFailure route | @closeErrors route => cases route <;> exact Nat.le_refl _
  | pass time => exact Nat.le_max_left _ _

/-- Channels that are open now were open before. -/
theorem keepsOpen (h : poller.Meanwhile events after) (kept : after.KeepsOpen) :
    poller.KeepsOpen := by
  cases h with
  | takeMessage | pass | tell => exact kept.congr rfl fun route => by cases route <;> rfl
  | @takeFailure route channel failure rest found queue =>
      refine kept.congr (by rw [output_withChannel]) ?_
      intro other
      rw [channel?_withChannel]
      split
      · rename_i hsame
        rw [← hsame, found]
        rfl
      · rfl
  | closeOutput => cases kept.output
  | @closeErrors route channel found =>
      -- the channel that was closed would be found closed
      have hclosed := kept.errors route channel.close
        (by rw [channel?_withChannel, if_pos rfl])
      cases hclosed

end Meanwhile

end Poller

/-! ### The order of events -/

namespace PollEntry

/-- The events of a poll that has sent messages and done nothing else. -/
def sending (entry : PollEntry τ) : List (Event τ) := .began :: entry.sent.map .sent

/-- The events of a poll at each of its stages, as long as its channels are open: a failure comes after
all messages, and its report is the last event. -/
def Tells (entry : PollEntry τ) : Poll τ → Prop
  | .reporting _ failure _ => entry.events = entry.sending ++ [.failed failure.error]
  | .finished true => entry.events = entry.sending ∨ ∃ route failure,
      entry.events = entry.sending ++ [.failed failure.error, .reported route failure]
  | _ => entry.events = entry.sending

theorem events_noted (entry : PollEntry τ) (answer : Option (Delivery τ)) (events : List (Event τ)) :
    (entry.noted answer events).events = entry.events ++ events := rfl

theorem sending_noted (entry : PollEntry τ) (answer : Option (Delivery τ))
    (events : List (Event τ)) :
    (entry.noted answer events).sending =
      entry.sending ++ (events.filterMap Event.sent?).map .sent := by
  rw [sending, sent_noted, List.map_append]
  rfl

/-- A poll that only sends has neither failed nor reported anything. -/
theorem filterMap_sending {β : Type} {view : Event τ → Option β} (began : view .began = none)
    (sent : ∀ message, view (.sent message) = none) (entry : PollEntry τ) :
    entry.sending.filterMap view = [] := by
  rw [sending, List.filterMap_cons_none began, List.filterMap_map]
  exact List.filterMap_eq_nil_iff.2 fun message _ => sent message

theorem filterMap_failed?_sending (entry : PollEntry τ) :
    entry.sending.filterMap Event.failed? = [] :=
  filterMap_sending rfl (fun _ => rfl) entry

/-- A poll that fails reports its failure after all its messages. -/
theorem tells_report {entry : PollEntry τ} (told : entry.events = entry.sending)
    (answer : Option (Delivery τ)) {poller : Poller σ τ} (kept : poller.KeepsOpen)
    (component : String) (e : FeedError) (failed : Option Headers) (sent : Nat) :
    (entry.noted answer (poller.failing e failed)).Tells
      (poller.report component e failed sent).1 := by
  obtain ⟨channel, hfound⟩ := kept.exists_channel failed
  rw [kept.failing, Poller.report_of_some hfound, Tells, events_noted, sending_noted, told,
    Poller.failure_error]
  exact congrArg (· ++ _) (List.append_nil _).symm

/-- The events of a poll that begins. -/
theorem tells_opening (origin : MessageSource σ τ) {poller : Poller σ τ} (kept : poller.KeepsOpen) :
    (opening origin poller).Tells (poller.begin origin).1 := by
  cases h : (origin.receive poller.stamp poller.source).result with
  | error e =>
      have hasked : ((poller.asked origin).counted Stats.recordResolutionFailure).KeepsOpen :=
        kept.congr rfl fun route => by cases route <;> rfl
      have hentry : opening origin poller = noted ⟨.error e, none, [.began]⟩ none
          (((poller.asked origin).counted Stats.recordResolutionFailure).failing e none) := by
        rw [opening, h, Poller.beginning_of_error h, Poller.failing_counted]
        rfl
      rw [hentry, Poller.begin_of_error h]
      exact tells_report rfl none hasked origin.component e none 0
  | ok message =>
      obtain ⟨due, source, -, hbegin⟩ := Poller.begin_of_ok h
      rw [hbegin, opening, Poller.beginning_of_ok h]
      rfl

/-- **Every step of a poll keeps the order of events**, as long as its channels are open. -/
theorem Tells.step {origin : MessageSource σ τ} {entry : PollEntry τ} {poll next : Poll τ}
    {answer : Option (Delivery τ)} {events : List (Event τ)} {poller after : Poller σ τ}
    (h : entry.Tells poll) (step : Poll.Step origin poller poll answer events next after)
    (kept : poller.KeepsOpen) : (entry.noted answer events).Tells next := by
  -- an answer by itself changes neither the events nor the messages
  have hquiet : entry.events = entry.sending →
      (entry.noted answer []).events = (entry.noted answer []).sending := by
    intro htold
    rw [events_noted, sending_noted, htold]
    rfl
  have hfailing : ∀ (source : σ) (e : Database.Error) (headers : Headers) (sent : Nat),
      entry.events = entry.sending →
        (entry.noted answer (poller.failing (.database e) (some headers))).Tells
          ({ poller with source := source }.failDatabase origin.component e headers sent).1 := by
    intro source e headers sent htold
    have hkept : ({ poller with source := source }.counted Stats.recordDatabaseFailure).KeepsOpen :=
      kept.congr rfl fun route => by cases route <;> rfl
    have hreport := tells_report htold answer hkept origin.component (.database e) (some headers) sent
    rw [Poller.failing_counted] at hreport
    exact hreport
  cases step with
  | only | stream | row | cutRow | cutOnly => exact hquiet h
  | nothing | through => exact Or.inl (hquiet h)
  | refused => exact hfailing _ _ _ _ h
  | broken => exact hfailing _ _ _ _ h
  | @sentRow headers row items sent output offer =>
      change (entry.noted none [.sent row]).events = (entry.noted none [.sent row]).sending
      rw [events_noted, sending_noted, show entry.events = entry.sending from h]
      rfl
  | @sentOnly row output offer =>
      left
      rw [events_noted, sending_noted, show entry.events = entry.sending from h]
      rfl
  | @reported route failure sent channel taking found offer =>
      right
      refine ⟨route, failure, ?_⟩
      have htold : entry.events = entry.sending ++ [.failed failure.error] := h
      rw [events_noted, sending_noted, htold, List.append_assoc]
      exact congrArg (· ++ _) (List.append_nil _).symm
  | logged found offer =>
      -- only a closed channel refuses a failure
      have hclosed := Channel.isOpen_of_offer_closed offer
      rw [kept.errors _ _ found] at hclosed
      cases hclosed

/-- A poll that is over and has not failed has only sent messages. -/
theorem Tells.events_of_none {entry : PollEntry τ} (h : entry.Tells (.finished true))
    (exhausted : entry.Exhausted) (unfailed : entry.error? = none) : entry.events = entry.sending := by
  rcases h with hevents | ⟨route, failure, hevents⟩
  · exact hevents
  · have hfailed := exhausted.failed
    rw [failed, hevents, List.filterMap_append, filterMap_failed?_sending, unfailed] at hfailed
    cases hfailed

/-- A poll that is over and has failed has reported its failure, after all its messages. -/
theorem Tells.events_of_some {entry : PollEntry τ} (h : entry.Tells (.finished true))
    (exhausted : entry.Exhausted) {e : FeedError} (unfit : entry.error? = some e) :
    ∃ route failure, failure.error = e ∧
      entry.events = entry.sending ++ [.failed e, .reported route failure] := by
  have hfailed := exhausted.failed
  rcases h with hevents | ⟨route, failure, hevents⟩
  · rw [failed, hevents, filterMap_failed?_sending, unfit] at hfailed
    cases hfailed
  · rw [failed, hevents, List.filterMap_append, filterMap_failed?_sending, unfit] at hfailed
    obtain rfl : failure.error = e := List.singleton_inj.1 hfailed
    exact ⟨route, failure, rfl, hevents⟩

/-! ### Items that were read -/

end PollEntry

/-- The items of a stream up to its first error. -/
def Delivery.needed : Delivery τ → List (Except Database.Error τ)
  | .single _ => []
  | .stream items =>
      (Database.leadingRows items).map .ok ++ (Database.firstError? items).toList.map .error

/-- The rows at the beginning of a stream are among its rows. -/
theorem Delivery.rows_append (rows : List τ) (items : List (Except Database.Error τ)) :
    (Delivery.stream (rows.map .ok ++ items)).rows = rows ++ (Delivery.stream items).rows :=
  Database.leadingRows_append rows items

/-- The rows at the beginning of a stream have to be read. -/
theorem Delivery.needed_append (rows : List τ) (items : List (Except Database.Error τ)) :
    (Delivery.stream (rows.map .ok ++ items)).needed =
      rows.map .ok ++ (Delivery.stream items).needed := by
  rw [needed, Database.leadingRows_append, Database.firstError?_append, List.map_append,
    List.append_assoc]
  rfl

/-- The item that a stage takes from the answer. -/
def Poll.reads : Poll τ → List (Except Database.Error τ)
  | .delivering _ (item :: _) _ => [item]
  | _ => []

namespace PollEntry

/-- The items that a poll has read at each of its stages: the rows that it has sent, the row that it is
about to send, and in the end the first error. -/
def Reads (entry : PollEntry τ) (read : List (Except Database.Error τ)) : Poll τ → Prop
  | .awaiting _ _ _ | .sendingOnly _ => read = []
  | .delivering _ _ _ => read = (entry.sent.map Message.payload).map .ok
  | .sendingRow _ row _ _ => read = (entry.sent.map Message.payload).map .ok ++ [.ok row.payload]
  | .reporting _ _ _ | .finished true => read = (entry.delivery.map Delivery.needed).getD []
  | .finished false => True

/-- Nothing is read of an answer that did not come. -/
theorem reads_report {entry : PollEntry τ} {read : List (Except Database.Error τ)}
    (needed : read = (entry.delivery.map Delivery.needed).getD []) (poller : Poller σ τ)
    (component : String) (e : FeedError) (failed : Option Headers) (sent : Nat) :
    entry.Reads read (poller.report component e failed sent).1 := by
  rcases poller.report_cases (τ := τ) component e failed sent with ⟨-, hreport⟩ | ⟨-, hreport⟩
  · rw [hreport]
    exact needed
  · rw [hreport]
    exact needed

theorem reads_opening (origin : MessageSource σ τ) (poller : Poller σ τ) :
    (opening origin poller).Reads [] (poller.begin origin).1 := by
  cases h : (origin.receive poller.stamp poller.source).result with
  | error e =>
      rw [Poller.begin_of_error h]
      exact reads_report rfl _ _ _ _ _
  | ok message =>
      obtain ⟨due, source, -, hbegin⟩ := Poller.begin_of_ok h
      rw [hbegin]
      rfl

/-- **Every step of a poll keeps the account of the items that were read.** -/
theorem Reads.step {origin : MessageSource σ τ} {entry : PollEntry τ}
    {read : List (Except Database.Error τ)} {poll next : Poll τ} {answer : Option (Delivery τ)}
    {events : List (Event τ)} {poller after : Poller σ τ} (h : entry.Reads read poll)
    (accords : entry.Accords poll)
    (step : Poll.Step origin poller poll answer events next after) :
    (entry.noted answer events).Reads (read ++ poll.reads) next := by
  cases step with
  | only | nothing => rw [show read = [] from h]; rfl
  | refused =>
      rw [show read = [] from h]
      exact reads_report rfl _ _ _ _ _
  | stream =>
      obtain ⟨-, -, hsent, -⟩ := accords
      rw [show read = [] from h, Reads, sent_noted, hsent]
      rfl
  | through =>
      -- the rows that were sent are all there were
      rw [noted_nothing]
      have hread : read = (entry.sent.map Message.payload).map .ok := h
      rw [Reads, accords.delivery, hread, Option.map_some, Option.getD_some, Delivery.needed_append]
      rfl
  | row =>
      rw [noted_nothing]
      exact congrArg (· ++ _) h
  | @broken headers e items sent =>
      have hread : read = (entry.sent.map Message.payload).map .ok := h
      refine reads_report ?_ _ _ _ _ _
      change _ = (entry.delivery.map Delivery.needed).getD []
      rw [accords.delivery, hread, Option.map_some, Option.getD_some, Delivery.needed_append]
      rfl
  | @sentRow headers row items sent output offer =>
      have hread : read = (entry.sent.map Message.payload).map .ok ++ [.ok row.payload] := h
      rw [Reads, sent_noted, hread]
      simp [Poll.reads]
  | cutRow | cutOnly => trivial
  | sentOnly offer =>
      obtain ⟨-, hdelivery, -, -⟩ := accords
      rw [show read = [] from h, Reads, show (entry.noted none _).delivery = _ from hdelivery]
      rfl
  | reported found offer | logged found offer =>
      rw [show read ++ Poll.reads _ = read from List.append_nil _]
      exact h

/-! ### Messages of single rows -/

/-- The message of the only row has the headers of the message of the poll. -/
def KeepsHeaders (entry : PollEntry τ) : Prop :=
  ∀ message outcome, entry.received = .ok message → entry.delivery = some (.single outcome) →
    ∀ row ∈ entry.sent, row.headers = message.headers

/-- **Every step of a poll keeps the headers of the only row.** -/
theorem KeepsHeaders.step {origin : MessageSource σ τ} {entry : PollEntry τ} {poll next : Poll τ}
    {answer : Option (Delivery τ)} {events : List (Event τ)} {poller after : Poller σ τ}
    (h : entry.KeepsHeaders) (accords : entry.Accords poll)
    (step : Poll.Step origin poller poll answer events next after) :
    (entry.noted answer events).KeepsHeaders := by
  intro message outcome hreceived hdelivery row hrow
  -- an answer comes before any message, and nothing else changes what was answered
  have hquiet : events.filterMap Event.sent? = [] → answer = none ∨ entry.sent = [] →
      row.headers = message.headers := by
    rintro hsilent (rfl | hunsent)
    · rw [sent_noted_of_nil hsilent] at hrow
      exact h message outcome hreceived hdelivery row hrow
    · rw [sent_noted_of_nil hsilent, hunsent] at hrow
      cases hrow
  cases step with
  | only | nothing | stream => exact hquiet rfl (Or.inr accords.2.2.1)
  | refused => exact hquiet (poller.failing_silent _ _).1 (Or.inr accords.2.2.1)
  | broken => exact hquiet (poller.failing_silent _ _).1 (Or.inl rfl)
  | through | row | cutRow | cutOnly | reported | logged => exact hquiet rfl (Or.inl rfl)
  | sentRow =>
      have hstream : entry.delivery = some (.single outcome) := hdelivery
      rw [accords.delivery] at hstream
      cases hstream
  | @sentOnly only output offer =>
      obtain ⟨⟨payload, hpolled⟩, -, hunsent, -⟩ := accords
      rw [sent_noted, hunsent] at hrow
      obtain rfl : row = only := List.mem_singleton.1 hrow
      have hsame : entry.received = .ok message := hreceived
      rw [hpolled, Except.ok.injEq] at hsame
      rw [← hsame]

end PollEntry

end QueryFeed
