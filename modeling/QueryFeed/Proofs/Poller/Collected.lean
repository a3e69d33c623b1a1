import QueryFeed.Proofs.Poller.Order

/-!
**One poll delivers what collecting its payload gives.**

Collecting a payload gives all its rows, or its first error.  A poll takes the rows one at a time, sends
them and looks after failures by itself, while others read its channels and time passes.  As long as
nobody closes a channel it comes to the same: the rows that it sends are the collected ones, or those
before the first error, which is then reported once, and nothing behind it is looked at.

Main definitions:

* `Poller.answered`, `Poller.collected` — what a poll is answered, and what collecting it gives;
* `Poller.Calling` — one poll that is asked for, with all that is known of it;
* `Poller.Unhindered` — a poll need not wait for anybody.

Main results:

* `Database.gather_eq`, `Delivery.collect_eq` — what collecting gives;
* `Poller.Calling.collected_eq` — what collecting gives, in terms of a poll that is over;
* `Poller.Calling.sends_collected`, `Poller.Calling.reports_collected` — a poll that is over has sent the
  collected rows, or has reported the error;
* `Poller.Calling.pollOnce` — polling once is one poll without company;
* `Poller.Calling.delivers_collected` — **one poll delivers what collecting its payload gives**.
-/

set_option autoImplicit false

namespace QueryFeed

variable {σ τ : Type}

/-! ### Collecting -/

/-- Items are gathered up to the first error. -/
theorem Database.gather_eq (items : List (Except Error τ)) :
    gather items = match firstError? items with
      | some e => .error e
      | none => .ok (leadingRows items) := by
  induction items with
  | nil => rfl
  | cons item rest ih =>
      cases item with
      | error e => rfl
      | ok value =>
          rw [gather, ih, firstError?, leadingRows]
          cases firstError? rest <;> rfl

/-- Collecting gives all rows, unless there is an error. -/
theorem Delivery.collect_eq (delivery : Delivery τ) :
    delivery.collect = match delivery.error? with
      | some e => .error e
      | none => .ok delivery.rows := by
  match delivery with
  | .single (.ok value?) => rfl
  | .single (.error e) => rfl
  | .stream items => exact Database.gather_eq items

namespace Poller

/-- The message that the source hands out, and the answer to its payload. -/
def answered (origin : MessageSource σ τ) (poller : Poller σ τ) :
    Except FeedError (Message (Payload τ) × Delivery τ) :=
  let polled := origin.receive poller.stamp poller.source
  polled.result.map fun message =>
    let (_, source) := origin.submit poller.now message.payload polled.source
    (message, (origin.answer message.payload source).1)

/-- What collecting the payload gives that the source hands out. -/
def collected (origin : MessageSource σ τ) (poller : Poller σ τ) : Except FeedError (List τ) := do
  let (_, delivery) ← poller.answered origin
  delivery.collect.mapError .database

end Poller

/-! ### One poll -/

namespace Poller

/-- One poll that is asked for, while others take their turns if there is company: what is known of the
poll, the items that it has read, its stage, and the poller that is left. -/
inductive Calling (origin : MessageSource σ τ) (company : Prop) (first : Poller σ τ) :
    PollEntry τ → List (Except Database.Error τ) → Poll τ → Poller σ τ → Prop where
  | begin : Calling origin company first (.opening origin first) [] (first.begin origin).1
      (first.begin origin).2
  | advance {entry : PollEntry τ} {read : List (Except Database.Error τ)} {poll next : Poll τ}
      {poller after : Poller σ τ} (calling : Calling origin company first entry read poll poller)
      (h : poll.advance origin poller = some (next, after)) :
      Calling origin company first
        (entry.noted (poll.answer? origin poller) (poll.events origin poller)) (read ++ poll.reads)
        next after
  | meanwhile {entry : PollEntry τ} {read : List (Except Database.Error τ)} {poll : Poll τ}
      {poller after : Poller σ τ} {events : List (Event τ)}
      (calling : Calling origin company first entry read poll poller) (others : company)
      (h : poller.Meanwhile events after) : Calling origin company first entry read poll after

end Poller

/-! ### What is known of one poll -/

namespace Poller

namespace Calling

variable {origin : MessageSource σ τ} {company : Prop} {first poller : Poller σ τ}
  {entry : PollEntry τ} {read : List (Except Database.Error τ)} {poll : Poll τ}

/-- One poll is the first of those that are asked for one after the other. -/
theorem called (h : Calling origin company first entry read poll poller) :
    ∃ events, first.Called origin 1 events poll poller := by
  induction h with
  | begin => exact ⟨_, Called.start.begin⟩
  | advance _ hadvance ih =>
      obtain ⟨events, hcalled⟩ := ih
      exact ⟨_, hcalled.advance hadvance⟩
  | meanwhile _ _ others ih =>
      obtain ⟨events, hcalled⟩ := ih
      exact ⟨_, hcalled.meanwhile others⟩

/-- What is known of a poll agrees with its stage. -/
theorem accords (h : Calling origin company first entry read poll poller) : entry.Accords poll := by
  induction h with
  | begin => exact PollEntry.accords_opening origin first
  | advance _ hadvance ih => exact ih.step (Poll.step_of_advance hadvance)
  | meanwhile _ _ _ ih => exact ih

/-- The items that were read are accounted for. -/
theorem reads (h : Calling origin company first entry read poll poller) :
    entry.Reads read poll := by
  induction h with
  | begin => exact PollEntry.reads_opening origin first
  | advance calling hadvance ih => exact ih.step calling.accords (Poll.step_of_advance hadvance)
  | meanwhile _ _ _ ih => exact ih

/-- The message of the only row has the headers of the message of the poll. -/
theorem keepsHeaders (h : Calling origin company first entry read poll poller) :
    entry.KeepsHeaders := by
  induction h with
  | begin =>
      intro message outcome _ hdelivery
      cases hdelivery
  | advance calling hadvance ih => exact ih.step calling.accords (Poll.step_of_advance hadvance)
  | meanwhile _ _ _ ih => exact ih

/-- As long as no channel is closed, the events come in order. -/
theorem tells (h : Calling origin company first entry read poll poller) (kept : poller.KeepsOpen) :
    entry.Tells poll := by
  -- a channel that is open in the end was open all the time
  induction h with
  | begin =>
      exact PollEntry.tells_opening origin ((begin_accounts origin first).keepsOpen_iff.1 kept)
  | advance _ hadvance ih =>
      have hbefore := (advance_accounts hadvance).keepsOpen_iff.1 kept
      exact (ih hbefore).step (Poll.step_of_advance hadvance) hbefore
  | meanwhile _ _ others ih => exact ih (others.keepsOpen kept)

/-- A failure that is to be reported has its channel. -/
theorem routed (h : Calling origin company first entry read poll poller) :
    ∀ route failure sent, poll = .reporting route failure sent →
      ∃ channel, poller.channel? route = some channel := by
  induction h with
  | begin => exact fun _ _ _ hreporting => Polling.routed_begin first hreporting
  | advance _ hadvance _ =>
      exact fun _ _ _ hreporting => Polling.routed_step (Poll.step_of_advance hadvance) hreporting
  | meanwhile _ _ others ih =>
      intro route failure sent hreporting
      exact others.sameRooms.exists_channel (ih route failure sent hreporting)

/-! ### What the source answers -/

theorem received_eq (h : Calling origin company first entry read poll poller) :
    entry.received = (origin.receive first.stamp first.source).result := by
  induction h with
  | begin => rfl
  | advance _ _ ih => exact ih
  | meanwhile _ _ _ ih => exact ih

/-- While a poll waits for its answer, its source is not asked for anything else. -/
theorem submitted (h : Calling origin company first entry read poll poller) {headers : Headers}
    {payload : Payload τ} {due : Option Nat} (awaiting : poll = .awaiting headers payload due) :
    origin.submit first.now payload (origin.receive first.stamp first.source).source =
      (due, poller.source) ∧ first.now ≤ poller.now := by
  induction h with
  | begin =>
      cases hresult : (origin.receive first.stamp first.source).result with
      | error e =>
          rw [begin_of_error hresult] at awaiting
          have hreport := (Poll.report_short (τ := τ)
            ((first.asked origin).counted Stats.recordResolutionFailure) origin.component e none 0).1
          rw [awaiting] at hreport
          cases hreport
      | ok message =>
          obtain ⟨due, source, hsubmit, hbegin⟩ := begin_of_ok hresult
          rw [hbegin] at awaiting ⊢
          cases awaiting
          exact ⟨hsubmit, Nat.le_refl _⟩
  | advance _ hadvance _ =>
      have hanswered := (Poll.step_of_advance hadvance).descends.1
      rw [awaiting] at hanswered
      cases hanswered
  | meanwhile _ _ others ih =>
      obtain ⟨hsubmit, hnow⟩ := ih awaiting
      rw [others.source_eq]
      exact ⟨hsubmit, Nat.le_trans hnow others.now_le⟩

/-- The answer that comes is the one that collecting the payload would get. -/
theorem answered (h : Calling origin company first entry read poll poller) {delivery : Delivery τ}
    (answer : entry.delivery = some delivery) :
    ∃ message, entry.received = .ok message ∧ first.answered origin = .ok (message, delivery) := by
  induction h with
  | begin => cases answer
  | @advance entry read poll next poller after calling hadvance ih =>
      cases poll with
      | awaiting headers payload due =>
          have hreceived : entry.received = .ok ⟨headers, payload⟩ := calling.accords.1
          refine ⟨_, hreceived, ?_⟩
          cases answer
          rw [Poller.answered, ← calling.received_eq, hreceived]
          change Except.ok (_, (origin.answer payload (origin.submit first.now payload
            (origin.receive first.stamp first.source).source).2).1) = _
          rw [(calling.submitted rfl).1]
      | delivering | sendingRow | sendingOnly | reporting | finished => exact ih answer
  | meanwhile _ _ _ ih => exact ih answer

/-- Collecting gives the rows that a poll has to send, or the error for which it has to fail. -/
theorem collected_eq (h : Calling origin company first entry read (.finished true) poller) :
    first.collected origin = match entry.error? with
      | some e => .error e
      | none => .ok entry.rows := by
  have hover : entry.Exhausted := h.accords
  cases hreceived : entry.received with
  | error e =>
      have herror : entry.error? = some e := by rw [PollEntry.error?, hreceived]
      rw [herror, collected, Poller.answered, ← h.received_eq, hreceived]
      rfl
  | ok message =>
      obtain ⟨delivery, hdelivery⟩ := hover.answered.1 ⟨message, hreceived⟩
      obtain ⟨polled, -, hanswered⟩ := h.answered hdelivery
      rw [PollEntry.error?_of_delivery hreceived hdelivery, PollEntry.rows_of_delivery hdelivery,
        collected, hanswered]
      change delivery.collect.mapError FeedError.database = _
      rw [Delivery.collect_eq]
      cases delivery.error? <;> rfl

/-- A poll that is over was answered what the source answers. -/
theorem delivery_eq (h : Calling origin company first entry read (.finished true) poller)
    {message : Message (Payload τ)} {delivery : Delivery τ}
    (answer : first.answered origin = .ok (message, delivery)) :
    entry.received = .ok message ∧ entry.delivery = some delivery := by
  have hreceived : entry.received = .ok message := by
    rw [Poller.answered] at answer
    rw [h.received_eq]
    cases hresult : (origin.receive first.stamp first.source).result with
    | error e =>
        rw [hresult] at answer
        cases answer
    | ok polled =>
        rw [hresult] at answer
        cases answer
        rfl
  obtain ⟨found, hfound⟩ := h.accords.answered.1 ⟨message, hreceived⟩
  obtain ⟨polled, -, hanswered⟩ := h.answered hfound
  rw [answer] at hanswered
  cases hanswered
  exact ⟨hreceived, hfound⟩

/-! ### Polling once -/

/-- Advancing a number of times is part of the poll. -/
theorem advances (h : Calling origin company first entry read poll poller) (steps : Nat) :
    ∃ entry read, Calling origin company first entry read (poll.advances origin steps poller).1
      (poll.advances origin steps poller).2 := by
  induction steps generalizing entry read poll poller with
  | zero => exact ⟨_, _, h⟩
  | succ steps ih =>
      cases hadvance : poll.advance origin poller with
      | none =>
          rw [Poll.advances_of_stuck hadvance]
          exact ⟨_, _, h⟩
      | some made =>
          simp only [Poll.advances, hadvance]
          exact ih (h.advance hadvance)

/-- **Polling once is one poll without company.** -/
theorem pollOnce (origin : MessageSource σ τ) (first : Poller σ τ) :
    ∃ entry read, Calling origin False first entry read (first.pollOnce origin).1
      (first.pollOnce origin).2 := by
  obtain ⟨_, _, hearly⟩ :=
    (Calling.begin : Calling origin False first _ _ _ _).advances (first.begin origin).1.stepsLeft
  exact hearly.advances _

/-- Without company, the channels grow by what is sent and reported. -/
theorem channels (h : Calling origin False first entry read poll poller) :
    poller.output = { first.output with queue := first.output.queue ++ entry.sent } ∧
      ∀ route, poller.channel? route = (first.channel? route).map fun channel =>
        { channel with
          queue := channel.queue ++ entry.events.filterMap (Event.reported? route) } := by
  induction h with
  | begin => exact ⟨(begin_accounts origin first).output, (begin_accounts origin first).channel?⟩
  | @advance entry read poll next poller after _ hadvance ih =>
      have haccounts := advance_accounts hadvance
      refine ⟨?_, ?_⟩
      · rw [haccounts.output, ih.1, PollEntry.sent_noted, List.append_assoc]
      · intro route
        rw [haccounts.channel?, ih.2, PollEntry.events_noted, List.filterMap_append, Option.map_map]
        simp only [Function.comp_def, List.append_assoc]
  | meanwhile _ others => exact others.elim

/-- Without company, no channel is closed. -/
theorem keepsOpen (h : Calling origin False first entry read poll poller) (kept : first.KeepsOpen) :
    poller.KeepsOpen := by
  obtain ⟨houtput, hchannels⟩ := h.channels
  refine kept.congr (by rw [houtput]) ?_
  intro route
  rw [hchannels, Option.map_map]
  rfl

end Calling

/-- A poll need not wait for anybody: its payload is answered at once, and there is room for the rows of
the answer and for a failure. -/
structure Unhindered (origin : MessageSource σ τ) (poller : Poller σ τ) : Prop where
  answer : ∀ message, (origin.receive poller.stamp poller.source).result = .ok message →
    ∃ due ≤ poller.now, (origin.submit poller.now message.payload
      (origin.receive poller.stamp poller.source).source).1 = some due
  rows : ∀ message delivery, poller.answered origin = .ok (message, delivery) →
    poller.output.queue.length + delivery.rows.length ≤ poller.output.capacity
  failures : ∀ route channel, poller.channel? route = some channel →
    channel.queue.length < channel.capacity

namespace Calling

variable {origin : MessageSource σ τ} {company : Prop} {first poller : Poller σ τ}
  {entry : PollEntry τ} {read : List (Except Database.Error τ)} {poll : Poll τ}

/-- The rows of the answer have room in the output. -/
theorem rows_fit (h : Calling origin company first entry read poll poller)
    (unhindered : first.Unhindered origin) {delivery : Delivery τ}
    (answer : entry.delivery = some delivery) :
    first.output.queue.length + entry.rows.length ≤ first.output.capacity := by
  obtain ⟨message, -, hanswered⟩ := h.answered answer
  rw [PollEntry.rows_of_delivery answer]
  exact unhindered.rows message delivery hanswered

/-- A poll that need not wait for anybody does not wait for its answer. -/
theorem not_awaitsAnswer (h : Calling origin company first entry read poll poller)
    (unhindered : first.Unhindered origin) : ¬poll.AwaitsAnswer poller := by
  intro hawaits
  cases poll with
  | awaiting headers payload due =>
      obtain ⟨hsubmit, hnow⟩ := h.submitted rfl
      have hreceived : entry.received = .ok ⟨headers, payload⟩ := h.accords.1
      rw [h.received_eq] at hreceived
      obtain ⟨time, htime, hdue⟩ := unhindered.answer _ hreceived
      rw [hsubmit] at hdue
      have hlater := hawaits time hdue
      omega
  | delivering | sendingRow | sendingOnly | reporting | finished => exact hawaits

/-- Without company, a poll that need not wait for anybody does not wait for room. -/
theorem not_awaitsRoom (h : Calling origin False first entry read poll poller)
    (unhindered : first.Unhindered origin) (kept : first.KeepsOpen) : ¬poll.AwaitsRoom poller := by
  intro hawaits
  obtain ⟨houtput, hchannels⟩ := h.channels
  -- the output is full only when all rows of the answer were sent
  have hfull : ∀ {row : Message τ}, poller.output.offer row = .full →
      first.output.capacity ≤ first.output.queue.length + entry.sent.length := by
    intro row hoffer
    have hroom := (Channel.full_of_offer hoffer).2
    rw [houtput, List.length_append] at hroom
    exact hroom
  cases poll with
  | sendingRow headers row items sent =>
      have hstreams : entry.Streams headers (.ok row.payload :: items) sent := h.accords
      have hfit := h.rows_fit unhindered hstreams.delivery
      have hroom := hfull hawaits
      rw [hstreams.rows, List.length_append, List.length_map, Database.leadingRows,
        List.length_cons] at hfit
      omega
  | sendingOnly row =>
      obtain ⟨-, hdelivery, hsent, -⟩ := h.accords
      have hfit := h.rows_fit unhindered hdelivery
      have hroom := hfull hawaits
      rw [PollEntry.rows_of_delivery hdelivery] at hfit
      rw [hsent] at hroom
      simp only [Delivery.rows, Option.toList_some, List.length_singleton, List.length_nil] at hfit hroom
      omega
  | reporting route failure sent =>
      obtain ⟨channel, hfound, hoffer⟩ := hawaits
      have htold : entry.events = entry.sending ++ [.failed failure.error] :=
        h.tells (h.keepsOpen kept)
      have hnothing : entry.events.filterMap (Event.reported? route) = [] := by
        rw [htold, List.filterMap_append, PollEntry.filterMap_sending rfl fun _ => rfl]
        rfl
      rw [hchannels, hnothing] at hfound
      obtain ⟨before, hbefore, rfl⟩ := Option.map_eq_some_iff.1 hfound
      have hroom : before.capacity ≤ (before.queue ++ []).length := (Channel.full_of_offer hoffer).2
      have hfit := unhindered.failures route before hbefore
      rw [List.append_nil] at hroom
      omega
  | awaiting | delivering | finished => exact hawaits

/-- A poll that is over before any channel is closed has not found its output closed. -/
theorem outputOpen_eq {outputOpen : Bool}
    (h : Calling origin company first entry read (.finished outputOpen) poller)
    (kept : poller.KeepsOpen) : outputOpen = true := by
  cases outputOpen with
  | true => rfl
  | false =>
      obtain ⟨events, hcalled⟩ := h.called
      have hclosed := hcalled.isOpen_eq_false rfl
      rw [kept.output] at hclosed
      cases hclosed

/-- A poll that is over has read its answer up to the first error. -/
theorem read_eq (h : Calling origin company first entry read (.finished true) poller)
    {message : Message (Payload τ)} {delivery : Delivery τ}
    (answer : first.answered origin = .ok (message, delivery)) :
    entry.sent.map Message.payload = delivery.rows ∧ read = delivery.needed := by
  obtain ⟨-, hdelivery⟩ := h.delivery_eq answer
  have hread : read = (entry.delivery.map Delivery.needed).getD [] := h.reads
  refine ⟨?_, ?_⟩
  · rw [← PollEntry.rows_of_delivery hdelivery]
    exact h.accords.rows
  · rw [hread, hdelivery]
    rfl

/-- A poll that gets no payload sends nothing and reads nothing. -/
theorem unresolved (h : Calling origin company first entry read (.finished true) poller)
    {e : FeedError} (refused : (origin.receive first.stamp first.source).result = .error e) :
    first.collected origin = .error e ∧ entry.sent = [] ∧ read = [] := by
  have hreceived : entry.received = .error e := h.received_eq.trans refused
  have hnone : entry.delivery = none := by
    cases hdelivery : entry.delivery with
    | none => rfl
    | some delivery =>
        obtain ⟨message, hmessage⟩ := h.accords.answered.2 ⟨delivery, hdelivery⟩
        rw [hreceived] at hmessage
        cases hmessage
  have hread : read = (entry.delivery.map Delivery.needed).getD [] := h.reads
  have hrows : entry.sent.map Message.payload = entry.rows := h.accords.rows
  refine ⟨?_, ?_, ?_⟩
  · rw [h.collected_eq, PollEntry.error?, hreceived]
  · rw [PollEntry.rows, hnone] at hrows
    exact List.map_eq_nil_iff.1 hrows
  · rw [hread, hnone]
    rfl

/-- The message of the only row is the message of the poll with this row. -/
theorem sent_of_single (h : Calling origin company first entry read (.finished true) poller)
    {message : Message (Payload τ)} {value? : Option τ}
    (answer : first.answered origin = .ok (message, .single (.ok value?))) :
    entry.sent = value?.toList.map fun value => ⟨message.headers, value⟩ := by
  obtain ⟨hreceived, hdelivery⟩ := h.delivery_eq answer
  have hrows : entry.sent.map Message.payload = value?.toList := (h.read_eq answer).1
  rw [← hrows, List.map_map]
  refine (List.map_id' _).symm.trans (List.map_congr_left ?_)
  intro row hrow
  have hheaders := h.keepsHeaders message _ hreceived hdelivery row hrow
  rw [Function.comp_apply, ← hheaders]

/-- Where all rows can be collected, a poll that is over has sent them and done nothing else. -/
theorem sends_collected (h : Calling origin company first entry read (.finished true) poller)
    (kept : poller.KeepsOpen) {rows : List τ} (collects : first.collected origin = .ok rows) :
    entry.sent.map Message.payload = rows ∧ entry.events = entry.sending := by
  have hover : entry.Exhausted := h.accords
  rw [h.collected_eq] at collects
  cases herror : entry.error? with
  | some e =>
      rw [herror] at collects
      cases collects
  | none =>
      rw [herror] at collects
      cases collects
      exact ⟨hover.rows, (h.tells kept).events_of_none hover herror⟩

/-- Where collecting fails, a poll that is over has reported this error, after all its messages. -/
theorem reports_collected (h : Calling origin company first entry read (.finished true) poller)
    (kept : poller.KeepsOpen) {e : FeedError} (fails : first.collected origin = .error e) :
    ∃ route failure, failure.error = e ∧
      entry.events = entry.sending ++ [.failed e, .reported route failure] := by
  rw [h.collected_eq] at fails
  cases herror : entry.error? with
  | none =>
      rw [herror] at fails
      cases fails
  | some other =>
      rw [herror] at fails
      cases fails
      exact (h.tells kept).events_of_some h.accords herror

/-- A poll that need not wait for anybody, and has no company, is over once it has settled. -/
theorem finished_of_stuck (h : Calling origin False first entry read poll poller)
    (unhindered : first.Unhindered origin) (kept : first.KeepsOpen)
    (stuck : poll.advance origin poller = none) : poll = .finished true := by
  rcases Poll.advances_or_waits origin h.routed with hadvances | ⟨outputOpen, rfl⟩ | hanswer | hroom
  · rw [stuck] at hadvances
    cases hadvances
  · rw [h.outputOpen_eq (h.keepsOpen kept)]
  · exact absurd hanswer (h.not_awaitsAnswer unhindered)
  · exact absurd hroom (h.not_awaitsRoom unhindered kept)

/-- **One poll delivers what collecting its payload gives**, as long as no channel is closed.  Whatever
others do in the meantime, a poll that is over has gone well.  Where all rows can be collected, it has
sent them in their order and done nothing else.  Where collecting fails, it has reported this error
once, after all its messages and as the last event.  A query without a text sends nothing.  The only row
is sent with the headers of the message of the poll, and an error in its place sends nothing; of a
stream, the rows before the first error are sent, and nothing behind it is read.  A poll that is not
over goes on, with fewer steps left, unless it waits for its answer or for room; and polling once,
where it need not wait, is such a poll, which puts its messages and its report into the channels. -/
theorem delivers_collected (origin : MessageSource σ τ) (first : Poller σ τ) :
    (∀ company entry read outputOpen after,
      Calling origin company first entry read (.finished outputOpen) after → after.KeepsOpen →
        outputOpen = true ∧
        (∀ rows, first.collected origin = .ok rows →
          entry.sent.map Message.payload = rows ∧ entry.events = entry.sending) ∧
        (∀ e, first.collected origin = .error e → ∃ route failure, failure.error = e ∧
          entry.events = entry.sending ++ [.failed e, .reported route failure]) ∧
        (∀ e, (origin.receive first.stamp first.source).result = .error e →
          first.collected origin = .error e ∧ entry.sent = [] ∧ read = []) ∧
        (∀ message value?, first.answered origin = .ok (message, .single (.ok value?)) →
          entry.sent = value?.toList.map fun value => ⟨message.headers, value⟩) ∧
        (∀ message e, first.answered origin = .ok (message, .single (.error e)) →
          entry.sent = []) ∧
        ∀ message items, first.answered origin = .ok (message, .stream items) →
          (∀ rows : List τ, items = rows.map .ok →
            entry.sent.map Message.payload = rows ∧ read = items) ∧
          ∀ (rows : List τ) e rest, items = rows.map .ok ++ .error e :: rest →
            entry.sent.map Message.payload = rows ∧ read = rows.map .ok ++ [.error e]) ∧
      (∀ company entry read poll poller, Calling origin company first entry read poll poller →
        (∃ outputOpen, poll = .finished outputOpen) ∨ poll.AwaitsAnswer poller ∨
          poll.AwaitsRoom poller ∨ ∃ next after, poll.advance origin poller = some (next, after) ∧
            next.isAwaiting = false ∧ (poll.isAwaiting = true ∨ next.stepsLeft < poll.stepsLeft)) ∧
      (first.KeepsOpen → first.Unhindered origin → ∃ entry read after,
        first.pollOnce origin = (.finished true, after) ∧
          Calling origin False first entry read (.finished true) after ∧ after.KeepsOpen ∧
          after.output.queue = first.output.queue ++ entry.sent ∧
          ∀ route, after.channel? route = (first.channel? route).map fun channel =>
            { channel with
              queue := channel.queue ++ entry.events.filterMap (Event.reported? route) }) := by
  refine ⟨?_, ?_, ?_⟩
  · intro company entry read outputOpen after h kept
    obtain rfl := h.outputOpen_eq kept
    refine ⟨rfl, fun rows => h.sends_collected kept, fun e => h.reports_collected kept,
      fun e => h.unresolved, fun message value? => h.sent_of_single, ?_, ?_⟩
    · intro message e hanswer
      exact List.map_eq_nil_iff.1 (h.read_eq hanswer).1
    · intro message items hanswer
      obtain ⟨hrows, hread⟩ := h.read_eq hanswer
      refine ⟨?_, ?_⟩
      · rintro rows rfl
        have hall := Delivery.rows_append rows []
        have hneeded := Delivery.needed_append rows []
        rw [List.append_nil] at hall hneeded
        rw [hrows, hread, hall, hneeded]
        exact ⟨List.append_nil _, List.append_nil _⟩
      · rintro rows e rest rfl
        rw [hrows, hread, Delivery.rows_append, Delivery.needed_append]
        exact ⟨List.append_nil _, rfl⟩
  · intro company entry read poll poller h
    rcases Poll.advances_or_waits origin h.routed with hadvances | hover | hanswer | hroom
    · obtain ⟨⟨next, after⟩, hadvance⟩ := Option.isSome_iff_exists.1 hadvances
      exact Or.inr (Or.inr (Or.inr ⟨next, after, hadvance, (Poll.step_of_advance hadvance).descends⟩))
    · exact Or.inl hover
    · exact Or.inr (Or.inl hanswer)
    · exact Or.inr (Or.inr (Or.inl hroom))
  · intro kept unhindered
    obtain ⟨entry, read, h⟩ := pollOnce origin first
    have hover : (first.pollOnce origin).1 = .finished true :=
      h.finished_of_stuck unhindered kept (Poll.advance_settle origin _ _)
    rw [hover] at h
    obtain ⟨houtput, hchannels⟩ := h.channels
    exact ⟨entry, read, _, Prod.ext hover rfl, h, h.keepsOpen kept, by rw [houtput], hchannels⟩

/-- A poller whose next answer is a stream with an error between two rows. -/
def brokenStream : Poller Script Json :=
  ⟨[.ok (.stream [.ok (.int 1), .error .closed, .ok (.int 2)])], .empty 4, some (.empty 4), [], .zero,
    0, 0, []⟩

theorem delivers_collected_brokenStream :
    brokenStream.KeepsOpen ∧ brokenStream.Unhindered (.scripted []) ∧
      ∃ (entry : PollEntry Json) (read : List (Except Database.Error Json)) (after : Poller _ _),
        brokenStream.pollOnce (.scripted []) = (.finished true, after) ∧
        entry.sent.map Message.payload = [.int 1] ∧ read = [.ok (.int 1), .error .closed] ∧
        (∃ route failure, failure.error = .database .closed ∧
          entry.events = entry.sending ++ [.failed (.database .closed), .reported route failure]) ∧
        after.output.queue = entry.sent := by
  have hkept : brokenStream.KeepsOpen := by
    refine ⟨rfl, ⟨_, rfl⟩, ?_⟩
    intro route channel hfound
    cases route with
    | standard => cases hfound; rfl
    | named name => cases hfound
  have hunhindered : brokenStream.Unhindered (.scripted []) := by
    refine ⟨fun message _ => ⟨_, Nat.le_refl _, rfl⟩, ?_, ?_⟩
    · intro message delivery hanswer
      cases hanswer
      decide
    · intro route channel hfound
      cases route with
      | standard => cases hfound; decide
      | named name => cases hfound
  obtain ⟨hdelivers, -, honce⟩ := delivers_collected (.scripted []) brokenStream
  obtain ⟨entry, read, after, hpolled, h, hafter, hqueue, -⟩ := honce hkept hunhindered
  obtain ⟨-, -, hfailed, -, -, -, hstream⟩ := hdelivers False entry read true after h hafter
  obtain ⟨hsent, hread⟩ := (hstream _ _ rfl).2 [.int 1] .closed [.ok (.int 2)] rfl
  exact ⟨hkept, hunhindered, entry, read, after, hpolled, hsent, hread, hfailed _ rfl, hqueue⟩

end Calling

end Poller

end QueryFeed
