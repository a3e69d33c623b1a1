import QueryFeed.Proofs.Poller.Identities
import QueryFeed.Proofs.Poller.Labels
import QueryFeed.Proofs.Text.Numeral

/-!
**Every message can be traced to its poll and its place.**

The labels of the messages and the identities of the polls together tell which message belongs to which
poll.  So whoever gets the messages in any order can put the rows of each poll together again.

Main definitions:

* `Message.place`, `Message.refersTo` — the place that a message tells, and the message that it refers
  back to;
* `gathered` — the messages of a poll in the order of their places.

Main results:

* `Polling.Documented.gathered_eq` — gathering by labels gives back the messages of a poll;
* `Polling.Documented.messages_traced` — **every message can be traced to its poll and its place**.
-/

set_option autoImplicit false

namespace QueryFeed

variable {σ τ : Type}

/-! ### Gathering messages by their labels -/

/-- The place that a message tells; zero where it tells none. -/
def Message.place (message : Message τ) : Nat :=
  ((message.headers.get? sequenceNumber).bind fun text => Text.numeral? 10 text.toList).getD 0

/-- Whether a message refers back to an identity. -/
def Message.refersTo (id : MessageId) (message : Message τ) : Bool :=
  message.headers.get? correlationId == some id.text

/-- The messages that refer back to an identity, in the order of their places. -/
def gathered (id : MessageId) (messages : List (Message τ)) : List (Message τ) :=
  (messages.filter (Message.refersTo id)).mergeSort
    fun first second => decide (first.place ≤ second.place)

theorem Message.place_of_row {row : Message τ} {headers : Headers} {stamp : Stamp} {place : Nat}
    (h : row.headers = headers.ofRow stamp place) : row.place = place := by
  rw [Message.place, h, Headers.sequenceNumber_ofRow, Option.bind_some, String.toList_ofList,
    Text.numeral?_decimal]
  rfl

/-- Whatever the order in which messages come, gathering sorts those that belong together by their
places. -/
theorem gathered_of_perm {id : MessageId} {messages output : List (Message τ)}
    (perm : (output.filter (Message.refersTo id)).Perm messages)
    (ascending : messages.Pairwise fun first second => first.place < second.place) :
    gathered id output = messages := by
  have hsorted : (gathered id output).Pairwise fun first second =>
      decide (first.place ≤ second.place) = true := by
    refine List.pairwise_mergeSort ?_ ?_ _
    · intro a b c hab hbc
      exact decide_eq_true (Nat.le_trans (of_decide_eq_true hab) (of_decide_eq_true hbc))
    · intro a b
      simpa using Nat.le_total a.place b.place
  refine List.Perm.eq_of_pairwise ?_ hsorted
    (ascending.imp fun h => decide_eq_true (Nat.le_of_lt h)) ((List.mergeSort_perm _ _).trans perm)
  -- two messages with the same place are the same one
  intro first second hfirst hsecond hle hge
  have hplace : first.place = second.place :=
    Nat.le_antisymm (of_decide_eq_true hle) (of_decide_eq_true hge)
  have hmem : first ∈ messages := ((List.mergeSort_perm _ _).trans perm).subset hfirst
  obtain ⟨i, hi, rfl⟩ := List.getElem_of_mem hmem
  obtain ⟨j, hj, rfl⟩ := List.getElem_of_mem hsecond
  have hless := List.pairwise_iff_getElem.1 ascending
  rcases Nat.lt_trichotomy i j with hij | rfl | hji
  · exact absurd hplace (Nat.ne_of_lt (hless i j hi hj hij))
  · rfl
  · exact absurd hplace.symm (Nat.ne_of_lt (hless j i hj hi hji))

/-! ### Polls and their messages -/

/-- Only a stream, and an only row, have rows. -/
theorem Delivery.isStream_of_rows {delivery : Delivery τ} (rows : delivery.rows ≠ [])
    (streams : ∀ value, delivery ≠ .single (.ok (some value))) :
    ∃ items, delivery = .stream items := by
  match delivery with
  | .stream items => exact ⟨items, rfl⟩
  | .single (.ok (some value)) => exact absurd rfl (streams value)
  | .single (.ok none) => exact absurd rfl rows
  | .single (.error e) => exact absurd rfl rows

namespace PollEntry

/-- Whether the answer to a poll was a stream. -/
def isStream (entry : PollEntry τ) : Bool :=
  match entry.delivery with
  | some (.stream _) => true
  | _ => false

section

variable {entry : PollEntry τ} {polled : Message (Payload τ)}
  {items : List (Except Database.Error τ)}

theorem Labelled.correlationId_of_mem (h : entry.Labelled) (received : entry.received = .ok polled)
    (delivery : entry.delivery = some (.stream items)) {message : Message τ}
    (mem : message ∈ entry.sent) :
    message.headers.get? correlationId = some polled.headers.id.text := by
  obtain ⟨place, hplace⟩ := List.mem_iff_getElem?.1 mem
  obtain ⟨stamp, hheaders⟩ := h.rows polled items received delivery place message hplace
  rw [hheaders, Headers.correlationId_ofRow]

/-- All rows of a stream refer back to the message of their poll. -/
theorem Labelled.filter_own (h : entry.Labelled) (received : entry.received = .ok polled)
    (delivery : entry.delivery = some (.stream items)) :
    entry.sent.filter (Message.refersTo polled.headers.id) = entry.sent := by
  rw [List.filter_eq_self]
  intro message hmessage
  rw [Message.refersTo, h.correlationId_of_mem received delivery hmessage, beq_self_eq_true]

/-- No row of a stream refers back to another message. -/
theorem Labelled.filter_foreign {poll : Poll τ} (h : entry.Labelled) (accords : entry.Accords poll)
    (stream : ∀ value, entry.delivery ≠ some (.single (.ok (some value)))) {id : MessageId}
    (differs : ∀ message, entry.received = .ok message → message.headers.id.text ≠ id.text) :
    entry.sent.filter (Message.refersTo id) = [] := by
  rw [List.filter_eq_nil_iff]
  intro message hmessage hrefers
  obtain ⟨⟨asked, hasked⟩, answer, hanswer, hrows⟩ := accords.of_mem_sent hmessage
  obtain ⟨items, rfl⟩ := Delivery.isStream_of_rows hrows fun value hvalue =>
    stream value (hvalue ▸ hanswer)
  rw [Message.refersTo, h.correlationId_of_mem hasked hanswer hmessage, beq_iff_eq,
    Option.some_inj] at hrefers
  exact differs asked hasked hrefers

/-- The places of the rows of a poll ascend. -/
theorem Labelled.places (h : entry.Labelled) (received : entry.received = .ok polled)
    (delivery : entry.delivery = some (.stream items)) :
    entry.sent.Pairwise fun first second => first.place < second.place := by
  have hplace : ∀ i (hi : i < entry.sent.length), entry.sent[i].place = i + 1 := by
    intro i hi
    obtain ⟨stamp, hheaders⟩ := h.rows polled items received delivery i entry.sent[i]
      (List.getElem?_eq_getElem hi)
    exact Message.place_of_row hheaders
  rw [List.pairwise_iff_getElem]
  intro i j hi hj hij
  rw [hplace i hi, hplace j hj]
  exact Nat.succ_lt_succ hij

end

end PollEntry

/-- The messages and the reports of a poll tell where they belong: the rows of a stream refer back to
the message of the poll and are numbered from one on, keep every other text of the source, and have
identities of their own; and the reports refer back to the message of the poll as the one that
failed. -/
structure PollEntry.Traceable (texts : Table String) (entry : PollEntry τ)
    (polled : Message (Payload τ)) : Prop where
  correlated : ∀ items, entry.delivery = some (.stream items) → ∀ row ∈ entry.sent,
    row.headers.get? correlationId = some polled.headers.id.text
  numbered : ∀ items, entry.delivery = some (.stream items) → ∀ place row,
    entry.sent[place]? = some row →
      row.headers.get? sequenceNumber = some (String.ofList (Text.decimal (place + 1)))
  kept : ∀ items, entry.delivery = some (.stream items) → ∀ row ∈ entry.sent, ∀ name,
    correlationId ≠ name → sequenceNumber ≠ name → row.headers.get? name = Table.get? texts name
  distinct : (entry.sent.map (·.headers.id)).Nodup
  reported : ∀ report ∈ entry.reports,
    report.headers.get? correlationId = some polled.headers.id.text ∧
      report.headers.get? failedMessageId = some polled.headers.id.text

theorem PollEntry.Labelled.traceable {entry : PollEntry τ} {texts : Table String}
    {polled : Message (Payload τ)} (h : entry.Labelled) (received : entry.received = .ok polled)
    (same : polled.headers.values = texts) (distinct : (entry.sent.map (·.headers.id)).Nodup) :
    entry.Traceable texts polled where
  correlated _ hdelivery _ hrow := h.correlationId_of_mem received hdelivery hrow
  numbered items hdelivery place row hrow := by
    obtain ⟨stamp, hheaders⟩ := h.rows polled items received hdelivery place row hrow
    rw [hheaders, Headers.sequenceNumber_ofRow]
  kept items hdelivery row hrow name hcorrelation hsequence := by
    obtain ⟨place, hplace⟩ := List.mem_iff_getElem?.1 hrow
    obtain ⟨stamp, hheaders⟩ := h.rows polled items received hdelivery place row hplace
    rw [hheaders, Headers.get?_ofRow_of_ne _ _ _ hcorrelation hsequence, ← same]
    rfl
  distinct := distinct
  reported report hreport := by
    obtain ⟨stamp, component, e, rfl⟩ := h.reports polled received report hreport
    exact ⟨Headers.correlationId_ofFailure _ _, Headers.failedMessageId_ofFailure _ _⟩

namespace Polling

section

variable {origin : MessageSource σ τ} {allowed : Act → Prop} {first polling : Polling σ τ}
  {poller : Poller σ τ} {interval : Nat} {maxPolls : Option Nat} {texts : Table String}
  {keeps : σ → Prop} {events : List (Event τ)} {entries : List (PollEntry τ)}

/-- Messages of two polls refer back to different messages. -/
theorem Fresh.pairwise {poll : Poll τ} {poller : Poller σ τ}
    (h : Fresh texts keeps entries poll poller) :
    entries.Pairwise fun earlier later => ∀ before after, earlier.received = .ok before →
      later.received = .ok after → before.headers.id.text ≠ after.headers.id.text := by
  refine (List.pairwise_filterMap.1 h.polls.ascending).imp ?_
  intro earlier later hless before after hbefore hafter hsame
  have hlt := hless before.headers.id.serial (by rw [PollEntry.serial?, hbefore])
    after.headers.id.serial (by rw [PollEntry.serial?, hafter])
  rw [MessageId.text_injective hsame] at hlt
  exact absurd hlt (Nat.lt_irrefl _)

/-- Messages of which only those of one poll are kept. -/
theorem filter_flatMap_sent {before after : List (PollEntry τ)} {entry : PollEntry τ}
    {keep : Message τ → Bool} (own : entry.sent.filter keep = entry.sent)
    (earlier : ∀ other ∈ before, other.sent.filter keep = [])
    (later : ∀ other ∈ after, other.sent.filter keep = []) :
    ((before ++ entry :: after).flatMap (·.sent)).filter keep = entry.sent := by
  rw [List.filter_flatMap, List.flatMap_append, List.flatMap_cons, List.flatMap_eq_nil_iff.2 earlier,
    List.flatMap_eq_nil_iff.2 later, own, List.nil_append, List.append_nil]

/-- **Gathering by labels gives back the messages of a poll**, in whatever order all messages come. -/
theorem Documented.gathered_eq (h : Documented origin allowed first events entries polling)
    (idle : first.phase = .checking) (stamps : origin.Stamps texts keeps)
    (source : keeps first.poller.source)
    (streams : ∀ entry ∈ entries, ∀ value, entry.delivery ≠ some (.single (.ok (some value))))
    {entry : PollEntry τ} (mem : entry ∈ entries) {polled : Message (Payload τ)}
    {items : List (Except Database.Error τ)} (received : entry.received = .ok polled)
    (delivery : entry.delivery = some (.stream items)) {output : List (Message τ)}
    (perm : output.Perm (events.filterMap Event.sent?)) :
    gathered polled.headers.id output = entry.sent := by
  have hlabelled := h.labelled idle
  -- a message of another poll refers back to the message of that poll, which has another identity
  have hforeign : ∀ other ∈ entries, (∀ message, other.received = .ok message →
      message.headers.id.text ≠ polled.headers.id.text) →
        other.sent.filter (Message.refersTo polled.headers.id) = [] := by
    intro other hother hdiffers
    obtain ⟨stage, hstage⟩ := (h.accords idle).each other hother
    exact (hlabelled other hother).filter_foreign hstage (streams other hother) hdiffers
  have hpairwise := (h.fresh idle stamps source).pairwise
  have hevents := h.filterMap_events Event.sent? (fun _ _ => rfl) (fun _ _ => rfl) idle
  obtain ⟨before, after, rfl⟩ := List.append_of_mem mem
  obtain ⟨-, hafter, hbefore⟩ := List.pairwise_append.1 hpairwise
  refine gathered_of_perm ((perm.filter _).trans (List.Perm.of_eq ?_))
    ((hlabelled entry mem).places received delivery)
  rw [hevents]
  refine filter_flatMap_sent ((hlabelled entry mem).filter_own received delivery) ?_ ?_
  · intro other hother
    refine hforeign other (List.mem_append_left _ hother) fun message hmessage => ?_
    exact hbefore other hother entry List.mem_cons_self message polled hmessage received
  · intro other hother
    refine hforeign other (List.mem_append_right _ (List.mem_cons_of_mem _ hother))
      fun message hmessage hsame => ?_
    exact (List.pairwise_cons.1 hafter).1 other hother polled message received hmessage hsame.symm

/-- The identities of the messages that a poll sent are different. -/
theorem Fresh.nodup {poll : Poll τ} {poller : Poller σ τ} (h : Fresh texts keeps entries poll poller)
    {entry : PollEntry τ} (mem : entry ∈ entries) : (entry.sent.map (·.headers.id)).Nodup := by
  have hsublist : (entry.sent.map (·.headers.id.serial)).Sublist (serialsSent entries) := by
    obtain ⟨before, after, rfl⟩ := List.append_of_mem mem
    rw [serialsSent, List.flatMap_append, List.flatMap_cons]
    exact ((List.sublist_append_left _ _).trans (List.sublist_append_right _ _)).map _
  have hascending := (h.sent.ascending.sublist (List.sublist_append_left _ _)).sublist hsublist
  rw [List.pairwise_map] at hascending
  rw [List.Nodup, List.pairwise_map]
  refine hascending.imp fun hless hsame => ?_
  rw [hsame] at hless
  exact absurd hless (Nat.lt_irrefl _)

/-- **Every message can be traced to its poll and its place.**  The messages and the reports of each
poll tell where they belong, the error of a poll that is over is reported unless no channel takes it,
and messages of different streams tell so.  Where no poll asks for an only row, gathering all messages
by what they tell, in whatever order they come, gives back the rows before the first error of each
poll that is over and was not cut off. -/
theorem Documented.messages_traced
    (h : Documented origin allowed (.start poller interval maxPolls) events entries polling)
    (stamps : origin.Stamps texts keeps) (source : keeps poller.source) :
    (∀ entry ∈ entries, ∀ polled, entry.received = .ok polled → entry.Traceable texts polled) ∧
      (∀ entry ∈ settled entries polling.phase.current, ∀ e, entry.error? = some e →
        (∃ report ∈ entry.reports, report.error = e) ∨ Event.logged e ∈ entry.events) ∧
      (entries.Pairwise fun earlier later => ∀ items others,
        earlier.delivery = some (.stream items) → later.delivery = some (.stream others) →
          ∀ first ∈ earlier.sent, ∀ second ∈ later.sent,
            first.headers.get? correlationId ≠ second.headers.get? correlationId) ∧
      ((∀ entry ∈ entries, ∀ value, entry.delivery ≠ some (.single (.ok (some value)))) →
        ∀ entry ∈ settled entries polling.phase.current, ∀ polled items,
          entry.received = .ok polled → entry.delivery = some (.stream items) →
            ∀ output, output.Perm (events.filterMap Event.sent?) →
              (gathered polled.headers.id output).map Message.payload =
                Database.leadingRows items) := by
  have hlabelled := h.labelled rfl
  have hfresh := h.fresh rfl stamps source
  have haccords := h.accords rfl
  refine ⟨?_, ?_, ?_, ?_⟩
  · intro entry hentry polled hreceived
    exact (hlabelled entry hentry).traceable hreceived (hfresh.texts entry hentry polled hreceived)
      (hfresh.nodup hentry)
  · intro entry hentry e herror
    refine PollEntry.mem_arrived ?_
    rw [← (h.owing rfl).settled entry hentry, (haccords.settled entry hentry).failed, herror]
    exact List.mem_singleton_self e
  · refine hfresh.pairwise.imp_of_mem ?_
    intro earlier later hearlier hlater hdiffers items others hitems hothers first hfirst second
      hsecond hsame
    obtain ⟨_, hstage⟩ := haccords.each earlier hearlier
    obtain ⟨_, hlaterStage⟩ := haccords.each later hlater
    obtain ⟨⟨before, hbefore⟩, -⟩ := hstage.of_mem_sent hfirst
    obtain ⟨⟨after, hafter⟩, -⟩ := hlaterStage.of_mem_sent hsecond
    rw [(hlabelled earlier hearlier).correlationId_of_mem hbefore hitems hfirst,
      (hlabelled later hlater).correlationId_of_mem hafter hothers hsecond, Option.some_inj] at hsame
    exact hdiffers before after hbefore hafter hsame
  · intro hstreams entry hentry polled items hreceived hdelivery output hperm
    have hmem : entry ∈ entries := settled_subset _ _ hentry
    rw [h.gathered_eq rfl stamps source hstreams hmem hreceived hdelivery hperm,
      (haccords.settled entry hentry).rows, PollEntry.rows_of_delivery hdelivery]
    rfl

/-- Rows, a failure after a row, and no rows. -/
def threeStreams : Script :=
  [.ok (.stream [.ok (.int 1), .ok (.int 2)]),
    .ok (.stream [.ok (.int 3), .error (.query "canceled" none)]), .ok (.stream [])]

theorem messages_traced_threeStreams :
    ∃ events entries polling,
      Documented (.scripted [(correlationId, "own"), ("tenant", "east")]) (fun _ => True)
        (.start ⟨threeStreams, .empty 4, some (.empty 1), [], .zero, 0, 0, []⟩ 0 none)
        events entries polling ∧
      entries.map (fun entry => (entry.serial?, entry.sent.length, entry.reports.length)) =
        [(some 0, 2, 0), (some 3, 1, 1), (some 6, 0, 0)] ∧
      settled entries polling.phase.current = entries ∧
      (∀ entry ∈ entries, ∀ polled, entry.received = .ok polled →
        entry.Traceable [(correlationId, "own"), ("tenant", "east")] polled) ∧
      ∀ entry ∈ entries, ∀ polled items, entry.received = .ok polled →
        entry.delivery = some (.stream items) →
          ∀ output, output.Perm (events.filterMap Event.sent?) →
            (gathered polled.headers.id output).map Message.payload =
              Database.leadingRows items := by
  have hrun : (enact (.scripted [(correlationId, "own"), ("tenant", "east")])
      (.start ⟨threeStreams, .empty 4, some (.empty 1), [], .zero, 0, 0, []⟩ 0 none) []
      (polled 7 ++ polled 6 ++ polled 3)).map
      (fun made => (made.1.phase.current.isSettled, made.2.all PollEntry.isStream,
        made.2.map fun entry => (entry.serial?, entry.sent.length, entry.reports.length))) =
      some (true, true, [(some 0, 2, 0), (some 3, 1, 1), (some 6, 0, 0)]) := by decide +kernel
  obtain ⟨events, entries, polling, hdocumented, hseen⟩ := exists_documented _ hrun
  simp only [Prod.mk.injEq, List.all_eq_true] at hseen
  obtain ⟨hover, hstreams, hcounts⟩ := hseen
  have hsettled : settled entries polling.phase.current = entries := by
    rw [settled, if_pos hover]
  obtain ⟨htraceable, -, -, hgathered⟩ :=
    Documented.messages_traced hdocumented (MessageSource.stamps_scripted _) trivial
  rw [hsettled] at hgathered
  refine ⟨events, entries, polling, hdocumented, hcounts, hsettled, htraceable, hgathered ?_⟩
  intro entry hentry value hvalue
  have hstream := hstreams entry hentry
  rw [PollEntry.isStream, hvalue] at hstream
  cases hstream

end

end Polling

end QueryFeed
