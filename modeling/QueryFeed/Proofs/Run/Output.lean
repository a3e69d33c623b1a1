import QueryFeed.Proofs.Run.Outcome
import QueryFeed.Run.Page

/-!
**What a run writes.**

Where writing never fails, the text that a run leaves behind is made of lines, one for each of the
first messages that the poller sent.  A line is compact JSON that shows its message, and it holds no line
break of its own.  So the lines can be told apart again, and the messages from the lines.

Main definitions:

* `Writer.Appends` — a writer that never fails;
* `RunSetup.Encodes` — payloads are written as compact texts of a form of theirs.

Main results:

* `splitOn_lines` — lines without line breaks are told apart by the line breaks between them;
* `RunSetup.Writes.exists_lines` — what such a writer leaves behind;
* `Run.output_faithful` — **the output is a faithful prefix of what was sent**, one message a line.
-/

set_option autoImplicit false

namespace QueryFeed

variable {σ τ ω : Type}

/-! ### Writers that do not fail -/

/-- A writer that never fails, and adds what it writes to the end of a text. -/
structure Writer.Appends (writer : Writer ω) (text : ω → List Char) : Prop where
  write : ∀ line out, (writer.write line out).1 = none ∧
    text (writer.write line out).2 = text out ++ line
  flush : ∀ out, (writer.flush out).1 = none ∧ text (writer.flush out).2 = text out

/-- A page that has room for everything does not fail. -/
theorem Page.appends : (Page.writer none none).Appends Page.text where
  write line page := ⟨rfl, by simp [writer, text]⟩
  flush page := ⟨rfl, rfl⟩

/-- Where nothing goes wrong, a line is added for the message. -/
theorem RunSetup.Puts.exists_line {setup : RunSetup σ τ ω} {text : ω → List Char}
    (appends : setup.writer.Appends text) {message : Message τ} {out after : ω}
    (h : setup.Puts message out none after) :
    ∃ line, setup.Shows message line ∧ text after = text out ++ (line ++ ['\n']) := by
  cases h with
  | @written line held _ shows write flush =>
      have hheld := (appends.write (line ++ ['\n']) out).2
      have hafter := (appends.flush held).2
      rw [write] at hheld
      rw [flush] at hafter
      exact ⟨line, shows, hafter.trans hheld⟩

/-- Messages are written one a line. -/
theorem RunSetup.Writes.exists_lines {setup : RunSetup σ τ ω} {text : ω → List Char}
    (appends : setup.writer.Appends text) {messages : List (Message τ)} {out after : ω}
    (h : setup.Writes out (messages.map fun message => (message, none)) after) :
    ∃ lines, List.Forall₂ setup.Shows messages lines ∧
      text after = text out ++ lines.flatMap (· ++ ['\n']) := by
  induction messages generalizing out with
  | nil =>
      cases h
      exact ⟨[], .nil, (List.append_nil _).symm⟩
  | cons message rest ih =>
      cases h with
      | cons put more =>
          obtain ⟨line, hline, hmiddle⟩ := put.exists_line appends
          obtain ⟨lines, hlines, hafter⟩ := ih more
          refine ⟨line :: lines, .cons hline hlines, ?_⟩
          rw [hafter, hmiddle, List.flatMap_cons, List.append_assoc]

/-- Lines that hold no line break are told apart by the line breaks that end them. -/
theorem splitOn_lines {lines : List (List Char)} (h : ∀ line ∈ lines, '\n' ∉ line) :
    (lines.flatMap (· ++ ['\n'])).splitOn '\n' = lines ++ [[]] := by
  induction lines with
  | nil => rfl
  | cons line rest ih =>
      have hline := h line List.mem_cons_self
      have hrest := ih fun other hother => h other (List.mem_cons_of_mem _ hother)
      rw [List.flatMap_cons, List.append_assoc, List.singleton_append,
        List.splitOn_append_cons_self_of_not_mem hline, hrest, List.cons_append]

/-- Lines that hold no line break are told from the text that they make. -/
theorem lines_injective {lines others : List (List Char)} (h : ∀ line ∈ lines, '\n' ∉ line)
    (hothers : ∀ line ∈ others, '\n' ∉ line)
    (same : lines.flatMap (· ++ ['\n']) = others.flatMap (· ++ ['\n'])) : lines = others := by
  have hsplit := congrArg (List.splitOn '\n') same
  rw [splitOn_lines h, splitOn_lines hothers] at hsplit
  exact List.append_cancel_right hsplit

/-! ### Lines and messages -/

namespace RunSetup

/-- The payloads that can be written are written as compact texts of a form of theirs. -/
def Encodes (setup : RunSetup σ τ ω) (form : τ → Json) : Prop :=
  ∀ payload, (setup.encode payload).fault = none →
    Json.Spells (form payload) (setup.encode payload).text

section

variable {setup : RunSetup σ τ ω} {form : τ → Json}

/-- A line is the compact text of its message. -/
theorem Encodes.spells (encodes : setup.Encodes form) {message : Message τ} {line : List Char}
    (h : setup.Shows message line) : ∃ values, message.headers.Lists values ∧
      Json.Spells (message.form setup.clock values (form message.payload)) line :=
  h.spells (encodes _ h.whole)

theorem Encodes.break_not_mem (encodes : setup.Encodes form) {messages : List (Message τ)}
    {lines : List (List Char)} (h : List.Forall₂ setup.Shows messages lines) :
    ∀ line ∈ lines, '\n' ∉ line := by
  induction h with
  | nil => exact nofun
  | cons shows _ ih =>
      obtain ⟨_, -, hspells⟩ := encodes.spells shows
      exact List.forall_mem_cons.2 ⟨hspells.printable.break_not_mem, ih⟩

/-- Messages with the same lines look alike, one by one. -/
theorem forall₂_looksLike {messages others : List (Message τ)} {lines : List (List Char)}
    (h : List.Forall₂ setup.Shows messages lines) (h' : List.Forall₂ setup.Shows others lines) :
    List.Forall₂ setup.LooksLike messages others := by
  induction h generalizing others with
  | nil =>
      cases h'
      exact .nil
  | cons shows _ ih =>
      cases h' with
      | cons shows' rest => exact .cons (shows.looksLike shows') (ih rest)

end

end RunSetup

/-! ### The output of a run -/

namespace Run

section

variable {setup : RunSetup σ τ ω} {source : σ} {options : RunOptions} {firstId : Nat} {out : ω}
  {events : List (Event τ)} {run : Run σ τ ω}

/-- A run with a limit for messages writes at most as many, or one, and it ends for that reason
exactly if it writes as many. -/
theorem Traced.emitted_le (h : Traced setup (Run.start source options firstId out) events run)
    {ending : RunEnd} (finished : run.phase = .finished ending) {limit : Nat}
    (limited : options.maxMessages = some limit) :
    run.emitted ≤ max limit 1 ∧ (run.emitted = max limit 1 ↔ ending = .messageLimit) := by
  have hlimit : run.maxMessages = some limit := h.maxMessages.trans limited
  obtain ⟨left, reason, rfl, hleft, -, -⟩ := h.sound.finished ending finished
  match left with
  | some .messageLimit =>
      obtain ⟨other, hother, hemitted⟩ := hleft
      rw [hlimit, Option.some_inj] at hother
      subst hother
      exact ⟨Nat.le_of_eq hemitted, fun _ => rfl, fun _ => hemitted⟩
  | some .interrupted =>
      have hbelow := hleft limit hlimit
      exact ⟨Nat.le_of_lt hbelow, fun heq => absurd heq (Nat.ne_of_lt hbelow), nofun⟩
  | some (.poller _) => exact hleft.elim
  | none =>
      have hbelow := hleft.1 limit hlimit
      exact ⟨Nat.le_of_lt hbelow, fun heq => absurd heq (Nat.ne_of_lt hbelow), nofun⟩

/-- **The output is a faithful prefix of what was sent**: where writing does not fail and the payloads that
can be written are written as compact texts of a form of theirs, a run that succeeds has written the first
messages that the poller sent, one a line and as many as it says.  A line is the compact text of its message
and holds no line break, so that the lines are told apart, and other messages that leave the same text behind
look alike, one by one. -/
theorem output_faithful (h : Traced setup (Run.start source options firstId out) events run)
    {text : ω → List Char} (appends : setup.writer.Appends text) {form : τ → Json}
    (encodes : setup.Encodes form) {summary : RunSummary}
    (ended : run.result? = some (.ok summary)) :
    ∃ written unwritten lines, events.filterMap Event.sent? = written ++ unwritten ∧
      written.length = summary.emitted ∧
      List.Forall₂ setup.Shows written lines ∧
      text run.out = text out ++ lines.flatMap (· ++ ['\n']) ∧
      List.Forall₂ (fun message line => ∃ values, message.headers.Lists values ∧
        Json.Spells (message.form setup.clock values (form message.payload)) line) written lines ∧
      (∀ line ∈ lines, '\n' ∉ line) ∧
      (lines.flatMap (· ++ ['\n'])).splitOn '\n' = lines ++ [[]] ∧
      (∀ others otherLines, List.Forall₂ setup.Shows others otherLines →
        text out ++ otherLines.flatMap (· ++ ['\n']) = text run.out →
        List.Forall₂ setup.LooksLike written others) ∧
      ∀ limit, options.maxMessages = some limit → summary.emitted ≤ max limit 1 ∧
        (summary.emitted = max limit 1 ↔ summary.ending = .messageLimit) := by
  obtain ⟨hphase, hwrite, -, hsummary⟩ := result?_ok ended
  have hemitted : summary.emitted = run.emitted := by rw [hsummary]
  obtain ⟨unwritten, hsent⟩ := h.balanced.output.early
  obtain ⟨written, htaken, hwrites⟩ := h.writes_of_spotless hwrite
  obtain ⟨lines, hshows, htext⟩ := hwrites.exists_lines appends
  have hmessages : (events.filterMap Event.taken?).map Prod.fst = written := by
    rw [htaken, List.map_map]
    exact List.map_id' written
  refine ⟨written, run.polling.poller.output.queue ++ unwritten, lines, ?_, ?_, hshows, htext,
    hshows.imp fun _ _ => encodes.spells, encodes.break_not_mem hshows,
    splitOn_lines (encodes.break_not_mem hshows), ?_, ?_⟩
  · rw [← hsent, hmessages, List.append_assoc]
  · rw [hemitted, h.kept.emitted_of_spotless hwrite, htaken, List.length_map]
  · intro others otherLines hothers hsame
    rw [htext] at hsame
    obtain rfl := lines_injective (encodes.break_not_mem hothers) (encodes.break_not_mem hshows)
      (List.append_cancel_left hsame)
    exact RunSetup.forall₂_looksLike hshows hothers
  · intro limit hlimit
    rw [hemitted]
    exact h.emitted_le hphase hlimit

end

/-- Rows whose texts hold line breaks, more of them than are wanted. -/
def brokenTexts : Script :=
  [.ok (.stream [.ok (.str "one\ntwo"), .ok (.arr [.str "\n"]), .ok .null])]

theorem output_faithful_brokenTexts :
    ∃ events written unwritten lines,
      Traced (.onPage [("note", "a\nb")] none) (Run.start brokenTexts ⟨1, none, some 2⟩ 0 .blank)
        events (played (.onPage [("note", "a\nb")] none) brokenTexts ⟨1, none, some 2⟩) ∧
      events.filterMap Event.sent? = written ++ unwritten ∧ written.length = 2 ∧
      List.Forall₂ (RunSetup.Shows (.onPage [("note", "a\nb")] none)) written lines ∧
      Page.text (played (.onPage [("note", "a\nb")] none) brokenTexts ⟨1, none, some 2⟩).out =
        lines.flatMap (· ++ ['\n']) ∧
      ∀ line ∈ lines, '\n' ∉ line := by
  obtain ⟨events, htraced⟩ := traced_played (.onPage [("note", "a\nb")] none) brokenTexts
    ⟨1, none, some 2⟩
  have hended : (played (.onPage [("note", "a\nb")] none) brokenTexts ⟨1, none, some 2⟩).result? =
      some (.ok ⟨.messageLimit, 2, 0, ⟨1, 0, 0, 3, 0⟩⟩) := rfl
  have hencodes : (RunSetup.onPage [("note", "a\nb")] none).Encodes id :=
    fun payload _ => payload.spells_render
  obtain ⟨written, unwritten, lines, hsent, hlength, hshows, htext, -, hlines, -, -, -⟩ :=
    output_faithful htraced Page.appends hencodes hended
  exact ⟨events, written, unwritten, lines, htraced, hsent, hlength, hshows, htext, hlines⟩

end Run

end QueryFeed
