import QueryFeed.Proofs.Json.Unambiguous
import QueryFeed.Proofs.Table
import QueryFeed.Run.Basic

/-!
**What is written for a message.**

A message is handed to the writer as one line, which shows the identity of the message, its time, its texts
and its payload, and then the writer is told to hold nothing back.  Either of the two may fail, and so may the
payload, of which then only a beginning is handed over.  All this is said here in terms of the writer alone,
and the runner is shown to do it.

A line shows a message so that it can be read again: two messages that have the same line look alike.

Main definitions:

* `Headers.form`, `Message.form` — what headers and messages look like as JSON;
* `RunSetup.Shows` — the line of a message;
* `RunSetup.Puts` — what comes of writing a message, and how that can fail;
* `RunSetup.Writes` — what comes of writing several messages, one after the other;
* `RunSetup.LooksLike` — messages that cannot be told apart from their lines.

Main results:

* `RunSetup.puts_putLine` — **the runner writes a message like this**;
* `RunSetup.Shows.spells` — **a line is a compact text of the message**;
* `RunSetup.Shows.looksLike` — **a line tells its message**.
-/

set_option autoImplicit false

namespace QueryFeed

variable {σ τ ω : Type}

/-! ### What a line shows -/

/-- What headers look like as JSON, with their texts in a given order; without texts they have no member for
them. -/
def Headers.form (clock : Nat → String) (headers : Headers) (values : List (String × String)) : Json :=
  .obj ([("id", .str headers.id.text), ("timestamp", .str (clock headers.issued))] ++
    if values = [] then [] else [("values", .obj (values.map fun entry => (entry.1, .str entry.2)))])

/-- What a message looks like as JSON, with the texts of its headers in a given order and its payload in a
given form. -/
def Message.form (clock : Nat → String) (message : Message τ) (values : List (String × String))
    (payload : Json) : Json :=
  .obj [("headers", message.headers.form clock values), ("payload", payload)]

/-- The texts of headers, in ascending order of their names. -/
structure Headers.Lists (headers : Headers) (values : List (String × String)) : Prop where
  perm : values.Perm headers.values
  ascending : values.Pairwise fun first second => first.1 ≤ second.1

namespace RunSetup

variable (setup : RunSetup σ τ ω)

/-- The line of a message up to the end of its payload. -/
def Begins (message : Message τ) (text : List Char) : Prop :=
  ∃ values, message.headers.Lists values ∧
    text = "\x7b\"headers\":".toList ++ (message.headers.form setup.clock values).render ++
      ",\"payload\":".toList ++ (setup.encode message.payload).text

/-- The line of a message whose payload can be written. -/
structure Shows (message : Message τ) (line : List Char) : Prop where
  whole : (setup.encode message.payload).fault = none
  parts : ∃ text, setup.Begins message text ∧ line = text ++ ['\x7d']

/-- What comes of writing a message: where it was written to, the reason why that failed if it did, and what is
there afterwards. -/
inductive Puts (message : Message τ) (out : ω) : Option String → ω → Prop where
  /-- The line is written with its line break, and nothing is held back. -/
  | written {line : List Char} {held after : ω} (shows : setup.Shows message line)
      (write : setup.writer.write (line ++ ['\n']) out = (none, held))
      (flush : setup.writer.flush held = (none, after)) : Puts message out none after
  /-- The line is written, but it may be held back. -/
  | unflushed {line : List Char} {held after : ω} {reason : String} (shows : setup.Shows message line)
      (write : setup.writer.write (line ++ ['\n']) out = (none, held))
      (flush : setup.writer.flush held = (some reason, after)) : Puts message out (some reason) after
  /-- The line is not written, or not all of it. -/
  | unwritten {line : List Char} {after : ω} {reason : String} (shows : setup.Shows message line)
      (write : setup.writer.write (line ++ ['\n']) out = (some reason, after)) :
      Puts message out (some reason) after
  /-- The payload cannot be written; what comes before is. -/
  | broken {text : List Char} {after : ω} {fault : String} (begins : setup.Begins message text)
      (faulty : (setup.encode message.payload).fault = some fault)
      (write : setup.writer.write text out = (none, after)) : Puts message out (some fault) after
  /-- The payload cannot be written, nor what comes before. -/
  | brokenUnwritten {text : List Char} {after : ω} {fault reason : String}
      (begins : setup.Begins message text)
      (faulty : (setup.encode message.payload).fault = some fault)
      (write : setup.writer.write text out = (some reason, after)) : Puts message out (some reason) after

/-- What comes of writing messages one after the other, each with the reason why that failed if it did. -/
inductive Writes : ω → List (Message τ × Option String) → ω → Prop where
  | nil (out : ω) : Writes out [] out
  | cons {out middle after : ω} {message : Message τ} {problem : Option String}
      {rest : List (Message τ × Option String)} (put : setup.Puts message out problem middle)
      (more : Writes middle rest after) : Writes out ((message, problem) :: rest) after

/-- Messages with the same identity, the same shown time, the same texts and the same written payload. -/
structure LooksLike (message other : Message τ) : Prop where
  id : message.headers.id = other.headers.id
  issued : setup.clock message.headers.issued = setup.clock other.headers.issued
  values : message.headers.values.Perm other.headers.values
  payload : (setup.encode message.payload).text = (setup.encode other.payload).text

end RunSetup

/-! ### What the runner does -/

theorem Headers.lists_sorted (headers : Headers) : headers.Lists (Table.sorted headers.values) where
  perm := List.mergeSort_perm headers.values _
  ascending := (Table.pairwise_sorted headers.values).imp of_decide_eq_true

theorem Headers.render_eq (clock : Nat → String) (headers : Headers) :
    headers.render clock = (headers.form clock (Table.sorted headers.values)).render := by
  unfold render form
  simp only [List.isEmpty_iff, List.map_eq_nil_iff]
  split <;> rfl

namespace RunSetup

variable {setup : RunSetup σ τ ω} {message : Message τ}

theorem begins_line (setup : RunSetup σ τ ω) (message : Message τ) : ∃ text, setup.Begins message text ∧
    (message.line setup.clock setup.encode).text =
      text ++ if (setup.encode message.payload).fault.isNone then ['\x7d'] else [] := by
  refine ⟨_, ⟨_, message.headers.lists_sorted, rfl⟩, ?_⟩
  rw [← Headers.render_eq]
  rfl

theorem shows_line (whole : (setup.encode message.payload).fault = none) :
    setup.Shows message (message.line setup.clock setup.encode).text := by
  obtain ⟨text, hbegins, htext⟩ := setup.begins_line message
  rw [whole] at htext
  exact ⟨whole, text, hbegins, htext⟩

theorem begins_line_of_fault {fault : String}
    (faulty : (setup.encode message.payload).fault = some fault) :
    setup.Begins message (message.line setup.clock setup.encode).text := by
  obtain ⟨text, hbegins, htext⟩ := setup.begins_line message
  rw [faulty] at htext
  rw [htext]
  exact (List.append_nil text).symm ▸ hbegins

/-- **The runner writes a message like this.** -/
theorem puts_putLine {out after : ω} {problem : Option String}
    (h : setup.writer.putLine (message.line setup.clock setup.encode) out = (problem, after)) :
    setup.Puts message out problem after := by
  have hfault : (message.line setup.clock setup.encode).fault = (setup.encode message.payload).fault := rfl
  unfold Writer.putLine at h
  rw [hfault] at h
  cases hencode : (setup.encode message.payload).fault with
  | none =>
      rw [hencode] at h
      simp only at h
      cases hwrite : setup.writer.write ((message.line setup.clock setup.encode).text ++ ['\n']) out with
      | mk refused held =>
          rw [hwrite] at h
          cases refused with
          | some reason =>
              cases h
              exact .unwritten (shows_line hencode) hwrite
          | none =>
              cases problem with
              | none => exact .written (shows_line hencode) hwrite h
              | some reason => exact .unflushed (shows_line hencode) hwrite h
  | some fault =>
      rw [hencode] at h
      simp only at h
      cases hwrite : setup.writer.write (message.line setup.clock setup.encode).text out with
      | mk refused held =>
          rw [hwrite] at h
          cases refused with
          | some reason =>
              cases h
              exact .brokenUnwritten (begins_line_of_fault hencode) hencode hwrite
          | none =>
              cases h
              exact .broken (begins_line_of_fault hencode) hencode hwrite

theorem Writes.append {out middle after : ω} {taken more : List (Message τ × Option String)}
    (h : setup.Writes out taken middle) (hmore : setup.Writes middle more after) :
    setup.Writes out (taken ++ more) after := by
  induction h with
  | nil out => exact hmore
  | cons put _ ih => exact .cons put (ih hmore)

theorem Writes.of_append {out after : ω} {taken more : List (Message τ × Option String)}
    (h : setup.Writes out (taken ++ more) after) :
    ∃ middle, setup.Writes out taken middle ∧ setup.Writes middle more after := by
  induction taken generalizing out with
  | nil => exact ⟨out, .nil out, h⟩
  | cons entry taken ih =>
      cases h with
      | cons put rest =>
          obtain ⟨middle, htaken, hmore⟩ := ih rest
          exact ⟨middle, .cons put htaken, hmore⟩

/-! ### What a line tells -/

/-- The line before its headers, and between its headers and its payload. -/
theorem marks_eq : "\x7b\"headers\":".toList = '\x7b' :: (Json.renderString "headers" ++ [':']) ∧
    ",\"payload\":".toList = ',' :: (Json.renderString "payload" ++ [':']) := by
  decide

/-- **A line is a compact text of the message**, if the payload is written as a compact text. -/
theorem Shows.spells {line : List Char} (h : setup.Shows message line) {payload : Json}
    (spelled : Json.Spells payload (setup.encode message.payload).text) :
    ∃ values, message.headers.Lists values ∧
      Json.Spells (message.form setup.clock values payload) line := by
  obtain ⟨-, text, ⟨values, hlists, rfl⟩, rfl⟩ := h
  refine ⟨values, hlists, ?_⟩
  let members : List Json.SpelledMember :=
    [⟨"headers", message.headers.form setup.clock values, Json.renderString "headers",
      (message.headers.form setup.clock values).render⟩,
    ⟨"payload", payload, Json.renderString "payload", (setup.encode message.payload).text⟩]
  have hkeys : ∀ member ∈ members, Json.SpellsString member.key member.keyText :=
    List.forall_mem_cons.2 ⟨Json.spells_renderString "headers",
      List.forall_mem_singleton.2 (Json.spells_renderString "payload")⟩
  have hvalues : ∀ member ∈ members, Json.Spells member.value member.valueText :=
    List.forall_mem_cons.2 ⟨Json.spells_render _, List.forall_mem_singleton.2 spelled⟩
  have hobject := Json.Spells.obj hkeys hvalues
  simp only [members, List.map_cons, List.map_nil, Json.SpelledMember.text, List.intercalate_cons_cons,
    List.intercalate_singleton] at hobject
  rw [marks_eq.1, marks_eq.2]
  simpa only [List.append_assoc, List.cons_append, List.nil_append, Message.form] using hobject

end RunSetup

namespace Headers

theorem doubleless_form (headers : Headers) (clock : Nat → String)
    (values : List (String × String)) : (headers.form clock values).Doubleless := by
  refine .obj (List.forall_mem_append.2 ⟨?_, ?_⟩)
  · exact List.forall_mem_cons.2 ⟨.str _, List.forall_mem_singleton.2 (.str _)⟩
  · split
    · exact List.forall_mem_nil _
    · exact List.forall_mem_singleton.2 (.obj (List.forall_mem_map.2 fun entry _ => .str entry.2))

/-- What headers look like tells their identity, their shown time and their texts. -/
theorem form_injective {clock : Nat → String} {first second : Headers}
    {values others : List (String × String)} (h : first.form clock values = second.form clock others) :
    first.id = second.id ∧ clock first.issued = clock second.issued ∧ values = others := by
  have hentries : Function.Injective fun entry : String × String => (entry.1, Json.str entry.2) := by
    rintro ⟨name, text⟩ ⟨other, text'⟩ hsame
    simpa using hsame
  simp only [form, Json.obj.injEq, List.cons_append, List.nil_append, List.cons.injEq, Prod.mk.injEq,
    Json.str.injEq, true_and] at h
  obtain ⟨hid, hissued, htexts⟩ := h
  refine ⟨MessageId.text_injective hid, hissued, ?_⟩
  split at htexts <;> split at htexts
  · rename_i hvalues hothers
    rw [hvalues, hothers]
  · cases htexts
  · cases htexts
  · simp only [List.cons.injEq, Prod.mk.injEq, Json.obj.injEq, true_and, and_true] at htexts
    exact hentries.list_map htexts

end Headers

namespace RunSetup

variable {setup : RunSetup σ τ ω} {message : Message τ}

/-- **A line tells its message.** -/
theorem Shows.looksLike {other : Message τ} {line : List Char} (h : setup.Shows message line)
    (h' : setup.Shows other line) : setup.LooksLike message other := by
  obtain ⟨-, _, ⟨values, hlists, rfl⟩, hline⟩ := h
  obtain ⟨-, _, ⟨values', hlists', rfl⟩, hline'⟩ := h'
  have hsame := hline.symm.trans hline'
  simp only [List.append_assoc] at hsame
  -- the headers are told from the comma that follows them
  have hcomma : ∀ rest, Text.EndsNumber (",\"payload\":".toList ++ rest) := by
    intro rest
    rw [marks_eq.2]
    exact Text.endsNumber_cons (by decide) _
  obtain ⟨hform, hpayload⟩ := (message.headers.doubleless_form setup.clock values).render_append_inj
    (other.headers.doubleless_form setup.clock values') (hcomma _) (hcomma _)
    (List.append_cancel_left hsame)
  obtain ⟨hid, hissued, rfl⟩ := Headers.form_injective hform
  exact {
    id := hid
    issued := hissued
    values := hlists.perm.symm.trans hlists'.perm
    payload := List.append_cancel_right (List.append_cancel_left hpayload) }

end RunSetup

end QueryFeed
