import QueryFeed.Proofs.Poller.Diary
import QueryFeed.Row.Mapper

/-!
**Playing a script.**

A source that plays a script, and acts in a given order, make a history that can be computed.

Main definitions:

* `Script`, `MessageSource.scripted` — a source that plays a script;
* `Polling.enact` — what acts in a given order lead to;
* `Polling.polled`, `Polling.ofScript` — the acts of one poll, and a poller that plays a script.

Main results: `Polling.documented_enact`, `Polling.exists_documented` — acts that are possible have a
diary.
-/

set_option autoImplicit false

namespace QueryFeed

variable {σ τ : Type}

/-- What comes of the polls of a source, one after the other. -/
abbrev Script := List (Except FeedError (Delivery Json))

/-- A source that plays a script: each poll fails, or hands out a payload that is answered at once.
-/
def MessageSource.scripted (headers : Table String) : MessageSource Script Json where
  component := sourceComponent
  receive stamp script :=
    match script with
    | .error e :: rest => ⟨.error e, rest, []⟩
    | _ => ⟨.ok ⟨.fresh stamp headers, ⟨⟨"", [], RowMapper.json⟩, false⟩⟩, script, []⟩
  submit now _ script := (some now, script)
  answer _ script :=
    match script with
    | .ok delivery :: rest => (delivery, rest)
    | _ => (.stream [], script)

namespace Polling

/-- The poller and its diary after acts in a given order, where all of them are possible. -/
def enact (origin : MessageSource σ τ) (polling : Polling σ τ) (entries : List (PollEntry τ)) :
    List Act → Option (Polling σ τ × List (PollEntry τ))
  | [] => some (polling, entries)
  | act :: rest =>
      match polling.perform origin act with
      | none => none
      | some next => enact origin next (polling.document origin entries act) rest

/-- The acts of a poller that polls once, in a number of stages. -/
def polled (stages : Nat) : List Act := [.check, .tick] ++ List.replicate stages .work

/-- A poller that plays a script into an output with some room, and tells the operator of failures. -/
def ofScript (script : Script) (room : Nat) : Polling Script Json :=
  .start ⟨script, .empty room, none, [], .zero, 0, 0, []⟩ 0 none

/-- **Acts that are possible have a diary.** -/
theorem documented_enact {origin : MessageSource σ τ} {first polling last : Polling σ τ}
    {events : List (Event τ)} {entries noted : List (PollEntry τ)} {acts : List Act}
    (h : Documented origin (fun _ => True) first events entries polling)
    (enacted : enact origin polling entries acts = some (last, noted)) :
    ∃ more, Documented origin (fun _ => True) first (events ++ more) noted last := by
  induction acts generalizing events entries polling with
  | nil =>
      obtain ⟨rfl, rfl⟩ := Prod.mk.inj (Option.some.inj enacted)
      exact ⟨[], by rw [List.append_nil]; exact h⟩
  | cons act rest ih =>
      unfold enact at enacted
      split at enacted
      · cases enacted
      · rename_i next hperform
        obtain ⟨more, hdocumented⟩ := ih (h.step act trivial hperform) enacted
        exact ⟨_, by rw [← List.append_assoc]; exact hdocumented⟩

/-- Whatever is seen after acts in a given order is seen of a history with its diary. -/
theorem exists_documented {β : Type} {origin : MessageSource σ τ} {first : Polling σ τ}
    {acts : List Act} (view : Polling σ τ × List (PollEntry τ) → β) {seen : β}
    (h : (enact origin first [] acts).map view = some seen) :
    ∃ events entries polling, Documented origin (fun _ => True) first events entries polling ∧
      view (polling, entries) = seen := by
  obtain ⟨⟨polling, entries⟩, henacted, hseen⟩ := Option.map_eq_some_iff.1 h
  obtain ⟨events, hdocumented⟩ := documented_enact .start henacted
  exact ⟨_, entries, polling, hdocumented, hseen⟩

end Polling

end QueryFeed
