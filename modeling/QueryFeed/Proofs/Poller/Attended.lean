import QueryFeed.Proofs.Poller.Tally

/-!
**A poller whose source is looked after.**

While a poller goes on, others may look after its source: they give it what it needs and change what its
queries are evaluated against, at any moment and also in the middle of a poll.  As long as they do not
poll the source themselves, the diary of the poller says of its polls what it would say without them.

Main definitions:

* `Polling.Move`, `Polling.Attended` — histories of a poller whose source others look after;
* `Polling.attend` — what moves in a given order lead to.

Main results:

* `Polling.document_cases` — everything that an act does to a diary;
* `Polling.Attended.accords` — every diary agrees with its poller;
* `Polling.Attended.tallied` — **the poller counts every poll**, whatever is done to its source.
-/

set_option autoImplicit false

namespace QueryFeed

variable {ρ σ τ : Type}

/-! ### One act and the diary -/

namespace Polling

section

variable {origin : MessageSource σ τ} {polling next : Polling σ τ} {entries : List (PollEntry τ)}

/-- **Everything that an act does to a diary**: a poll begins and gets an entry, a poll makes a step
that is noted in its entry, or nothing of both happens. -/
theorem document_cases {act : Act} (accords : Accords entries polling.phase.current)
    (made : polling.perform origin act = some next) :
    (act = .tick ∧ polling.phase.current = .finished true ∧
        polling.document origin entries act = entries ++ [.opening origin polling.poller] ∧
        next.phase.current = (polling.poller.begin origin).1 ∧
        next.poller = (polling.poller.begin origin).2) ∨
      (act ≠ .tick ∧ ∃ past last answer events, entries = past ++ [last] ∧
        Poll.Step origin polling.poller polling.phase.current answer events next.phase.current
          next.poller ∧
        polling.document origin entries act = past ++ [last.noted answer events]) ∨
      (act ≠ .tick ∧ polling.document origin entries act = entries ∧
        next.phase.current = polling.phase.current ∧
        next.poller.source = polling.poller.source ∧ next.poller.stats = polling.poller.stats) := by
  by_cases htick : act = .tick
  · subst htick
    obtain ⟨hphase, -, rfl⟩ := tick_cases made
    rw [hphase]
    exact Or.inl ⟨rfl, rfl, rfl, rfl, rfl⟩
  by_cases hwork : act = .work
  · subst hwork
    right
    rcases work_cases made with
      ⟨outputOpen, hphase, -, rfl⟩ | ⟨poll, after, poller, hphase, -, hadvance, rfl⟩
    · -- a poll that is over is only noticed to be so
      right
      refine ⟨htick, ?_, by rw [hphase]; cases outputOpen <;> rfl, rfl, rfl⟩
      simp only [document, hphase]
      rcases List.eq_nil_or_concat entries with rfl | ⟨past, last, rfl⟩
      · rfl
      · rw [List.concat_eq_append, List.modifyLast_concat]
        exact congrArg (fun entry => past ++ [entry]) last.noted_nothing
    · left
      have hstep := Poll.step_of_advance hadvance
      rw [hphase] at accords ⊢
      rcases accords with ⟨-, hover⟩ | ⟨past, last, rfl, -, -⟩
      · have hgoing := hstep.going
        rw [show poll = .finished true from hover] at hgoing
        cases hgoing
      · exact ⟨htick, past, last, _, _, rfl, hstep, document_work hphase⟩
  · obtain ⟨-, hcurrent, -, hsource, hstats, -⟩ := perform_frame made htick hwork
    exact Or.inr (Or.inr ⟨htick, document_of_ne htick hwork, hcurrent, hsource, hstats⟩)

end

/-! ### Others who look after the source -/

/-- An act of the poller and of those around it, or something that is done to its source. -/
inductive Move (ρ : Type) where
  | act (act : Act)
  | care (care : ρ)

namespace Move

/-- Whether a poll begins. -/
def begins : Move ρ → Bool
  | act .tick => true
  | _ => false

/-- Whether a source is made ready. -/
def wakes (readies : ρ → Bool) : Move ρ → Bool
  | act _ => false
  | care given => readies given

/-- Only a tick begins a poll. -/
theorem countP_begins_of_ne {act : Act} (h : act ≠ .tick) :
    ([.act act] : List (Move ρ)).countP begins = 0 := by
  cases act with
  | tick => exact absurd rfl h
  | _ => rfl

end Move

/-- The histories of a poller whose source is looked after by others, who do not poll it: what is done,
the diary of the polls, and the poller that is left. -/
inductive Attended (origin : MessageSource σ τ) (tends : ρ → σ → σ) (first : Polling σ τ) :
    List (Move ρ) → List (PollEntry τ) → Polling σ τ → Prop where
  | start : Attended origin tends first [] [] first
  | act {moves : List (Move ρ)} {entries : List (PollEntry τ)} {polling next : Polling σ τ}
      (attended : Attended origin tends first moves entries polling) (act : Act)
      (h : polling.perform origin act = some next) :
      Attended origin tends first (moves ++ [.act act]) (polling.document origin entries act) next
  | care {moves : List (Move ρ)} {entries : List (PollEntry τ)} {polling : Polling σ τ}
      (attended : Attended origin tends first moves entries polling) (care : ρ) :
      Attended origin tends first (moves ++ [.care care]) entries
        (polling.withPoller { polling.poller with source := tends care polling.poller.source })

namespace Attended

variable {origin : MessageSource σ τ} {tends : ρ → σ → σ} {first polling : Polling σ τ}
  {moves : List (Move ρ)} {entries : List (PollEntry τ)}

/-- Every diary agrees with its poller. -/
theorem accords (h : Attended origin tends first moves entries polling)
    (idle : first.phase = .checking) : Accords entries polling.phase.current := by
  induction h with
  | start =>
      rw [idle]
      exact Or.inl ⟨rfl, rfl⟩
  | act _ act made ih =>
      rcases document_cases ih made with ⟨-, hover, hdocument, hcurrent, -⟩ |
        ⟨-, past, last, answer, events, rfl, hstep, hdocument⟩ | ⟨-, hdocument, hcurrent, -, -⟩
      · rw [hover] at ih
        rw [hdocument, hcurrent]
        exact ih.begin origin _
      · rw [hdocument]
        exact ih.step hstep
      · rw [hdocument, hcurrent]
        exact ih
  | care _ care ih => exact ih

/-- **The poller counts every poll**, whatever is done to its source. -/
theorem tallied (h : Attended origin tends first moves entries polling)
    (idle : first.phase = .checking) (unused : first.poller.stats = .zero) :
    Tallied entries (settled entries polling.phase.current) polling.poller.stats := by
  induction h with
  | start =>
      rw [idle, unused]
      exact .nothing
  | @act moves entries polling next attended act made ih =>
      have haccords := attended.accords idle
      rcases document_cases haccords made with ⟨-, hover, hdocument, hcurrent, hpoller⟩ |
        ⟨-, past, last, answer, events, rfl, hstep, hdocument⟩ |
        ⟨-, hdocument, hcurrent, -, hstats⟩
      · rw [hover] at ih
        rw [hdocument, hcurrent, hpoller]
        exact Tallied.opening ih origin
      · rw [hdocument]
        exact ih.step (accords_concat.1 haccords).2 hstep
      · rw [hdocument, hcurrent, hstats]
        exact ih
  | care _ care ih => exact ih

/-- Every poll has an entry. -/
theorem length_entries (h : Attended origin tends first moves entries polling)
    (idle : first.phase = .checking) : entries.length = moves.countP Move.begins := by
  induction h with
  | start => rfl
  | @act moves entries polling next attended act made ih =>
      rw [List.countP_append]
      rcases document_cases (attended.accords idle) made with ⟨rfl, -, hdocument, -, -⟩ |
        ⟨htick, past, last, answer, events, rfl, -, hdocument⟩ | ⟨htick, hdocument, -, -, -⟩
      · rw [hdocument, List.length_append, ih]
        rfl
      · rw [hdocument, Move.countP_begins_of_ne htick, ← ih, List.length_append, List.length_append]
        rfl
      · rw [hdocument, Move.countP_begins_of_ne htick, ih]
        rfl
  | @care moves entries polling _ care ih =>
      rw [List.countP_append, ih]
      rfl

end Attended

/-! ### Playing moves -/

/-- The poller and its diary after moves in a given order, where all of them are possible. -/
def attend (origin : MessageSource σ τ) (tends : ρ → σ → σ) (polling : Polling σ τ)
    (entries : List (PollEntry τ)) : List (Move ρ) → Option (Polling σ τ × List (PollEntry τ))
  | [] => some (polling, entries)
  | .act act :: rest =>
      match polling.perform origin act with
      | none => none
      | some next => attend origin tends next (polling.document origin entries act) rest
  | .care given :: rest =>
      attend origin tends
        (polling.withPoller { polling.poller with source := tends given polling.poller.source })
        entries rest

/-- **Moves that are possible make a history.** -/
theorem Attended.attend {origin : MessageSource σ τ} {tends : ρ → σ → σ}
    {first polling last : Polling σ τ} {moves more : List (Move ρ)}
    {entries noted : List (PollEntry τ)} (h : Attended origin tends first moves entries polling)
    (attended : Polling.attend origin tends polling entries more = some (last, noted)) :
    Attended origin tends first (moves ++ more) noted last := by
  induction more generalizing moves entries polling with
  | nil =>
      obtain ⟨rfl, rfl⟩ := Prod.mk.inj (Option.some.inj attended)
      rw [List.append_nil]
      exact h
  | cons move rest ih =>
      rw [List.append_cons]
      cases move with
      | act act =>
          unfold Polling.attend at attended
          split at attended
          · cases attended
          · rename_i next hperform
            exact ih (h.act act hperform) attended
      | care given => exact ih (h.care given) attended

end Polling

end QueryFeed
