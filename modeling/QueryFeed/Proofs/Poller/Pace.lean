import QueryFeed.Proofs.Poller.Notices
import QueryFeed.Proofs.Poller.Script

/-!
**The pace of a poller.**

A tick comes at its deadline or later, and the next deadline is an interval after the last one, or
after a tick that came too late.  So deadlines never fall behind the whole intervals since the
beginning, and polls never run ahead of them, however long each poll takes.

Main definitions:

* `Polling.request` — the beginning of a poller that is asked for an interval;
* `Polling.KeepsPace` — polls begin no sooner than an interval allows;
* `Polling.Paced` — the same, with what it takes of the next deadline.

Main results:

* `Polling.Paced.tick`, `Polling.Traced.paced` — **every tick keeps the pace**, and so does a history;
* `Polling.polls_keep_pace` — **a poller keeps the pace that it is asked for**, or that of the
  shortest interval.
-/

set_option autoImplicit false

namespace QueryFeed

variable {σ τ : Type}

/-! ### Intervals -/

theorem effectiveInterval_fst (requested : Nat) :
    (effectiveInterval requested).1 = max requested shortestInterval := by
  unfold effectiveInterval
  split
  · rename_i hshort
    exact (Nat.max_eq_right (Nat.le_of_lt hshort)).symm
  · rename_i hlong
    exact (Nat.max_eq_left (Nat.le_of_not_lt hlong)).symm

/-- The next deadline is no sooner than an interval after the last one, and no sooner than an interval
after the tick, but for the tolerance. -/
theorem nextDeadline_bounds (interval deadline now : Nat) :
    deadline + interval ≤ nextDeadline interval deadline now ∧
      now + interval ≤ nextDeadline interval deadline now + tickTolerance := by
  unfold nextDeadline
  split <;> constructor <;> omega

namespace Polling

/-! ### Pace -/

/-- The beginning of a poller that is asked for an interval. -/
def request (poller : Poller σ τ) (requested : Nat) (maxPolls : Option Nat) : Polling σ τ :=
  .start (poller.tell (effectiveInterval requested).2) (effectiveInterval requested).1 maxPolls

/-- Polls begin no sooner than an interval allows: the `k`-th one after `k` whole intervals, and each
an interval after the one before it, but for the tolerance of a tick. -/
structure KeepsPace (beginning interval : Nat) (began : List Nat) : Prop where
  after : ∀ k time : Nat, began[k]? = some time → beginning + k * interval ≤ time
  few : ∀ elapsed : Nat, began.countP (· ≤ beginning + elapsed) ≤ elapsed / interval + 1
  apart : ∀ k earlier later : Nat, began[k]? = some earlier → began[k + 1]? = some later →
    earlier + interval ≤ later + tickTolerance

/-- Times that keep behind the whole intervals are few. -/
theorem countP_le_of_after {beginning interval : Nat} {began : List Nat} (positive : 0 < interval)
    (after : ∀ k time : Nat, began[k]? = some time → beginning + k * interval ≤ time)
    (elapsed : Nat) : began.countP (· ≤ beginning + elapsed) ≤ elapsed / interval + 1 := by
  have hdrop : (began.drop (elapsed / interval + 1)).countP (· ≤ beginning + elapsed) = 0 := by
    rw [List.countP_eq_zero]
    intro time hmem
    obtain ⟨k, hk⟩ := List.mem_iff_getElem?.1 hmem
    rw [List.getElem?_drop] at hk
    have hafter := after _ _ hk
    have hbeyond : elapsed < (elapsed / interval + 1 + k) * interval := calc
      elapsed < interval * (elapsed / interval + 1) := Nat.lt_mul_div_succ elapsed positive
      _ = (elapsed / interval + 1) * interval := Nat.mul_comm _ _
      _ ≤ (elapsed / interval + 1 + k) * interval := Nat.mul_le_mul_right _ (Nat.le_add_right _ _)
    rw [decide_eq_true_eq]
    omega
  calc began.countP (· ≤ beginning + elapsed)
    _ = (began.take (elapsed / interval + 1)).countP (· ≤ beginning + elapsed) := by
        rw [← Nat.add_zero (List.countP _ (began.take _)), ← hdrop, ← List.countP_append,
          List.take_append_drop]
    _ ≤ (began.take (elapsed / interval + 1)).length := List.countP_le_length
    _ ≤ elapsed / interval + 1 := List.length_take_le _ _

/-- A poller keeps the pace of its interval since some time, and its next deadline does so too. -/
structure Paced (beginning interval : Nat) (events : List (Event τ)) (polling : Polling σ τ) :
    Prop where
  uses : polling.interval = interval
  noted : events.countP Event.isBegan = polling.began.length
  deadline : beginning + polling.began.length * interval ≤ polling.deadline
  last : ∀ time ∈ polling.began.getLast?, time + interval ≤ polling.deadline + tickTolerance
  after : ∀ k time : Nat, polling.began[k]? = some time → beginning + k * interval ≤ time
  apart : ∀ k earlier later : Nat, polling.began[k]? = some earlier →
    polling.began[k + 1]? = some later → earlier + interval ≤ later + tickTolerance

theorem Paced.keepsPace {beginning interval : Nat} {events : List (Event τ)}
    {polling : Polling σ τ} (h : Paced beginning interval events polling)
    (positive : 0 < interval) : KeepsPace beginning interval polling.began :=
  ⟨h.after, countP_le_of_after positive h.after, h.apart⟩

theorem Paced.start (poller : Poller σ τ) (interval : Nat) (maxPolls : Option Nat) :
    Paced poller.now interval [] (Polling.start poller interval maxPolls) where
  uses := rfl
  noted := rfl
  deadline := by
    change poller.now + 0 * interval ≤ poller.now
    omega
  last _ h := by cases h
  after _ _ h := by cases h
  apart _ _ _ h := by cases h

/-- Only the interval, the deadline and the times at which polls began matter. -/
theorem Paced.congr {beginning interval : Nat} {events more : List (Event τ)}
    {polling next : Polling σ τ} (h : Paced beginning interval events polling)
    (unnoticed : more.countP Event.isBegan = 0) (same : next.interval = polling.interval)
    (deadline : next.deadline = polling.deadline) (began : next.began = polling.began) :
    Paced beginning interval (events ++ more) next where
  uses := same.trans h.uses
  noted := by rw [List.countP_append, unnoticed, began]; exact h.noted
  deadline := by rw [deadline, began]; exact h.deadline
  last := by rw [deadline, began]; exact h.last
  after := by rw [began]; exact h.after
  apart := by rw [began]; exact h.apart

/-- **A tick keeps the pace.** -/
theorem Paced.tick {origin : MessageSource σ τ} {beginning interval : Nat} {events : List (Event τ)}
    {polling next : Polling σ τ} (h : Paced beginning interval events polling)
    (made : polling.tick origin = some next) :
    Paced beginning interval (events ++ polling.poller.beginning origin) next := by
  obtain ⟨-, hdue, rfl⟩ := tick_cases made
  obtain ⟨hahead, hsince⟩ := nextDeadline_bounds polling.interval polling.deadline
    polling.poller.now
  obtain rfl := h.uses
  refine ⟨rfl, ?_, ?_, ?_, ?_, ?_⟩
  · rw [List.countP_append, Poller.began_beginning, h.noted, List.length_append]
    rfl
  · have hdeadline := h.deadline
    rw [List.length_append, List.length_singleton, Nat.add_mul, Nat.one_mul, ← Nat.add_assoc]
    exact Nat.le_trans (Nat.add_le_add_right hdeadline _) hahead
  · intro time htime
    rw [List.getLast?_concat, Option.mem_some_iff] at htime
    exact htime ▸ hsince
  · intro k time hk
    rw [List.getElem?_append] at hk
    split at hk
    · exact h.after k time hk
    · -- the new poll begins at its deadline or later
      rename_i hnew
      obtain ⟨hindex, hnow⟩ := List.getElem?_eq_some_iff.1 hk
      rw [List.length_singleton] at hindex
      have hlength : k = polling.began.length := by omega
      rw [List.getElem_singleton] at hnow
      rw [hlength, ← hnow]
      exact Nat.le_trans h.deadline hdue
  · intro k earlier later hearlier hlater
    rw [List.getElem?_append] at hlater
    split at hlater
    · rename_i hold
      rw [List.getElem?_append_left (by omega)] at hearlier
      exact h.apart k earlier later hearlier hlater
    · -- the poll before the new one was the last
      rename_i hnew
      obtain ⟨hindex, hnow⟩ := List.getElem?_eq_some_iff.1 hlater
      rw [List.length_singleton] at hindex
      rw [List.getElem_singleton] at hnow
      rw [List.getElem?_append_left (by omega)] at hearlier
      have hlast : polling.began.getLast? = some earlier := by
        rw [List.getLast?_eq_getElem?, ← hearlier]
        congr 1
        omega
      rw [← hnow]
      exact Nat.le_trans (h.last earlier hlast) (Nat.add_le_add_right hdue _)

/-- **Every act keeps the pace.** -/
theorem Paced.act {origin : MessageSource σ τ} {beginning interval : Nat} {events : List (Event τ)}
    {polling next : Polling σ τ} (h : Paced beginning interval events polling) {act : Act}
    (made : polling.perform origin act = some next) :
    Paced beginning interval (events ++ polling.happenings origin act) next := by
  cases act with
  | check =>
      obtain ⟨-, ⟨_, -, -, rfl⟩ | ⟨-, rfl⟩⟩ := check_cases made <;>
        exact h.congr rfl rfl rfl rfl
  | noticeShutdown =>
      obtain ⟨-, -, rfl⟩ := noticeShutdown_cases made
      exact h.congr rfl rfl rfl rfl
  | tick => exact h.tick made
  | work =>
      obtain ⟨_, -, hnothing, rfl⟩ | ⟨poll, _, _, -, hevents, -, rfl⟩ := work_cases made
      · exact h.congr (by rw [hnothing]; rfl) rfl rfl rfl
      · exact h.congr (by rw [hevents]; exact Poller.began_events _ _ _) rfl rfl rfl
  | takeMessage problem =>
      obtain ⟨message, rest, hqueue, rfl⟩ := takeMessage_cases made
      refine h.congr ?_ rfl rfl rfl
      simp only [happenings, hqueue]
      rfl
  | takeFailure route =>
      obtain ⟨channel, failure, rest, hfound, hqueue, rfl⟩ := takeFailure_cases made
      refine h.congr ?_ rfl rfl rfl
      simp only [happenings, hfound, hqueue]
      rfl
  | closeErrors route =>
      obtain ⟨_, _, rfl⟩ := Option.map_eq_some_iff.1 made
      exact h.congr rfl rfl rfl rfl
  | closeOutput | signal | tell =>
      cases made
      exact h.congr rfl rfl rfl rfl
  | moveClock time =>
      cases made
      unfold moveClock
      split <;> exact h.congr rfl rfl rfl rfl

theorem Traced.paced {origin : MessageSource σ τ} {allowed : Act → Prop}
    {beginning interval : Nat} {first polling : Polling σ τ} {events : List (Event τ)}
    (h : Traced origin allowed first events polling) (start : Paced beginning interval [] first) :
    Paced beginning interval events polling := by
  induction h with
  | start => exact start
  | step _ _ _ made ih => exact ih.act made

/-- **A poller keeps the pace that it is asked for**, or that of the shortest interval; and one that is
asked for less does what it does at the shortest interval, but for the notice of it. -/
theorem polls_keep_pace (origin : MessageSource σ τ) (allowed : Act → Prop) (poller : Poller σ τ)
    (requested : Nat) (maxPolls : Option Nat) :
    (∀ events polling,
      Traced origin allowed (.request poller requested maxPolls) events polling →
        events.countP Event.isBegan = polling.began.length ∧
          KeepsPace poller.now (max requested shortestInterval) polling.began) ∧
      (requested < shortestInterval → ∀ events polling,
        Traced origin allowed (.request poller requested maxPolls) events polling ↔
          ∃ other later,
            Traced origin allowed (.request poller shortestInterval maxPolls) events other ∧
              other.poller.notices = poller.notices ++ later ∧
              polling = other.withPoller { other.poller with
                notices :=
                  poller.notices ++ [.shortInterval (Text.duration requested)] ++ later }) := by
  constructor
  · intro events polling h
    have hpaced := h.paced (.start _ _ maxPolls)
    rw [effectiveInterval_fst] at hpaced
    exact ⟨hpaced.noted, hpaced.keepsPace (Nat.lt_of_lt_of_le (by decide) (Nat.le_max_right _ _))⟩
  · intro hshort events polling
    have hrequested : effectiveInterval requested =
        (shortestInterval, [.shortInterval (Text.duration requested)]) := if_pos hshort
    have hshortest : effectiveInterval shortestInterval = (shortestInterval, []) := rfl
    rw [request, request, hrequested, hshortest, Poller.tell_nil]
    exact traced_tell_iff

/-- A poller that is asked for a nanosecond less than a millisecond polls at once, then late, and then a
millisecond after that. -/
theorem polls_keep_pace_late :
    ∃ events polling,
      Traced (MessageSource.scripted []) (fun _ => True)
        (.request ⟨[], .empty 1, none, [], .zero, 0, 0, []⟩ 999999 none) events polling ∧
      polling.began = [0, 7000000, 8000000] ∧ KeepsPace 0 1000000 polling.began ∧
      ∃ other, other.began = polling.began ∧ Traced (MessageSource.scripted []) (fun _ => True)
        (.request ⟨[], .empty 1, none, [], .zero, 0, 0, []⟩ 1000000 none) events other := by
  have hrun : (enact (MessageSource.scripted [])
      (.request ⟨[], .empty 1, none, [], .zero, 0, 0, []⟩ 999999 none) []
      (polled 3 ++ [.moveClock 7000000] ++ polled 3 ++ [.moveClock 8000000] ++ polled 3)).map
        (fun seen => seen.1.began) = some [0, 7000000, 8000000] := by decide +kernel
  obtain ⟨events, entries, polling, hdocumented, hbegan⟩ := exists_documented _ hrun
  have htraced := hdocumented.traced
  obtain ⟨hpace, hshort⟩ := polls_keep_pace (MessageSource.scripted []) (fun _ => True)
    ⟨[], .empty 1, none, [], .zero, 0, 0, []⟩ 999999 none
  obtain ⟨other, later, hother, -, hsame⟩ :=
    (hshort (by decide) events polling).1 htraced
  exact ⟨events, polling, htraced, hbegan, (hpace events polling htraced).2, other,
    by rw [hsame]; rfl, hother⟩

end Polling

end QueryFeed
