import QueryFeed.Database.RowStream
import QueryFeed.Database.Scripted
import QueryFeed.Proofs.Poller.Diary

/-!
**The only row, the first row and all rows agree.**

An answer may be read for its only row, for its first row, or for all rows.  Errors may come among the
rows, rows may not be mappable, and there may be more rows than asked for; which of these decides is
the same whichever way an answer is read, and no more items are asked for than are needed.

Main definitions:

* `Reading.AtMost` — readers that ask no more than a number of times;
* `Answer.OnlyRow` — what comes of asking for the only row.

Main results:

* `Reading.AtMost.run_take` — **a reader that asks a number of times sees so many items**;
* `Answer.one_eq_iff` — what comes of asking for the only row;
* `Answer.one_eq_none_iff`, `Answer.one_eq_some_iff` — the only row is there if all rows are this row;
* `Answer.collect_deliver` — as long as there is at most one item, a payload of either mode collects the
  same;
* `Fetch.ways_agree` — **all three ways of reading agree on every answer**.
-/

set_option autoImplicit false

namespace QueryFeed.Database

variable {α β κ τ : Type}

/-! ### Reading one item after the other -/

namespace Reading

/-- Whatever the items are, a reader asks no more than a number of times. -/
inductive AtMost : Nat → Reading α β → Prop where
  | done (count : Nat) (result : β) : AtMost count (.done result)
  | ask {count : Nat} {goOn : Option α → Reading α β} (h : ∀ item?, AtMost count (goOn item?)) :
      AtMost (count + 1) (.ask goOn)

/-- **A reader that asks no more than a number of times sees no more items than that.** -/
theorem AtMost.run_take {count : Nat} {reading : Reading α β} (h : AtMost count reading)
    (items : List α) : reading.run (items.take count) = reading.run items := by
  induction h generalizing items with
  | done => rfl
  | @ask count goOn _ ih =>
      cases items with
      | nil => rfl
      | cons item rest =>
          rw [List.take_succ_cons]
          exact ih (some item) rest

/-- Two sequences that begin alike are the same to a reader that does not ask for more. -/
theorem AtMost.run_congr {count : Nat} {reading : Reading α β} (h : AtMost count reading)
    {items others : List α} (same : items.take count = others.take count) :
    reading.run items = reading.run others := by
  rw [← h.run_take items, same, h.run_take]

theorem atMost_only (mapper : RowMapper τ) : AtMost 2 (only mapper) := by
  refine .ask fun item? => ?_
  rcases item? with _ | e | row
  · exact .done _ _
  · exact .done _ _
  · refine .ask fun second? => ?_
    rcases second? with _ | e | second
    · exact .done _ _
    · exact .done _ _
    · exact .done _ _

theorem atMost_front (mapper : RowMapper τ) : AtMost 1 (front mapper) := by
  refine .ask fun item? => ?_
  cases item? with
  | none => exact .done _ _
  | some item => exact .done _ _

end Reading

namespace Answer

variable {mapper : RowMapper τ}

/-! ### The only row -/

/-- What comes of asking a sequence for its only row. -/
inductive OnlyRow (mapper : RowMapper τ) :
    List (Except Error Row) → Except Error (Option τ) → Prop where
  /-- There is no item. -/
  | missing : OnlyRow mapper [] (.ok none)
  /-- There is one row, which can be mapped. -/
  | found {row : Row} {value : τ} (mapped : mapper row = .ok value) :
      OnlyRow mapper [.ok row] (.ok (some value))
  /-- There is one row, which cannot be mapped. -/
  | unmapped {row : Row} {e : Error} (refused : mapper row = .error e) :
      OnlyRow mapper [.ok row] (.error e)
  /-- One of the first two items is an error. -/
  | broken {items : List (Except Error Row)} {e : Error}
      (failed : firstError? (items.take 2) = some e) : OnlyRow mapper items (.error e)
  /-- The first two items are rows, whether they can be mapped or not. -/
  | crowded {row second : Row} {rest : List (Except Error Row)} :
      OnlyRow mapper (.ok row :: .ok second :: rest) (.error (.resultSize 1 2))

/-- Something comes of every sequence. -/
theorem onlyRow_one (items : List (Except Error Row)) :
    OnlyRow mapper items (one mapper (.ok items)) := by
  match items with
  | [] => exact .missing
  | .error e :: rest => exact .broken rfl
  | [.ok row] =>
      cases hrow : mapper row with
      | ok value =>
          have hone : one mapper (.ok [.ok row]) = .ok (some value) := congrArg (Except.map some) hrow
          rw [hone]
          exact .found hrow
      | error e =>
          have hone : one mapper (.ok [.ok row]) = .error e := congrArg (Except.map some) hrow
          rw [hone]
          exact .unmapped hrow
  | .ok row :: .error e :: rest => exact .broken rfl
  | .ok row :: .ok second :: rest => exact .crowded

/-- Nothing else comes of it. -/
theorem OnlyRow.eq_one {items : List (Except Error Row)} {outcome : Except Error (Option τ)}
    (h : OnlyRow mapper items outcome) : one mapper (.ok items) = outcome := by
  cases h with
  | missing => rfl
  | found mapped => exact congrArg (Except.map some) mapped
  | unmapped refused => exact congrArg (Except.map some) refused
  | crowded => rfl
  | broken failed =>
      -- the first two items are told apart, for a first error stands in front of any row
      match items with
      | [] => cases failed
      | .error _ :: _ => cases failed; rfl
      | [.ok _] => cases failed
      | .ok _ :: .error _ :: _ => cases failed; rfl
      | .ok _ :: .ok _ :: _ => cases failed

/-- **What comes of asking for the only row.** -/
theorem one_eq_iff {items : List (Except Error Row)} {outcome : Except Error (Option τ)} :
    one mapper (.ok items) = outcome ↔ OnlyRow mapper items outcome := by
  constructor
  · rintro rfl
    exact onlyRow_one items
  · exact OnlyRow.eq_one

/-- There is no only row if there is no item at all. -/
theorem one_eq_none_iff (answer : Answer) :
    one mapper answer = .ok none ↔ all mapper answer = [] := by
  cases answer with
  | error e => exact ⟨nofun, nofun⟩
  | ok items =>
      rw [one_eq_iff, all, List.map_eq_nil_iff]
      constructor
      · intro h
        cases h
        rfl
      · rintro rfl
        exact .missing

/-- The only row is there if all rows are this row. -/
theorem one_eq_some_iff (answer : Answer) (value : τ) :
    one mapper answer = .ok (some value) ↔ all mapper answer = [.ok value] := by
  cases answer with
  | error e => exact ⟨nofun, nofun⟩
  | ok items =>
      rw [one_eq_iff, all, List.map_eq_singleton_iff]
      constructor
      · intro h
        cases h with
        | found mapped => exact ⟨_, rfl, mapped⟩
      · rintro ⟨item, rfl, hitem⟩
        cases item with
        | error e => cases hitem
        | ok row => exact .found hitem

/-! ### The first row and all rows -/

/-- The first row is the first one of all rows. -/
theorem first_eq_head (answer : Answer) :
    first mapper answer = ((all mapper answer).head?.map (·.map some)).getD (.ok none) := by
  match answer with
  | .error _ => rfl
  | .ok [] => rfl
  | .ok (_ :: _) => rfl

/-- Every item gives one item, in its place. -/
theorem getElem?_all (items : List (Except Error Row)) (place : Nat) :
    (all mapper (.ok items))[place]? = items[place]?.map (mapItem mapper) :=
  List.getElem?_map

/-! ### Payloads -/

/-- **As long as there is at most one item, a payload of either mode collects the same.** -/
theorem collect_deliver {answer : Answer} (few : ∀ items, answer = .ok items → items.length ≤ 1)
    (fetch : Fetch τ) :
    ((Payload.mk fetch true).deliver answer).collect =
      ((Payload.mk fetch false).deliver answer).collect := by
  match answer with
  | .error _ => rfl
  | .ok [] => rfl
  | .ok [.error _] => rfl
  | .ok [.ok row] =>
      change ((fetch.mapper row).map some).map Option.toList = gather [fetch.mapper row]
      cases fetch.mapper row <;> rfl
  | .ok (_ :: _ :: _) =>
      have htwo := few _ rfl
      simp at htwo

end Answer

namespace Fetch

/-- **All three ways of reading agree on every answer.**  Where the query is refused, this is the only
item of all rows, and the only row is refused as well.  Otherwise all rows have one item for each item
of the answer, in its place and past any error; what comes of the only row is told by the first two
items.  The only row is there, or missing, if all rows are this row, or none, and the first row is the
first one of all rows.  For the only row no more than two items are asked for, and for the first row
no more than one, so that the items behind them do not matter.  With at most one item it does not
matter either in which mode a payload is collected. -/
theorem ways_agree (fetch : Fetch τ) (ask : Ask κ) (connection : κ) :
    let answer := (fetch.run ask connection).1
    let one := (fetch.one ask connection).1
    let first := (fetch.first ask connection).1
    let all := ((RowStream.unopened fetch).remaining ask connection).1
    (∀ e, answer = .error e → all = [.error e] ∧ one = .error e) ∧
      (∀ items, answer = .ok items →
        all.length = items.length ∧
        (∀ (place : Nat) row, items[place]? = some (.ok row) →
          all[place]? = some (fetch.mapper row)) ∧
        (∀ (place : Nat) e, items[place]? = some (.error e) → all[place]? = some (.error e)) ∧
        (∀ outcome, one = outcome ↔ Answer.OnlyRow fetch.mapper items outcome) ∧
        one = (Reading.only fetch.mapper).run items ∧
        first = (Reading.front fetch.mapper).run items) ∧
      (one = .ok none ↔ all = []) ∧ (∀ value, one = .ok (some value) ↔ all = [.ok value]) ∧
      first = (all.head?.map (·.map some)).getD (.ok none) ∧
      (Reading.only fetch.mapper).AtMost 2 ∧ (Reading.front fetch.mapper).AtMost 1 ∧
      (∀ items others : List (Except Error Row),
        (items.take 2 = others.take 2 →
          Answer.one fetch.mapper (.ok items) = Answer.one fetch.mapper (.ok others)) ∧
        (items.take 1 = others.take 1 →
          Answer.first fetch.mapper (.ok items) = Answer.first fetch.mapper (.ok others))) ∧
      ((∀ items, answer = .ok items → items.length ≤ 1) →
        ((Payload.mk fetch true).run ask connection).1.collect =
          ((Payload.mk fetch false).run ask connection).1.collect) := by
  intro answer one first all
  have hall : all = Answer.all fetch.mapper answer := rfl
  have hone : one = Answer.one fetch.mapper answer := rfl
  have hfirst : first = Answer.first fetch.mapper answer := rfl
  refine ⟨?_, ?_, ?_, ?_, ?_, Reading.atMost_only _, Reading.atMost_front _, ?_, ?_⟩
  · intro e hrefused
    rw [hall, hone, hrefused]
    exact ⟨rfl, rfl⟩
  · intro items hitems
    rw [hall, hone, hfirst, hitems]
    refine ⟨List.length_map _, ?_, ?_, fun _ => Answer.one_eq_iff, rfl, rfl⟩
    · intro place row hrow
      rw [Answer.getElem?_all, hrow]
      rfl
    · intro place e herror
      rw [Answer.getElem?_all, herror]
      rfl
  · rw [hone, hall]
    exact Answer.one_eq_none_iff answer
  · intro value
    rw [hone, hall]
    exact Answer.one_eq_some_iff answer value
  · rw [hfirst, hall]
    exact Answer.first_eq_head answer
  · intro items others
    constructor
    · exact (Reading.atMost_only _).run_congr
    · exact (Reading.atMost_front _).run_congr
  · intro few
    exact Answer.collect_deliver few fetch

/-- A query for single values, where a row without columns cannot be mapped. -/
def ofValues (sql : String) : Fetch Value := ⟨sql, [], RowMapper.single⟩

/-- Answers to three queries: two rows and an error, a row, and a refusal. -/
def threeAnswers : Scripted :=
  .ofAnswers [("long", .interrupted [⟨[]⟩, ⟨[("id", .int32 1)]⟩] "gone"),
    ("short", .rows [⟨[]⟩]), ("wrong", .refused "syntax")]

theorem ways_agree_threeAnswers :
    (((ofValues "long").run Scripted.submit threeAnswers).1 = .ok [.ok ⟨[]⟩,
        .ok ⟨[("id", .int32 1)]⟩, .error (.connection "gone" [])] ∧
      ((ofValues "long").one Scripted.submit threeAnswers).1 = .error (.resultSize 1 2) ∧
      ((RowStream.unopened (ofValues "long")).remaining Scripted.submit threeAnswers).1[2]? =
        some (.error (.connection "gone" []))) ∧
    (((ofValues "short").run Scripted.submit threeAnswers).1 = .ok [.ok ⟨[]⟩] ∧
      ((Payload.mk (ofValues "short") true).run Scripted.submit threeAnswers).1.collect =
        ((Payload.mk (ofValues "short") false).run Scripted.submit threeAnswers).1.collect) ∧
    ((ofValues "wrong").run Scripted.submit threeAnswers).1 =
        .error (.query "syntax" (some "wrong")) ∧
      ((ofValues "wrong").one Scripted.submit threeAnswers).1 =
        .error (.query "syntax" (some "wrong")) := by
  obtain ⟨-, hlong, -⟩ := ways_agree (ofValues "long") Scripted.submit threeAnswers
  obtain ⟨-, -, herrors, hone, -⟩ := hlong _ rfl
  obtain ⟨-, -, -, -, -, -, -, -, hshort⟩ := ways_agree (ofValues "short") Scripted.submit threeAnswers
  obtain ⟨hwrong, -⟩ := ways_agree (ofValues "wrong") Scripted.submit threeAnswers
  refine ⟨⟨rfl, (hone _).2 .crowded, herrors 2 _ rfl⟩, ⟨rfl, hshort ?_⟩, rfl, (hwrong _ rfl).2⟩
  intro items hitems
  cases hitems
  exact Nat.le_refl 1

end Fetch

end QueryFeed.Database
