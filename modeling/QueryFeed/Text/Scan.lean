/-!
**Texts with marked places.**

A text is gone over from left to right.  Where something marked begins, it is taken as a whole and the
scan goes on behind it; every other character stands for itself.

Main definitions:

* `Text.IsWord` — a name with its own rules for the first character and for the others;
* `Text.Scanner`, `Text.Scanner.scan` — what is marked in a text, and the parts of a text.

Main results:

* `Text.Scanner.scan_of_found`, `Text.Scanner.scan_append` — the scan of what is marked, and of what comes
  before it.
-/

set_option autoImplicit false

namespace QueryFeed.Text

/-! ### Names -/

/-- A name begins with a character of one kind and goes on with characters of another kind. -/
def IsWord (starts goesOn : Char → Bool) (name : List Char) : Prop :=
  ∃ first rest, name = first :: rest ∧ starts first = true ∧ ∀ c ∈ rest, goesOn c = true

theorem IsWord.forall_goesOn {starts goesOn : Char → Bool} {name : List Char}
    (h : IsWord starts goesOn name) (more : ∀ c, starts c = true → goesOn c = true) :
    ∀ c ∈ name, goesOn c = true := by
  obtain ⟨first, rest, rfl, hfirst, hrest⟩ := h
  exact List.forall_mem_cons.2 ⟨more first hfirst, hrest⟩

/-! ### The scan -/

/-- What is marked in a text, with the part that it gives and the part that any other character gives. -/
structure Scanner (α β : Type) where
  plain : Char → β
  marked : α → β
  /-- What is marked at the beginning of a text, and what follows it. -/
  at? : List Char → Option (α × List Char)
  shorter : ∀ {text rest : List Char} {found : α},
    at? text = some (found, rest) → rest.length < text.length

namespace Scanner

variable {α β : Type} (scanner : Scanner α β)

/-- The parts of a text: at each place what is marked there, or else the character. -/
def scan (text : List Char) : List β :=
  match text with
  | [] => []
  | c :: rest =>
      match h : scanner.at? (c :: rest) with
      | some (found, after) =>
          have := scanner.shorter h
          scanner.marked found :: scan after
      | none => scanner.plain c :: scan rest
termination_by text.length
decreasing_by
  · assumption
  · exact Nat.lt_succ_self _

theorem scan_nil : scanner.scan [] = [] := by
  rw [scan]

theorem scan_of_found {text after : List Char} {found : α}
    (h : scanner.at? text = some (found, after)) :
    scanner.scan text = scanner.marked found :: scanner.scan after := by
  cases text with
  | nil => exact absurd (scanner.shorter h) (Nat.not_lt_zero _)
  | cons c rest =>
      rw [scan]
      split
      · rename_i other left hother
        rw [h] at hother
        cases hother
        rfl
      · rename_i hnone
        rw [h] at hnone
        cases hnone

theorem scan_cons_of_none {c : Char} {rest : List Char} (h : scanner.at? (c :: rest) = none) :
    scanner.scan (c :: rest) = scanner.plain c :: scanner.scan rest := by
  rw [scan]
  split
  · rename_i hsome
    rw [h] at hsome
    cases hsome
  · rfl

/-- **Where nothing marked begins, every character is kept.** -/
theorem scan_append {before rest : List Char}
    (bare : ∀ front c back, before = front ++ c :: back → scanner.at? (c :: back ++ rest) = none) :
    scanner.scan (before ++ rest) = before.map scanner.plain ++ scanner.scan rest := by
  induction before with
  | nil => rfl
  | cons c before ih =>
      have hlater := ih fun front d back hbefore => bare (c :: front) d back (by rw [hbefore]; rfl)
      have hfirst : scanner.at? (c :: (before ++ rest)) = none := bare [] c before rfl
      rw [List.cons_append, scanner.scan_cons_of_none hfirst, hlater]
      rfl

theorem scan_eq_map_plain {text : List Char}
    (bare : ∀ front c back, text = front ++ c :: back → scanner.at? (c :: back) = none) :
    scanner.scan text = text.map scanner.plain := by
  have hbare : ∀ front c back, text = front ++ c :: back → scanner.at? (c :: back ++ []) = none := by
    intro front c back htext
    rw [List.append_nil]
    exact bare front c back htext
  have happend := scanner.scan_append hbare
  rwa [List.append_nil, scan_nil, List.append_nil] at happend

end Scanner

end QueryFeed.Text
