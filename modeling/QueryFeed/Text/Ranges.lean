/-!
**Membership in a table of ranges.**

Properties of characters are given as ranges of code points in ascending order, both ends included.

Main definition: `inRanges`.  Main result: `inRanges_iff` — for an ascending table the early stop
loses nothing.
-/

set_option autoImplicit false

namespace QueryFeed.Text

/-- Whether a number lies in one of the ranges of an ascending table. -/
def inRanges (n : Nat) : List (Nat × Nat) → Bool
  | [] => false
  | (low, high) :: rest => if n < low then false else n ≤ high || inRanges n rest

/-- The ranges ascend: each begins no earlier than the one before it. -/
def Ascending (ranges : List (Nat × Nat)) : Prop :=
  ranges.Pairwise (fun first second => first.1 ≤ second.1)

theorem inRanges_iff {n : Nat} {ranges : List (Nat × Nat)} (h : Ascending ranges) :
    inRanges n ranges = true ↔ ∃ range ∈ ranges, range.1 ≤ n ∧ n ≤ range.2 := by
  induction ranges with
  | nil => simp [inRanges]
  | cons range rest ih =>
      obtain ⟨hhead, hrest⟩ := List.pairwise_cons.1 h
      by_cases hlow : n < range.1
      · simp only [inRanges, hlow, if_true, Bool.false_eq_true, false_iff]
        rintro ⟨other, hmem, hle, -⟩
        rcases List.mem_cons.1 hmem with rfl | hmem
        · omega
        · have := hhead other hmem
          omega
      · have hle : range.1 ≤ n := by omega
        simp only [inRanges, hlow, if_false, Bool.or_eq_true, decide_eq_true_eq, ih hrest,
          List.mem_cons]
        constructor
        · rintro (hhigh | ⟨other, hmem, hother⟩)
          · exact ⟨range, Or.inl rfl, hle, hhigh⟩
          · exact ⟨other, Or.inr hmem, hother⟩
        · rintro ⟨other, rfl | hmem, hother⟩
          · exact Or.inl hother.2
          · exact Or.inr ⟨other, hmem, hother⟩

end QueryFeed.Text
