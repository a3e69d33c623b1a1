import QueryFeed.Text.Ranges

/-!
**Blank characters.**

A character is blank when it has the Unicode property `White_Space`.  Trimming removes the blanks at
both ends of a text and nothing else.

Main definitions: `isBlank`, `trim`.  Main result: `blanks_trimChars_blanks` — a text is its trimmed
part between blanks.
-/

set_option autoImplicit false

namespace QueryFeed.Text

/-- The ranges of blank code points, in ascending order. -/
def blankRanges : List (Nat × Nat) :=
  [(0x9, 0xd), (0x20, 0x20), (0x85, 0x85), (0xa0, 0xa0), (0x1680, 0x1680), (0x2000, 0x200a),
   (0x2028, 0x2029), (0x202f, 0x202f), (0x205f, 0x205f), (0x3000, 0x3000)]

/-- Whether a character is blank. -/
def isBlank (c : Char) : Bool := inRanges c.toNat blankRanges

/-- Removes the blanks at the end. -/
def trimEnd (text : List Char) : List Char := (text.reverse.dropWhile isBlank).reverse

/-- Removes the blanks at both ends. -/
def trimChars (text : List Char) : List Char := trimEnd (text.dropWhile isBlank)

/-- Removes the blanks at both ends. -/
def trim (text : String) : String := String.ofList (trimChars text.toList)

/-- Whether a text has no character but blanks. -/
def isBlankText (text : String) : Bool := text.toList.all isBlank

/-! ### What trimming removes -/

theorem trimEnd_append_blanks (text : List Char) :
    ∃ blanks : List Char, (∀ c ∈ blanks, isBlank c = true) ∧ trimEnd text ++ blanks = text := by
  refine ⟨(text.reverse.takeWhile isBlank).reverse, ?_, ?_⟩
  · intro c hc
    exact List.all_eq_true.1 List.all_takeWhile c (List.mem_reverse.1 hc)
  · rw [trimEnd, ← List.reverse_append, List.takeWhile_append_dropWhile, List.reverse_reverse]

/-- **A text is its trimmed part between blanks.** -/
theorem blanks_trimChars_blanks (text : List Char) :
    ∃ before after : List Char, (∀ c ∈ before, isBlank c = true) ∧
      (∀ c ∈ after, isBlank c = true) ∧ before ++ trimChars text ++ after = text := by
  obtain ⟨after, hafter, heq⟩ := trimEnd_append_blanks (text.dropWhile isBlank)
  refine ⟨text.takeWhile isBlank, after, ?_, hafter, ?_⟩
  · intro c hc
    exact List.all_eq_true.1 List.all_takeWhile c hc
  · rw [List.append_assoc, trimChars, heq, List.takeWhile_append_dropWhile]

end QueryFeed.Text
