import Mathlib.Data.List.Basic
import QueryFeed.Proofs.Text.Numeral
import QueryFeed.Proofs.Text.Plain

/-!
**Numerals of a fixed width.**

A number with no more digits than the width is padded to exactly this width, so a text that is put together
from padded numbers can be cut at fixed places.  Padded or not, a numeral tells its number, and a numeral
ends where the first character stands that is no digit.

Main results:

* `length_padded` — the width of a padded number;
* `padded_injective` — **a padded numeral tells its number**;
* `digits_append_inj` — **digits are told from what follows them**.
-/

set_option autoImplicit false

namespace QueryFeed.Text

/-! ### Widths -/

/-- A number has at most as many digits as the power of the base that is above it says. -/
theorem length_numeralOnto_le {base width : Nat} (positive : 0 < base) (steps : Nat) {n : Nat}
    (small : n < Nat.pow base width) (wide : 0 < width) (tail : List Char) :
    (numeralOnto base steps n tail).length ≤ tail.length + width := by
  induction steps generalizing n width tail with
  | zero => exact Nat.le_add_right _ _
  | succ steps ih =>
      obtain ⟨width, rfl⟩ := Nat.exists_eq_succ_of_ne_zero (Nat.ne_of_gt wide)
      unfold numeralOnto
      split
      · rw [List.length_cons]
        omega
      · -- what is left to write is nonzero, so there is room for one digit more
        rename_i hmore
        have hrest : n / base < Nat.pow base width := by
          rw [Nat.div_lt_iff_lt_mul positive]
          exact small
        have hwide : 0 < width := by
          rcases Nat.eq_zero_or_pos width with rfl | hwide
          · exact absurd (Nat.lt_of_lt_of_eq small (Nat.pow_one base)) hmore
          · exact hwide
        have hle := ih hrest hwide (digitChar (n % base) :: tail)
        refine Nat.le_trans hle ?_
        rw [List.length_cons]
        omega

theorem length_zeroFilled {width : Nat} {digits : List Char} (short : digits.length ≤ width) :
    (zeroFilled width digits).length = width := by
  rw [zeroFilled, List.length_append, List.length_replicate]
  omega

theorem length_numeral_le {base width n : Nat} (positive : 0 < base)
    (small : n < Nat.pow base width) (wide : 0 < width) : (numeral base n).length ≤ width := by
  have hle := length_numeralOnto_le positive (n + 1) small wide []
  rwa [List.length_nil, Nat.zero_add] at hle

/-- **A number that fits a width is padded to it.** -/
theorem length_padded {width n : Nat} (small : n < Nat.pow 10 width) (wide : 0 < width) :
    (padded width n).length = width :=
  length_zeroFilled (length_numeral_le (by decide) small wide)

/-! ### Values -/

theorem numeralValue_padded (width n : Nat) : numeralValue 10 (padded width n) = n := by
  rw [padded, numeralValue_zeroFilled]
  exact numeralValue_numeral (by decide) (by decide) n

/-- **A padded numeral tells its number**, whatever its width. -/
theorem padded_injective {width other m n : Nat} (h : padded width m = padded other n) : m = n := by
  rw [← numeralValue_padded width m, h, numeralValue_padded]

/-! ### Characters -/

theorem isDigit_digitChar {value : Nat} (small : value < 10) : isDigit (digitChar value) = true := by
  have hall : ∀ value < 10, isDigit (digitChar value) = true := by decide
  exact hall value small

theorem isDigit_of_mem_decimal {n : Nat} {c : Char} (h : c ∈ decimal n) : isDigit c = true := by
  obtain ⟨value, hvalue, rfl⟩ := mem_numeral (show 0 < 10 by decide) h
  exact isDigit_digitChar hvalue

/-- The digits of a positive number do not begin with a zero. -/
theorem numeralOnto_opening {base steps n : Nat} (above : 2 ≤ base) (positive : 0 < n)
    (enough : n < steps) (tail : List Char) :
    ∃ value rest, 0 < value ∧ value < base ∧ numeralOnto base steps n tail = digitChar value :: rest := by
  induction steps generalizing n tail with
  | zero => exact absurd enough (Nat.not_lt_zero n)
  | succ steps ih =>
      unfold numeralOnto
      split
      · rename_i hlast
        exact ⟨n % base, tail, by rwa [Nat.mod_eq_of_lt hlast], Nat.mod_lt n (by omega), rfl⟩
      · -- what is left to write is positive as well
        rename_i hmore
        have hpositive : 0 < n / base := Nat.div_pos (Nat.le_of_not_lt hmore) (by omega)
        have hless := Nat.div_lt_self positive above
        exact ih hpositive (by omega) _

theorem head?_decimal_ne_zero {n : Nat} (positive : 0 < n) : (decimal n).head? ≠ some '0' := by
  obtain ⟨value, digits, hvalue, hsmall, hdecimal⟩ :=
    numeralOnto_opening (show 2 ≤ 10 by decide) positive (Nat.lt_succ_self n) []
  have hall : ∀ value < 10, 0 < value → digitChar value ≠ '0' := by decide
  rw [decimal, numeral, hdecimal]
  exact fun h => hall value hsmall hvalue (Option.some.inj h)

theorem isDigit_of_mem_padded {width n : Nat} {c : Char} (h : c ∈ padded width n) :
    isDigit c = true := by
  rcases List.mem_append.1 h with hzero | hdigit
  · rw [List.eq_of_mem_replicate hzero]
    rfl
  · exact isDigit_of_mem_decimal hdigit

/-- A character that is no digit is not in a padded numeral. -/
theorem not_mem_padded {c : Char} (other : isDigit c = false) (width n : Nat) :
    c ∉ padded width n := by
  intro hmem
  rw [isDigit_of_mem_padded hmem] at other
  cases other

/-! ### What follows a number -/

/-- No digit follows. -/
def EndsNumber (rest : List Char) : Prop := ∀ c ∈ rest.head?, isDigit c = false

theorem endsNumber_nil : EndsNumber [] := nofun

theorem endsNumber_cons {c : Char} (other : isDigit c = false) (rest : List Char) :
    EndsNumber (c :: rest) := by
  rintro d ⟨⟩
  exact other

/-- **Digits are told from what follows them.** -/
theorem digits_append_inj {digits others rest after : List Char}
    (hdigits : ∀ c ∈ digits, isDigit c = true) (hothers : ∀ c ∈ others, isDigit c = true)
    (ends : EndsNumber rest) (ends' : EndsNumber after) (h : digits ++ rest = others ++ after) :
    digits = others ∧ rest = after := by
  have hfront := congrArg (List.takeWhile isDigit) h
  have hrest := congrArg (List.dropWhile isDigit) h
  rw [takeWhile_append hdigits ends, takeWhile_append hothers ends'] at hfront
  rw [dropWhile_append hdigits ends, dropWhile_append hothers ends'] at hrest
  exact ⟨hfront, hrest⟩

end QueryFeed.Text
