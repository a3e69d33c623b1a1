import QueryFeed.Number.Decimal

/-!
**Which units there is room for.**

Units at a scale lose as many places as must be dropped, and there is nothing when even the nearest whole
number is too great.  The greatest number of units is odd, so a tie just above it goes up, and half a unit
above it is exactly where the room ends.

Main results:

* `roundHalfEven_le_iff` — a quotient is rounded to at most an odd number if and only if it is less than
  half above it;
* `Decimal.isSome_fit?_iff` — **units fit if and only if they are less than half a unit above the
  greatest**;
* `Decimal.le_of_fit?` — what fits is not above the greatest.
-/

set_option autoImplicit false

namespace QueryFeed

/-! ### Rounding -/

/-- A quotient is rounded to at most an odd number if and only if it is less than half above it. -/
theorem roundHalfEven_le_iff {numerator denominator bound : Nat} (positive : 0 < denominator)
    (odd : bound % 2 = 1) :
    roundHalfEven numerator denominator ≤ bound ↔
      2 * numerator < (2 * bound + 1) * denominator := by
  obtain ⟨quotient, hquotient⟩ : ∃ q, numerator / denominator = q := ⟨_, rfl⟩
  obtain ⟨rest, hrest⟩ : ∃ r, numerator % denominator = r := ⟨_, rfl⟩
  have hsplit : denominator * quotient + rest = numerator := by
    rw [← hquotient, ← hrest, Nat.div_add_mod]
  have hless : rest < denominator := hrest ▸ Nat.mod_lt numerator positive
  have hbound : (2 * bound + 1) * denominator = 2 * (denominator * bound) + denominator := by
    rw [Nat.add_mul, Nat.mul_assoc, Nat.mul_comm bound, Nat.one_mul]
  -- the products are atoms from here on, so their order has to be said
  have hlow : quotient < bound → denominator * quotient + denominator ≤ denominator * bound := by
    intro h
    rw [← Nat.mul_succ]
    exact Nat.mul_le_mul_left denominator h
  have hhigh : bound < quotient → denominator * bound + denominator ≤ denominator * quotient := by
    intro h
    rw [← Nat.mul_succ]
    exact Nat.mul_le_mul_left denominator h
  have hequal : quotient = bound → denominator * quotient = denominator * bound :=
    congrArg (denominator * ·)
  unfold roundHalfEven
  rw [hquotient, hrest, hbound, ← hsplit]
  simp only
  split
  · omega
  · split
    · omega
    · omega

namespace Decimal

theorem maxUnits_odd : maxUnits % 2 = 1 := by decide

/-! ### Units at a scale -/

/-- The units at which the room ends at a scale, doubled: half a unit above the greatest. -/
def roomEnd (scale : Nat) : Nat := (2 * maxUnits + 1) * Nat.pow 10 scale

theorem roomEnd_mono {scale later : Nat} (h : scale ≤ later) : roomEnd scale ≤ roomEnd later :=
  Nat.mul_le_mul_left _ (Nat.pow_le_pow_right (by decide : 0 < 10) h)

/-- Units up to the greatest are within the room at each scale. -/
theorem lt_roomEnd {units : Nat} (h : units ≤ maxUnits) (scale : Nat) : 2 * units < roomEnd scale := by
  have hzero : roomEnd 0 = 2 * maxUnits + 1 := Nat.mul_one _
  have hmono := roomEnd_mono (Nat.zero_le scale)
  omega

theorem round_le_iff (units dropped : Nat) :
    roundHalfEven units (Nat.pow 10 dropped) ≤ maxUnits ↔ 2 * units < roomEnd dropped :=
  roundHalfEven_le_iff (Nat.pow_pos (by decide : 0 < 10)) maxUnits_odd

theorem isSome_fitBelow_iff (units scale dropped : Nat) :
    (fit?.fitBelow units scale dropped).isSome = true ↔ 2 * units < roomEnd (scale + dropped) := by
  induction scale generalizing dropped with
  | zero =>
      rw [Nat.zero_add, ← round_le_iff, fit?.fitBelow]
      split <;> simp_all
  | succ scale ih =>
      have hscale : scale + (dropped + 1) = scale + 1 + dropped := by omega
      rw [fit?.fitBelow]
      split
      · rename_i hle
        have hless := (round_le_iff units dropped).1 hle
        have hmono := roomEnd_mono (show dropped ≤ scale + 1 + dropped by omega)
        exact iff_of_true rfl (Nat.lt_of_lt_of_le hless hmono)
      · rw [ih, hscale]

/-- **Units fit if and only if they are less than half a unit above the greatest.** -/
theorem isSome_fit?_iff (units scale : Nat) :
    (fit? units scale).isSome = true ↔ 2 * units < roomEnd scale := by
  cases scale with
  | zero =>
      have hzero : roomEnd 0 = 2 * maxUnits + 1 := Nat.mul_one _
      rw [fit?, hzero]
      split
      · exact iff_of_true rfl (by omega)
      · exact iff_of_false (by simp) (by omega)
  | succ scale =>
      rw [fit?]
      split
      · rename_i hle
        exact iff_of_true rfl (lt_roomEnd hle _)
      · exact isSome_fitBelow_iff units scale 1

theorem le_or_of_ite {units scale : Nat} {lower : Option (Nat × Nat)} {fitted : Nat × Nat}
    (h : (if units ≤ maxUnits then some (units, scale) else lower) = some fitted) :
    fitted.1 ≤ maxUnits ∨ lower = some fitted := by
  split at h
  · rename_i hle
    cases h
    exact .inl hle
  · exact .inr h

theorem le_of_fitBelow {units scale dropped : Nat} {fitted : Nat × Nat}
    (h : fit?.fitBelow units scale dropped = some fitted) : fitted.1 ≤ maxUnits := by
  induction scale generalizing dropped with
  | zero =>
      rcases le_or_of_ite h with hle | hnone
      · exact hle
      · cases hnone
  | succ scale ih =>
      rcases le_or_of_ite h with hle | hlower
      · exact hle
      · exact ih hlower

/-- What fits is not above the greatest number of units. -/
theorem le_of_fit? {units scale : Nat} {fitted : Nat × Nat} (h : fit? units scale = some fitted) :
    fitted.1 ≤ maxUnits := by
  cases scale with
  | zero =>
      rcases le_or_of_ite h with hle | hnone
      · exact hle
      · cases hnone
  | succ scale =>
      rcases le_or_of_ite h with hle | hlower
      · exact hle
      · exact le_of_fitBelow hlower

end Decimal

end QueryFeed
