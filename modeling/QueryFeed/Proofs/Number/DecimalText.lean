import Mathlib.Data.List.TakeWhile
import QueryFeed.Number.Decimal
import QueryFeed.Proofs.Text.Padded

/-!
**A decimal is told by its text.**

The text of a decimal has as many characters after its point as the scale says, and no point without them.
Without the point it is the numeral of the units, and only a decimal with a sign begins with one.

Main results:

* `Decimal.filter_unitsText`, `Decimal.length_fraction` — the units and the scale are read off the digits;
* `Decimal.text_injective` — **decimals with the same text have the same sign, units and scale**.
-/

set_option autoImplicit false

namespace QueryFeed.Decimal

open Text

/-- The digits suffice for all places and one digit in front of them. -/
theorem lt_length_padded (units scale : Nat) : scale < (padded (scale + 1) units).length := by
  rw [padded, zeroFilled, List.length_append, List.length_replicate]
  omega

theorem point_not_mem {digits : List Char} {width units : Nat}
    (part : ∀ c ∈ digits, c ∈ padded width units) : '.' ∉ digits :=
  fun hmem => not_mem_padded (by decide) width units (part _ hmem)

/-- **Without its point the text is the numeral of the units.** -/
theorem filter_unitsText (units scale : Nat) :
    (unitsText units scale).filter (· != '.') = padded (scale + 1) units := by
  have hkeep : ∀ digits : List Char, (∀ c ∈ digits, c ∈ padded (scale + 1) units) →
      digits.filter (· != '.') = digits := fun digits hpart =>
    List.filter_eq_self.2 (ne_of_not_mem (point_not_mem hpart))
  have hwhole := hkeep _ fun c hc =>
    List.mem_of_mem_take (i := (padded (scale + 1) units).length - scale) hc
  have hplaces := hkeep _ fun c hc =>
    List.mem_of_mem_drop (i := (padded (scale + 1) units).length - scale) hc
  unfold unitsText
  split
  · rename_i hscale
    rw [hwhole, hscale, Nat.sub_zero, List.take_length]
  · rw [List.filter_append, List.filter_cons_of_neg (by decide), hwhole, hplaces,
      List.take_append_drop]

/-- **As many characters stand after the point as the scale says.** -/
theorem length_fraction (units scale : Nat) :
    ((unitsText units scale).dropWhile (· != '.')).length - 1 = scale := by
  have hlength := lt_length_padded units scale
  have hwhole : '.' ∉ (padded (scale + 1) units).take ((padded (scale + 1) units).length - scale) :=
    point_not_mem fun c hc => List.mem_of_mem_take hc
  unfold unitsText
  split
  · rename_i hscale
    rw [List.dropWhile_eq_nil_iff.2 (ne_of_not_mem hwhole), hscale]
    rfl
  · rw [dropWhile_append (ne_of_not_mem hwhole) head?_cons_mark, List.length_cons, List.length_drop]
    omega

theorem unitsText_injective {units other scale places : Nat}
    (h : unitsText units scale = unitsText other places) : units = other ∧ scale = places := by
  have hscale : scale = places := by
    rw [← length_fraction units scale, h, length_fraction]
  have hdigits : padded (scale + 1) units = padded (places + 1) other := by
    rw [← filter_unitsText, h, filter_unitsText]
  exact ⟨padded_injective hdigits, hscale⟩

/-- The digits have no sign. -/
theorem unitsText_ne_minus (units scale : Nat) (rest : List Char) :
    unitsText units scale ≠ '-' :: rest := by
  intro h
  have hmem : '-' ∈ (unitsText units scale).filter (· != '.') := by
    rw [h]
    exact List.mem_filter.2 ⟨List.mem_cons_self, by decide⟩
  rw [filter_unitsText] at hmem
  exact not_mem_padded (by decide) _ _ hmem

/-- **Decimals with the same text have the same sign, units and scale.** -/
theorem text_injective {first second : Decimal} (h : first.text = second.text) : first = second := by
  obtain ⟨negative, units, scale⟩ := first
  obtain ⟨negative', units', scale'⟩ := second
  have hchars := String.ofList_injective h
  match negative, negative' with
  | false, false =>
      obtain ⟨rfl, rfl⟩ := unitsText_injective hchars
      rfl
  | false, true => exact absurd hchars (unitsText_ne_minus _ _ _)
  | true, false => exact absurd hchars.symm (unitsText_ne_minus _ _ _)
  | true, true =>
      obtain ⟨rfl, rfl⟩ := unitsText_injective (List.cons.inj hchars).2
      rfl

end QueryFeed.Decimal
