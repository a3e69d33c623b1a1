import Mathlib.Algebra.Order.Field.Power
import Mathlib.Tactic.Linarith
import Mathlib.Tactic.Ring
import QueryFeed.Postgres.Numeric
import QueryFeed.Proofs.Number.Fit

/-!
**Which numerics have a decimal.**

A decimal has room for 28 places and for units below the 96th power of two.  Digits behind the point are
rounded as the room gets scarce, so they never are too many, and a numeric lacks a decimal only because
its whole part is too great.  The first digit behind the point matters for that, since it may round the
whole part up; from the second one on, a digit is less than half a unit.

Main definitions:

* `Numeric.whole`, `Numeric.front` — the whole part, and the whole part with four places;
* `Numeric.HasRoom` — what a decimal has room for;
* `Numeric.magnitude` — the number without its sign;
* `Numeric.IsComplete` — bytes that hold a finite number with all its digits.

Main results:

* `Numeric.isSome_toDecimal?_iff` — **a numeric has a decimal if and only if there is room for it**;
* `Numeric.IsNormal.hasRoom_iff` — there is room below half a unit above the greatest number of units;
* `Numeric.isSome_ofBytes?_iff` — bytes are a numeric if and only if they are complete.
-/

set_option autoImplicit false

namespace QueryFeed.Postgres.Numeric

open Decimal

/-! ### The whole part -/

/-- The number that digits in base 10000 stand for, put behind another. -/
def wholeFrom (units : Nat) (digits : List Nat) : Nat :=
  digits.foldl (fun n digit => n * 10000 + digit) units

/-- The digits before the point. -/
def count (x : Numeric) : Nat := (x.weight + 1).toNat

/-- The zeros between the last digit and the point. -/
def zeros (x : Numeric) : Nat := x.count - x.digits.length

/-- The whole part. -/
def whole (x : Numeric) : Nat := wholeFrom 0 (x.digits.take x.count) * Nat.pow 10000 x.zeros

/-- The whole part with the first digit behind the point, in units of the fourth place. -/
def front (x : Numeric) : Nat :=
  x.whole * 10000 + if -1 ≤ x.weight then (x.digits.drop x.count).headD 0 else 0

/-- What a decimal has room for: a whole part that no more than 28 zeros end, and that rounds to no more
than the greatest number of units. -/
structure HasRoom (x : Numeric) : Prop where
  zeros_le : x.zeros ≤ 7
  front_lt : 2 * x.front < roomEnd 4

/-- The room for four places ends half a unit above the greatest number of units. -/
theorem roomEnd_four : roomEnd 4 = 2 * (maxUnits * 10000 + 5000) := by decide

theorem le_wholeFrom (units : Nat) (digits : List Nat) : units ≤ wholeFrom units digits := by
  induction digits generalizing units with
  | nil => exact Nat.le_refl units
  | cons digit rest ih =>
      have hnext := ih (units * 10000 + digit)
      rw [wholeFrom, List.foldl_cons, ← wholeFrom]
      omega

theorem appendDigits_eq {units : Nat} (h : units ≤ maxUnits) (digits : List Nat) :
    appendDigits units digits =
      if wholeFrom units digits ≤ maxUnits then some (wholeFrom units digits) else none := by
  induction digits generalizing units with
  | nil => exact (if_pos h).symm
  | cons digit rest ih =>
      rw [appendDigits, wholeFrom, List.foldl_cons, ← wholeFrom]
      split
      · rename_i hnext
        exact ih hnext
      · rename_i hnext
        have hle := le_wholeFrom (units * 10000 + digit) rest
        rw [if_neg (by omega)]

/-- The whole part is found if it is not above the greatest number of units. -/
theorem wholePart?_eq (x : Numeric) :
    wholePart? x.count x.digits =
      if x.zeros ≤ 7 ∧ x.whole ≤ maxUnits then some x.whole else none := by
  have hfilled : wholeFrom 0 (x.digits.take x.count) ≤ x.whole :=
    Nat.le_mul_of_pos_right _ (Nat.pow_pos (by decide))
  rw [wholePart?, appendDigits_eq (Nat.zero_le maxUnits)]
  split
  · simp only [Option.bind_eq_bind, Option.bind_some, Nat.pow_eq]
    have hwhole : wholeFrom 0 (x.digits.take x.count) * 10000 ^ x.zeros = x.whole := rfl
    rw [← zeros]
    by_cases hzeros : x.zeros ≤ 7
    · by_cases hroom : x.whole ≤ maxUnits <;> simp [guard, hzeros, hwhole, hroom]
    · simp [guard, hzeros]
  · rw [if_neg (by omega)]
    rfl

/-! ### The digits behind the point -/

/-- Adds the digit that ends at a place. -/
def addDigit? (units scale digit place : Nat) : Option (Nat × Nat) :=
  if digit = 0 then some (units, scale)
  else if place ≤ maxScale then addAt? units scale digit place
  else if place = maxScale + 4 ∧ 5000 ≤ digit then addAt? units scale 1 maxScale
  else some (units, scale)

theorem addFraction_cons (units scale place digit : Nat) (rest : List Nat) :
    addFraction units scale place (digit :: rest) =
      (addDigit? units scale digit place).bind fun added =>
        addFraction added.1 added.2 (place + 4) rest := rfl

/-- From the second digit behind the point on, a digit is less than half a unit. -/
theorem isSome_addAt? {units digit place : Nat} (scale : Nat) (le : units ≤ maxUnits)
    (word : digit < 65536) (second : 8 ≤ place) : (addAt? units scale digit place).isSome = true := by
  simp only [addAt?, isSome_fit?_iff, roomEnd, Nat.pow_eq, Nat.mul_add, Nat.add_mul, Nat.one_mul]
  obtain ⟨common, hcommon⟩ : ∃ common, max scale place = common := ⟨_, rfl⟩
  rw [hcommon]
  have hunits : 2 * (units * 10 ^ (common - scale)) ≤ 2 * maxUnits * 10 ^ common := by
    rw [← Nat.mul_assoc]
    exact Nat.mul_le_mul (by omega) (Nat.pow_le_pow_right (by decide) (by omega))
  have hdigit : 2 * (digit * 10 ^ (common - place)) < 10 ^ common := by
    have hpower : 10 ^ 8 * 10 ^ (common - place) ≤ 10 ^ common := by
      rw [← Nat.pow_add]
      exact Nat.pow_le_pow_right (by decide) (by omega)
    rw [← Nat.mul_assoc]
    refine Nat.lt_of_lt_of_le (Nat.mul_lt_mul_of_pos_right ?_ (Nat.pow_pos (by decide))) hpower
    omega
  omega

theorem exists_addDigit? {units digit place : Nat} (scale : Nat) (le : units ≤ maxUnits)
    (word : digit < 65536) (second : 8 ≤ place) :
    ∃ added, addDigit? units scale digit place = some added ∧ added.1 ≤ maxUnits := by
  have hadd : ∀ {digit place : Nat}, digit < 65536 → 8 ≤ place →
      ∃ added, addAt? units scale digit place = some added ∧ added.1 ≤ maxUnits := by
    intro digit place hword hsecond
    obtain ⟨added, hadded⟩ := Option.isSome_iff_exists.1 (isSome_addAt? scale le hword hsecond)
    exact ⟨added, hadded, le_of_fit? hadded⟩
  unfold addDigit?
  split
  · exact ⟨_, rfl, le⟩
  · split
    · exact hadd word second
    · split
      · exact hadd (by decide) (by decide)
      · exact ⟨_, rfl, le⟩

/-- From the second digit behind the point on, all digits are added. -/
theorem isSome_addFraction {units place : Nat} {digits : List Nat} (scale : Nat)
    (le : units ≤ maxUnits) (words : ∀ digit ∈ digits, digit < 65536) (second : 8 ≤ place) :
    (addFraction units scale place digits).isSome = true := by
  induction digits generalizing units scale place with
  | nil => rfl
  | cons digit rest ih =>
      obtain ⟨hdigit, hrest⟩ := List.forall_mem_cons.1 words
      obtain ⟨added, hadded, hle⟩ := exists_addDigit? scale le hdigit second
      rw [addFraction_cons, hadded, Option.bind_some]
      exact ih added.2 hle hrest (by omega)

/-- The digits behind the point are added to a whole part unless the first of them rounds it up to more
than there is room for. -/
theorem isSome_addFraction_iff {units : Nat} {digits : List Nat} (le : units ≤ maxUnits)
    (words : ∀ digit ∈ digits, digit < 65536) :
    (addFraction units 0 4 digits).isSome = true ↔
      2 * (units * 10000 + digits.headD 0) < roomEnd 4 := by
  have hwhole : 2 * (units * 10000) < roomEnd 4 := by
    rw [roomEnd_four]
    omega
  cases digits with
  | nil =>
      rw [List.headD_nil, Nat.add_zero]
      exact iff_of_true rfl hwhole
  | cons digit rest =>
      obtain ⟨-, hrest⟩ := List.forall_mem_cons.1 words
      have hadd : addAt? units 0 digit 4 = fit? (units * 10000 + digit) 4 := by
        simp [addAt?]
      rw [addFraction_cons, addDigit?, List.headD_cons]
      split
      · rename_i hzero
        rw [Option.bind_some, hzero, Nat.add_zero (units * 10000)]
        exact iff_of_true (isSome_addFraction 0 le hrest (by decide)) hwhole
      · rw [if_pos (by decide), hadd, ← isSome_fit?_iff]
        cases hfit : fit? (units * 10000 + digit) 4 with
        | none => simp
        | some added =>
            rw [Option.bind_some]
            exact iff_of_true (isSome_addFraction _ (le_of_fit? hfit) hrest (by decide)) rfl

/-! ### Numerics with a decimal -/

theorem whole_of_weight_lt {x : Numeric} (small : x.weight < -1) :
    x.count = 0 ∧ x.zeros = 0 ∧ x.whole = 0 := by
  have hcount : x.count = 0 := by
    unfold count
    omega
  have hzeros : x.zeros = 0 := by
    unfold zeros
    omega
  exact ⟨hcount, hzeros, by simp [whole, hcount, wholeFrom]⟩

/-- **A numeric has a decimal if and only if there is room for it.** -/
theorem isSome_toDecimal?_iff {x : Numeric} (words : ∀ digit ∈ x.digits, digit < 65536) :
    x.toDecimal?.isSome = true ↔ x.HasRoom := by
  have hwords : ∀ digit ∈ x.digits.drop x.count, digit < 65536 :=
    fun digit hmem => words digit (List.mem_of_mem_drop hmem)
  have hdecimal : x.toDecimal?.isSome =
      ((wholePart? x.count x.digits).bind fun whole =>
        addFraction whole 0 (4 * ((-x.weight - 1).toNat + 1)) (x.digits.drop x.count)).isSome := by
    rw [toDecimal?, ← count]
    cases wholePart? x.count x.digits with
    | none => rfl
    | some whole =>
        simp only [Option.bind_eq_bind, Option.bind_some]
        cases addFraction whole 0 (4 * ((-x.weight - 1).toNat + 1)) (x.digits.drop x.count) <;> rfl
  rw [hdecimal, wholePart?_eq]
  rcases Int.lt_or_le x.weight (-1) with hsmall | hlarge
  · -- without digits before the point, the first digit is behind four places at least
    obtain ⟨-, hzeros, hwhole⟩ := whole_of_weight_lt hsmall
    rw [if_pos ⟨by omega, by omega⟩, Option.bind_some]
    refine iff_of_true (isSome_addFraction 0 (by omega) hwords (by omega)) ⟨by omega, ?_⟩
    rw [front, if_neg (by omega), hwhole]
    decide
  · have hgap : (-x.weight - 1).toNat = 0 := by omega
    have hfront : x.front = x.whole * 10000 + (x.digits.drop x.count).headD 0 := by
      rw [front, if_pos hlarge]
    rw [hgap]
    by_cases hfound : x.zeros ≤ 7 ∧ x.whole ≤ maxUnits
    · rw [if_pos hfound, Option.bind_some, isSome_addFraction_iff hfound.2 hwords, ← hfront]
      exact ⟨fun hfront => ⟨hfound.1, hfront⟩, HasRoom.front_lt⟩
    · rw [if_neg hfound, Option.bind_none]
      refine iff_of_false (by simp) fun hroom => hfound ⟨hroom.zeros_le, ?_⟩
      have hless := hroom.front_lt
      rw [hfront, roomEnd_four] at hless
      omega

/-! ### The magnitude -/

/-- The number that digits stand for, the first of them with the given weight. -/
def magnitudeFrom (weight : Int) : List Nat → ℚ
  | [] => 0
  | digit :: rest => digit * 10000 ^ weight + magnitudeFrom (weight - 1) rest

/-- The number without its sign. -/
def magnitude (x : Numeric) : ℚ := magnitudeFrom x.weight x.digits

/-- A numeric as a server writes it: digits in base 10000 that no zero leads, and zero without any. -/
structure IsNormal (x : Numeric) : Prop where
  digit_lt : ∀ digit ∈ x.digits, digit < 10000
  first_pos : ∀ digit ∈ x.digits.head?, 0 < digit
  zero_weight : x.digits = [] → x.weight = 0

theorem magnitudeFrom_append (weight : Int) (digits rest : List Nat) :
    magnitudeFrom weight (digits ++ rest) =
      magnitudeFrom weight digits + magnitudeFrom (weight - digits.length) rest := by
  induction digits generalizing weight with
  | nil => simp [magnitudeFrom]
  | cons digit digits ih =>
      have hweight : weight - 1 - (digits.length : Int) = weight - (digit :: digits).length := by
        rw [List.length_cons]
        omega
      rw [List.cons_append, magnitudeFrom, ih, magnitudeFrom, hweight, add_assoc]

theorem magnitudeFrom_nonneg (weight : Int) (digits : List Nat) :
    0 ≤ magnitudeFrom weight digits := by
  induction digits generalizing weight with
  | nil => exact le_refl 0
  | cons digit rest ih =>
      have hrest := ih (weight - 1)
      rw [magnitudeFrom]
      positivity

theorem magnitudeFrom_lt {digits : List Nat} (h : ∀ digit ∈ digits, digit < 10000) (weight : Int) :
    magnitudeFrom weight digits < 10000 ^ (weight + 1) := by
  induction digits generalizing weight with
  | nil =>
      rw [magnitudeFrom]
      positivity
  | cons digit rest ih =>
      obtain ⟨hdigit, hrest⟩ := List.forall_mem_cons.1 h
      have hless := ih hrest (weight - 1)
      have hle : (digit : ℚ) + 1 ≤ 10000 := by exact_mod_cast hdigit
      have hpower : (0 : ℚ) ≤ 10000 ^ weight := by positivity
      have hproduct := mul_le_mul_of_nonneg_right hle hpower
      rw [sub_add_cancel] at hless
      rw [magnitudeFrom, zpow_add_one₀ (by norm_num)]
      linarith

theorem wholeFrom_eq (units : Nat) (digits : List Nat) :
    wholeFrom units digits = units * 10000 ^ digits.length + wholeFrom 0 digits := by
  induction digits generalizing units with
  | nil => simp [wholeFrom]
  | cons digit rest ih =>
      have hcons : ∀ units, wholeFrom units (digit :: rest) = wholeFrom (units * 10000 + digit) rest :=
        fun _ => rfl
      rw [hcons, hcons, ih, ih (0 * 10000 + digit), List.length_cons]
      ring

theorem magnitudeFrom_eq_wholeFrom (weight : Int) (digits : List Nat) :
    magnitudeFrom weight digits =
      wholeFrom 0 digits * (10000 : ℚ) ^ (weight + 1 - digits.length) := by
  induction digits generalizing weight with
  | nil => simp [magnitudeFrom, wholeFrom]
  | cons digit rest ih =>
      have hcons : wholeFrom 0 (digit :: rest) = digit * 10000 ^ rest.length + wholeFrom 0 rest := by
        rw [← wholeFrom_eq, wholeFrom, List.foldl_cons, Nat.zero_mul, Nat.zero_add, ← wholeFrom]
      have hweight : weight + 1 - ((digit :: rest).length : Int) =
          weight - 1 + 1 - (rest.length : Int) := by
        rw [List.length_cons]
        omega
      have hpower : (10000 : ℚ) ^ weight =
          10000 ^ rest.length * 10000 ^ (weight - 1 + 1 - (rest.length : Int)) := by
        rw [← zpow_natCast, ← zpow_add₀ (by norm_num)]
        congr 1
        omega
      rw [magnitudeFrom, ih, hcons, hweight, hpower]
      push_cast
      ring

/-- The digits before the point give the whole part. -/
theorem magnitudeFrom_take {x : Numeric} (large : -1 ≤ x.weight) :
    magnitudeFrom x.weight (x.digits.take x.count) = x.whole := by
  have hcount : (x.count : Int) = x.weight + 1 := Int.toNat_of_nonneg (by omega)
  have hweight : x.weight + 1 - ((x.digits.take x.count).length : Int) = (x.zeros : Int) := by
    rw [List.length_take, zeros, ← hcount]
    omega
  rw [magnitudeFrom_eq_wholeFrom, hweight, zpow_natCast, whole, Nat.pow_eq]
  push_cast
  rfl

/-- The whole part and four places are the magnitude up to less than one unit of the fourth place. -/
theorem front_le_magnitude {x : Numeric} (h : ∀ digit ∈ x.digits, digit < 10000) :
    (x.front : ℚ) ≤ x.magnitude * 10000 ∧ x.magnitude * 10000 < x.front + 1 := by
  rcases Int.lt_or_le x.weight (-1) with hsmall | hlarge
  · obtain ⟨-, -, hwhole⟩ := whole_of_weight_lt hsmall
    have hfront : x.front = 0 := by rw [front, if_neg (by omega), hwhole]
    have hnonneg := magnitudeFrom_nonneg x.weight x.digits
    have hless := magnitudeFrom_lt h x.weight
    have hpower : (10000 : ℚ) ^ (x.weight + 1) ≤ 10000 ^ (-1 : Int) :=
      zpow_le_zpow_right₀ (by norm_num) (by omega)
    rw [zpow_neg_one] at hpower
    rw [hfront, magnitude]
    constructor <;> push_cast <;> linarith
  · have hcount : (x.count : Int) = x.weight + 1 := Int.toNat_of_nonneg (by omega)
    have hsplit := magnitudeFrom_append x.weight (x.digits.take x.count) (x.digits.drop x.count)
    rw [List.take_append_drop, magnitudeFrom_take hlarge] at hsplit
    rw [magnitude, hsplit, front, if_pos hlarge]
    cases hdrop : x.digits.drop x.count with
    | nil => simp [magnitudeFrom]
    | cons digit rest =>
        have hlength : ((x.digits.take x.count).length : Int) = x.count := by
          have hpositive : 0 < (x.digits.drop x.count).length := by simp [hdrop]
          rw [List.length_drop] at hpositive
          rw [List.length_take]
          omega
        have hrest : ∀ digit ∈ rest, digit < 10000 := fun later hmem =>
          h later (List.mem_of_mem_drop (hdrop ▸ List.mem_cons_of_mem digit hmem))
        have hweight : x.weight - ((x.digits.take x.count).length : Int) = -1 := by omega
        have hnonneg := magnitudeFrom_nonneg (-1 - 1) rest
        have hless := magnitudeFrom_lt hrest (-1 - 1)
        rw [sub_add_cancel, zpow_neg_one] at hless
        rw [hweight, magnitudeFrom, zpow_neg_one, List.headD_cons]
        generalize magnitudeFrom (-1 - 1) rest = behind at hnonneg hless ⊢
        push_cast
        constructor <;> linarith

/-- A whole part that 29 zeros end or more is too great. -/
theorem IsNormal.zeros_le {x : Numeric} (h : x.IsNormal) (front : 2 * x.front < roomEnd 4) :
    x.zeros ≤ 7 := by
  by_contra hmany
  have hlength : x.digits.length < x.count := by
    rw [zeros] at hmany
    omega
  cases hdigits : x.digits with
  | nil =>
      rw [zeros, count, h.zero_weight hdigits] at hmany
      omega
  | cons digit rest =>
      have hpositive : 0 < digit := h.first_pos digit (by rw [hdigits]; rfl)
      have hfrom : 1 ≤ wholeFrom 0 (x.digits.take x.count) := by
        have hle := le_wholeFrom (0 * 10000 + digit) rest
        rw [List.take_of_length_le hlength.le, hdigits, wholeFrom, List.foldl_cons, ← wholeFrom]
        omega
      have hwhole : 1 * 10000 ^ 8 ≤ x.whole :=
        Nat.mul_le_mul hfrom (Nat.pow_le_pow_right (by decide) (by omega))
      have hend : roomEnd 4 < 2 * (1 * 10000 ^ 8 * 10000) := by decide
      rw [Numeric.front] at front
      omega

/-- There is room for what is less than half a unit above the greatest number of units. -/
theorem IsNormal.hasRoom_iff {x : Numeric} (h : x.IsNormal) :
    x.HasRoom ↔ x.magnitude < maxUnits + 1 / 2 := by
  obtain ⟨hlow, hhigh⟩ := front_le_magnitude h.digit_lt
  have hend := roomEnd_four
  constructor
  · intro hroom
    have hfront : x.front + 1 ≤ maxUnits * 10000 + 5000 := by
      have hless := hroom.front_lt
      omega
    have hcast : (x.front : ℚ) + 1 ≤ maxUnits * 10000 + 5000 := by exact_mod_cast hfront
    linarith
  · intro hsmall
    have hcast : (x.front : ℚ) < ((maxUnits * 10000 + 5000 : Nat) : ℚ) := by
      push_cast
      linarith
    have hfront : 2 * x.front < roomEnd 4 := by
      have hless : x.front < maxUnits * 10000 + 5000 := by exact_mod_cast hcast
      omega
    exact ⟨h.zeros_le hfront, hfront⟩

/-! ### Bytes -/

/-- Bytes hold a finite number with all its digits: a header, the digits that it counts, and a sign that
is no special mark. -/
def IsComplete (bytes : List UInt8) : Prop :=
  8 + 2 * Word.value (bytes.take 2) ≤ bytes.length ∧
    Word.value ((bytes.drop 4).take 2) < unusualMark

theorem isSome_readDigits_iff (count : Nat) (bytes : List UInt8) :
    (readDigits count bytes).isSome = true ↔ 2 * count ≤ bytes.length := by
  induction count generalizing bytes with
  | zero => simp [readDigits]
  | succ count ih =>
      match bytes with
      | [] => simp [readDigits]
      | [_] => simp [readDigits]; omega
      | _ :: _ :: rest =>
          rw [readDigits, Option.isSome_map, ih, List.length_cons, List.length_cons]
          omega

theorem lt_of_readDigits {count : Nat} {bytes : List UInt8} {digits : List Nat}
    (h : readDigits count bytes = some digits) : ∀ digit ∈ digits, digit < 65536 := by
  induction count generalizing bytes digits with
  | zero =>
      cases h
      simp
  | succ count ih =>
      match bytes with
      | [] => cases h
      | [_] => cases h
      | high :: low :: rest =>
          obtain ⟨later, hlater, rfl⟩ := Option.map_eq_some_iff.1 h
          have hhigh := high.toNat_lt
          have hlow := low.toNat_lt
          refine List.forall_mem_cons.2 ⟨?_, ih hlater⟩
          simp only [Word.value, List.foldl_cons, List.foldl_nil]
          omega

/-- Bytes are a numeric if and only if they are complete. -/
theorem isSome_ofBytes?_iff (bytes : List UInt8) :
    (ofBytes? bytes).isSome = true ↔ IsComplete bytes := by
  unfold IsComplete
  match bytes with
  | n₁ :: n₂ :: w₁ :: w₂ :: s₁ :: s₂ :: p₁ :: p₂ :: rest =>
      have hdigits := isSome_readDigits_iff (Word.value [n₁, n₂]) rest
      have hlength : (n₁ :: n₂ :: w₁ :: w₂ :: s₁ :: s₂ :: p₁ :: p₂ :: rest).length =
          rest.length + 8 := rfl
      rw [hlength, ofBytes?]
      simp only [List.take_succ_cons, List.take_zero, List.drop_succ_cons, List.drop_zero]
      cases hread : readDigits (Word.value [n₁, n₂]) rest with
      | none =>
          rw [hread] at hdigits
          refine iff_of_false (by simp) fun hcomplete => ?_
          have hsome := hdigits.2 (by omega)
          cases hsome
      | some digits =>
          have hle := hdigits.1 (by rw [hread]; rfl)
          by_cases hmark : Word.value [s₁, s₂] < unusualMark
          · exact iff_of_true (by simp [guard, hmark]) ⟨by omega, hmark⟩
          · exact iff_of_false (by simp [guard, hmark]) fun hcomplete => hmark hcomplete.2
  | [] | [_] | [_, _] | [_, _, _] | [_, _, _, _] | [_, _, _, _, _] | [_, _, _, _, _, _]
  | [_, _, _, _, _, _, _] =>
      refine iff_of_false (by simp [ofBytes?]) fun hcomplete => ?_
      have hle := hcomplete.1
      simp only [List.length_cons, List.length_nil] at hle
      omega

theorem lt_of_ofBytes? {bytes : List UInt8} {x : Numeric} (h : ofBytes? bytes = some x) :
    ∀ digit ∈ x.digits, digit < 65536 := by
  unfold ofBytes? at h
  split at h
  · obtain ⟨digits, hread, h⟩ := Option.bind_eq_some_iff.1 h
    obtain ⟨-, -, h⟩ := Option.bind_eq_some_iff.1 h
    cases h
    exact lt_of_readDigits hread
  · cases h

end QueryFeed.Postgres.Numeric
