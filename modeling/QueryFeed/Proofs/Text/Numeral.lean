import QueryFeed.Message

/-!
**Numerals and identities are read back.**

A numeral in a base up to 16 has the value of the number that it writes, leading zeros do not change
the value, and hyphens can be taken out again.  So the text of an identity tells its number, and two
identities with the same text are the same.

Main results:

* `Text.numeralValue_numeral`, `Text.numeral?_decimal` — **a numeral has the value of its number**;
* `MessageId.text_injective`, `Uuid.text_injective` — **texts of identities are different for different
  identities**.
-/

set_option autoImplicit false

namespace QueryFeed

namespace Text

/-! ### Digits -/

theorem digitValue?_digitChar {value : Nat} (small : value < 16) :
    digitValue? (digitChar value) = some value := by
  have hall : ∀ value < 16, digitValue? (digitChar value) = some value := by decide
  exact hall value small

theorem digitChar_ne_hyphen {value : Nat} (small : value < 16) : digitChar value ≠ '-' := by
  have hall : ∀ value < 16, digitChar value ≠ '-' := by decide
  exact hall value small

/-! ### Numerals -/

section

variable {base : Nat}

/-- Digits in front of a text that goes on to be read count as the number itself. -/
theorem foldl_numeralOnto (above : 2 ≤ base) (below : base ≤ 16) {steps n : Nat}
    (enough : n < steps) (tail : List Char) :
    (numeralOnto base steps n tail).foldl
        (fun value c => value * base + (digitValue? c).getD 0) 0 =
      tail.foldl (fun value c => value * base + (digitValue? c).getD 0) n := by
  induction steps generalizing n tail with
  | zero => exact absurd enough (Nat.not_lt_zero n)
  | succ steps ih =>
      have hdigit : n % base < 16 := Nat.lt_of_lt_of_le (Nat.mod_lt n (by omega)) below
      unfold numeralOnto
      split
      · rename_i hlast
        rw [List.foldl_cons, digitValue?_digitChar hdigit, Nat.mod_eq_of_lt hlast, Nat.zero_mul,
          Nat.zero_add]
        rfl
      · -- dividing makes the number smaller, so the steps suffice for what is left to write
        rename_i hmore
        have hfewer : n / base < steps := by
          have hless := Nat.div_lt_self (n := n) (k := base) (by omega) above
          omega
        rw [ih hfewer, List.foldl_cons, digitValue?_digitChar hdigit]
        change List.foldl _ (n / base * base + n % base) tail = _
        rw [Nat.div_add_mod']

/-- **A numeral has the value of its number.** -/
theorem numeralValue_numeral (above : 2 ≤ base) (below : base ≤ 16) (n : Nat) :
    numeralValue base (numeral base n) = n :=
  foldl_numeralOnto above below (Nat.lt_succ_self n) []

theorem mem_numeralOnto (positive : 0 < base) {steps n : Nat} {tail : List Char} {c : Char}
    (h : c ∈ numeralOnto base steps n tail) : c ∈ tail ∨ ∃ value < base, c = digitChar value := by
  induction steps generalizing n tail with
  | zero => exact Or.inl h
  | succ steps ih =>
      have hcons : c ∈ digitChar (n % base) :: tail →
          c ∈ tail ∨ ∃ value < base, c = digitChar value := by
        intro hmem
        rcases List.mem_cons.1 hmem with hdigit | htail
        · exact Or.inr ⟨n % base, Nat.mod_lt n positive, hdigit⟩
        · exact Or.inl htail
      unfold numeralOnto at h
      split at h
      · exact hcons h
      · exact (ih h).elim hcons Or.inr

/-- A numeral is made of digits of its base. -/
theorem mem_numeral (positive : 0 < base) {n : Nat} {c : Char} (h : c ∈ numeral base n) :
    ∃ value < base, c = digitChar value :=
  (mem_numeralOnto positive h).resolve_left (List.not_mem_nil)

end

theorem numeralOnto_ne_nil (base steps n : Nat) {tail : List Char} (h : tail ≠ []) :
    numeralOnto base steps n tail ≠ [] := by
  induction steps generalizing n tail with
  | zero => exact h
  | succ steps ih =>
      unfold numeralOnto
      split
      · exact List.cons_ne_nil _ _
      · exact ih _ (List.cons_ne_nil _ _)

theorem numeral_ne_nil (base n : Nat) : numeral base n ≠ [] := by
  unfold numeral numeralOnto
  split
  · exact List.cons_ne_nil _ _
  · exact numeralOnto_ne_nil _ _ _ (List.cons_ne_nil _ _)

theorem decimal_ne_nil (n : Nat) : decimal n ≠ [] := numeral_ne_nil 10 n

/-- **The digits of a number are read as this number.** -/
theorem numeral?_decimal (n : Nat) : numeral? 10 (decimal n) = some n := by
  have hfits : ∀ c ∈ decimal n, ∃ value < 10, digitValue? c = some value := by
    intro c hc
    obtain ⟨value, hvalue, rfl⟩ := mem_numeral (show 0 < 10 by decide) hc
    exact ⟨value, hvalue, digitValue?_digitChar (by omega)⟩
  have hvalue := numeralValue_numeral (show 2 ≤ 10 by decide) (by decide) n
  unfold numeral?
  rw [if_neg, decimal, hvalue]
  simp only [Bool.or_eq_true, List.isEmpty_iff, Bool.not_eq_true', not_or, Bool.not_eq_false,
    List.all_eq_true]
  refine ⟨decimal_ne_nil n, ?_⟩
  intro c hc
  obtain ⟨value, hvalue, hdigit⟩ := hfits c hc
  rw [hdigit]
  exact decide_eq_true hvalue

/-- Leading zeros do not change the value. -/
theorem numeralValue_zeroFilled (base width : Nat) (digits : List Char) :
    numeralValue base (zeroFilled width digits) = numeralValue base digits := by
  have hzeros : ∀ count, (List.replicate count '0').foldl
      (fun value c => value * base + (digitValue? c).getD 0) 0 = 0 := by
    intro count
    induction count with
    | zero => rfl
    | succ count ih =>
        rw [List.replicate_succ, List.foldl_cons, Nat.zero_mul]
        exact ih
  rw [numeralValue, zeroFilled, List.foldl_append, hzeros]
  rfl

end Text

/-! ### Identities -/

/-- Hyphens between the groups are all that is added to the digits. -/
theorem Uuid.filter_grouped {digits : List Char} (plain : ∀ c ∈ digits, c ≠ '-') :
    (grouped digits).filter (· != '-') = digits := by
  have hkeep : ∀ part : List Char, (∀ c ∈ part, c ∈ digits) → part.filter (· != '-') = part := by
    intro part hpart
    rw [List.filter_eq_self]
    intro c hc
    exact bne_iff_ne.2 (plain c (hpart c hc))
  have htake : ∀ start, ((digits.drop start).take 4).filter (· != '-') =
      (digits.drop start).take 4 := fun start =>
    hkeep _ fun c hc => List.mem_of_mem_drop (List.mem_of_mem_take hc)
  have hhyphen : ∀ part : List Char, ('-' :: part).filter (· != '-') = part.filter (· != '-') :=
    fun part => List.filter_cons_of_neg (by decide)
  have hsplit : ∀ start, (digits.drop start).take 4 ++ digits.drop (start + 4) =
      digits.drop start := by
    intro start
    rw [← List.drop_drop]
    exact List.take_append_drop 4 _
  unfold grouped
  simp only [List.filter_append, hhyphen, htake]
  rw [hkeep (digits.take 8) fun c hc => List.mem_of_mem_take hc,
    hkeep (digits.drop 20) fun c hc => List.mem_of_mem_drop hc]
  rw [List.append_assoc, hsplit 16, List.append_assoc, hsplit 12, List.append_assoc, hsplit 8,
    List.take_append_drop]

/-- **The number is read back from the grouped digits** once the hyphens are taken out. -/
theorem Uuid.numeralValue_grouped (n : Nat) :
    Text.numeralValue 16
      ((grouped (Text.zeroFilled 32 (Text.hexadecimal n))).filter (· != '-')) = n := by
  have hplain : ∀ c ∈ Text.zeroFilled 32 (Text.hexadecimal n), c ≠ '-' := by
    intro c hc
    rcases List.mem_append.1 hc with hzero | hdigit
    · rw [List.eq_of_mem_replicate hzero]
      decide
    · obtain ⟨value, hvalue, rfl⟩ := Text.mem_numeral (show 0 < 16 by decide) hdigit
      exact Text.digitChar_ne_hyphen hvalue
  rw [filter_grouped hplain, Text.numeralValue_zeroFilled]
  exact Text.numeralValue_numeral (by decide) (by decide) n

/-- **Texts of identities are different for different identities.** -/
theorem MessageId.text_injective {first second : MessageId} (same : first.text = second.text) :
    first = second := by
  have hchars := String.ofList_injective same
  have hserial : first.serial = second.serial := by
    rw [← Uuid.numeralValue_grouped first.serial, hchars, Uuid.numeralValue_grouped]
  cases first
  cases second
  exact congrArg MessageId.mk hserial

/-- **Texts of identifiers are different for different identifiers.** -/
theorem Uuid.text_injective {first second : Uuid} (same : first.text = second.text) :
    first = second := by
  have hchars : grouped first.digits = grouped second.digits := String.ofList_injective same
  have hread : ∀ id : Uuid,
      Text.numeralValue 16 ((grouped id.digits).filter (· != '-')) = id.bits.toNat :=
    fun id => numeralValue_grouped id.bits.toNat
  have hbits : first.bits.toNat = second.bits.toNat := by
    rw [← hread first, hchars, hread second]
  cases first
  cases second
  exact congrArg Uuid.mk (BitVec.eq_of_toNat_eq hbits)

end QueryFeed
