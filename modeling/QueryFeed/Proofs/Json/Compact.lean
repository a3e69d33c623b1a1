import QueryFeed.Proofs.Json.Grammar
import QueryFeed.Proofs.Text.Padded
import QueryFeed.Value.Tagged

/-!
**The printers write compact JSON.**

What is printed for a value is one of the texts that the grammar has for it.  A number of double precision
is printed in one of four layouts, and each of them is a number of JSON because the shortest decimal has no
digit in front that is zero, unless it is zero altogether.

Main definitions:

* `DecimalFloat.IsProper` — a decimal that is zero has no zeros added.

Main results:

* `DecimalFloat.IsProper.isMagnitude_layOut` — a proper decimal is laid out as a number of JSON;
* `Json.spells_render` — **a value is written as one of its compact texts**;
* `Value.compact_renderTagged` — so are values in their tagged form.
-/

set_option autoImplicit false

namespace QueryFeed

namespace Json

/-! ### Strings -/

/-- **An escaped character stands for the character.** -/
theorem spells_escapeChar (c : Char) : SpellsChar c (escapeChar c) := by
  by_cases hshort : c = '"' ∨ c = '\\' ∨ c = '\x08' ∨ c = '\x0c' ∨ c = '\n' ∨ c = '\r' ∨ c = '\t'
  · rcases hshort with rfl | rfl | rfl | rfl | rfl | rfl | rfl <;> exact .short (by decide)
  · simp only [not_or] at hshort
    obtain ⟨hmark, hbackslash, hbackspace, hpage, hline, hreturn, htab⟩ := hshort
    rw [escapeChar, if_neg hmark, if_neg hbackslash, if_neg hbackspace, if_neg hpage, if_neg hline,
      if_neg hreturn, if_neg htab]
    by_cases hcontrol : c.toNat < 0x20
    · rw [if_pos hcontrol]
      have hall : ∀ n < 0x20, Text.numeral? 16
          ['0', '0', Text.digitChar (n / 16), Text.digitChar (n % 16)] = some n := by decide
      exact .number rfl (hall c.toNat hcontrol)
    · rw [if_neg hcontrol]
      exact .plain (Nat.le_of_not_lt hcontrol) hmark hbackslash

theorem spells_flatMap (chars : List Char) : SpellsChars chars (chars.flatMap escapeChar) := by
  induction chars with
  | nil => exact .nil
  | cons c chars ih => exact .cons (spells_escapeChar c) ih

/-- **A string is written between quotation marks.** -/
theorem spells_renderString (string : String) : SpellsString string (renderString string) :=
  ⟨_, spells_flatMap string.toList, rfl⟩

/-! ### Whole numbers -/

theorem digits_decimal (n : Nat) : Digits (Text.decimal n) :=
  ⟨Text.decimal_ne_nil n, fun _ hc => Text.isDigit_of_mem_decimal hc⟩

theorem wholePart_decimal (n : Nat) : WholePart (Text.decimal n) := by
  refine ⟨digits_decimal n, ?_⟩
  intro hzero
  rcases Nat.eq_zero_or_pos n with rfl | hpositive
  · rfl
  · exact absurd hzero (Text.head?_decimal_ne_zero hpositive)

theorem spells_signedDecimal (n : Int) : SpellsInt n (Text.signedDecimal n) := by
  have hvalue : ∀ n, Text.numeralValue 10 (Text.decimal n) = n :=
    Text.numeralValue_numeral (by decide) (by decide)
  cases n with
  | ofNat n => exact ⟨_, wholePart_decimal n, hvalue n, rfl⟩
  | negSucc n =>
      refine ⟨_, wholePart_decimal (n + 1), hvalue (n + 1), ?_⟩
      rw [if_pos (Int.negSucc_lt_zero n)]
      rfl

/-! ### Layouts of numbers -/

theorem Digits.append {text more : List Char} (h : Digits text) (hmore : ∀ c ∈ more, Text.isDigit c = true) :
    Digits (text ++ more) :=
  ⟨fun hnil => h.1 (List.append_eq_nil_iff.1 hnil).1, List.forall_mem_append.2 ⟨h.2, hmore⟩⟩

/-- A single digit is not in the way of any other one. -/
theorem wholePart_singleton {c : Char} (digit : Text.isDigit c = true) : WholePart [c] := by
  refine ⟨⟨List.cons_ne_nil _ _, List.forall_mem_singleton.2 digit⟩, ?_⟩
  rintro ⟨⟩
  rfl

theorem fractionPart_wholeEnding (layout : FloatLayout) : FractionPart layout.wholeEnding := by
  unfold FloatLayout.wholeEnding
  split
  · exact Or.inr ⟨['0'], ⟨List.cons_ne_nil _ _, List.forall_mem_singleton.2 rfl⟩, rfl⟩
  · exact Or.inl rfl

/-- A whole number, maybe with a zero after a point. -/
theorem isMagnitude_whole {whole : List Char} (h : WholePart whole) (layout : FloatLayout) :
    IsMagnitude (whole ++ layout.wholeEnding) :=
  ⟨whole, layout.wholeEnding, [], h, fractionPart_wholeEnding layout, Or.inl rfl,
    (List.append_nil _).symm⟩

/-- A whole part and a fraction. -/
theorem isMagnitude_pointed {whole digits : List Char} (h : WholePart whole) (hdigits : Digits digits) :
    IsMagnitude (whole ++ '.' :: digits) :=
  ⟨whole, '.' :: digits, [], h, Or.inr ⟨digits, hdigits, rfl⟩, Or.inl rfl, (List.append_nil _).symm⟩

/-- A whole part, maybe a fraction, and an exponent. -/
theorem isMagnitude_scientific {whole fraction sign : List Char} (h : WholePart whole)
    (hfraction : FractionPart fraction) (hsign : sign ∈ [[], ['+'], ['-']]) (n : Nat) :
    IsMagnitude (whole ++ fraction ++ 'e' :: sign ++ Text.decimal n) :=
  ⟨whole, fraction, 'e' :: sign ++ Text.decimal n, h, hfraction,
    Or.inr ⟨'e', by decide, sign, hsign, _, digits_decimal n, rfl⟩, List.append_assoc _ _ _⟩

end Json

namespace DecimalFloat

/-- A decimal that is zero has no zeros added. -/
def IsProper (decimal : DecimalFloat) : Prop := decimal.digits = 0 → decimal.exponent = 0

/-- Digits do not begin with a zero, if there are more of them. -/
theorem wholePart_take {n count : Nat} (few : 0 < count) (short : count < (Text.decimal n).length) :
    Json.WholePart ((Text.decimal n).take count) := by
  obtain ⟨⟨-, hdigits⟩, hzero⟩ := Json.wholePart_decimal n
  refine ⟨⟨?_, fun c hc => hdigits c (List.mem_of_mem_take hc)⟩, ?_⟩
  · rw [Ne, List.take_eq_nil_iff, not_or]
    exact ⟨Nat.ne_of_gt few, Text.decimal_ne_nil n⟩
  · intro hhead
    rw [List.head?_take, if_neg (Nat.ne_of_gt few)] at hhead
    rw [hzero hhead, List.length_singleton] at short
    omega

theorem digits_drop {n count : Nat} (short : count < (Text.decimal n).length) :
    Json.Digits ((Text.decimal n).drop count) := by
  refine ⟨?_, fun c hc => (Json.digits_decimal n).2 c (List.mem_of_mem_drop hc)⟩
  rw [Ne, List.drop_eq_nil_iff]
  omega

/-- Digits with zeros added are a whole number, for the digits of a proper decimal that is zero have none. -/
theorem IsProper.wholePart {decimal : DecimalFloat} (proper : decimal.IsProper) :
    Json.WholePart (Text.decimal decimal.digits ++ List.replicate decimal.exponent.toNat '0') := by
  rcases Nat.eq_zero_or_pos decimal.digits with hzero | hpositive
  · rw [hzero, proper hzero]
    exact Json.wholePart_decimal 0
  · have hzeros : ∀ c ∈ List.replicate decimal.exponent.toNat '0', Text.isDigit c = true := by
      intro c hc
      rw [List.eq_of_mem_replicate hc]
      rfl
    refine ⟨(Json.digits_decimal _).append hzeros, ?_⟩
    intro hhead
    rw [List.head?_append_of_ne_nil _ (Text.decimal_ne_nil _)] at hhead
    exact absurd hhead (Text.head?_decimal_ne_zero hpositive)

/-- **A proper decimal is laid out as a number of JSON**, in whatever layout. -/
theorem IsProper.isMagnitude_layOut {decimal : DecimalFloat} (proper : decimal.IsProper)
    (layout : FloatLayout) : Json.IsMagnitude (decimal.layOut layout) := by
  have hdigits := Json.digits_decimal decimal.digits
  unfold DecimalFloat.layOut
  simp only
  split
  · split
    · -- a whole number
      exact Json.isMagnitude_whole proper.wholePart layout
    · rename_i hnegative
      split
      · -- a point among the digits, of which at least one follows it
        rename_i horder
        have hshort : (decimal.exponent + (Text.decimal decimal.digits).length - 1).toNat + 1 <
            (Text.decimal decimal.digits).length := by omega
        exact Json.isMagnitude_pointed (wholePart_take (Nat.succ_pos _) hshort) (digits_drop hshort)
      · -- a point before the digits
        have hzero : Json.WholePart ['0'] := Json.wholePart_singleton (by decide)
        refine Json.isMagnitude_pointed hzero ⟨fun hnil => hdigits.1 (List.append_eq_nil_iff.1 hnil).2, ?_⟩
        refine List.forall_mem_append.2 ⟨?_, hdigits.2⟩
        intro c hc
        rw [List.eq_of_mem_replicate hc]
        rfl
  · -- an exponent
    have hsign : (if decimal.exponent + (Text.decimal decimal.digits).length - 1 < 0 then ['-']
        else if layout.plusInExponent then ['+'] else []) ∈ [[], ['+'], ['-']] := by
      split
      · decide
      · split <;> decide
    split
    · -- a point after the first digit
      rename_i first second rest hcase
      have hall := hdigits.2
      rw [hcase, List.forall_mem_cons] at hall
      exact Json.isMagnitude_scientific (Json.wholePart_singleton hall.1)
        (Or.inr ⟨second :: rest, ⟨List.cons_ne_nil _ _, hall.2⟩, rfl⟩) hsign _
    · have hscientific := Json.isMagnitude_scientific (Json.wholePart_decimal decimal.digits) (Or.inl rfl)
        hsign (decimal.exponent + (Text.decimal decimal.digits).length - 1).natAbs
      rwa [List.append_nil] at hscientific

end DecimalFloat

/-! ### The shortest decimal -/

namespace RoundingInterval

variable {interval : RoundingInterval}

/-- Zero does not round to a positive number. -/
theorem contains_zero (positive : 0 < interval.low) (exponent : Int) :
    interval.contains ⟨0, exponent⟩ = false := by
  have hten : ∃ d, 0 < d ∧ scaleByPowerOfTen 0 1 exponent = (0, d) := by
    cases exponent with
    | ofNat k => exact ⟨1, Nat.one_pos, by rw [scaleByPowerOfTen, Nat.zero_mul]⟩
    | negSucc k =>
        exact ⟨1 * Nat.pow 10 (k + 1), Nat.mul_pos Nat.one_pos (Nat.pow_pos (by decide)), rfl⟩
  obtain ⟨d, hd, hscaled⟩ := hten
  have hscale : ∃ unit, 0 < unit ∧ interval.onCommonScale ⟨0, exponent⟩ = (0, unit) := by
    unfold onCommonScale
    simp only [hscaled]
    cases -interval.unit with
    | ofNat k => exact ⟨d, hd, by rw [scaleByPowerOfTwo, Nat.zero_mul]⟩
    | negSucc k => exact ⟨d * Nat.pow 2 (k + 1), Nat.mul_pos hd (Nat.pow_pos (by decide)), rfl⟩
  obtain ⟨unit, hunit, hcommon⟩ := hscale
  have hlow : 0 < interval.low * unit := Nat.mul_pos positive hunit
  unfold contains
  simp only [hcommon]
  split
  · rw [decide_eq_false (Nat.not_le.2 hlow), Bool.false_and]
  · rw [decide_eq_false (Nat.not_lt_zero _), Bool.false_and]

theorem contains_onGrid {tie : TieRule} {exponent : Int} {decimal : DecimalFloat}
    (h : interval.onGrid tie exponent = some decimal) : interval.contains decimal = true := by
  unfold onGrid at h
  simp only at h
  split at h
  · rename_i hbelow habove
    split at h
    · cases h; exact hbelow
    split at h
    · cases h; exact habove
    split at h
    · cases h; exact hbelow
    · cases h; exact habove
  · rename_i hbelow _
    cases h
    exact hbelow
  · rename_i _ habove
    cases h
    exact habove
  · cases h

theorem contains_firstOnGrid {tie : TieRule} {exponents : List Int} {decimal : DecimalFloat}
    (h : interval.firstOnGrid tie exponents = some decimal) : interval.contains decimal = true := by
  induction exponents with
  | nil => cases h
  | cons exponent finer ih =>
      unfold firstOnGrid at h
      cases hgrid : interval.onGrid tie exponent with
      | some found =>
          rw [hgrid] at h
          cases h
          exact contains_onGrid hgrid
      | none =>
          rw [hgrid] at h
          exact ih h

end RoundingInterval

theorem DecimalFloat.digits_strip_ne_zero {steps : Nat} {decimal : DecimalFloat}
    (h : decimal.digits ≠ 0) : (decimal.strip steps).digits ≠ 0 := by
  induction steps generalizing decimal with
  | zero => exact h
  | succ steps ih =>
      unfold DecimalFloat.strip
      split
      · rename_i hzero
        exact ih (by simp only; omega)
      · exact h

namespace FloatFormat

/-- **The shortest decimal is proper**: it rounds to a positive number, so it is not zero. -/
theorem isProper_shortest (format : FloatFormat) (tie : TieRule) {significand : Nat}
    (positive : significand ≠ 0) (exponent : Int) : (format.shortest tie significand exponent).IsProper := by
  have hlow : 0 < (format.roundingInterval significand exponent).low := by
    unfold roundingInterval
    simp only
    split <;> omega
  unfold shortest
  simp only
  generalize hfirst : (format.roundingInterval significand exponent).firstOnGrid tie _ = first
  cases first with
  | none => exact fun _ => rfl
  | some decimal =>
      intro hzero
      refine absurd hzero (DecimalFloat.digits_strip_ne_zero ?_)
      have hcontains := RoundingInterval.contains_firstOnGrid hfirst
      rintro hdigits
      obtain ⟨digits, exponent⟩ := decimal
      obtain rfl : digits = 0 := hdigits
      rw [RoundingInterval.contains_zero hlow] at hcontains
      cases hcontains

/-- **The text of a finite number is a number of JSON.** -/
theorem isNumber_render (format : FloatFormat) (layout : FloatLayout) (negative : Bool)
    (significand : Nat) (exponent : Int) :
    Json.IsNumber (format.render layout negative significand exponent) := by
  have hmagnitude : Json.IsMagnitude (if significand = 0 then '0' :: layout.wholeEnding
      else (format.shortest layout.tie significand exponent).layOut layout) := by
    split
    · exact Json.isMagnitude_whole (Json.wholePart_decimal 0) layout
    · rename_i hpositive
      exact (format.isProper_shortest layout.tie hpositive exponent).isMagnitude_layOut layout
  unfold render
  simp only
  split
  · exact ⟨_, hmagnitude, Or.inr rfl⟩
  · exact ⟨_, hmagnitude, Or.inl rfl⟩

end FloatFormat

/-! ### Values -/

namespace Json

theorem commaSeparated_eq_intercalate (texts : List (List Char)) :
    commaSeparated texts = [','].intercalate texts := by
  induction texts with
  | nil => rfl
  | cons text rest ih =>
      cases rest with
      | nil => rw [commaSeparated, List.intercalate_singleton]
      | cons next others =>
          rw [commaSeparated, ih, List.intercalate_cons_cons, List.append_assoc, List.singleton_append]
          exact List.cons_ne_nil _ _

theorem renderItems_eq_map (items : List Json) : renderItems items = items.map render := by
  induction items with
  | nil => rfl
  | cons item rest ih => rw [renderItems, ih, List.map_cons]

/-- A member of an object as it is written. -/
def writtenMember (member : String × Json) : SpelledMember :=
  ⟨member.1, member.2, renderString member.1, member.2.render⟩

theorem renderMembers_eq_map (members : List (String × Json)) :
    renderMembers members = (members.map writtenMember).map SpelledMember.text := by
  induction members with
  | nil => rfl
  | cons member rest ih =>
      rw [renderMembers, ih, List.map_cons, List.map_cons]
      rfl

/-- Items that are written one by one are an array. -/
theorem spells_arr {items : List Json} (each : ∀ item ∈ items, Spells item item.render) :
    Spells (arr items) (arr items).render := by
  have hitems : ∀ item ∈ items.map fun item => (item, item.render), Spells item.1 item.2 :=
    List.forall_mem_map.2 each
  have harray := Spells.arr hitems
  rw [render, renderItems_eq_map, commaSeparated_eq_intercalate]
  simpa only [List.map_map, Function.comp_def, List.map_id'] using harray

/-- Members that are written one by one are an object. -/
theorem spells_obj {members : List (String × Json)}
    (each : ∀ member ∈ members, Spells member.2 member.2.render) :
    Spells (obj members) (obj members).render := by
  have hkeys : ∀ member ∈ members.map writtenMember, SpellsString member.key member.keyText :=
    List.forall_mem_map.2 fun member _ => spells_renderString member.1
  have hobject := Spells.obj hkeys (List.forall_mem_map.2 each)
  have hmembers : (members.map writtenMember).map (fun member => (member.key, member.value)) = members := by
    rw [List.map_map]
    exact List.map_id' members
  rw [hmembers] at hobject
  rw [render, renderMembers_eq_map, commaSeparated_eq_intercalate]
  exact hobject

theorem spells_double (x : Binary64) : Spells (double x) (double x).render := by
  rw [render, Binary64.render?]
  cases hshape : x.shape with
  | finite negative significand exponent =>
      exact .double x (FloatFormat.isNumber_render _ _ _ _ _)
  | nan => exact .notNumber (by rw [Binary64.isFinite, hshape])
  | infinite negative => exact .notNumber (by rw [Binary64.isFinite, hshape])

mutual

/-- **A value is written as one of its compact texts.** -/
theorem spells_render : ∀ value : Json, Spells value value.render
  | null => .null
  | bool true => .bool true
  | bool false => .bool false
  | int n => .int (spells_signedDecimal n)
  | double x => spells_double x
  | str string => .str (spells_renderString string)
  | arr items => spells_arr (spells_items items)
  | obj members => spells_obj (spells_members members)

theorem spells_items : ∀ items : List Json, ∀ item ∈ items, Spells item item.render
  | [] => nofun
  | item :: rest => List.forall_mem_cons.2 ⟨spells_render item, spells_items rest⟩

theorem spells_members :
    ∀ members : List (String × Json), ∀ member ∈ members, Spells member.2 member.2.render
  | [] => nofun
  | (_, value) :: rest => List.forall_mem_cons.2 ⟨spells_render value, spells_members rest⟩

end

end Json

/-! ### Tagged values -/

namespace Value

theorem compact_string (string : String) : CompactJson (Json.renderString string) :=
  ⟨_, .str (Json.spells_renderString string)⟩

theorem compact_signedDecimal (n : Int) : CompactJson (Text.signedDecimal n) :=
  ⟨_, .int (Json.spells_signedDecimal n)⟩

theorem compact_render (value : Json) : CompactJson value.render := ⟨value, value.spells_render⟩

theorem compact_renderBinary32 (x : Binary32) : CompactJson (renderBinary32 x) := by
  unfold renderBinary32 Binary32.render?
  split
  · -- what number of JSON it is does not matter, so any double will do
    exact ⟨_, .double (.zero false) (FloatFormat.isNumber_render _ _ _ _ _)⟩
  · exact ⟨_, .null⟩

/-- Items in brackets, with commas between them. -/
theorem compact_brackets {texts : List (List Char)} (each : ∀ text ∈ texts, CompactJson text) :
    CompactJson ('[' :: Json.commaSeparated texts ++ [']']) := by
  rw [Json.commaSeparated_eq_intercalate]
  exact .array each

/-- An object with one member is compact if its member is. -/
theorem compact_singleMember (kind : String) {content : List Char} (h : CompactJson content) :
    CompactJson (singleMember kind content) := by
  have hkeys : ∀ member ∈ [(kind, Json.renderString kind, content)],
      Json.SpellsString member.1 member.2.1 :=
    List.forall_mem_singleton.2 (Json.spells_renderString kind)
  have hobject := CompactJson.object hkeys (List.forall_mem_singleton.2 h)
  rwa [List.map_singleton, List.intercalate_singleton] at hobject

theorem renderTaggedItems_eq_map (items : List Value) :
    renderTaggedItems items = items.map renderTagged := by
  induction items with
  | nil => rfl
  | cons item rest ih => rw [renderTaggedItems, ih, List.map_cons]

mutual

/-- **A value in its tagged form is written as a compact text.** -/
theorem compact_renderTagged : ∀ value : Value, CompactJson value.renderTagged
  | null => compact_string "Null"
  | bool value => compact_singleMember "Bool" (compact_render (.bool value))
  | int16 value => compact_singleMember "Int16" (compact_signedDecimal value.toInt)
  | int32 value => compact_singleMember "Int32" (compact_signedDecimal value.toInt)
  | int64 value => compact_singleMember "Int64" (compact_signedDecimal value.toInt)
  | float32 value => compact_singleMember "Float32" (compact_renderBinary32 value)
  | float64 value => compact_singleMember "Float64" (compact_render (.double value))
  | decimal value => compact_singleMember "Decimal" (compact_string value.text)
  | text value => compact_singleMember "String" (compact_string value)
  | bytes value =>
      compact_singleMember "Bytes" (compact_brackets (List.forall_mem_map.2 fun byte _ =>
        compact_signedDecimal byte.toNat))
  | date value => compact_singleMember "Date" (compact_string value.text)
  | time value => compact_singleMember "Time" (compact_string value.text)
  | timestamp value => compact_singleMember "DateTime" (compact_string value.joinedText)
  | timestampTz value => compact_singleMember "DateTimeTz" (compact_string value.zuluText)
  | uuid value => compact_singleMember "Uuid" (compact_string value.text)
  | json value => compact_singleMember "Json" (compact_render value)
  | array items => by
      have hitems := List.forall_mem_map.2 (compact_taggedItems items)
      rw [renderTagged, renderTaggedItems_eq_map]
      exact compact_singleMember "Array" (compact_brackets hitems)

theorem compact_taggedItems : ∀ items : List Value, ∀ item ∈ items, CompactJson item.renderTagged
  | [] => nofun
  | item :: rest => List.forall_mem_cons.2 ⟨compact_renderTagged item, compact_taggedItems rest⟩

end

theorem compact_renderTaggedTable (table : Table Value) : CompactJson (renderTaggedTable table) := by
  have hkeys : ∀ member ∈ (Table.sorted table).map fun entry =>
      (entry.1, Json.renderString entry.1, entry.2.renderTagged),
      Json.SpellsString member.1 member.2.1 :=
    List.forall_mem_map.2 fun entry _ => Json.spells_renderString entry.1
  have htable := CompactJson.object hkeys
    (List.forall_mem_map.2 fun entry _ => entry.2.compact_renderTagged)
  rw [List.map_map] at htable
  rw [renderTaggedTable, Json.commaSeparated_eq_intercalate]
  exact htable

end Value

end QueryFeed
