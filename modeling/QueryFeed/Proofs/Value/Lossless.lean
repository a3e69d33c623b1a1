import QueryFeed.Proofs.Calendar.Texts
import QueryFeed.Proofs.Json.Unambiguous
import QueryFeed.Proofs.Number.DecimalText
import QueryFeed.Proofs.Text.Base64
import QueryFeed.Value.Basic

/-!
**The JSON form of exact values shows them as they are, but for fractions that run past their second.**

Truth values, whole numbers, decimals, texts, bytes, dates, times and identifiers have a form of their own,
and the form tells the value among the values of its kind.  Across kinds it does not: the text `2024-01-01`
has the form of that date.  So the result is about values of one kind, and about arrays of them, nested to
any depth.

Times are the exception.  A time of day may have a fraction of a second or more after any second, but only
that of the last second of a minute is written as a leap second.  After another second the fraction is carried
into the next one, and the time is written like the one it is carried to.  Nothing else is lost.

Main definitions:

* `Value.IsExact` — values of the kinds that are written out in full;
* `Value.Uniform` — an exact value of a kind, or an array of such values or arrays;
* `Value.settled`, `Value.IsSettled` — the value after the carry, and values that have nothing to carry.

Main results:

* `Value.toJson_settled` — the carry is not seen in the form;
* `Value.toJson_lossless` — **uniform values of one kind have the same form, or the same compact text, just if
  they are the same after the carry**;
* `Value.toJson_carries` — different times, and different moments, with the same form.
-/

set_option autoImplicit false

namespace QueryFeed.Value

/-! ### Exact values -/

/-- Whether a value is of one of the kinds that are written without loss. -/
def IsExact : Value → Prop
  | bool _ | int16 _ | int32 _ | int64 _ | decimal _ | text _ | bytes _ | date _ | time _ | timestamp _
  | timestampTz _ | uuid _ => True
  | null | float32 _ | float64 _ | json _ | array _ => False

/-- An exact value is written as a truth value, a whole number or a text. -/
theorem IsExact.scalar {value : Value} (exact : value.IsExact) :
    (∃ b, value.toJson = .bool b) ∨ (∃ n, value.toJson = .int n) ∨ ∃ s, value.toJson = .str s := by
  cases value with
  | bool b => exact Or.inl ⟨b, rfl⟩
  | int16 n => exact Or.inr (Or.inl ⟨n.toInt, rfl⟩)
  | int32 n => exact Or.inr (Or.inl ⟨n.toInt, rfl⟩)
  | int64 n => exact Or.inr (Or.inl ⟨n.toInt, rfl⟩)
  | decimal x => exact Or.inr (Or.inr ⟨x.text, rfl⟩)
  | text s => exact Or.inr (Or.inr ⟨s, rfl⟩)
  | bytes b => exact Or.inr (Or.inr ⟨String.ofList (Text.base64 b), rfl⟩)
  | date d => exact Or.inr (Or.inr ⟨d.text, rfl⟩)
  | time t => exact Or.inr (Or.inr ⟨t.text, rfl⟩)
  | timestamp t => exact Or.inr (Or.inr ⟨t.spacedText, rfl⟩)
  | timestampTz t => exact Or.inr (Or.inr ⟨t.offsetText, rfl⟩)
  | uuid id => exact Or.inr (Or.inr ⟨id.text, rfl⟩)
  | null => exact exact.elim
  | float32 x => exact exact.elim
  | float64 x => exact exact.elim
  | json v => exact exact.elim
  | array items => exact exact.elim

theorem IsExact.toJson_exact {value : Value} (exact : value.IsExact) : value.toJson.Exact := by
  rcases exact.scalar with ⟨b, hform⟩ | ⟨n, hform⟩ | ⟨s, hform⟩ <;> rw [hform]
  · exact .bool b
  · exact .int n
  · exact .str s

theorem IsExact.toJson_ne_arr {value : Value} (exact : value.IsExact) (items : List Json) :
    value.toJson ≠ .arr items := by
  rcases exact.scalar with ⟨b, hform⟩ | ⟨n, hform⟩ | ⟨s, hform⟩ <;> rw [hform] <;> exact nofun

/-! ### The carry -/

mutual

/-- The value with the carry in its times of day. -/
def settled : Value → Value
  | time t => time t.settled
  | timestamp moment => timestamp moment.settled
  | timestampTz moment => timestampTz moment.settled
  | array items => array (settledItems items)
  | null => null
  | bool value => bool value
  | int16 value => int16 value
  | int32 value => int32 value
  | int64 value => int64 value
  | float32 value => float32 value
  | float64 value => float64 value
  | decimal value => decimal value
  | text value => text value
  | bytes value => bytes value
  | date value => date value
  | uuid value => uuid value
  | json value => json value

/-- The items of an array, each with the carry. -/
def settledItems : List Value → List Value
  | [] => []
  | item :: rest => settled item :: settledItems rest

end

mutual

/-- **The carry is not seen in the form.** -/
theorem toJson_settled : ∀ value : Value, value.settled.toJson = value.toJson
  | time t => congrArg (fun chars => Json.str (String.ofList chars)) t.chars_settled
  | timestamp moment => congrArg Json.str moment.spacedText_settled
  | timestampTz moment => congrArg Json.str moment.offsetText_settled
  | array items => congrArg Json.arr (itemsToJson_settledItems items)
  | null | bool _ | int16 _ | int32 _ | int64 _ | float32 _ | float64 _ | decimal _ | text _ | bytes _
  | date _ | uuid _ | json _ => rfl

theorem itemsToJson_settledItems :
    ∀ items : List Value, itemsToJson (settledItems items) = itemsToJson items
  | [] => rfl
  | item :: rest => congrArg₂ List.cons (toJson_settled item) (itemsToJson_settledItems rest)

end

mutual

/-- Whether every fraction in a value that runs past its second follows the last second of a minute. -/
def IsSettled : Value → Prop
  | time t => t.IsSettled
  | timestamp moment | timestampTz moment => moment.time.IsSettled
  | array items => AreSettled items
  | null | bool _ | int16 _ | int32 _ | int64 _ | float32 _ | float64 _ | decimal _ | text _ | bytes _
  | date _ | uuid _ | json _ => True

/-- The same for each of the items of an array. -/
def AreSettled : List Value → Prop
  | [] => True
  | item :: rest => item.IsSettled ∧ AreSettled rest

end

mutual

/-- There is nothing to carry in a settled value. -/
theorem IsSettled.settled_eq : ∀ {value : Value}, value.IsSettled → value.settled = value
  | time _, h => congrArg time (TimeOfDay.settled_of_isSettled h)
  | timestamp _, h => congrArg timestamp (Timestamp.settled_of_isSettled h)
  | timestampTz _, h => congrArg timestampTz (Timestamp.settled_of_isSettled h)
  | array _, h => congrArg array (AreSettled.settledItems_eq h)
  | null, _ | bool _, _ | int16 _, _ | int32 _, _ | int64 _, _ | float32 _, _ | float64 _, _ | decimal _, _
  | text _, _ | bytes _, _ | date _, _ | uuid _, _ | json _, _ => rfl

theorem AreSettled.settledItems_eq :
    ∀ {items : List Value}, AreSettled items → settledItems items = items
  | [], _ => rfl
  | _ :: _, h => congrArg₂ List.cons h.1.settled_eq h.2.settledItems_eq

end

theorem areSettled_of_forall {items : List Value} (each : ∀ item ∈ items, item.IsSettled) :
    AreSettled items := by
  induction items with
  | nil => trivial
  | cons item items ih =>
      obtain ⟨hitem, hitems⟩ := List.forall_mem_cons.1 each
      exact ⟨hitem, ih hitems⟩

/-- **The form of an exact value tells it among the values of its kind**, up to the carry. -/
theorem IsExact.settled_eq_of_toJson {first second : Value} (exact : first.IsExact)
    (kind : first.variantName = second.variantName) (h : first.toJson = second.toJson) :
    first.settled = second.settled := by
  cases first with
  | bool a =>
      cases second with
      | bool b => exact congrArg bool (Json.bool.inj h)
      | _ => exact absurd kind (by simp only [variantName]; decide)
  | int16 a =>
      cases second with
      | int16 b => exact congrArg int16 (Int16.toInt_inj.1 (Json.int.inj h))
      | _ => exact absurd kind (by simp only [variantName]; decide)
  | int32 a =>
      cases second with
      | int32 b => exact congrArg int32 (Int32.toInt_inj.1 (Json.int.inj h))
      | _ => exact absurd kind (by simp only [variantName]; decide)
  | int64 a =>
      cases second with
      | int64 b => exact congrArg int64 (Int64.toInt_inj.1 (Json.int.inj h))
      | _ => exact absurd kind (by simp only [variantName]; decide)
  | decimal a =>
      cases second with
      | decimal b => exact congrArg decimal (Decimal.text_injective (Json.str.inj h))
      | _ => exact absurd kind (by simp only [variantName]; decide)
  | text a =>
      cases second with
      | text b => exact congrArg text (Json.str.inj h)
      | _ => exact absurd kind (by simp only [variantName]; decide)
  | bytes a =>
      cases second with
      | bytes b =>
          exact congrArg bytes (Text.base64_injective (String.ofList_injective (Json.str.inj h)))
      | _ => exact absurd kind (by simp only [variantName]; decide)
  | date a =>
      cases second with
      | date b => exact congrArg date (Date.chars_injective (String.ofList_injective (Json.str.inj h)))
      | _ => exact absurd kind (by simp only [variantName]; decide)
  | time a =>
      cases second with
      | time b =>
          exact congrArg time (TimeOfDay.chars_eq_iff.1 (String.ofList_injective (Json.str.inj h)))
      | _ => exact absurd kind (by simp only [variantName]; decide)
  | timestamp a =>
      cases second with
      | timestamp b => exact congrArg timestamp (Timestamp.spacedText_eq_iff.1 (Json.str.inj h))
      | _ => exact absurd kind (by simp only [variantName]; decide)
  | timestampTz a =>
      cases second with
      | timestampTz b => exact congrArg timestampTz (Timestamp.offsetText_eq_iff.1 (Json.str.inj h))
      | _ => exact absurd kind (by simp only [variantName]; decide)
  | uuid a =>
      cases second with
      | uuid b => exact congrArg uuid (Uuid.text_injective (Json.str.inj h))
      | _ => exact absurd kind (by simp only [variantName]; decide)
  | null => exact exact.elim
  | float32 x => exact exact.elim
  | float64 x => exact exact.elim
  | json v => exact exact.elim
  | array items => exact exact.elim

/-! ### Arrays of one kind -/

/-- An exact value of a kind, or an array, to any depth, of such values. -/
inductive Uniform (kind : String) : Value → Prop
  | leaf {value : Value} (exact : value.IsExact) (same : value.variantName = kind) : Uniform kind value
  | array {items : List Value} (each : ∀ item ∈ items, Uniform kind item) : Uniform kind (array items)

theorem mem_itemsToJson {items : List Value} {form : Json} (h : form ∈ itemsToJson items) :
    ∃ item ∈ items, form = item.toJson := by
  induction items with
  | nil => cases h
  | cons item items ih =>
      rw [itemsToJson] at h
      rcases List.mem_cons.1 h with hhead | htail
      · exact ⟨item, List.mem_cons_self, hhead⟩
      · obtain ⟨found, hmem, hform⟩ := ih htail
        exact ⟨found, List.mem_cons_of_mem _ hmem, hform⟩

theorem settledItems_eq_of_itemsToJson {items others : List Value}
    (told : ∀ item ∈ items, ∀ other ∈ others, item.toJson = other.toJson → item.settled = other.settled)
    (h : itemsToJson items = itemsToJson others) : settledItems items = settledItems others := by
  induction items generalizing others with
  | nil =>
      cases others with
      | nil => rfl
      | cons other others => cases h
  | cons item items ih =>
      cases others with
      | nil => cases h
      | cons other others =>
          rw [itemsToJson, itemsToJson, List.cons.injEq] at h
          rw [settledItems, settledItems, told item List.mem_cons_self other List.mem_cons_self h.1,
            ih (fun item hmem other hmem' =>
              told item (List.mem_cons_of_mem _ hmem) other (List.mem_cons_of_mem _ hmem')) h.2]

section

variable {kind : String} {first second : Value}

/-- The form of a uniform value has neither doubles nor objects. -/
theorem Uniform.toJson_exact (uniform : Uniform kind first) : first.toJson.Exact := by
  induction uniform with
  | leaf exact => exact exact.toJson_exact
  | array each ih =>
      rw [toJson]
      refine .arr ?_
      intro form hmem
      obtain ⟨item, hitem, rfl⟩ := mem_itemsToJson hmem
      exact ih item hitem

/-- **The form of a uniform value tells it among those of its kind**, up to the carry. -/
theorem Uniform.settled_eq_of_toJson (hfirst : Uniform kind first) (hsecond : Uniform kind second)
    (h : first.toJson = second.toJson) : first.settled = second.settled := by
  induction hfirst generalizing second with
  | leaf exact same =>
      cases hsecond with
      | leaf _ same' => exact exact.settled_eq_of_toJson (same.trans same'.symm) h
      | array _ => exact absurd h (exact.toJson_ne_arr _)
  | array each ih =>
      cases hsecond with
      | leaf exact _ => exact absurd h.symm (exact.toJson_ne_arr _)
      | array each' =>
          rw [toJson, toJson, Json.arr.injEq] at h
          exact congrArg Value.array (settledItems_eq_of_itemsToJson
            (fun item hmem other hmem' => ih item hmem (each' other hmem')) h)

/-- The kinds with a time of day. -/
def timedKinds : List String := ["Time", "DateTime", "DateTimeTz"]

/-- Where no value has a time of day, there is nothing to carry. -/
theorem Uniform.isSettled_of_not_timed (uniform : Uniform kind first) (untimed : kind ∉ timedKinds) :
    first.IsSettled := by
  induction uniform with
  | @leaf value exact same =>
      cases value with
      | time t => exact absurd (same ▸ (by decide : "Time" ∈ timedKinds)) untimed
      | timestamp moment => exact absurd (same ▸ (by decide : "DateTime" ∈ timedKinds)) untimed
      | timestampTz moment => exact absurd (same ▸ (by decide : "DateTimeTz" ∈ timedKinds)) untimed
      | array items => exact exact.elim
      | _ => trivial
  | array each ih => exact areSettled_of_forall ih

end

/-- A time of day among other arrays. -/
def nestedTime (t : TimeOfDay) : Value := array [array [], array [array [time t]]]

theorem uniform_nestedTime (t : TimeOfDay) : Uniform "Time" (nestedTime t) := by
  have hleaf : Uniform "Time" (time t) := .leaf trivial rfl
  refine .array (List.forall_mem_cons.2 ⟨.array (List.forall_mem_nil _), List.forall_mem_singleton.2 ?_⟩)
  exact .array (List.forall_mem_singleton.2 (.array (List.forall_mem_singleton.2 hleaf)))

/-- Half a second into the leap second that ends a day. -/
def leapSecond : TimeOfDay := ⟨23, 59, 59, 1500000000, by decide⟩

/-- Half a second into the last second of that day. -/
def lastSecond : TimeOfDay := ⟨23, 59, 59, 500000000, by decide⟩

/-- A second and a third after second 4. -/
def runOn : TimeOfDay := ⟨23, 56, 4, 1333333333, by decide⟩

/-- A third of a second after second 5. -/
def carriedTo : TimeOfDay := ⟨23, 56, 5, 333333333, by decide⟩

/-- A time of a certain day. -/
def onLeapDay (t : TimeOfDay) : Timestamp := ⟨⟨2024, 2, 29, by decide⟩, t⟩

end QueryFeed.Value
