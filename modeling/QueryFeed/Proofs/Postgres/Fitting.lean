import QueryFeed.Postgres.Codec
import QueryFeed.Proofs.Calendar.Reach
import QueryFeed.Proofs.Postgres.NumericRoom
import QueryFeed.Proofs.Text.Plain

/-!
**Which bytes are a value of a type.**

Each type has bytes of its own: words of a width, texts, numerics with room for them, days that the
calendar reaches.  What fits is said here without the decoder.  A column is null only if it is missing or
if its bytes do not fit, for no bytes are decoded as null.

Main definitions:

* `IsText`, `IsJson` — bytes of texts;
* `Timestamp.IsReached` — the moments on the days of the calendar;
* `WireType.Fits` — the bytes that are a value of a type.

Main results:

* `WireType.isSome_decode?_iff` — **bytes have a value if and only if they fit the type**;
* `WireType.decode?_ne_null` — no bytes are the value null;
* `WireType.read_eq_null_iff` — **a column is null if and only if it is missing or does not fit**.
-/

set_option autoImplicit false

namespace QueryFeed

/-- The moments, in microseconds from 1 January 2000 on, that lie on days of the calendar. -/
def Timestamp.IsReached (micros : Int) : Prop :=
  Date.IsReached (Timestamp.millennium + micros / Timestamp.microsPerDay)

theorem Timestamp.isSome_ofMicroseconds?_iff (micros : Int) :
    (Timestamp.ofMicroseconds? micros).isSome = true ↔ Timestamp.IsReached micros := by
  rw [Timestamp.IsReached, ← Date.isSome_ofDayNumber?_iff, Timestamp.ofMicroseconds?]
  cases Date.ofDayNumber? (Timestamp.millennium + micros / Timestamp.microsPerDay) <;> rfl

namespace Postgres

/-! ### What fits -/

/-- Bytes are the bytes of a text. -/
def IsText (bytes : List UInt8) : Prop := ∃ text, Text.utf8 text = bytes

/-- Bytes are the bytes of a JSON text. -/
def IsJson (bytes : List UInt8) : Prop :=
  ∃ text value, Text.utf8 text = bytes ∧ Json.parse? text = some value

namespace WireType

/-- Bytes are a value of a type.  Nothing is a value of a type without a name here. -/
def Fits : WireType → List UInt8 → Prop
  | boolean, bytes => bytes.length = 1
  | int2, bytes => bytes.length = 2
  | int4, bytes => bytes.length = 4
  | int8, bytes => bytes.length = 8
  | float4, bytes => bytes.length = 4
  | float8, bytes => bytes.length = 8
  | numeric, bytes =>
      Numeric.IsComplete bytes ∧ ∀ x, Numeric.ofBytes? bytes = some x → x.HasRoom
  | text, bytes => IsText bytes
  | unknown, bytes => IsText bytes
  | bytea, _ => True
  | date, bytes =>
      bytes.length = 4 ∧ Date.IsReached (Timestamp.millennium + Word.signedValue bytes)
  | time, bytes => bytes.length = 8
  | timestamp, bytes => bytes.length = 8 ∧ Timestamp.IsReached (Word.signedValue bytes)
  | timestampTz, bytes => bytes.length = 8 ∧ Timestamp.IsReached (Word.signedValue bytes)
  | uuid, bytes => bytes.length = 16
  | json, bytes => IsJson bytes
  | jsonBinary, bytes => ∃ body, bytes = jsonVersion :: body ∧ IsJson body
  | other, _ => False

/-! ### The readers -/

theorem isSome_word?_iff (width : Nat) (bytes : List UInt8) :
    (word? width bytes).isSome = true ↔ bytes.length = width := by
  unfold word?
  split <;> simp_all

/-- A word is read if it has the width and what it stands for is used. -/
theorem isSome_ofWidth?_bind_iff {α : Type} (width : Nat) (bytes : List UInt8)
    (use : Int → Option α) :
    ((Word.ofWidth? width bytes).bind use).isSome = true ↔
      bytes.length = width ∧ (use (Word.signedValue bytes)).isSome = true := by
  unfold Word.ofWidth?
  split <;> simp_all

theorem isSome_ofWidth?_iff (width : Nat) (bytes : List UInt8) :
    (Word.ofWidth? width bytes).isSome = true ↔ bytes.length = width := by
  unfold Word.ofWidth?
  split <;> simp_all

theorem isSome_textOfUtf8?_iff (bytes : List UInt8) :
    (Text.textOfUtf8? bytes).isSome = true ↔ IsText bytes := by
  rw [Option.isSome_iff_exists, IsText]
  simp only [Text.textOfUtf8?_eq_some_iff]

theorem isSome_decodeJson?_iff (bytes : List UInt8) :
    (decodeJson? bytes).isSome = true ↔ IsJson bytes := by
  unfold decodeJson?
  constructor
  · intro h
    obtain ⟨decoded, hdecoded⟩ := Option.isSome_iff_exists.1 h
    obtain ⟨text, htext, hvalue⟩ := Option.bind_eq_some_iff.1 hdecoded
    obtain ⟨value, hparsed, -⟩ := Option.bind_eq_some_iff.1 hvalue
    exact ⟨text, value, Text.textOfUtf8?_eq_some_iff.1 htext, hparsed⟩
  · rintro ⟨text, value, hbytes, hparsed⟩
    rw [Text.textOfUtf8?_eq_some_iff.2 hbytes, Option.bind_eq_bind, Option.bind_some, hparsed]
    rfl

theorem isSome_numeric_iff (bytes : List UInt8) :
    ((Numeric.ofBytes? bytes).bind Numeric.toDecimal?).isSome = true ↔ numeric.Fits bytes := by
  rw [Fits, ← Numeric.isSome_ofBytes?_iff]
  cases hread : Numeric.ofBytes? bytes with
  | none => simp
  | some x =>
      rw [Option.bind_some, Numeric.isSome_toDecimal?_iff (Numeric.lt_of_ofBytes? hread)]
      simp

/-! ### Columns -/

/-- **Bytes have a value if and only if they fit the type.** -/
theorem isSome_decode?_iff (type : WireType) (bytes : List UInt8) :
    (type.decode? bytes).isSome = true ↔ type.Fits bytes := by
  cases type with
  | boolean => rw [decode?, Option.isSome_map, isSome_word?_iff, Fits]
  | int2 => rw [decode?, Option.isSome_map, isSome_ofWidth?_iff, Fits]
  | int4 => rw [decode?, Option.isSome_map, isSome_ofWidth?_iff, Fits]
  | int8 => rw [decode?, Option.isSome_map, isSome_ofWidth?_iff, Fits]
  | float4 => rw [decode?, Option.isSome_map, isSome_word?_iff, Fits]
  | float8 => rw [decode?, Option.isSome_map, isSome_word?_iff, Fits]
  | numeric => rw [decode?, Option.isSome_map, isSome_numeric_iff]
  | text => rw [decode?, Option.isSome_map, isSome_textOfUtf8?_iff, Fits]
  | unknown => rw [decode?, Option.isSome_map, isSome_textOfUtf8?_iff, Fits]
  | bytea => exact iff_of_true rfl trivial
  | date =>
      rw [decode?, Option.bind_eq_bind, isSome_ofWidth?_bind_iff, Fits, ← Date.isSome_ofDayNumber?_iff]
      cases Date.ofDayNumber? (Timestamp.millennium + Word.signedValue bytes) <;> rfl
  | time =>
      rw [decode?, Option.bind_eq_bind, isSome_ofWidth?_bind_iff, Fits]
      simp
  | timestamp =>
      rw [decode?, Option.bind_eq_bind, isSome_ofWidth?_bind_iff, Fits,
        ← Timestamp.isSome_ofMicroseconds?_iff]
      cases Timestamp.ofMicroseconds? (Word.signedValue bytes) <;> rfl
  | timestampTz =>
      rw [decode?, Option.bind_eq_bind, isSome_ofWidth?_bind_iff, Fits,
        ← Timestamp.isSome_ofMicroseconds?_iff]
      cases Timestamp.ofMicroseconds? (Word.signedValue bytes) <;> rfl
  | uuid => rw [decode?, Option.isSome_map, isSome_word?_iff, Fits]
  | json => rw [decode?, isSome_decodeJson?_iff, Fits]
  | jsonBinary =>
      rw [Fits]
      cases bytes with
      | nil => simp [decode?]
      | cons version body =>
          rw [decode?]
          split
          · rename_i hversion
            subst hversion
            rw [isSome_decodeJson?_iff]
            simp
          · simp_all
  | other => exact iff_of_false (by simp [decode?]) id

/-! No bytes are the value null, since each kind of value is made by a constructor of its own. -/

theorem map_ne_null {α : Type} {use : α → Value} (each : ∀ found, use found ≠ .null)
    (found : Option α) : found.map use ≠ some .null := by
  intro h
  obtain ⟨found, -, hnull⟩ := Option.map_eq_some_iff.1 h
  exact each found hnull

theorem bind_ne_null {α : Type} {use : α → Option Value} (each : ∀ found, use found ≠ some .null)
    (found : Option α) : found.bind use ≠ some .null := by
  intro h
  obtain ⟨found, -, hnull⟩ := Option.bind_eq_some_iff.1 h
  exact each found hnull

theorem decodeJson?_ne_null (bytes : List UInt8) : decodeJson? bytes ≠ some .null :=
  bind_ne_null (fun _ => bind_ne_null (fun _ => by simp) _) _

/-- No bytes are the value null. -/
theorem decode?_ne_null (type : WireType) (bytes : List UInt8) :
    type.decode? bytes ≠ some .null := by
  cases type with
  | boolean => exact map_ne_null (fun _ => by simp) _
  | int2 => exact map_ne_null (fun _ => by simp) _
  | int4 => exact map_ne_null (fun _ => by simp) _
  | int8 => exact map_ne_null (fun _ => by simp) _
  | float4 => exact map_ne_null (fun _ => by simp) _
  | float8 => exact map_ne_null (fun _ => by simp) _
  | numeric => exact map_ne_null (fun _ => by simp) _
  | text => exact map_ne_null (fun _ => by simp) _
  | unknown => exact map_ne_null (fun _ => by simp) _
  | bytea => simp [decode?]
  | date => exact bind_ne_null (fun _ => bind_ne_null (fun _ => by simp) _) _
  | time => exact bind_ne_null (fun _ => by simp) _
  | timestamp => exact bind_ne_null (fun _ => bind_ne_null (fun _ => by simp) _) _
  | timestampTz => exact bind_ne_null (fun _ => bind_ne_null (fun _ => by simp) _) _
  | uuid => exact map_ne_null (fun _ => by simp) _
  | json => exact decodeJson?_ne_null bytes
  | jsonBinary =>
      cases bytes with
      | nil => simp [decode?]
      | cons version body =>
          rw [decode?]
          split
          · exact decodeJson?_ne_null body
          · simp
  | other => simp [decode?]

/-- **A column is null if and only if it is missing or its bytes do not fit.** -/
theorem read_eq_null_iff (type : WireType) (column : Option (List UInt8)) :
    type.read column = .null ↔
      column = none ∨ ∃ bytes, column = some bytes ∧ ¬ type.Fits bytes := by
  cases column with
  | none => exact iff_of_true rfl (.inl rfl)
  | some bytes =>
      rw [read, Option.bind_some]
      simp only [← isSome_decode?_iff]
      cases hdecoded : type.decode? bytes with
      | none => exact iff_of_true rfl (.inr ⟨bytes, rfl, by simp [hdecoded]⟩)
      | some value =>
          refine iff_of_false ?_ ?_
          · rintro rfl
            exact decode?_ne_null type bytes hdecoded
          · rintro (hnone | ⟨other, hsome, hfits⟩)
            · cases hnone
            · cases hsome
              exact hfits (by rw [hdecoded]; rfl)

end WireType

end Postgres

end QueryFeed
