import Mathlib.Data.List.Basic
import QueryFeed.Json.Basic

/-!
**The grammar of compact JSON.**

The grammar says which texts stand for which value, and it is stated apart from any printer.  It has no
blanks between the parts of a text.  A character of a string may be escaped in several ways, so a value may
have several texts.  The text of a double may be any number of JSON; which number it is nearest to is left
open.

Main definitions:

* `Json.SpellsChar`, `Json.SpellsString` — how a character may stand in a string, and a string in a text;
* `Json.WholePart`, `Json.IsNumber` — the numbers of JSON;
* `Json.Spells` — the texts of a value;
* `CompactJson` — the texts of any value.

Main results:

* `Json.Spells.printable` — **a compact text has no control characters**, and so no line breaks;
* `CompactJson.array`, `CompactJson.object` — texts that are put together from compact ones.
-/

set_option autoImplicit false

namespace QueryFeed

namespace Json

/-! ### Strings -/

/-- The escapes with a letter or a mark, and what they stand for. -/
def shortEscapes : List (Char × Char) :=
  [('"', '"'), ('\\', '\\'), ('/', '/'), ('b', '\x08'), ('f', '\x0c'), ('n', '\n'), ('r', '\r'),
    ('t', '\t')]

/-- How a character may stand in a string.  One that needs more than four hexadecimal digits stands there as
it is. -/
inductive SpellsChar : Char → List Char → Prop where
  | plain {c : Char} (printable : 0x20 ≤ c.toNat) (mark : c ≠ '"') (backslash : c ≠ '\\') :
      SpellsChar c [c]
  | short {letter c : Char} (escape : (letter, c) ∈ shortEscapes) : SpellsChar c ['\\', letter]
  | number {c : Char} {digits : List Char} (four : digits.length = 4)
      (value : Text.numeral? 16 digits = some c.toNat) : SpellsChar c ('\\' :: 'u' :: digits)

/-- How characters may stand in a string, one after the other. -/
inductive SpellsChars : List Char → List Char → Prop where
  | nil : SpellsChars [] []
  | cons {c : Char} {chars piece text : List Char} (first : SpellsChar c piece)
      (rest : SpellsChars chars text) : SpellsChars (c :: chars) (piece ++ text)

/-- A string between quotation marks. -/
def SpellsString (string : String) (text : List Char) : Prop :=
  ∃ body, SpellsChars string.toList body ∧ text = '"' :: body ++ ['"']

/-! ### Numbers -/

/-- Digits, at least one. -/
def Digits (text : List Char) : Prop := text ≠ [] ∧ ∀ c ∈ text, Text.isDigit c = true

/-- Digits without a zero in front. -/
def WholePart (text : List Char) : Prop := Digits text ∧ (text.head? = some '0' → text = ['0'])

/-- Nothing, or a point and digits. -/
def FractionPart (text : List Char) : Prop := text = [] ∨ ∃ digits, Digits digits ∧ text = '.' :: digits

/-- Nothing, or a letter, a sign or none, and digits. -/
def ExponentPart (text : List Char) : Prop :=
  text = [] ∨ ∃ letter ∈ ['e', 'E'], ∃ sign ∈ [[], ['+'], ['-']], ∃ digits, Digits digits ∧
    text = letter :: sign ++ digits

/-- A number of JSON without a sign. -/
def IsMagnitude (text : List Char) : Prop :=
  ∃ whole fraction exponent, WholePart whole ∧ FractionPart fraction ∧ ExponentPart exponent ∧
    text = whole ++ fraction ++ exponent

/-- A number of JSON. -/
def IsNumber (text : List Char) : Prop :=
  ∃ magnitude, IsMagnitude magnitude ∧ (text = magnitude ∨ text = '-' :: magnitude)

/-- A whole number, with a sign if it is negative. -/
def SpellsInt (n : Int) (text : List Char) : Prop :=
  ∃ digits, WholePart digits ∧ Text.numeralValue 10 digits = n.natAbs ∧
    text = if n < 0 then '-' :: digits else digits

/-! ### Values -/

/-- A member of an object, with the texts of its key and of its value. -/
structure SpelledMember where
  key : String
  value : Json
  keyText : List Char
  valueText : List Char

/-- The text of a member. -/
def SpelledMember.text (member : SpelledMember) : List Char := member.keyText ++ ':' :: member.valueText

/-- The texts that stand for a value. -/
inductive Spells : Json → List Char → Prop where
  | null : Spells null "null".toList
  | bool (value : Bool) : Spells (bool value) (if value then "true" else "false").toList
  | int {n : Int} {text : List Char} (number : SpellsInt n text) : Spells (int n) text
  | double (x : Binary64) {text : List Char} (number : IsNumber text) : Spells (double x) text
  | notNumber {x : Binary64} (infinite : x.isFinite = false) : Spells (double x) "null".toList
  | str {string : String} {text : List Char} (spelled : SpellsString string text) : Spells (str string) text
  | arr {items : List (Json × List Char)} (each : ∀ item ∈ items, Spells item.1 item.2) :
      Spells (arr (items.map Prod.fst)) ('[' :: [','].intercalate (items.map Prod.snd) ++ [']'])
  | obj {members : List SpelledMember} (keys : ∀ member ∈ members, SpellsString member.key member.keyText)
      (values : ∀ member ∈ members, Spells member.value member.valueText) :
      Spells (obj (members.map fun member => (member.key, member.value)))
        ('\x7b' :: [','].intercalate (members.map SpelledMember.text) ++ ['\x7d'])

/-! ### No control characters -/

/-- A text without control characters. -/
def Printable (text : List Char) : Prop := ∀ c ∈ text, 0x20 ≤ c.toNat

instance (text : List Char) : Decidable (Printable text) :=
  List.decidableBAll _ text

namespace Printable

theorem cons {c : Char} {text : List Char} (first : 0x20 ≤ c.toNat) (h : Printable text) :
    Printable (c :: text) :=
  List.forall_mem_cons.2 ⟨first, h⟩

theorem append {text more : List Char} (h : Printable text) (hmore : Printable more) :
    Printable (text ++ more) :=
  List.forall_mem_append.2 ⟨h, hmore⟩

theorem singleton {c : Char} (h : 0x20 ≤ c.toNat) : Printable [c] := List.forall_mem_singleton.2 h

theorem intercalate {texts : List (List Char)} (h : ∀ text ∈ texts, Printable text) :
    Printable ([','].intercalate texts) := by
  induction texts with
  | nil => exact nofun
  | cons text rest ih =>
      obtain ⟨htext, hrest⟩ := List.forall_mem_cons.1 h
      cases rest with
      | nil =>
          rw [List.intercalate_singleton]
          exact htext
      | cons next others =>
          rw [List.intercalate_cons_cons]
          exact (htext.append (singleton (by decide))).append (ih hrest)

/-- A text without control characters holds no line break. -/
theorem break_not_mem {text : List Char} (h : Printable text) : '\n' ∉ text := by
  intro hmem
  exact absurd (h '\n' hmem) (by decide)

end Printable

theorem printable_of_digitValue? {c : Char} {value : Nat} (h : Text.digitValue? c = some value) :
    0x20 ≤ c.toNat := by
  have hle : ∀ {low : Char}, 0x20 ≤ low.toNat → low ≤ c → 0x20 ≤ c.toNat :=
    fun hlow hbound => Nat.le_trans hlow hbound
  unfold Text.digitValue? at h
  split at h
  · rename_i hdigit
    exact hle (by decide) hdigit.1
  split at h
  · rename_i _ hlower
    exact hle (by decide) hlower.1
  split at h
  · rename_i _ _ hupper
    exact hle (by decide) hupper.1
  · cases h

theorem printable_of_numeral? {base value : Nat} {digits : List Char}
    (h : Text.numeral? base digits = some value) : Printable digits := by
  intro c hc
  unfold Text.numeral? at h
  simp only at h
  split at h
  · cases h
  · rename_i hfits
    rw [Bool.or_eq_true, not_or, Bool.not_eq_true', Bool.not_eq_false, List.all_eq_true] at hfits
    have hfit := hfits.2 c hc
    cases hdigit : Text.digitValue? c with
    | some value => exact printable_of_digitValue? hdigit
    | none =>
        rw [hdigit] at hfit
        cases hfit

theorem SpellsChar.printable {c : Char} {text : List Char} (h : SpellsChar c text) : Printable text := by
  cases h with
  | plain printable _ _ => exact .singleton printable
  | short escape =>
      have hletters : ∀ pair ∈ shortEscapes, 0x20 ≤ pair.1.toNat := by decide
      exact .cons (by decide) (.singleton (hletters _ escape))
  | number _ value => exact .cons (by decide) (.cons (by decide) (printable_of_numeral? value))

theorem SpellsChars.printable {chars text : List Char} (h : SpellsChars chars text) : Printable text := by
  induction h with
  | nil => exact nofun
  | cons first _ ih => exact first.printable.append ih

theorem SpellsString.printable {string : String} {text : List Char} (h : SpellsString string text) :
    Printable text := by
  obtain ⟨body, hbody, rfl⟩ := h
  exact (Printable.cons (by decide) hbody.printable).append (.singleton (by decide))

theorem Digits.printable {text : List Char} (h : Digits text) : Printable text := by
  intro c hc
  have hdigit : '0' ≤ c ∧ c ≤ '9' := of_decide_eq_true (h.2 c hc)
  exact Nat.le_trans (by decide : 0x20 ≤ '0'.toNat) hdigit.1

theorem IsMagnitude.printable {text : List Char} (h : IsMagnitude text) : Printable text := by
  obtain ⟨whole, fraction, exponent, hwhole, hfraction, hexponent, rfl⟩ := h
  refine (hwhole.1.printable.append ?_).append ?_
  · obtain rfl | ⟨digits, hdigits, rfl⟩ := hfraction
    · exact nofun
    · exact .cons (by decide) hdigits.printable
  · obtain rfl | ⟨letter, hletter, sign, hsign, digits, hdigits, rfl⟩ := hexponent
    · exact nofun
    · have hletters : Printable ['e', 'E'] := by decide
      have hsigns : ∀ sign ∈ [[], ['+'], ['-']], Printable sign := by decide
      exact (Printable.cons (hletters _ hletter) (hsigns _ hsign)).append hdigits.printable

theorem IsNumber.printable {text : List Char} (h : IsNumber text) : Printable text := by
  obtain ⟨magnitude, hmagnitude, rfl | rfl⟩ := h
  · exact hmagnitude.printable
  · exact .cons (by decide) hmagnitude.printable

theorem SpellsInt.printable {n : Int} {text : List Char} (h : SpellsInt n text) : Printable text := by
  obtain ⟨digits, hdigits, -, rfl⟩ := h
  split
  · exact .cons (by decide) hdigits.1.printable
  · exact hdigits.1.printable

/-- **A compact text has no control characters.** -/
theorem Spells.printable {value : Json} {text : List Char} (h : Spells value text) : Printable text := by
  induction h with
  | null => decide
  | bool value => cases value <;> decide
  | int number => exact number.printable
  | double _ number => exact number.printable
  | notNumber _ => decide
  | str spelled => exact spelled.printable
  | arr _ ih =>
      have hitems := Printable.intercalate (List.forall_mem_map.2 ih)
      exact (Printable.cons (by decide) hitems).append (.singleton (by decide))
  | obj keys _ ih =>
      have hmember : ∀ member ∈ _, Printable (SpelledMember.text member) := fun member hmem =>
        (keys member hmem).printable.append (.cons (by decide) (ih member hmem))
      have hmembers := Printable.intercalate (List.forall_mem_map.2 hmember)
      exact (Printable.cons (by decide) hmembers).append (.singleton (by decide))

end Json

/-! ### Compact texts -/

/-- The text of some value. -/
def CompactJson (text : List Char) : Prop := ∃ value, Json.Spells value text

namespace CompactJson

/-- A compact text holds no line break. -/
theorem break_not_mem {text : List Char} (h : CompactJson text) : '\n' ∉ text := by
  obtain ⟨value, hvalue⟩ := h
  exact hvalue.printable.break_not_mem

/-- Compact texts with commas between them, in brackets. -/
theorem array {texts : List (List Char)} (each : ∀ text ∈ texts, CompactJson text) :
    CompactJson ('[' :: [','].intercalate texts ++ [']']) := by
  have hitems : ∃ items : List (Json × List Char), (∀ item ∈ items, Json.Spells item.1 item.2) ∧
      items.map Prod.snd = texts := by
    induction texts with
    | nil => exact ⟨[], nofun, rfl⟩
    | cons text rest ih =>
        obtain ⟨⟨value, hvalue⟩, hrest⟩ := List.forall_mem_cons.1 each
        obtain ⟨items, hitems, rfl⟩ := ih hrest
        exact ⟨(value, text) :: items, List.forall_mem_cons.2 ⟨hvalue, hitems⟩, rfl⟩
  obtain ⟨items, hitems, rfl⟩ := hitems
  exact ⟨_, .arr hitems⟩

/-- Compact texts under their keys with commas between them, in braces. -/
theorem object {members : List (String × List Char × List Char)}
    (keys : ∀ member ∈ members, Json.SpellsString member.1 member.2.1)
    (values : ∀ member ∈ members, CompactJson member.2.2) :
    CompactJson ('\x7b' :: [','].intercalate (members.map fun member => member.2.1 ++ ':' :: member.2.2) ++
      ['\x7d']) := by
  have hmembers : ∃ spelled : List Json.SpelledMember,
      (∀ member ∈ spelled, Json.SpellsString member.key member.keyText) ∧
      (∀ member ∈ spelled, Json.Spells member.value member.valueText) ∧
      spelled.map Json.SpelledMember.text = members.map fun member => member.2.1 ++ ':' :: member.2.2 := by
    induction members with
    | nil => exact ⟨[], nofun, nofun, rfl⟩
    | cons member rest ih =>
        obtain ⟨hkey, hkeys⟩ := List.forall_mem_cons.1 keys
        obtain ⟨⟨value, hvalue⟩, hvalues⟩ := List.forall_mem_cons.1 values
        obtain ⟨spelled, hspelled, hspelled', htexts⟩ := ih hkeys hvalues
        exact ⟨⟨member.1, value, member.2.1, member.2.2⟩ :: spelled,
          List.forall_mem_cons.2 ⟨hkey, hspelled⟩, List.forall_mem_cons.2 ⟨hvalue, hspelled'⟩,
          congrArg (List.cons _) htexts⟩
  obtain ⟨spelled, hkeys, hvalues, htexts⟩ := hmembers
  rw [← htexts]
  exact ⟨_, .obj hkeys hvalues⟩

end CompactJson

end QueryFeed
