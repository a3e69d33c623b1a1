import QueryFeed.Text.Bytes
import QueryFeed.Text.Quoted

/-!
**Plain texts.**

A plain text has letters and digits of ASCII only, and a name is a plain text that begins with a
letter.  Plain texts stand for themselves wherever other characters are escaped or cut at.

Main definitions: `Text.IsPlain`, `Text.IsName`.

Main results:

* `Text.forall_alphanum` — what holds of the letters and digits one by one holds of all of them;
* `Text.textOfUtf8?_utf8`, `Text.textOfUtf8?_eq_some_iff`, `Text.utf8_append` — **bytes of a text are
  read as this text**;
* `Text.flatMap_quoteChar` — a text of characters that are printed as they are is quoted as it is.
-/

set_option autoImplicit false

namespace QueryFeed.Text

/-! ### Letters and digits -/

/-- Letters and digits have small code points. -/
theorem toNat_lt_of_alphanum {c : Char} (h : c.isAlphanum = true) : c.toNat < 123 := by
  have hbelow : ∀ last : Char, last.toNat < 123 → c.val ≤ last.val → c.toNat < 123 :=
    fun _ hlast hle => Nat.lt_of_le_of_lt hle hlast
  rcases Bool.or_eq_true_iff.1 h with halpha | hdigit
  · rcases Bool.or_eq_true_iff.1 halpha with hupper | hlower
    · have hbounds : 'A'.val ≤ c.val ∧ c.val ≤ 'Z'.val := of_decide_eq_true hupper
      exact hbelow 'Z' (by decide) hbounds.2
    · exact hbelow 'z' (by decide) (of_decide_eq_true (Bool.and_eq_true_iff.1 hlower).2)
  · exact hbelow '9' (by decide) (of_decide_eq_true (Bool.and_eq_true_iff.1 hdigit).2)

/-- What holds of the letters and digits one by one holds of all of them. -/
theorem forall_alphanum {P : Char → Prop}
    (each : ∀ n < 123, (Char.ofNat n).isAlphanum = true → P (Char.ofNat n)) {c : Char}
    (h : c.isAlphanum = true) : P c := by
  have hofNat := each c.toNat (toNat_lt_of_alphanum h)
  rw [Char.ofNat_toNat] at hofNat
  exact hofNat h

theorem ne_of_alphanum {c other : Char} (h : c.isAlphanum = true)
    (special : other.isAlphanum = false) : c ≠ other := by
  rintro rfl
  rw [h] at special
  cases special

/-- What is decided of the characters of a text one by one holds of all of them. -/
theorem forall_mem_of_all {P : Char → Prop} [DecidablePred P] {text : List Char}
    (h : (text.all fun c => decide (P c)) = true) : ∀ c ∈ text, P c :=
  fun c hmem => of_decide_eq_true (List.all_eq_true.1 h c hmem)

/-- No letter or digit is one of some other characters. -/
theorem not_mem_of_alphanum {marks : List Char} (special : marks.all (!·.isAlphanum) = true)
    {c : Char} (h : c.isAlphanum = true) : c ∉ marks := by
  intro hmem
  have hspecial := List.all_eq_true.1 special c hmem
  rw [h] at hspecial
  cases hspecial

/-- Letters and digits only. -/
def IsPlain (text : List Char) : Prop := ∀ c ∈ text, c.isAlphanum = true

instance (text : List Char) : Decidable (IsPlain text) :=
  decidable_of_iff (text.all Char.isAlphanum = true) List.all_eq_true

/-- A letter, and then letters and digits. -/
structure IsName (text : List Char) : Prop where
  letter : ∃ first ∈ text.head?, first.isAlpha = true
  plain : IsPlain text

theorem IsName.ne_nil {text : List Char} (h : IsName text) : text ≠ [] := by
  rintro rfl
  obtain ⟨_, hmem, -⟩ := h.letter
  cases hmem

/-- A plain text holds no other character. -/
theorem IsPlain.not_mem {text : List Char} (h : IsPlain text) {c : Char}
    (special : c.isAlphanum = false) : c ∉ text :=
  fun hmem => ne_of_alphanum (h c hmem) special rfl

theorem IsPlain.avoids {text marks : List Char} (h : IsPlain text)
    (special : marks.all (!·.isAlphanum) = true) : ∀ c ∈ text, c ∉ marks :=
  fun c hmem => not_mem_of_alphanum special (h c hmem)

/-! ### Cutting -/

section

variable {keep : Char → Bool} {before after : List Char}

/-- A text is cut where the first character stands that is not kept. -/
theorem takeWhile_append (inside : ∀ c ∈ before, keep c = true)
    (ends : ∀ c ∈ after.head?, keep c = false) : (before ++ after).takeWhile keep = before := by
  rw [List.takeWhile_append_of_pos inside]
  cases after with
  | nil => exact List.append_nil _
  | cons c rest => rw [List.takeWhile_cons_of_neg (by simp [ends c rfl]), List.append_nil]

theorem dropWhile_append (inside : ∀ c ∈ before, keep c = true)
    (ends : ∀ c ∈ after.head?, keep c = false) : (before ++ after).dropWhile keep = after := by
  rw [List.dropWhile_append_of_pos inside]
  cases after with
  | nil => rfl
  | cons c rest => rw [List.dropWhile_cons_of_neg (by simp [ends c rfl])]

theorem takeWhile_eq_self (inside : ∀ c ∈ before, keep c = true) :
    before.takeWhile keep = before := by
  have hnil : ∀ c ∈ ([] : List Char).head?, keep c = false := fun _ hmem => by cases hmem
  have htake := takeWhile_append inside hnil
  rwa [List.append_nil] at htake

/-- A text without a mark is kept up to the mark. -/
theorem ne_of_not_mem {mark : Char} (h : mark ∉ before) : ∀ c ∈ before, (c != mark) = true :=
  fun _ hmem => bne_iff_ne.2 (ne_of_mem_of_not_mem hmem h)

/-- A mark is not kept. -/
theorem head?_cons_mark {mark : Char} : ∀ c ∈ (mark :: after).head?, (c != mark) = false := by
  rintro c ⟨⟩
  exact bne_self_eq_false mark

/-- A text is cut at its first mark in one way only. -/
theorem append_mark_inj {mark : Char} {other rest : List Char} (hbefore : mark ∉ before)
    (hother : mark ∉ other) (h : before ++ mark :: after = other ++ mark :: rest) :
    before = other ∧ after = rest := by
  have htake := congrArg (List.takeWhile (· != mark)) h
  have hdrop := congrArg (List.dropWhile (· != mark)) h
  rw [takeWhile_append (ne_of_not_mem hbefore) head?_cons_mark,
    takeWhile_append (ne_of_not_mem hother) head?_cons_mark] at htake
  rw [dropWhile_append (ne_of_not_mem hbefore) head?_cons_mark,
    dropWhile_append (ne_of_not_mem hother) head?_cons_mark] at hdrop
  exact ⟨htake, (List.cons.inj hdrop).2⟩

end

/-! ### Bytes -/

/-- The loop that lists bytes puts those that are left behind those that were read. -/
theorem toList_loop (bytes : ByteArray) (place : Nat) (read : List UInt8) :
    ByteArray.toList.loop bytes place read = read.reverse ++ bytes.data.toList.drop place := by
  induction place, read using ByteArray.toList.loop.induct bytes with
  | case1 place read more ih =>
      have hplace : place < bytes.data.toList.length := more
      have hget : bytes.get! place = bytes.data.toList[place] := by
        rw [ByteArray.get!, Array.getElem_toList]
        exact getElem!_pos bytes.data place more
      rw [ByteArray.toList.loop, if_pos more, ih, List.drop_eq_getElem_cons hplace, hget,
        List.reverse_cons, List.append_assoc]
      rfl
  | case2 place read nothing =>
      have hplace : bytes.data.toList.length ≤ place := Nat.le_of_not_lt nothing
      rw [ByteArray.toList.loop, if_neg nothing, List.drop_eq_nil_of_le hplace, List.append_nil]

theorem utf8_eq (text : String) : utf8 text = text.toByteArray.data.toList := by
  rw [utf8, ByteArray.toList, toList_loop]
  rfl

/-- **The bytes of a text are read as this text.** -/
theorem textOfUtf8?_utf8 (text : String) : textOfUtf8? (utf8 text) = some text := by
  rw [textOfUtf8?, utf8_eq]
  exact dif_pos text.isValidUTF8

/-- Bytes are read as a text if and only if they are the bytes of this text. -/
theorem textOfUtf8?_eq_some_iff {bytes : List UInt8} {text : String} :
    textOfUtf8? bytes = some text ↔ utf8 text = bytes := by
  constructor
  · intro h
    rw [textOfUtf8?, String.fromUTF8?] at h
    split at h
    · cases h
      rw [utf8_eq]
      rfl
    · cases h
  · rintro rfl
    exact textOfUtf8?_utf8 text

theorem utf8_append (first second : String) :
    utf8 (first ++ second) = utf8 first ++ utf8 second := by
  rw [utf8_eq, utf8_eq, utf8_eq, String.toByteArray_append, ByteArray.data_append,
    Array.toList_append]

theorem utf8_ofList_cons (c : Char) (rest : List Char) :
    utf8 (String.ofList (c :: rest)) = utf8 (String.singleton c) ++ utf8 (String.ofList rest) := by
  rw [String.ofList_cons, utf8_append]

/-- A letter or a digit is one byte. -/
theorem utf8_of_alphanum {c : Char} (h : c.isAlphanum = true) :
    utf8 (String.singleton c) = [UInt8.ofNat c.toNat] :=
  forall_alphanum (P := fun c => utf8 (String.singleton c) = [UInt8.ofNat c.toNat])
    (by decide +kernel) h

theorem utf8_empty : utf8 "" = [] := by
  rw [utf8_eq]
  rfl

/-- Every character has some byte. -/
theorem utf8_singleton_ne_nil (c : Char) : utf8 (String.singleton c) ≠ [] := by
  intro hnil
  have hread := textOfUtf8?_utf8 (String.singleton c)
  rw [hnil, ← utf8_empty, textOfUtf8?_utf8, Option.some_inj] at hread
  exact absurd (congrArg String.toList hread) (by simp)

/-! ### Quoting -/

/-- A letter or a digit is quoted as it is. -/
theorem quoteChar_of_alphanum {c : Char} (h : c.isAlphanum = true) : quoteChar c = [c] :=
  forall_alphanum (P := fun c => quoteChar c = [c]) (by decide +kernel) h

/-- A text of characters that are quoted as they are is quoted as it is. -/
theorem flatMap_quoteChar {text : List Char} (each : ∀ c ∈ text, quoteChar c = [c]) :
    text.flatMap quoteChar = text := by
  induction text with
  | nil => rfl
  | cons c rest ih =>
      obtain ⟨hfirst, hrest⟩ := List.forall_mem_cons.1 each
      rw [List.flatMap_cons, hfirst, ih hrest]
      rfl

end QueryFeed.Text
