import Mathlib.Data.List.TakeWhile
import QueryFeed.Query.Template
import QueryFeed.Text.Blank

/-!
**Where a template may be cut.**

No placeholder reaches over a character that can stand in none, so a text may be cut in front of such
a character, and its parts are those of both halves.  Blanks are such characters: between blanks a
text has the same placeholders as alone.

Main definitions:

* `IsName`, `Occurs` — what a placeholder looks like, wherever it stands;
* `Foreign` — a character that stands in no placeholder.

Main results:

* `filterMap_name?_eq_nil_iff` — **a text has a placeholder if one stands anywhere in it**;
* `scan_append_foreign` — **a text may be cut in front of a foreign character**;
* `scan_between_foreign` — foreign characters around a text stand for themselves;
* `scan_eq_map_plain` — a text without placeholders stands for itself;
* `foreign_of_isBlank` — blanks are foreign.
-/

set_option autoImplicit false

namespace QueryFeed.Template

/-! ### Where placeholders stand -/

/-- A placeholder begins with a hash. -/
theorem placeholderAt?_cons_of_ne {c : Char} (rest : List Char) (h : c ≠ '#') :
    placeholderAt? (c :: rest) = none := by
  unfold placeholderAt?
  split
  · rename_i heq
    exact absurd (List.cons.inj heq).1 h
  · rfl

/-- A name that may stand in a placeholder. -/
def IsName (name : List Char) : Prop := Text.IsWord isNameStart isNameChar name

/-- A placeholder stands in a text. -/
def Occurs (text : List Char) : Prop :=
  ∃ before name after, IsName name ∧ text = before ++ '#' :: '\x7b' :: (name ++ '\x7d' :: after)

theorem isNameChar_of_isNameStart (c : Char) (h : isNameStart c = true) : isNameChar c = true := by
  rw [isNameChar, h]
  rfl

theorem nameBeforeBrace?_eq_some_iff {text name after : List Char} :
    nameBeforeBrace? text = some (name, after) ↔ IsName name ∧ text = name ++ '\x7d' :: after := by
  constructor
  · intro h
    have hsplit := List.takeWhile_append_dropWhile (p := isNameChar) (l := text)
    have hall := fun c (hc : c ∈ text.takeWhile isNameChar) => List.mem_takeWhile_imp hc
    unfold nameBeforeBrace? at h
    split at h
    · rename_i first rest left htake hdrop
      split at h
      · rename_i hfirst
        cases h
        rw [htake, hdrop] at hsplit
        rw [htake] at hall
        exact ⟨⟨first, rest, rfl, hfirst, (List.forall_mem_cons.1 hall).2⟩, hsplit.symm⟩
      · cases h
    · cases h
  · rintro ⟨hname, rfl⟩
    have hbrace : isNameChar '\x7d' = false := by decide
    have htake : (name ++ '\x7d' :: after).takeWhile isNameChar = name := by
      rw [List.takeWhile_append_of_pos (hname.forall_goesOn isNameChar_of_isNameStart),
        List.takeWhile_cons_of_neg (by simp [hbrace]), List.append_nil]
    have hdrop : (name ++ '\x7d' :: after).dropWhile isNameChar = '\x7d' :: after := by
      rw [List.dropWhile_append_of_pos (hname.forall_goesOn isNameChar_of_isNameStart),
        List.dropWhile_cons_of_neg (by simp [hbrace])]
    obtain ⟨first, rest, rfl, hfirst, -⟩ := hname
    rw [nameBeforeBrace?, htake, hdrop]
    exact if_pos hfirst

/-- What the placeholder is with which a text begins. -/
theorem placeholderAt?_eq_some_iff {text name after : List Char} :
    placeholderAt? text = some (name, after) ↔
      IsName name ∧ text = '#' :: '\x7b' :: (name ++ '\x7d' :: after) := by
  constructor
  · intro h
    unfold placeholderAt? at h
    split at h
    · obtain ⟨hname, rfl⟩ := nameBeforeBrace?_eq_some_iff.1 h
      exact ⟨hname, rfl⟩
    · cases h
  · rintro ⟨hname, rfl⟩
    exact nameBeforeBrace?_eq_some_iff.2 ⟨hname, rfl⟩

/-- **A text has a placeholder if one stands anywhere in it**, although the scan goes on behind each
placeholder that it finds. -/
theorem filterMap_name?_eq_nil_iff (text : List Char) :
    (scanner.scan text).filterMap Piece.name? = [] ↔ ¬Occurs text := by
  induction text with
  | nil =>
      rw [scanner.scan_nil]
      refine ⟨fun _ => ?_, fun _ => rfl⟩
      rintro ⟨before, name, after, -, htext⟩
      exact absurd htext (by simp)
  | cons c rest ih =>
      cases hfound : placeholderAt? (c :: rest) with
      | some found =>
          obtain ⟨hname, htext⟩ := placeholderAt?_eq_some_iff.1 hfound
          rw [scanner.scan_of_found hfound]
          refine ⟨fun hnil => (by cases hnil), fun hnone => absurd ?_ hnone⟩
          exact ⟨[], found.1, found.2, hname, htext⟩
      | none =>
          have hoccurs : Occurs (c :: rest) ↔ Occurs rest := by
            constructor
            · rintro ⟨before, name, after, hname, htext⟩
              cases before with
              | nil =>
                  rw [placeholderAt?_eq_some_iff.2 ⟨hname, htext⟩] at hfound
                  cases hfound
              | cons d before => exact ⟨before, name, after, hname, (List.cons.inj htext).2⟩
            · rintro ⟨before, name, after, hname, rfl⟩
              exact ⟨c :: before, name, after, hname, rfl⟩
          rw [scanner.scan_cons_of_none hfound, hoccurs, ← ih]
          rfl

/-! ### Cutting -/

/-- A character that stands in no placeholder. -/
structure Foreign (c : Char) : Prop where
  hash : c ≠ '#'
  opening : c ≠ '\x7b'
  closing : c ≠ '\x7d'
  name : isNameChar c = false

section

variable {c : Char} (foreign : Foreign c)

include foreign

/-- A name that ends before a brace does so without looking at what follows a foreign character. -/
theorem nameBeforeBrace?_append (text rest : List Char) :
    nameBeforeBrace? (text ++ c :: rest) =
      (nameBeforeBrace? text).map fun found => (found.1, found.2 ++ c :: rest) := by
  have htake : (text ++ c :: rest).takeWhile isNameChar = text.takeWhile isNameChar := by
    rw [List.takeWhile_append]
    split
    · rename_i hall
      rw [List.takeWhile_cons_of_neg (by rw [foreign.name]; exact Bool.false_ne_true),
        List.append_nil]
      exact ((List.takeWhile_prefix isNameChar).eq_of_length hall).symm
    · rfl
  have hdrop : (text ++ c :: rest).dropWhile isNameChar = text.dropWhile isNameChar ++ c :: rest := by
    rw [List.dropWhile_append]
    split
    · rename_i hempty
      rw [List.dropWhile_cons_of_neg (by rw [foreign.name]; exact Bool.false_ne_true),
        List.isEmpty_iff.1 hempty]
      rfl
    · rfl
  unfold nameBeforeBrace?
  rw [htake, hdrop]
  cases htext : text.takeWhile isNameChar with
  | nil => rfl
  | cons first name =>
      cases hleft : text.dropWhile isNameChar with
      | nil =>
          -- the name reaches the end of the text, where the brace is missing
          have hclosing := foreign.closing
          simp [hclosing]
      | cons d left =>
          by_cases hbrace : d = '\x7d'
          · subst hbrace
            simp only [List.cons_append]
            split <;> rfl
          · simp [hbrace]

theorem placeholderAt?_append (d : Char) (text rest : List Char) :
    placeholderAt? (d :: text ++ c :: rest) =
      (placeholderAt? (d :: text)).map fun found => (found.1, found.2 ++ c :: rest) := by
  by_cases hash : d = '#'
  · subst hash
    cases text with
    | nil =>
        have hopening := foreign.opening
        simp [placeholderAt?, hopening]
    | cons e text =>
        by_cases hopening : e = '\x7b'
        · subst hopening
          exact nameBeforeBrace?_append foreign text rest
        · simp [placeholderAt?, hopening]
  · rw [List.cons_append, placeholderAt?_cons_of_ne _ hash, placeholderAt?_cons_of_ne _ hash]
    rfl

/-- **A text may be cut in front of a foreign character.** -/
theorem scan_append_foreign (text rest : List Char) :
    scanner.scan (text ++ c :: rest) = scanner.scan text ++ scanner.scan (c :: rest) := by
  -- the recursion of the scan: after a placeholder, what is left is shorter
  induction hlength : text.length using Nat.strong_induction_on generalizing text with
  | _ length ih =>
    cases text with
    | nil => rw [scanner.scan_nil]; rfl
    | cons d text =>
        have happend := placeholderAt?_append foreign d text rest
        cases hfound : placeholderAt? (d :: text) with
        | none =>
            rw [hfound] at happend
            have hrest := ih text.length (by rw [← hlength]; exact Nat.lt_succ_self _) text rfl
            rw [scanner.scan_cons_of_none hfound]
            rw [List.cons_append] at happend ⊢
            rw [scanner.scan_cons_of_none happend, hrest]
            rfl
        | some found =>
            obtain ⟨name, after⟩ := found
            rw [hfound] at happend
            have hshorter := length_of_placeholderAt? hfound
            have hrest := ih after.length (by rw [← hlength]; exact hshorter) after rfl
            rw [scanner.scan_of_found hfound, scanner.scan_of_found happend, hrest]
            rfl

end

/-! ### Characters that stand for themselves -/

/-- Foreign characters in front of a text stand for themselves. -/
theorem scan_foreign_append {before : List Char} (foreign : ∀ c ∈ before, Foreign c)
    (text : List Char) : scanner.scan (before ++ text) = before.map .plain ++ scanner.scan text := by
  refine scanner.scan_append fun front c back hbefore => placeholderAt?_cons_of_ne _ ?_
  have hmem : c ∈ before := by
    rw [hbefore]
    exact List.mem_append_right _ List.mem_cons_self
  exact (foreign c hmem).hash

/-- **Foreign characters around a text stand for themselves**, and leave its parts as they are. -/
theorem scan_between_foreign {before after : List Char} (text : List Char)
    (leading : ∀ c ∈ before, Foreign c) (trailing : ∀ c ∈ after, Foreign c) :
    scanner.scan (before ++ text ++ after) =
      before.map .plain ++ scanner.scan text ++ after.map .plain := by
  have hafter : scanner.scan after = after.map .plain := by
    have halone := scan_foreign_append trailing []
    rwa [List.append_nil, scanner.scan_nil, List.append_nil] at halone
  cases after with
  | nil => rw [List.append_nil, List.map_nil, List.append_nil, scan_foreign_append leading]
  | cons c after =>
      rw [List.forall_mem_cons] at trailing
      rw [scan_append_foreign trailing.1, scan_foreign_append leading, hafter]

/-- **A text without placeholders stands for itself.** -/
theorem scan_eq_map_plain {text : List Char} (bare : ¬Occurs text) :
    scanner.scan text = text.map .plain := by
  refine scanner.scan_eq_map_plain fun front c back htext => ?_
  cases hfound : placeholderAt? (c :: back) with
  | none => exact hfound
  | some found =>
      obtain ⟨hname, hback⟩ := placeholderAt?_eq_some_iff.1 hfound
      exact absurd ⟨front, found.1, found.2, hname, by rw [htext, hback]⟩ bare

/-! ### Blanks -/

theorem toNat_of_isAlpha {c : Char} (h : c.isAlpha = true) : 0x41 ≤ c.toNat ∧ c.toNat ≤ 0x7a := by
  rcases Bool.or_eq_true_iff.1 h with hupper | hlower
  · have hbounds : 'A'.val ≤ c.val ∧ c.val ≤ 'Z'.val := of_decide_eq_true hupper
    exact ⟨hbounds.1, Nat.le_trans hbounds.2 (by decide)⟩
  · obtain ⟨hlow, hhigh⟩ := Bool.and_eq_true_iff.1 hlower
    exact ⟨Nat.le_trans (by decide) (of_decide_eq_true hlow), of_decide_eq_true hhigh⟩

theorem toNat_of_isNameChar {c : Char} (h : isNameChar c = true) :
    0x2e ≤ c.toNat ∧ c.toNat ≤ 0x7a := by
  simp only [isNameChar, isNameStart, Text.isDigit, Bool.or_eq_true, decide_eq_true_eq] at h
  rcases h with ((halpha | rfl) | ⟨hlow, hhigh⟩) | rfl
  · have hbounds := toNat_of_isAlpha halpha
    omega
  · decide
  · exact ⟨Nat.le_trans (by decide) hlow, Nat.le_trans hhigh (by decide)⟩
  · decide

theorem toNat_of_isBlank {c : Char} (h : Text.isBlank c = true) :
    c.toNat ≤ 0x20 ∨ 0x85 ≤ c.toNat := by
  have hascending : Text.Ascending Text.blankRanges := by
    unfold Text.Ascending
    decide
  obtain ⟨range, hrange, hlow, hhigh⟩ := (Text.inRanges_iff hascending).1 h
  have houtside : ∀ range ∈ Text.blankRanges, range.2 ≤ 0x20 ∨ 0x85 ≤ range.1 := by decide
  rcases houtside range hrange with hbelow | habove
  · exact Or.inl (Nat.le_trans hhigh hbelow)
  · exact Or.inr (Nat.le_trans habove hlow)

/-- **Blanks are foreign to placeholders.** -/
theorem foreign_of_isBlank {c : Char} (h : Text.isBlank c = true) : Foreign c := by
  have hblank := toNat_of_isBlank h
  -- braces and the hash are characters of ASCII other than its blanks, as those of names are
  refine ⟨?_, ?_, ?_, ?_⟩
  · rintro rfl
    exact absurd hblank (by decide)
  · rintro rfl
    exact absurd hblank (by decide)
  · rintro rfl
    exact absurd hblank (by decide)
  · cases hname : isNameChar c with
    | false => rfl
    | true =>
        have hascii := toNat_of_isNameChar hname
        omega

end QueryFeed.Template
