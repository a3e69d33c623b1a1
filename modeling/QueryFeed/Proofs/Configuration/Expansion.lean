import Mathlib.Data.List.Basic
import Mathlib.Data.List.Forall2
import Mathlib.Data.List.TakeWhile
import Mathlib.Order.Nat
import QueryFeed.Configuration.Environment
import QueryFeed.Proofs.Text.Plain

/-!
**Variables of the environment are put in once, from left to right.**

What looks like a reference may overlap another one: a default runs to the first closing brace, so it
may hold the beginning of a further reference.  Of two that overlap the left one counts.  The text is cut
at its leftmost reference, and the rest of it is cut in the same way.  The scan of a text goes over it
character by character, and comes to the same parts.

A variable that is set need not hold a text.  One that does not gives way to the default, as if it were
not set.

Main definitions:

* `IsName`, `IsDefault`, `written`, `StandsAt` — what a reference looks like, wherever it stands;
* `Cut` — a text cut at its leftmost reference, and so on behind it;
* `Unreadable`, `StandsFor` — variables that give no text, and what is put in for a part.

Main results:

* `referenceAt?_eq_some_iff` — the reference with which a text begins;
* `scan_append_written`, `scan_eq_map_plain` — the scan up to the leftmost reference, and where there is
  none;
* `Cut.eq_pieces`, `Cut.pieces` — **a text can be cut in one way only**, and the scan does so;
* `expands_leftmost` — **every reference is replaced once, where the text is cut, and nothing else is**;
* `default_despite_set` — the default is put in although the variable is set.
-/

set_option autoImplicit false

namespace QueryFeed.Environment

/-! ### References -/

/-- A name that a variable may have in a reference. -/
def IsName (name : List Char) : Prop := Text.IsWord isNameStart isNameChar name

/-- A default runs to the first closing brace, so it holds none. -/
def IsDefault (default : Option (List Char)) : Prop := ∀ text ∈ default, '\x7d' ∉ text

/-- What follows the name in a reference: the closing brace, perhaps behind a default. -/
def writtenEnding : Option (List Char) → List Char
  | none => ['\x7d']
  | some text => ':' :: '-' :: (text ++ ['\x7d'])

/-- The characters of a reference. -/
def written (name : List Char) (default : Option (List Char)) : List Char :=
  '$' :: '\x7b' :: (name ++ writtenEnding default)

/-- A reference stands in a text, behind a number of characters. -/
def StandsAt (text : List Char) (start : Nat) (name : List Char) (default : Option (List Char)) :
    Prop :=
  IsName name ∧ IsDefault default ∧
    ∃ before after, text = before ++ (written name default ++ after) ∧ before.length = start

/-- No reference stands in a text. -/
def Bare (text : List Char) : Prop := ∀ start name default, ¬StandsAt text start name default

theorem isNameChar_of_isNameStart (c : Char) (h : isNameStart c = true) : isNameChar c = true := by
  rw [isNameChar, h]
  rfl

/-! ### The reference at the beginning of a text -/

/-- A default is what stands before the first closing brace. -/
theorem cut_at_brace {text default rest : List Char} :
    (text.takeWhile (· != '\x7d') = default ∧ text.dropWhile (· != '\x7d') = '\x7d' :: rest) ↔
      '\x7d' ∉ default ∧ text = default ++ '\x7d' :: rest := by
  constructor
  · rintro ⟨rfl, hdrop⟩
    refine ⟨fun hmem => ?_, ?_⟩
    · have hne := List.mem_takeWhile_imp hmem
      simp at hne
    · rw [← hdrop, List.takeWhile_append_dropWhile]
  · rintro ⟨hnot, rfl⟩
    have hkept := Text.ne_of_not_mem hnot
    exact ⟨Text.takeWhile_append hkept Text.head?_cons_mark,
      Text.dropWhile_append hkept Text.head?_cons_mark⟩

theorem ending?_eq_some_iff {text rest : List Char} {default : Option (List Char)} :
    ending? text = some (default, rest) ↔ IsDefault default ∧ text = writtenEnding default ++ rest := by
  constructor
  · intro h
    unfold ending? at h
    split at h
    · cases h
      exact ⟨nofun, rfl⟩
    · rename_i text
      split at h
      · rename_i c after hdrop
        cases h
        have hbrace : c = '\x7d' := by
          have hhead := List.head?_dropWhile_not (· != '\x7d') text
          rw [hdrop] at hhead
          simpa using hhead
        subst hbrace
        obtain ⟨hnot, htext⟩ := cut_at_brace.1 ⟨rfl, hdrop⟩
        refine ⟨fun d hd => ?_, ?_⟩
        · cases hd
          exact hnot
        · simpa [writtenEnding] using htext
      · cases h
    · cases h
  · rintro ⟨hdefault, rfl⟩
    cases default with
    | none => rfl
    | some default =>
        obtain ⟨htake, hdrop⟩ := cut_at_brace.2 ⟨hdefault default rfl, @rfl _ (default ++ '\x7d' :: rest)⟩
        simp only [writtenEnding, List.cons_append, List.append_assoc, List.nil_append, ending?]
        rw [hdrop, htake]

/-- No name goes on with what follows it in a reference. -/
theorem takeWhile_name {name : List Char} (h : IsName name) (default : Option (List Char))
    (rest : List Char) :
    (name ++ (writtenEnding default ++ rest)).takeWhile isNameChar = name ∧
      (name ++ (writtenEnding default ++ rest)).dropWhile isNameChar =
        writtenEnding default ++ rest := by
  have hends : ∀ c ∈ (writtenEnding default ++ rest).head?, isNameChar c = false := by
    cases default with
    | none =>
        rintro c ⟨⟩
        decide
    | some text =>
        rintro c ⟨⟩
        decide
  have hname := h.forall_goesOn isNameChar_of_isNameStart
  exact ⟨Text.takeWhile_append hname hends, Text.dropWhile_append hname hends⟩

/-- **What the reference is with which a text begins.** -/
theorem referenceAt?_eq_some_iff {text rest : List Char} {piece : Piece} :
    referenceAt? text = some (piece, rest) ↔
      ∃ name default, IsName name ∧ IsDefault default ∧
        piece = .reference (String.ofList name) (default.map String.ofList) ∧
        text = written name default ++ rest := by
  constructor
  · intro h
    unfold referenceAt? at h
    split at h
    · rename_i text
      have hsplit := List.takeWhile_append_dropWhile (p := isNameChar) (l := text)
      have hall := fun c (hc : c ∈ text.takeWhile isNameChar) => List.mem_takeWhile_imp hc
      split at h
      · cases h
      · rename_i first name htake
        split at h
        · rename_i hfirst
          obtain ⟨⟨default, after⟩, hending, heq⟩ := Option.map_eq_some_iff.1 h
          cases heq
          obtain ⟨hdefault, hdrop⟩ := ending?_eq_some_iff.1 hending
          rw [htake] at hall
          refine ⟨first :: name, default, ⟨first, name, rfl, hfirst, (List.forall_mem_cons.1 hall).2⟩,
            hdefault, rfl, ?_⟩
          rw [written, List.cons_append, List.cons_append, List.append_assoc, ← hdrop, ← htake, hsplit]
        · cases h
    · cases h
  · rintro ⟨name, default, hname, hdefault, rfl, rfl⟩
    obtain ⟨htake, hdrop⟩ := takeWhile_name hname default rest
    have hending := ending?_eq_some_iff.2 ⟨hdefault, @rfl _ (writtenEnding default ++ rest)⟩
    obtain ⟨first, others, rfl, hfirst, -⟩ := hname
    simp only [written, List.cons_append, List.append_assoc, referenceAt?] at htake hdrop ⊢
    rw [htake, hdrop, hending]
    simp [hfirst]

theorem referenceAt?_eq_none {text : List Char}
    (absent : ∀ name default, ¬StandsAt text 0 name default) : referenceAt? text = none := by
  cases hfound : referenceAt? text with
  | none => rfl
  | some found =>
      obtain ⟨name, default, hname, hdefault, -, htext⟩ := referenceAt?_eq_some_iff.1 hfound
      exact absurd ⟨hname, hdefault, [], found.2, htext, rfl⟩ (absent name default)

theorem StandsAt.cons {text name : List Char} {default : Option (List Char)} {start : Nat}
    (h : StandsAt text start name default) (c : Char) :
    StandsAt (c :: text) (start + 1) name default := by
  obtain ⟨hname, hdefault, before, after, rfl, rfl⟩ := h
  exact ⟨hname, hdefault, c :: before, after, rfl, rfl⟩

/-! ### The scan -/

/-- **Where no reference stands, every character is kept.** -/
theorem scan_eq_map_plain {text : List Char} (bare : Bare text) :
    scanner.scan text = text.map .plain := by
  refine scanner.scan_eq_map_plain fun front c back htext => referenceAt?_eq_none ?_
  rintro name default ⟨hname, hdefault, before, after, hback, -⟩
  exact bare (front ++ before).length name default ⟨hname, hdefault, front ++ before, after,
    by rw [htext, hback, List.append_assoc], rfl⟩

/-- **The scan keeps the characters in front of the leftmost reference, takes this reference, and goes on
behind it.** -/
theorem scan_append_written {before rest name : List Char} {default : Option (List Char)}
    (hname : IsName name) (hdefault : IsDefault default)
    (leftmost : ∀ start other instead,
      StandsAt (before ++ (written name default ++ rest)) start other instead →
        before.length ≤ start) :
    scanner.scan (before ++ (written name default ++ rest)) =
      before.map .plain ++
        .reference (String.ofList name) (default.map String.ofList) :: scanner.scan rest := by
  have hfound : scanner.at? (written name default ++ rest) =
      some (.reference (String.ofList name) (default.map String.ofList), rest) :=
    referenceAt?_eq_some_iff.2 ⟨name, default, hname, hdefault, rfl, rfl⟩
  rw [scanner.scan_append, scanner.scan_of_found hfound]
  · rfl
  · -- a reference that begins further to the left would be the leftmost one
    intro front c back hbefore
    refine referenceAt?_eq_none ?_
    rintro other instead ⟨hother, hinstead, ahead, after, hback, hlength⟩
    have hle := leftmost front.length other instead ⟨hother, hinstead, front, after, ?_, rfl⟩
    · rw [hbefore, List.length_append, List.length_cons] at hle
      omega
    · rw [List.length_eq_zero_iff] at hlength
      rw [hlength, List.nil_append] at hback
      rw [hbefore, List.append_assoc, hback]

/-! ### Cutting at the leftmost reference -/

/-- A text is cut at its leftmost reference, if there is one, and what follows this reference is cut in
the same way. -/
inductive Cut : List Char → List Piece → Prop where
  | bare {text : List Char} (bare : Bare text) : Cut text (text.map .plain)
  | leftmost {before rest name : List Char} {default : Option (List Char)} {parts : List Piece}
      (hname : IsName name) (hdefault : IsDefault default)
      (leftmost : ∀ start other instead,
        StandsAt (before ++ (written name default ++ rest)) start other instead →
          before.length ≤ start)
      (cut : Cut rest parts) :
      Cut (before ++ (written name default ++ rest))
        (before.map .plain ++
          .reference (String.ofList name) (default.map String.ofList) :: parts)

/-- **A text can be cut in one way only.** -/
theorem Cut.eq_pieces {text : List Char} {parts : List Piece} (h : Cut text parts) :
    parts = scanner.scan text := by
  induction h with
  | bare hbare => rw [scan_eq_map_plain hbare]
  | leftmost hname hdefault leftmost _ ih =>
      rw [scan_append_written hname hdefault leftmost, ih]

/-- Where references stand in a text, one of them is the leftmost. -/
theorem exists_leftmost {text : List Char}
    (found : ∃ start name default, StandsAt text start name default) :
    ∃ start name default, StandsAt text start name default ∧
      ∀ earlier other instead, StandsAt text earlier other instead → start ≤ earlier := by
  classical
  obtain ⟨name, default, h⟩ := Nat.find_spec found
  exact ⟨Nat.find found, name, default, h, fun earlier other instead hother =>
    Nat.find_min' found ⟨other, instead, hother⟩⟩

/-- **Every text is cut by the scan.** -/
theorem Cut.pieces (text : List Char) : Cut text (scanner.scan text) := by
  -- behind the leftmost reference, what is left is shorter
  induction hlength : text.length using Nat.strong_induction_on generalizing text with
  | _ length ih =>
    by_cases hsome : ∃ start name default, StandsAt text start name default
    · obtain ⟨start, name, default, ⟨hname, hdefault, before, rest, rfl, rfl⟩, hleftmost⟩ :=
        exists_leftmost hsome
      have hshorter : rest.length < length := by
        rw [← hlength]
        simp only [written, List.length_append, List.length_cons]
        omega
      rw [scan_append_written hname hdefault hleftmost]
      exact .leftmost hname hdefault hleftmost (ih rest.length hshorter rest rfl)
    · have hbare : Bare text := by
        intro start name default h
        exact hsome ⟨start, name, default, h⟩
      rw [scan_eq_map_plain hbare]
      exact .bare hbare

/-! ### What is put in -/

/-- The characters of a part. -/
def Piece.text : Piece → List Char
  | plain c => [c]
  | reference name default => written name.toList (default.map String.toList)

/-- A variable gives no text: it is not set, or what it holds cannot be decoded. -/
def Unreadable (environment : Environment) (name : String) : Prop :=
  Table.get? environment name = none ∨ Table.get? environment name = some .undecodable

/-- What is put in for a part: a character stays, and a reference gives way to the text of the variable,
which may be empty, or else to its default, or else to nothing. -/
inductive StandsFor (environment : Environment) : Piece → List Char → Prop where
  | plain (c : Char) : StandsFor environment (.plain c) [c]
  | readable {name value : String} {default : Option String}
      (h : Table.get? environment name = some (.text value)) :
      StandsFor environment (.reference name default) value.toList
  | default {name default : String} (h : Unreadable environment name) :
      StandsFor environment (.reference name (some default)) default.toList
  | nothing {name : String} (h : Unreadable environment name) :
      StandsFor environment (.reference name none) []

theorem value?_eq_some_iff {environment : Environment} {name value : String} :
    environment.value? name = some value ↔ Table.get? environment name = some (.text value) := by
  rw [value?, Option.bind_eq_some_iff]
  constructor
  · rintro ⟨held, hheld, htext⟩
    cases held with
    | text other =>
        cases htext
        exact hheld
    | undecodable => cases htext
  · exact fun h => ⟨_, h, rfl⟩

theorem value?_eq_none_iff {environment : Environment} {name : String} :
    environment.value? name = none ↔ Unreadable environment name := by
  rw [value?, Unreadable]
  cases Table.get? environment name with
  | none => exact ⟨fun _ => Or.inl rfl, fun _ => rfl⟩
  | some held =>
      cases held with
      | text value => exact ⟨nofun, fun h => by rcases h with h | h <;> cases h⟩
      | undecodable => exact ⟨fun _ => Or.inr rfl, fun _ => rfl⟩

theorem standsFor_iff {environment : Environment} {part : Piece} {chars : List Char} :
    StandsFor environment part chars ↔ chars = fill environment part := by
  constructor
  · intro h
    cases h with
    | plain c => rfl
    | readable h => simp [fill, value?_eq_some_iff.2 h]
    | default h | nothing h => simp [fill, value?_eq_none_iff.2 h]
  · rintro rfl
    cases part with
    | plain c => exact .plain c
    | reference name default =>
        cases hvalue : environment.value? name with
        | some value => simpa [fill, hvalue] using StandsFor.readable (value?_eq_some_iff.1 hvalue)
        | none =>
            have hnothing := value?_eq_none_iff.1 hvalue
            cases default with
            | some default => simpa [fill, hvalue] using StandsFor.default hnothing
            | none => simpa [fill, hvalue] using StandsFor.nothing hnothing

theorem forall₂_standsFor_iff {environment : Environment} {parts : List Piece}
    {chars : List (List Char)} :
    List.Forall₂ (StandsFor environment) parts chars ↔ chars = parts.map (fill environment) := by
  induction parts generalizing chars with
  | nil => rw [List.forall₂_nil_left_iff, List.map_nil]
  | cons part rest ih =>
      rw [List.forall₂_cons_left_iff, List.map_cons]
      constructor
      · rintro ⟨first, others, hfirst, hothers, rfl⟩
        rw [standsFor_iff.1 hfirst, ih.1 hothers]
      · rintro rfl
        exact ⟨_, _, standsFor_iff.2 rfl, ih.2 rfl, rfl⟩

/-- The parts of a text make it up. -/
theorem Cut.whole {text : List Char} {parts : List Piece} (h : Cut text parts) :
    parts.flatMap Piece.text = text := by
  have hplain : ∀ chars : List Char, (chars.map Piece.plain).flatMap Piece.text = chars := by
    intro chars
    induction chars with
    | nil => rfl
    | cons c rest ih => exact congrArg (c :: ·) ih
  induction h with
  | bare hbare => exact hplain _
  | leftmost hname hdefault leftmost _ ih =>
      rw [List.flatMap_append, List.flatMap_cons, hplain, ih]
      simp [Piece.text, Function.comp_def]

/-- A text is expanded alike where the variables that it refers to give the same texts. -/
theorem expand_congr {text : String} {first second : Environment}
    (agree : ∀ name ∈ references text, first.value? name = second.value? name) :
    expand first text = expand second text := by
  have hfill : ∀ part ∈ pieces text, fill first part = fill second part := by
    intro part hpart
    cases part with
    | plain c => rfl
    | reference name default =>
        have hname : name ∈ references text := List.mem_filterMap.2 ⟨_, hpart, rfl⟩
        simp only [fill, agree name hname]
  rw [expand, expand, List.flatMap_congr hfill]

/-- A text with a default that looks like a reference, and with some near misses. -/
def mixed : String :=
  "$\x7bA:-$\x7bB\x7d\x7d $ #\x7bx\x7d $\x7b9\x7d $\x7bC:x\x7d $\x7bC\x7d|$\x7bD:-d\x7d|$\x7bE"

/-- Three variables: one cannot be decoded, one looks like a reference, and one is empty. -/
def few : Environment := [("A", .undecodable), ("C", .text "$\x7bA\x7d"), ("D", .text "")]

/-- The same without the first variable, and with one that no reference names. -/
def others : Environment := [("B", .text "b"), ("C", .text "$\x7bA\x7d"), ("D", .text "")]

/-- An environment in which a variable is set to what cannot be decoded. -/
def garbled : Environment := [("A", .undecodable)]

end QueryFeed.Environment
