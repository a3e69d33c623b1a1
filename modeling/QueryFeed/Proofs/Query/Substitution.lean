import QueryFeed.Proofs.Query.Pieces
import QueryFeed.Query.Basic

/-!
**Placeholders are replaced all at once.**

The scan of a template goes on behind each placeholder that it finds, and never looks back.  It misses
nothing that way: no two placeholders of a text overlap, so that a text can be read as characters and
placeholders in one way only.  Filling a template replaces each placeholder where it stands and keeps
every other character, and what is inserted is not read again.

Main definitions:

* `StandsAt` — a placeholder stands at a place of a text;
* `spots` — the placeholders among some parts, with their places;
* `Reads` — parts that make up a text and take each of its placeholders as one part;
* `Insertable`, `Piece.filled` — values that can be inserted, and what becomes of a part.

Main results:

* `StandsAt.apart` — **no two placeholders of a text overlap**;
* `Reads.pieces`, `Reads.eq_pieces` — **a text can be read in one way only**, and the scan does so;
* `fillAll_eq_filled` — parts are filled one by one;
* `substitution_simultaneous` — **filling a template replaces all placeholders at once**.
-/

set_option autoImplicit false

namespace QueryFeed.Template

/-! ### Placeholders at their places -/

/-- The characters of the placeholder with a name. -/
def written (name : List Char) : List Char := '#' :: '\x7b' :: (name ++ ['\x7d'])

/-- The placeholder with a name stands in a text, behind a number of characters. -/
def StandsAt (text : List Char) (start : Nat) (name : List Char) : Prop :=
  IsName name ∧ ∃ before after, text = before ++ (written name ++ after) ∧ before.length = start

theorem length_written (name : List Char) : (written name).length = name.length + 3 := by
  simp [written]

/-- A hash stands in a placeholder only where it begins. -/
theorem hash_of_written {name : List Char} (h : IsName name) {place : Nat}
    (hash : (written name)[place]? = some '#') : place = 0 := by
  cases place with
  | zero => rfl
  | succ place =>
      have hmem : '#' ∈ '\x7b' :: (name ++ ['\x7d']) := List.mem_of_getElem? hash
      rcases List.mem_cons.1 hmem with hopening | hrest
      · exact absurd hopening (by decide)
      · rcases List.mem_append.1 hrest with hname | hclosing
        · have hchar := h.forall_goesOn isNameChar_of_isNameStart _ hname
          exact absurd hchar (by decide)
        · exact absurd (List.mem_singleton.1 hclosing) (by decide)

/-- The placeholder with which a text begins. -/
theorem standsAt_zero_iff {text name : List Char} :
    StandsAt text 0 name ↔ ∃ after, placeholderAt? text = some (name, after) := by
  constructor
  · rintro ⟨hname, before, after, rfl, hlength⟩
    rw [List.length_eq_zero_iff] at hlength
    subst hlength
    refine ⟨after, placeholderAt?_eq_some_iff.2 ⟨hname, ?_⟩⟩
    simp [written]
  · rintro ⟨after, hfound⟩
    obtain ⟨hname, rfl⟩ := placeholderAt?_eq_some_iff.1 hfound
    refine ⟨hname, [], after, ?_, rfl⟩
    simp [written]

/-- What stands in a text stands in it behind any other text. -/
theorem standsAt_append_iff (front : List Char) {text name : List Char} {start : Nat} :
    StandsAt (front ++ text) (front.length + start) name ↔ StandsAt text start name := by
  constructor
  · rintro ⟨hname, before, after, htext, hlength⟩
    -- the front is the beginning of what stands before the placeholder
    have hfront : front = before.take front.length := by
      have htake := congrArg (List.take front.length) htext
      rwa [List.take_left, List.take_append_of_le_length (by omega)] at htake
    have hrest : text = before.drop front.length ++ (written name ++ after) := by
      have hdrop := congrArg (List.drop front.length) htext
      rwa [List.drop_left, List.drop_append_of_le_length (by omega)] at hdrop
    refine ⟨hname, before.drop front.length, after, hrest, ?_⟩
    rw [List.length_drop]
    omega
  · rintro ⟨hname, before, after, rfl, rfl⟩
    refine ⟨hname, front ++ before, after, ?_, List.length_append⟩
    rw [List.append_assoc]

/-- A placeholder stands where its text begins, whatever is in front of it. -/
theorem StandsAt.drop {text name : List Char} {start : Nat} (h : StandsAt text start name) :
    StandsAt (text.drop start) 0 name := by
  obtain ⟨hname, before, after, rfl, rfl⟩ := h
  rw [List.drop_left]
  exact ⟨hname, [], after, rfl, rfl⟩

/-- At one place stands one placeholder. -/
theorem StandsAt.unique {text name other : List Char} {start : Nat} (h : StandsAt text start name)
    (same : StandsAt text start other) : name = other := by
  obtain ⟨_, hname⟩ := standsAt_zero_iff.1 h.drop
  obtain ⟨_, hother⟩ := standsAt_zero_iff.1 same.drop
  rw [hname] at hother
  simp only [Option.some.injEq, Prod.mk.injEq] at hother
  exact hother.1

/-- **No two placeholders of a text overlap.** -/
theorem StandsAt.apart {text name other : List Char} {start later : Nat}
    (h : StandsAt text start name) (second : StandsAt text later other) (lt : start < later) :
    start + (written name).length ≤ later := by
  obtain ⟨hname, before, after, rfl, rfl⟩ := h
  -- otherwise the second one would begin with a hash in the middle of the first one
  by_contra hwithin
  have hhash : (before ++ (written name ++ after))[later]? = some '#' := by
    obtain ⟨-, front, rest, htext, rfl⟩ := second
    rw [htext, List.getElem?_append_right (Nat.le_refl _), Nat.sub_self]
    rfl
  rw [List.getElem?_append_right (Nat.le_of_lt lt),
    List.getElem?_append_left (by omega)] at hhash
  have hbegin := hash_of_written hname hhash
  omega

theorem occurs_iff_standsAt {text : List Char} :
    Occurs text ↔ ∃ start name, StandsAt text start name := by
  constructor
  · rintro ⟨before, name, after, hname, rfl⟩
    refine ⟨before.length, name, hname, before, after, ?_, rfl⟩
    simp [written]
  · rintro ⟨_, name, hname, before, after, rfl, -⟩
    refine ⟨before, name, after, hname, ?_⟩
    simp [written]

/-! ### Parts and their places -/

/-- The characters of a part. -/
def Piece.text : Piece → List Char
  | plain c => [c]
  | placeholder name => written name.toList

/-- The placeholders among parts that begin at some place, each with the place where it stands. -/
def spots (start : Nat) : List Piece → List (Nat × String)
  | [] => []
  | .plain _ :: rest => spots (start + 1) rest
  | .placeholder name :: rest =>
      (start, name) :: spots (start + (written name.toList).length) rest

theorem map_snd_spots (start : Nat) (parts : List Piece) :
    (spots start parts).map Prod.snd = parts.filterMap Piece.name? := by
  induction parts generalizing start with
  | nil => rfl
  | cons part rest ih =>
      cases part with
      | plain c => exact ih (start + 1)
      | placeholder name => exact congrArg (name :: ·) (ih _)

/-- No placeholder stands in front of the first part. -/
theorem le_of_mem_spots {start : Nat} {parts : List Piece} {spot : Nat × String}
    (h : spot ∈ spots start parts) : start ≤ spot.1 := by
  induction parts generalizing start with
  | nil => cases h
  | cons part rest ih =>
      cases part with
      | plain c =>
          have hrest := ih h
          omega
      | placeholder name =>
          rcases List.mem_cons.1 h with rfl | hmem
          · exact Nat.le_refl _
          · have hrest := ih hmem
            omega

/-- Placeholders are told in the order of their places. -/
theorem spots_pairwise (start : Nat) (parts : List Piece) :
    (spots start parts).Pairwise fun spot next => spot.1 < next.1 := by
  induction parts generalizing start with
  | nil => exact .nil
  | cons part rest ih =>
      cases part with
      | plain c => exact ih (start + 1)
      | placeholder name =>
          refine List.pairwise_cons.2 ⟨fun next hnext => ?_, ih _⟩
          have hbehind := le_of_mem_spots hnext
          rw [length_written] at hbehind
          simp only
          omega

/-- Behind further characters all placeholders stand as much later. -/
theorem mem_spots_add (extra start place : Nat) (name : String) (parts : List Piece) :
    (extra + place, name) ∈ spots (extra + start) parts ↔ (place, name) ∈ spots start parts := by
  induction parts generalizing start with
  | nil => simp [spots]
  | cons part rest ih =>
      cases part with
      | plain c =>
          simp only [spots]
          rw [Nat.add_assoc]
          exact ih (start + 1)
      | placeholder other =>
          simp only [spots, List.mem_cons, Prod.mk.injEq, Nat.add_left_cancel_iff]
          rw [Nat.add_assoc, ih]

/-! ### Reading a text -/

/-- Parts make up a text, and the placeholders of the text are parts. -/
structure Reads (text : List Char) (parts : List Piece) : Prop where
  whole : parts.flatMap Piece.text = text
  each : ∀ place name, StandsAt text place name.toList ↔ (place, name) ∈ spots 0 parts

/-- The first part of a text that begins with no placeholder is its first character. -/
theorem reads_plain_iff {c : Char} {text : List Char} {rest : List Piece}
    (none : placeholderAt? (c :: text) = none) :
    Reads (c :: text) (.plain c :: rest) ↔ Reads text rest := by
  have hplace : ∀ place name, StandsAt (c :: text) (1 + place) name ↔ StandsAt text place name :=
    fun place name => standsAt_append_iff [c]
  constructor
  · intro h
    refine ⟨(List.cons.inj h.whole).2, fun place name => ?_⟩
    rw [← hplace, h.each]
    exact mem_spots_add 1 0 place name rest
  · intro h
    refine ⟨congrArg (c :: ·) h.whole, fun place name => ?_⟩
    rcases place with _ | place
    · -- nothing stands at the beginning, on either side
      constructor
      · intro hstands
        obtain ⟨after, hfound⟩ := standsAt_zero_iff.1 hstands
        rw [none] at hfound
        cases hfound
      · intro hmem
        have hbehind : 1 ≤ 0 := @le_of_mem_spots 1 _ _ hmem
        omega
    · rw [Nat.add_comm place 1, hplace, h.each]
      exact (mem_spots_add 1 0 place name rest).symm

/-- The first part of a text that begins with a placeholder is this placeholder. -/
theorem reads_placeholder_iff {name : String} (named : IsName name.toList) {text : List Char}
    {rest : List Piece} :
    Reads (written name.toList ++ text) (.placeholder name :: rest) ↔ Reads text rest := by
  have hplace : ∀ place other, StandsAt (written name.toList ++ text)
      ((written name.toList).length + place) other ↔ StandsAt text place other :=
    fun place other => standsAt_append_iff _
  have hfirst : StandsAt (written name.toList ++ text) 0 name.toList :=
    ⟨named, [], text, rfl, rfl⟩
  have hspots : ∀ place other, ((written name.toList).length + place, other) ∈
      spots 0 (.placeholder name :: rest) ↔ (place, other) ∈ spots 0 rest := by
    intro place other
    rw [spots, List.mem_cons, Nat.zero_add]
    constructor
    · rintro (hsame | hmem)
      · rw [length_written, Prod.mk.injEq] at hsame
        omega
      · exact (mem_spots_add _ 0 place other rest).1 hmem
    · exact fun hmem => Or.inr ((mem_spots_add _ 0 place other rest).2 hmem)
  constructor
  · intro h
    refine ⟨List.append_cancel_left h.whole, fun place other => ?_⟩
    rw [← hplace, h.each, hspots]
  · intro h
    refine ⟨congrArg (written name.toList ++ ·) h.whole, fun place other => ?_⟩
    by_cases hbehind : (written name.toList).length ≤ place
    · obtain ⟨further, rfl⟩ := Nat.exists_eq_add_of_le hbehind
      rw [hplace, hspots, h.each]
    · -- within the first placeholder no other one begins
      constructor
      · intro hstands
        rcases Nat.eq_zero_or_pos place with rfl | hpositive
        · obtain rfl : name = other := String.toList_inj.1 (hfirst.unique hstands)
          exact List.mem_cons_self
        · have hapart := hfirst.apart hstands hpositive
          omega
      · intro hmem
        rcases List.mem_cons.1 hmem with hsame | hlater
        · rw [Prod.mk.injEq] at hsame
          obtain ⟨rfl, rfl⟩ := hsame
          exact hfirst
        · have hstart := le_of_mem_spots hlater
          simp only at hstart
          omega

/-- **The scan reads a text.** -/
theorem Reads.pieces (text : List Char) : Reads text (scanner.scan text) := by
  -- the recursion of the scan: after a placeholder, what is left is shorter
  induction hlength : text.length using Nat.strong_induction_on generalizing text with
  | _ length ih =>
    cases text with
    | nil =>
        rw [scanner.scan_nil]
        refine ⟨rfl, fun place name => ⟨?_, nofun⟩⟩
        rintro ⟨-, before, after, htext, -⟩
        simp [written] at htext
    | cons c rest =>
        subst hlength
        cases hfound : placeholderAt? (c :: rest) with
        | none =>
            rw [scanner.scan_cons_of_none hfound, scanner_plain, reads_plain_iff hfound]
            exact ih rest.length (Nat.lt_succ_self _) rest rfl
        | some found =>
            obtain ⟨name, after⟩ := found
            have hshorter := length_of_placeholderAt? hfound
            have hafter := ih after.length hshorter after rfl
            obtain ⟨hname, htext⟩ := placeholderAt?_eq_some_iff.1 hfound
            rw [scanner.scan_of_found hfound, scanner_marked, htext]
            have hwritten : '#' :: '\x7b' :: (name ++ '\x7d' :: after) =
                written (String.ofList name).toList ++ after := by
              simp [written]
            rw [hwritten, reads_placeholder_iff (by rwa [String.toList_ofList])]
            exact hafter

/-- **A text can be read in one way only.** -/
theorem Reads.eq_pieces {text : List Char} {parts : List Piece} (h : Reads text parts) :
    parts = scanner.scan text := by
  induction parts generalizing text with
  | nil =>
      have hnil : [] = text := h.whole
      rw [← hnil, scanner.scan_nil]
  | cons part rest ih =>
      cases part with
      | plain c =>
          obtain rfl : c :: rest.flatMap Piece.text = text := h.whole
          -- a placeholder at the beginning would be the first part
          have hnone : placeholderAt? (c :: rest.flatMap Piece.text) = none := by
            cases hfound : placeholderAt? (c :: rest.flatMap Piece.text) with
            | none => rfl
            | some found =>
                have hstands : StandsAt (c :: rest.flatMap Piece.text) 0
                    (String.ofList found.1).toList := by
                  rw [String.toList_ofList]
                  exact standsAt_zero_iff.2 ⟨found.2, hfound⟩
                have hbehind : 1 ≤ 0 := @le_of_mem_spots 1 _ _ ((h.each _ _).1 hstands)
                omega
          rw [scanner.scan_cons_of_none hnone, scanner_plain, ← ih ((reads_plain_iff hnone).1 h)]
      | placeholder name =>
          obtain rfl : written name.toList ++ rest.flatMap Piece.text = text := h.whole
          have hstands := (h.each 0 name).2 List.mem_cons_self
          have hrest := ih ((reads_placeholder_iff hstands.1).1 h)
          have hfound : scanner.at? (written name.toList ++ rest.flatMap Piece.text) =
              some (name.toList, rest.flatMap Piece.text) := by
            rw [scanner_at?]
            exact placeholderAt?_eq_some_iff.2 ⟨hstands.1, by simp [written]⟩
          rw [scanner.scan_of_found hfound, scanner_marked, String.ofList_toList, ← hrest]

/-! ### Filling the parts -/

/-- A value that can be inserted. -/
inductive Insertable : Json → Prop where
  | str (value : String) : Insertable (.str value)
  | bool (value : Bool) : Insertable (.bool value)
  | int (value : Int) : Insertable (.int value)
  | double (value : Binary64) : Insertable (.double value)

/-- The text that is inserted for a value: a text as it is, anything else as JSON. -/
def inserted : Json → String
  | .str value => value
  | value => value.compact

/-- What becomes of a part: a character stays, and a placeholder gives way to its value. -/
def Piece.filled (context : Context) : Piece → List Char
  | plain c => [c]
  | placeholder name => (inserted ((context.lookup name).getD .null)).toList

theorem insertable?_eq {value : Json} (h : Insertable value) :
    insertable? value = some (inserted value) := by
  cases h <;> rfl

theorem Piece.fill_eq_filled {context : Context} {part : Piece}
    (h : ∀ name, part = .placeholder name →
      ∃ value, context.lookup name = some value ∧ Insertable value) :
    part.fill context = .ok (String.ofList (part.filled context)) := by
  cases part with
  | plain c => rfl
  | placeholder name =>
      obtain ⟨value, hlookup, hvalue⟩ := h name rfl
      simp only [Piece.fill, Piece.filled, hlookup, insertable?_eq hvalue, Option.getD_some,
        String.ofList_toList]

/-- Parts are filled one by one. -/
theorem fillAll_eq_filled {context : Context} {parts : List Piece}
    (h : ∀ name, .placeholder name ∈ parts →
      ∃ value, context.lookup name = some value ∧ Insertable value) :
    fillAll context parts = .ok (String.ofList (parts.flatMap (Piece.filled context))) := by
  induction parts with
  | nil => rfl
  | cons part rest ih =>
      have hpart := @Piece.fill_eq_filled context part fun name hname =>
        h name (hname ▸ List.mem_cons_self)
      have hrest := ih fun name hname => h name (List.mem_cons_of_mem _ hname)
      rw [fillAll, hpart, hrest]
      change Except.ok (_ ++ _) = _
      rw [List.flatMap_cons, String.ofList_append]

/-! ### Templates -/

/-- A placeholder among the parts of a text stands in the text. -/
theorem exists_standsAt_of_mem {text : String} {name : String}
    (h : .placeholder name ∈ pieces text) : ∃ start, StandsAt text.toList start name.toList := by
  have hname : name ∈ (spots 0 (pieces text)).map Prod.snd := by
    rw [map_snd_spots]
    exact List.mem_filterMap.2 ⟨_, h, rfl⟩
  obtain ⟨⟨start, other⟩, hspot, rfl⟩ := List.mem_map.1 hname
  exact ⟨start, ((Reads.pieces text.toList).each start other).2 hspot⟩

/-- **Filling a template replaces all placeholders at once.**  No two placeholders of a text overlap.
They are told by name, each one once and in the order of the text, and there is one if any is told.
There is one way of reading the text as characters and placeholders, so that every placeholder that
stands anywhere in it is one part.  Where each of these names has a value that can be inserted, the
value of the template is this reading with each placeholder replaced by the text of its value and
each character kept; neither is read again. -/
theorem substitution_simultaneous (text : String) :
    (∀ start name later other, StandsAt text.toList start name → StandsAt text.toList later other →
      (start = later ∧ name = other) ∨ start + (written name).length ≤ later ∨
        later + (written other).length ≤ start) ∧
      (∃ found : List (Nat × String), found.Pairwise (fun spot next => spot.1 < next.1) ∧
        (∀ start name, (start, name) ∈ found ↔ StandsAt text.toList start name.toList) ∧
        placeholders text = found.map Prod.snd) ∧
      (hasPlaceholders text = true ↔ ∃ start name, StandsAt text.toList start name) ∧
      (∀ parts, Reads text.toList parts ↔ parts = pieces text) ∧
      ∀ context : Context,
        (∀ start name, StandsAt text.toList start name.toList →
          ∃ value, context.lookup name = some value ∧ Insertable value) →
        (Query.template text).evaluate context =
          (.ok (.str (String.ofList ((pieces text).flatMap (Piece.filled context)))), context) := by
  have hreads : Reads text.toList (pieces text) := Reads.pieces text.toList
  refine ⟨?_, ?_, ?_, ?_, ?_⟩
  · intro start name later other hfirst hsecond
    rcases Nat.lt_trichotomy start later with hlt | rfl | hgt
    · exact Or.inr (Or.inl (hfirst.apart hsecond hlt))
    · exact Or.inl ⟨rfl, hfirst.unique hsecond⟩
    · exact Or.inr (Or.inr (hsecond.apart hfirst hgt))
  · refine ⟨spots 0 (pieces text), spots_pairwise 0 _, ?_, ?_⟩
    · intro start name
      exact (hreads.each start name).symm
    · rw [map_snd_spots]
      rfl
  · rw [← occurs_iff_standsAt, ← not_iff_not, ← filterMap_name?_eq_nil_iff, hasPlaceholders,
      placeholders, pieces]
    simp
  · intro parts
    constructor
    · exact Reads.eq_pieces
    · rintro rfl
      exact hreads
  · intro context hvalues
    have hfill : fill context text =
        .ok (String.ofList ((pieces text).flatMap (Piece.filled context))) := by
      refine fillAll_eq_filled fun name hname => ?_
      obtain ⟨start, hstands⟩ := exists_standsAt_of_mem hname
      exact hvalues start name hstands
    rw [Query.evaluate, hfill]
    rfl

/-- A text with an open brace, an empty name, a name that starts with a digit, and a doubled hash. -/
def nearMisses : String := "#\x7b #\x7b\x7d #\x7b1a\x7d ##\x7ba\x7d#\x7bb\x7d é#\x7bc\x7d"

/-- Values, one of which looks like a placeholder. -/
def lookalikes : Context :=
  .ofRegistry [("a", .str "#\x7bb\x7d"), ("b", .int 7), ("c", .bool true)]

theorem substitution_simultaneous_nearMisses :
    (∀ start name, StandsAt nearMisses.toList start name.toList →
      ∃ value, lookalikes.lookup name = some value ∧ Insertable value) ∧
    (Query.template nearMisses).evaluate lookalikes =
      (.ok (.str "#\x7b #\x7b\x7d #\x7b1a\x7d ##\x7bb\x7d7 étrue"), lookalikes) := by
  obtain ⟨-, ⟨found, -, hfound, hnames⟩, -, -, hvalue⟩ := substitution_simultaneous nearMisses
  have htold : placeholders nearMisses = ["a", "b", "c"] := by decide +kernel
  have hvalues : ∀ start name, StandsAt nearMisses.toList start name.toList →
      ∃ value, lookalikes.lookup name = some value ∧ Insertable value := by
    intro start name hstands
    have hmem : name ∈ ["a", "b", "c"] := by
      rw [← htold, hnames]
      exact List.mem_map.2 ⟨_, (hfound start name).2 hstands, rfl⟩
    simp only [List.mem_cons, List.not_mem_nil, or_false] at hmem
    rcases hmem with rfl | rfl | rfl
    · exact ⟨_, rfl, .str _⟩
    · exact ⟨_, rfl, .int _⟩
    · exact ⟨_, rfl, .bool _⟩
  have hfilled : String.ofList ((pieces nearMisses).flatMap (Piece.filled lookalikes)) =
      "#\x7b #\x7b\x7d #\x7b1a\x7d ##\x7bb\x7d7 étrue" := by decide +kernel
  refine ⟨hvalues, (hvalue _ hvalues).trans ?_⟩
  rw [hfilled]

end QueryFeed.Template
