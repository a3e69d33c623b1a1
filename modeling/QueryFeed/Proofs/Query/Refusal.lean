import QueryFeed.Proofs.Query.Substitution

/-!
**A template fails at its first bad placeholder.**

The name of a placeholder may be unknown, and its value may be one that no text stands for.  A template
is filled from its beginning on, and gives up at the first placeholder of either kind, whatever comes
behind it.  So the failure names that placeholder, it never concerns the setup, and it depends on nothing
but what the placeholders of the text look up.

Main definitions:

* `Usable` — a name has a value that can be inserted;
* `Refused` — how a name that is not usable is refused;
* `FirstRefused` — the first of some placeholders that is refused.

Main results:

* `not_usable_iff` — a name is usable or refused, and not both;
* `fillAll_eq_error_iff` — **filling some parts fails at the first placeholder that is refused**;
* `firstRefused_iff` — the first one is the one with no refused one at a lesser place;
* `fillAll_congr` — parts are filled alike in contexts that agree on their names;
* `fails_at_first_refused` — **a template fails exactly at its first bad placeholder, and reads nothing
  but its placeholders**.
-/

set_option autoImplicit false

namespace QueryFeed.Template

/-! ### Usable and refused names -/

/-- A name has a value that can be inserted. -/
def Usable (context : Context) (name : String) : Prop :=
  ∃ value, context.lookup name = some value ∧ Insertable value

/-- How a name is refused: it is unknown, or its value is null, an array or an object. -/
inductive Refused (context : Context) (name : String) : ExpressionFault → Prop where
  | unknown (h : context.lookup name = none) : Refused context name (.unknownVariable name)
  | null (h : context.lookup name = some .null) : Refused context name (.notInsertable name .null)
  | array {items : List Json} (h : context.lookup name = some (.arr items)) :
      Refused context name (.notInsertable name (.arr items))
  | object {members : List (String × Json)} (h : context.lookup name = some (.obj members)) :
      Refused context name (.notInsertable name (.obj members))

theorem Refused.not_usable {context : Context} {name : String} {fault : ExpressionFault}
    (h : Refused context name fault) : ¬Usable context name := by
  rintro ⟨value, hlookup, hvalue⟩
  cases h with
  | unknown h =>
      rw [h] at hlookup
      cases hlookup
  | null h | array h | object h =>
      rw [h] at hlookup
      cases hlookup
      cases hvalue

/-- **A name is usable or refused, and not both.** -/
theorem not_usable_iff {context : Context} {name : String} :
    ¬Usable context name ↔ ∃ fault, Refused context name fault := by
  constructor
  · intro hnot
    cases hlookup : context.lookup name with
    | none => exact ⟨_, .unknown hlookup⟩
    | some value =>
        cases value with
        | null => exact ⟨_, .null hlookup⟩
        | arr items => exact ⟨_, .array hlookup⟩
        | obj members => exact ⟨_, .object hlookup⟩
        | bool value => exact absurd ⟨_, hlookup, .bool value⟩ hnot
        | int value => exact absurd ⟨_, hlookup, .int value⟩ hnot
        | double value => exact absurd ⟨_, hlookup, .double value⟩ hnot
        | str value => exact absurd ⟨_, hlookup, .str value⟩ hnot
  · rintro ⟨fault, h⟩
    exact h.not_usable

/-- A name is refused in one way only. -/
theorem Refused.unique {context : Context} {name : String} {fault other : ExpressionFault}
    (h : Refused context name fault) (same : Refused context name other) : fault = other := by
  cases h <;> cases same <;> simp_all

theorem Refused.fill_eq {context : Context} {name : String} {fault : ExpressionFault}
    (h : Refused context name fault) :
    (Piece.placeholder name).fill context = .error (.expression fault) := by
  cases h with
  | unknown h | null h | array h | object h => simp [Piece.fill, insertable?, h]

theorem Usable.fill_eq {context : Context} {name : String} (h : Usable context name) :
    (Piece.placeholder name).fill context =
      .ok (String.ofList ((Piece.placeholder name).filled context)) := by
  refine Piece.fill_eq_filled fun other hother => ?_
  cases hother
  exact h

/-! ### Parts one after the other -/

theorem fillAll_plain_cons (context : Context) (c : Char) (rest : List Piece) :
    fillAll context (.plain c :: rest) =
      (fillAll context rest).map (String.singleton c ++ ·) := by
  rw [fillAll, Piece.fill]
  cases fillAll context rest <;> rfl

theorem fillAll_cons_of_usable {context : Context} {name : String} (h : Usable context name)
    (rest : List Piece) : fillAll context (.placeholder name :: rest) =
      (fillAll context rest).map
        (String.ofList ((Piece.placeholder name).filled context) ++ ·) := by
  rw [fillAll, h.fill_eq]
  cases fillAll context rest <;> rfl

theorem fillAll_cons_of_refused {context : Context} {name : String} {fault : ExpressionFault}
    (h : Refused context name fault) (rest : List Piece) :
    fillAll context (.placeholder name :: rest) = .error (.expression fault) := by
  rw [fillAll, h.fill_eq]
  rfl

theorem map_eq_error_iff {ε α β : Type} {outcome : Except ε α} {f : α → β} {e : ε} :
    outcome.map f = .error e ↔ outcome = .error e := by
  cases outcome <;> simp [Except.map]

/-! ### The first refusal -/

/-- The first of some placeholders that is refused, with what is told of it. -/
def FirstRefused (context : Context) (found : List (Nat × String)) (spot : Nat × String)
    (fault : ExpressionFault) : Prop :=
  ∃ before after, found = before ++ spot :: after ∧ (∀ earlier ∈ before, Usable context earlier.2) ∧
    Refused context spot.2 fault

theorem firstRefused_cons_of_usable {context : Context} {first : Nat × String}
    (usable : Usable context first.2) {found : List (Nat × String)} {spot : Nat × String}
    {fault : ExpressionFault} :
    FirstRefused context (first :: found) spot fault ↔ FirstRefused context found spot fault := by
  constructor
  · rintro ⟨before, after, hfound, hbefore, hrefused⟩
    cases before with
    | nil =>
        obtain ⟨rfl, -⟩ := List.cons.inj hfound
        exact absurd usable hrefused.not_usable
    | cons other before =>
        obtain ⟨-, rfl⟩ := List.cons.inj hfound
        exact ⟨before, after, rfl, (List.forall_mem_cons.1 hbefore).2, hrefused⟩
  · rintro ⟨before, after, rfl, hbefore, hrefused⟩
    exact ⟨first :: before, after, rfl, List.forall_mem_cons.2 ⟨usable, hbefore⟩, hrefused⟩

/-- Where a placeholder is refused, there is a first one that is. -/
theorem exists_firstRefused_iff {context : Context} {found : List (Nat × String)} :
    (∃ spot fault, FirstRefused context found spot fault) ↔
      ∃ spot ∈ found, ∃ fault, Refused context spot.2 fault := by
  constructor
  · rintro ⟨spot, fault, before, after, rfl, -, hrefused⟩
    exact ⟨spot, by simp, fault, hrefused⟩
  · intro h
    induction found with
    | nil => simp at h
    | cons first rest ih =>
        by_cases husable : Usable context first.2
        · simp only [firstRefused_cons_of_usable husable]
          obtain ⟨spot, hmem, fault, hrefused⟩ := h
          rcases List.mem_cons.1 hmem with rfl | hrest
          · exact absurd husable hrefused.not_usable
          · exact ih ⟨spot, hrest, fault, hrefused⟩
        · obtain ⟨fault, hrefused⟩ := not_usable_iff.1 husable
          exact ⟨first, fault, [], rest, rfl, by simp, hrefused⟩

/-- **Filling some parts fails at the first placeholder that is refused.** -/
theorem fillAll_eq_error_iff {context : Context} {e : FeedError} (start : Nat)
    (parts : List Piece) : fillAll context parts = .error e ↔
      ∃ spot fault, FirstRefused context (spots start parts) spot fault ∧ e = .expression fault := by
  induction parts generalizing start with
  | nil =>
      constructor
      · intro h
        cases h
      · rintro ⟨spot, fault, ⟨before, after, hfound, -, -⟩, -⟩
        simp [spots] at hfound
  | cons part rest ih =>
      cases part with
      | plain c =>
          rw [fillAll_plain_cons, map_eq_error_iff]
          exact ih (start + 1)
      | placeholder name =>
          by_cases husable : Usable context name
          · have hcons := @firstRefused_cons_of_usable context (start, name) husable
            rw [fillAll_cons_of_usable husable, map_eq_error_iff,
              ih (start + (written name.toList).length)]
            simp only [spots, hcons]
          · obtain ⟨fault, hrefused⟩ := not_usable_iff.1 husable
            rw [fillAll_cons_of_refused hrefused]
            constructor
            · intro h
              cases h
              exact ⟨_, fault, ⟨[], _, rfl, by simp, hrefused⟩, rfl⟩
            · rintro ⟨spot, other, ⟨before, after, hfound, hbefore, hother⟩, rfl⟩
              -- this placeholder is the first one, so nothing usable stands before it
              cases before with
              | nil =>
                  obtain ⟨rfl, -⟩ := List.cons.inj hfound
                  rw [hrefused.unique hother]
              | cons first before =>
                  obtain ⟨rfl, -⟩ := List.cons.inj hfound
                  exact absurd (hbefore _ List.mem_cons_self) husable

/-- **The first refused placeholder is the one with no refused one at a lesser place.** -/
theorem firstRefused_iff {context : Context} {found : List (Nat × String)}
    (ascending : found.Pairwise fun spot next => spot.1 < next.1) {spot : Nat × String}
    {fault : ExpressionFault} : FirstRefused context found spot fault ↔
      spot ∈ found ∧ Refused context spot.2 fault ∧
        ∀ earlier ∈ found, earlier.1 < spot.1 → Usable context earlier.2 := by
  constructor
  · rintro ⟨before, after, rfl, hbefore, hrefused⟩
    refine ⟨by simp, hrefused, fun earlier hearlier hlt => ?_⟩
    rcases List.mem_append.1 hearlier with hmem | hmem
    · exact hbefore earlier hmem
    · -- behind the placeholder all places are greater
      have hbehind := (List.pairwise_append.1 ascending).2.1
      rcases List.mem_cons.1 hmem with rfl | hlater
      · omega
      · have hgt := (List.pairwise_cons.1 hbehind).1 earlier hlater
        omega
  · rintro ⟨hmem, hrefused, hearlier⟩
    obtain ⟨before, after, rfl⟩ := List.append_of_mem hmem
    refine ⟨before, after, rfl, fun earlier hbefore => ?_, hrefused⟩
    have hlt := (List.pairwise_append.1 ascending).2.2 earlier hbefore spot List.mem_cons_self
    exact hearlier earlier (List.mem_append_left _ hbefore) hlt

/-! ### What is read -/

/-- Parts are filled alike in contexts that agree on their names. -/
theorem fillAll_congr {first second : Context} {parts : List Piece}
    (agree : ∀ name ∈ parts.filterMap Piece.name?, first.lookup name = second.lookup name) :
    fillAll first parts = fillAll second parts := by
  induction parts with
  | nil => rfl
  | cons part rest ih =>
      cases part with
      | plain c =>
          rw [fillAll_plain_cons, fillAll_plain_cons, ih agree]
      | placeholder name =>
          obtain ⟨hname, hrest⟩ := List.forall_mem_cons.1 agree
          rw [fillAll, fillAll, Piece.fill, Piece.fill, hname, ih hrest]

/-- A name is told of a text if and only if a placeholder with it is found there. -/
theorem mem_placeholders_iff {text name : String} :
    name ∈ placeholders text ↔ ∃ start, (start, name) ∈ spots 0 (pieces text) := by
  rw [placeholders, ← map_snd_spots 0, List.mem_map]
  constructor
  · rintro ⟨⟨start, other⟩, hmem, rfl⟩
    exact ⟨start, hmem⟩
  · rintro ⟨start, hmem⟩
    exact ⟨_, hmem, rfl⟩

/-- What a template is resolved to is what it is filled to; the context stays as it is. -/
theorem resolve_template (text : String) (context : Context) :
    (Query.template text).resolve context = (fill context text, context) := by
  rw [Query.resolve, Query.evaluate]
  cases fill context text <;> rfl

/-- **A template fails exactly at its first bad placeholder, and reads nothing but its placeholders.**
It fails if and only if the name of a placeholder is refused.  The failure is that of a refused
placeholder such that all placeholders at lesser places of the text are usable.  It is neither a value
of the wrong type nor fatal.  In contexts that agree on the names of the placeholders the outcome is the
same. -/
theorem fails_at_first_refused (text : String) :
    (∀ context : Context, (∃ e, ((Query.template text).resolve context).1 = .error e) ↔
      ∃ name ∈ placeholders text, ∃ fault, Refused context name fault) ∧
    (∀ (context : Context) (e : FeedError), ((Query.template text).resolve context).1 = .error e ↔
      ∃ start name fault, StandsAt text.toList start name.toList ∧ Refused context name fault ∧
        e = .expression fault ∧ ∀ earlier other, StandsAt text.toList earlier other.toList →
          earlier < start → Usable context other) ∧
    (∀ (context : Context) (e : FeedError), ((Query.template text).resolve context).1 = .error e →
      (∀ value, e ≠ .queryType value) ∧ e.isFatal = false) ∧
    ∀ first second : Context,
      (∀ name ∈ placeholders text, first.lookup name = second.lookup name) →
        ((Query.template text).resolve first).1 = ((Query.template text).resolve second).1 := by
  have hreads := Reads.pieces text.toList
  have herror : ∀ (context : Context) (e : FeedError),
      ((Query.template text).resolve context).1 = .error e ↔
        ∃ spot fault, FirstRefused context (spots 0 (pieces text)) spot fault ∧
          e = .expression fault := by
    intro context e
    rw [resolve_template]
    exact fillAll_eq_error_iff 0 (pieces text)
  refine ⟨?_, ?_, ?_, ?_⟩
  · intro context
    have hsome := @exists_firstRefused_iff context (spots 0 (pieces text))
    constructor
    · rintro ⟨e, he⟩
      obtain ⟨spot, fault, hfirst, -⟩ := (herror context e).1 he
      obtain ⟨later, hmem, other, hother⟩ := hsome.1 ⟨spot, fault, hfirst⟩
      exact ⟨later.2, mem_placeholders_iff.2 ⟨later.1, hmem⟩, other, hother⟩
    · rintro ⟨name, hname, fault, hrefused⟩
      obtain ⟨start, hmem⟩ := mem_placeholders_iff.1 hname
      obtain ⟨spot, other, hfirst⟩ := hsome.2 ⟨_, hmem, fault, hrefused⟩
      exact ⟨_, (herror context _).2 ⟨spot, other, hfirst, rfl⟩⟩
  · intro context e
    rw [herror]
    constructor
    · rintro ⟨⟨start, name⟩, fault, hfirst, rfl⟩
      obtain ⟨hmem, hrefused, hearlier⟩ := (firstRefused_iff (spots_pairwise 0 _)).1 hfirst
      refine ⟨start, name, fault, (hreads.each start name).2 hmem, hrefused, rfl, ?_⟩
      intro earlier other hstands hlt
      exact hearlier (earlier, other) ((hreads.each earlier other).1 hstands) hlt
    · rintro ⟨start, name, fault, hstands, hrefused, rfl, hearlier⟩
      refine ⟨(start, name), fault, (firstRefused_iff (spots_pairwise 0 _)).2 ?_, rfl⟩
      refine ⟨(hreads.each start name).1 hstands, hrefused, ?_⟩
      intro earlier hmem hlt
      exact hearlier earlier.1 earlier.2 ((hreads.each _ _).2 hmem) hlt
  · intro context e he
    obtain ⟨spot, fault, -, rfl⟩ := (herror context e).1 he
    exact ⟨nofun, rfl⟩
  · intro first second hagree
    rw [resolve_template, resolve_template]
    exact fillAll_congr hagree

/-- A text with a placeholder that is usable, one that is an array, and one that is unknown. -/
def twoFaults : String := "a#\x7bid\x7d #\x7btags\x7d #\x7bnope\x7d"

/-- A context without variables. -/
def registered : Context := .ofRegistry [("id", .int 7), ("tags", .arr [.str "a"])]

/-- A context whose variables hide the registry. -/
def shadowed : Context := ⟨[("id", .null)], [("id", .int 7), ("tags", .arr [.str "a"]), ("x", .int 1)]⟩

theorem fails_at_first_refused_tags :
    (∀ name ∈ placeholders twoFaults, registered.lookup name = shadowed.lookup name) ∧
    ((Query.template twoFaults).resolve registered).1 =
      .error (.expression (.notInsertable "tags" (.arr [.str "a"]))) ∧
    ((Query.template twoFaults).resolve registered).1 =
      ((Query.template twoFaults).resolve shadowed).1 := by
  obtain ⟨-, hfirst, -, hcongr⟩ := fails_at_first_refused twoFaults
  have hspots : spots 0 (scanner.scan twoFaults.toList) = [(1, "id"), (7, "tags"), (15, "nope")] := by
    decide +kernel
  have htold : placeholders twoFaults = ["id", "tags", "nope"] := by decide +kernel
  have hreads := Reads.pieces twoFaults.toList
  have hagree : ∀ name ∈ placeholders twoFaults, registered.lookup name = shadowed.lookup name := by
    intro name hname
    simp only [htold, List.mem_cons, List.not_mem_nil, or_false] at hname
    rcases hname with rfl | rfl | rfl <;> rfl
  have htags : StandsAt twoFaults.toList 7 "tags".toList := by
    rw [hreads.each, hspots]
    decide
  refine ⟨hagree, (hfirst registered _).2 ?_, hcongr _ _ hagree⟩
  refine ⟨7, "tags", _, htags, .array rfl, rfl, fun earlier other hstands hlt => ?_⟩
  rw [hreads.each, hspots] at hstands
  simp only [List.mem_cons, List.not_mem_nil, or_false, Prod.mk.injEq] at hstands
  rcases hstands with ⟨rfl, rfl⟩ | ⟨rfl, rfl⟩ | ⟨rfl, rfl⟩
  · exact ⟨_, rfl, .int 7⟩
  · omega
  · omega

end QueryFeed.Template
