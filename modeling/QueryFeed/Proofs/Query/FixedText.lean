import QueryFeed.Configuration.Basic
import QueryFeed.Proofs.Query.Pieces

/-!
**Fixed text is a template without placeholders.**

A query that is given as text is fixed text or a template, whichever its placeholders ask for.  That
is never seen of its value: a template without placeholders is filled to its own text, whatever the
context is.  The query of a configuration is trimmed before it is looked at, and trimming takes no
part in this, for blanks at the ends of a text belong to no placeholder.

Main results:

* `Template.fill_of_placeholders_eq_nil` — a text without placeholders is filled to itself;
* `Template.placeholders_trim` — **trimming neither adds, removes nor renames a placeholder**;
* `Query.ofText_eq_literal_iff` — a query given as text is fixed text unless a placeholder stands in it;
* `Query.ofText_agrees` — **fixed text and template agree on every text, in every context**.
-/

set_option autoImplicit false

namespace QueryFeed

namespace Template

/-! ### Filling -/

/-- Characters that stand for themselves are filled to the text that they make up. -/
theorem fillAll_map_plain (context : Context) (text : List Char) :
    fillAll context (text.map .plain) = .ok (String.ofList text) := by
  induction text with
  | nil => rfl
  | cons c rest ih =>
      rw [List.map_cons, fillAll, ih]
      change Except.ok (String.singleton c ++ String.ofList rest) = _
      rw [String.ofList_cons]

/-- A text without placeholders is filled to itself. -/
theorem fill_of_placeholders_eq_nil {text : String} (none : placeholders text = [])
    (context : Context) : fill context text = .ok text := by
  have hbare : ¬Occurs text.toList := (filterMap_name?_eq_nil_iff _).1 none
  rw [fill, pieces, scan_eq_map_plain hbare, fillAll_map_plain, String.ofList_toList]

/-! ### Trimming -/

/-- The parts of a text are those of its trimmed part, between blanks that stand for themselves. -/
theorem exists_pieces_trim (text : String) :
    ∃ before after : List Char, (∀ c ∈ before, Text.isBlank c = true) ∧
      (∀ c ∈ after, Text.isBlank c = true) ∧
      pieces text = before.map .plain ++ pieces (Text.trim text) ++ after.map .plain := by
  obtain ⟨before, after, hbefore, hafter, htext⟩ := Text.blanks_trimChars_blanks text.toList
  refine ⟨before, after, hbefore, hafter, ?_⟩
  rw [pieces, ← htext, scan_between_foreign _ (fun c hc => foreign_of_isBlank (hbefore c hc))
    (fun c hc => foreign_of_isBlank (hafter c hc)), pieces, Text.trim, String.toList_ofList]

theorem names_map_plain (text : List Char) : (text.map Piece.plain).filterMap Piece.name? = [] := by
  rw [List.filterMap_map]
  exact List.filterMap_eq_nil_iff.2 fun _ _ => rfl

/-- **Trimming neither adds, removes nor renames a placeholder.** -/
theorem placeholders_trim (text : String) : placeholders (Text.trim text) = placeholders text := by
  obtain ⟨before, after, -, -, hpieces⟩ := exists_pieces_trim text
  rw [placeholders, placeholders, hpieces, List.filterMap_append, List.filterMap_append,
    names_map_plain, names_map_plain, List.nil_append, List.append_nil]

end Template

namespace Query

/-- Fixed text is resolved as the template with the same text, where there are no placeholders. -/
theorem resolve_literal {text : String} (none : Template.placeholders text = [])
    (context : Context) : (literal text).resolve context = (template text).resolve context := by
  rw [resolve, resolve, evaluate, evaluate, Template.fill_of_placeholders_eq_nil none]
  rfl

/-- A query given as text is fixed text unless a placeholder stands in it. -/
theorem ofText_eq_literal_iff (text : String) :
    ofText text = literal text ↔ ¬Template.Occurs text.toList := by
  rw [← Template.filterMap_name?_eq_nil_iff, ofText, Template.hasPlaceholders,
    Template.placeholders, Template.pieces]
  cases (Template.scanner.scan text.toList).filterMap Template.Piece.name? <;> simp

/-- **Fixed text and template agree on every text, in every context**: a query given as text, which is
fixed text where no placeholder stands in it, is resolved to the same text or error as the template is.
So is the query of a configuration, which is trimmed first, and trimming leaves the placeholders as
they are. -/
theorem ofText_agrees :
    (∀ text : String, ofText text = literal text ↔ ¬Template.Occurs text.toList) ∧
      (∀ (text : String) (context : Context),
        (ofText text).resolve context = (template text).resolve context) ∧
      (∀ (config : Configuration) (context : Context),
        config.querySource.resolve context =
          (template (Text.trim config.query)).resolve context) ∧
      ∀ text : String, Template.placeholders (Text.trim text) = Template.placeholders text := by
  have hagree : ∀ (text : String) (context : Context),
      (ofText text).resolve context = (template text).resolve context := by
    intro text context
    unfold ofText
    split
    · rfl
    · rename_i hnone
      rw [Template.hasPlaceholders, Bool.not_eq_true', Bool.not_eq_false, List.isEmpty_iff] at hnone
      exact resolve_literal hnone context
  exact ⟨ofText_eq_literal_iff, hagree, fun config context => hagree (Text.trim config.query) context,
    Template.placeholders_trim⟩

end Query

end QueryFeed
