import QueryFeed.Proofs.Json.Compact

/-!
**Compact texts are unambiguous.**

A text is taken apart from its beginning.  Its first character tells the kind of the value, a string ends at
its mark, a whole number ends before the first character that is no digit, and arrays and objects end at their
brackets.  So two texts of values that are followed by anything stand for the same value if they are the same
up to there.  Doubles are left out: their texts may be those of whole numbers, and the grammar leaves open
which double a text stands for.

Main definitions:

* `Json.Doubleless` — values without doubles;
* `Json.Exact` — values without doubles and objects, for which equality is the same as being the same;
* `Json.Told` — two items with their texts that are told apart.

Main results:

* `Json.SpellsString.told` — **a string is told from what follows it**;
* `Json.Spells.told` — **a value without doubles is told from what follows it**;
* `Json.Doubleless.compact_injective`, `Json.Exact.eq_of_equals` — values with the same compact text, or equal
  ones, are the same.
-/

set_option autoImplicit false

namespace QueryFeed.Json

open Text

/-! ### Strings -/

/-- **A character of a string is told from what follows it.** -/
theorem SpellsChar.told {c d : Char} {text other rest after : List Char} (hc : SpellsChar c text)
    (hd : SpellsChar d other) (h : text ++ rest = other ++ after) : c = d ∧ rest = after := by
  have hpairs : ∀ first ∈ shortEscapes, ∀ second ∈ shortEscapes, first.1 = second.1 →
      first.2 = second.2 := by decide
  have hletters : ∀ pair ∈ shortEscapes, pair.1 ≠ 'u' := by decide
  cases hc with
  | plain _ _ backslash =>
      cases hd with
      | plain _ _ _ => exact List.cons.inj h
      | short _ => exact absurd (List.cons.inj h).1 backslash
      | number _ _ => exact absurd (List.cons.inj h).1 backslash
  | short escape =>
      cases hd with
      | plain _ _ backslash => exact absurd (List.cons.inj h).1.symm backslash
      | short escape' =>
          obtain ⟨hletter, hrest⟩ := List.cons.inj (List.cons.inj h).2
          exact ⟨hpairs _ escape _ escape' hletter, hrest⟩
      | number _ _ => exact absurd (List.cons.inj (List.cons.inj h).2).1 (hletters _ escape)
  | number four value =>
      cases hd with
      | plain _ _ backslash => exact absurd (List.cons.inj h).1.symm backslash
      | short escape => exact absurd (List.cons.inj (List.cons.inj h).2).1.symm (hletters _ escape)
      | number four' value' =>
          obtain ⟨rfl, hrest⟩ := List.append_inj (List.cons.inj (List.cons.inj h).2).2
            (four.trans four'.symm)
          exact ⟨Char.toNat_inj.1 (Option.some.inj (value.symm.trans value')), hrest⟩

/-- No character of a string begins like the mark that ends it. -/
theorem SpellsChar.ne_mark {c : Char} {text : List Char} (h : SpellsChar c text) (rest after : List Char) :
    text ++ rest ≠ '"' :: after := by
  intro hsame
  cases h with
  | plain _ mark _ => exact mark (List.cons.inj hsame).1
  | short _ => exact absurd (List.cons.inj hsame).1 (by decide)
  | number _ _ => exact absurd (List.cons.inj hsame).1 (by decide)

theorem SpellsChars.told {chars others text other rest after : List Char} (hchars : SpellsChars chars text)
    (hothers : SpellsChars others other) (h : text ++ '"' :: rest = other ++ '"' :: after) :
    chars = others ∧ rest = after := by
  induction hchars generalizing others other with
  | nil =>
      cases hothers with
      | nil => exact ⟨rfl, (List.cons.inj h).2⟩
      | cons first _ =>
          rw [List.append_assoc] at h
          exact absurd h.symm (first.ne_mark _ _)
  | cons first _ ih =>
      cases hothers with
      | nil =>
          rw [List.append_assoc] at h
          exact absurd h (first.ne_mark _ _)
      | cons first' hothers =>
          rw [List.append_assoc, List.append_assoc] at h
          obtain ⟨rfl, hmore⟩ := first.told first' h
          obtain ⟨rfl, hrest⟩ := ih hothers hmore
          exact ⟨rfl, hrest⟩

/-- **A string is told from what follows it.** -/
theorem SpellsString.told {first second : String} {text other rest after : List Char}
    (hfirst : SpellsString first text) (hsecond : SpellsString second other)
    (h : text ++ rest = other ++ after) : first = second ∧ rest = after := by
  obtain ⟨body, hbody, rfl⟩ := hfirst
  obtain ⟨body', hbody', rfl⟩ := hsecond
  simp only [List.cons_append, List.append_assoc, List.nil_append, List.cons.injEq, true_and] at h
  obtain ⟨hchars, hrest⟩ := hbody.told hbody' h
  exact ⟨String.toList_inj.1 hchars, hrest⟩

/-! ### Whole numbers -/

/-- Digits do not begin with a sign. -/
theorem Digits.ne_minus {digits : List Char} (h : Digits digits) (rest after : List Char) :
    digits ++ rest ≠ '-' :: after := by
  obtain ⟨hnonempty, hdigits⟩ := h
  intro hsame
  cases digits with
  | nil => exact hnonempty rfl
  | cons c digits =>
      have hdigit := hdigits c List.mem_cons_self
      rw [(List.cons.inj hsame).1] at hdigit
      cases hdigit

/-- **A whole number is told from what follows it**, unless that is a digit. -/
theorem SpellsInt.told {m n : Int} {text other rest after : List Char} (hm : SpellsInt m text)
    (hn : SpellsInt n other) (ends : EndsNumber rest) (ends' : EndsNumber after)
    (h : text ++ rest = other ++ after) : m = n ∧ rest = after := by
  obtain ⟨digits, ⟨hdigits, -⟩, hvalue, rfl⟩ := hm
  obtain ⟨digits', ⟨hdigits', -⟩, hvalue', rfl⟩ := hn
  have hsame : ∀ {rest after : List Char}, EndsNumber rest → EndsNumber after →
      digits ++ rest = digits' ++ after → m.natAbs = n.natAbs ∧ rest = after := by
    intro rest after ends ends' h
    obtain ⟨rfl, hrest⟩ := digits_append_inj hdigits.2 hdigits'.2 ends ends' h
    exact ⟨hvalue.symm.trans hvalue', hrest⟩
  split at h <;> split at h
  · obtain ⟨habs, hrest⟩ := hsame ends ends' (List.cons.inj h).2
    exact ⟨by omega, hrest⟩
  · exact absurd h.symm (hdigits'.ne_minus _ _)
  · exact absurd h (hdigits.ne_minus _ _)
  · obtain ⟨habs, hrest⟩ := hsame ends ends' h
    exact ⟨by omega, hrest⟩

/-! ### Values without doubles -/

/-- A value without doubles. -/
inductive Doubleless : Json → Prop
  | null : Doubleless null
  | bool (value : Bool) : Doubleless (bool value)
  | int (n : Int) : Doubleless (int n)
  | str (text : String) : Doubleless (str text)
  | arr {items : List Json} (each : ∀ item ∈ items, Doubleless item) : Doubleless (arr items)
  | obj {members : List (String × Json)} (each : ∀ member ∈ members, Doubleless member.2) :
      Doubleless (obj members)

/-- The name of the kind of value that begins with a character. -/
def kindOpened (c : Char) : String :=
  if c = 'n' then "null"
  else if c = 't' ∨ c = 'f' then "boolean"
  else if c = '"' then "string"
  else if c = '[' then "array"
  else if c = '\x7b' then "object"
  else if c = '-' ∨ isDigit c = true then "number"
  else ""

theorem kindOpened_of_isDigit {c : Char} (h : isDigit c = true) : kindOpened c = "number" := by
  have hne : ∀ {other : Char}, isDigit other = false → c ≠ other := by
    rintro other hother rfl
    exact Bool.noConfusion (h.symm.trans hother)
  rw [kindOpened, if_neg (hne (by decide)),
    if_neg (not_or.2 ⟨hne (by decide), hne (by decide)⟩), if_neg (hne (by decide)),
    if_neg (hne (by decide)), if_neg (hne (by decide)), if_pos (Or.inr h)]

/-- A whole number begins with a sign or a digit. -/
theorem SpellsInt.opening {n : Int} {text : List Char} (h : SpellsInt n text) :
    ∃ c tail, text = c :: tail ∧ kindOpened c = "number" := by
  obtain ⟨digits, ⟨⟨hnonempty, hdigits⟩, -⟩, -, rfl⟩ := h
  split
  · exact ⟨'-', digits, rfl, rfl⟩
  · cases digits with
    | nil => exact absurd rfl hnonempty
    | cons c tail => exact ⟨c, tail, rfl, kindOpened_of_isDigit (hdigits c List.mem_cons_self)⟩

/-- **The first character of a text tells the kind of its value.** -/
theorem Spells.opening {value : Json} {text : List Char} (h : Spells value text)
    (doubleless : value.Doubleless) : ∃ c tail, text = c :: tail ∧ kindOpened c = value.kindName := by
  cases h with
  | null => exact ⟨'n', "ull".toList, rfl, rfl⟩
  | bool value =>
      cases value with
      | true => exact ⟨'t', "rue".toList, rfl, rfl⟩
      | false => exact ⟨'f', "alse".toList, rfl, rfl⟩
  | int number => exact number.opening
  | double _ _ => cases doubleless
  | notNumber _ => cases doubleless
  | str spelled =>
      obtain ⟨body, -, rfl⟩ := spelled
      exact ⟨'"', _, rfl, rfl⟩
  | arr _ => exact ⟨'[', _, rfl, rfl⟩
  | obj _ _ => exact ⟨'\x7b', _, rfl, rfl⟩

section

variable {first second : Json} {text other rest after : List Char}

/-- Values of different kinds begin differently. -/
theorem Spells.kindName_eq (hfirst : Spells first text) (hsecond : Spells second other)
    (doubleless : first.Doubleless) (doubleless' : second.Doubleless)
    (h : text ++ rest = other ++ after) : first.kindName = second.kindName := by
  obtain ⟨c, tail, rfl, hkind⟩ := hfirst.opening doubleless
  obtain ⟨d, tail', rfl, hkind'⟩ := hsecond.opening doubleless'
  rw [← hkind, ← hkind', (List.cons.inj h).1]

/-- No value begins with the bracket that closes an array. -/
theorem Spells.ne_bracket (h : Spells first text) (doubleless : first.Doubleless)
    (rest after : List Char) : text ++ rest ≠ ']' :: after := by
  obtain ⟨c, tail, rfl, hkind⟩ := h.opening doubleless
  intro hsame
  rw [(List.cons.inj hsame).1] at hkind
  cases first with
  | double x => cases doubleless
  | _ => exact absurd hkind (by simp only [kindName]; decide)

end

/-! ### Items between brackets -/

section

variable {α : Type}

/-- Two items with their texts are told apart, whatever follows them. -/
def Told (first second : α × List Char) : Prop :=
  ∀ {rest after : List Char}, EndsNumber rest → EndsNumber after →
    first.2 ++ rest = second.2 ++ after → first.1 = second.1 ∧ rest = after

/-- The texts after the first one, each behind a comma, and what follows them. -/
def followed (items : List (α × List Char)) (rest : List Char) : List Char :=
  items.foldr (fun item rest => ',' :: item.2 ++ rest) rest

theorem intercalate_followed (item : α × List Char) (items : List (α × List Char)) (rest : List Char) :
    [','].intercalate ((item :: items).map Prod.snd) ++ rest = item.2 ++ followed items rest := by
  induction items generalizing item with
  | nil => rw [List.map_singleton, List.intercalate_singleton]; rfl
  | cons next items ih =>
      have hnext := ih next
      rw [List.map_cons] at hnext
      rw [List.map_cons, List.map_cons, List.intercalate_cons_cons, List.append_assoc, hnext,
        List.append_assoc]
      rfl

/-- The mark that ends a list of items. -/
structure IsClosing (mark : Char) : Prop where
  isDigit : isDigit mark = false
  ne_comma : mark ≠ ','

variable {mark : Char} {items others : List (α × List Char)} {rest after : List Char}

theorem endsNumber_followed (closing : IsClosing mark) (items : List (α × List Char))
    (rest : List Char) : EndsNumber (followed items (mark :: rest)) := by
  cases items with
  | nil => exact endsNumber_cons closing.isDigit _
  | cons item items => exact endsNumber_cons (by decide) _

theorem followed_inj (closing : IsClosing mark) (told : ∀ item ∈ items, ∀ other ∈ others, Told item other)
    (h : followed items (mark :: rest) = followed others (mark :: after)) :
    items.map Prod.fst = others.map Prod.fst ∧ rest = after := by
  induction items generalizing others with
  | nil =>
      cases others with
      | nil => exact ⟨rfl, (List.cons.inj h).2⟩
      | cons other others => exact absurd (List.cons.inj h).1 closing.ne_comma
  | cons item items ih =>
      cases others with
      | nil => exact absurd (List.cons.inj h).1.symm closing.ne_comma
      | cons other others =>
          obtain ⟨hitem, hitems⟩ := told item List.mem_cons_self other List.mem_cons_self
            (endsNumber_followed closing items rest) (endsNumber_followed closing others after)
            (List.cons.inj h).2
          obtain ⟨hothers, hrest⟩ := ih (fun item hmem other hmem' =>
            told item (List.mem_cons_of_mem _ hmem) other (List.mem_cons_of_mem _ hmem')) hitems
          rw [List.map_cons, List.map_cons, hitem, hothers]
          exact ⟨rfl, hrest⟩

/-- **Items are told from what follows the mark that ends them**, if none of them begins with it. -/
theorem intercalate_inj (closing : IsClosing mark)
    (opens : ∀ item ∈ items, ∀ rest after, item.2 ++ rest ≠ mark :: after)
    (opens' : ∀ other ∈ others, ∀ rest after, other.2 ++ rest ≠ mark :: after)
    (told : ∀ item ∈ items, ∀ other ∈ others, Told item other)
    (h : [','].intercalate (items.map Prod.snd) ++ mark :: rest =
      [','].intercalate (others.map Prod.snd) ++ mark :: after) :
    items.map Prod.fst = others.map Prod.fst ∧ rest = after := by
  match items, others with
  | [], [] => exact ⟨rfl, (List.cons.inj h).2⟩
  | [], other :: others =>
      rw [intercalate_followed] at h
      exact absurd h.symm (opens' other List.mem_cons_self _ _)
  | item :: items, [] =>
      rw [intercalate_followed] at h
      exact absurd h (opens item List.mem_cons_self _ _)
  | item :: items, other :: others =>
      -- both texts are continued by a comma, so the first items are told like the others
      have hcomma : followed (item :: items) (mark :: rest) = followed (other :: others) (mark :: after) := by
        rw [intercalate_followed, intercalate_followed] at h
        exact congrArg (',' :: ·) h
      exact followed_inj closing told hcomma

end

/-! ### Values -/

/-- A member with its text, as an item between braces. -/
def SpelledMember.item (member : SpelledMember) : (String × Json) × List Char :=
  ((member.key, member.value), member.text)

/-- Two members are told apart by their keys and their values. -/
theorem told_member {member other : SpelledMember} (key : SpellsString member.key member.keyText)
    (key' : SpellsString other.key other.keyText)
    (value : Told (member.value, member.valueText) (other.value, other.valueText)) :
    Told member.item other.item := by
  intro rest after ends ends' h
  simp only [SpelledMember.item, SpelledMember.text, List.append_assoc, List.cons_append] at h
  obtain ⟨hkey, hmore⟩ := key.told key' h
  obtain ⟨hvalue, hrest⟩ := value ends ends' (List.cons.inj hmore).2
  exact ⟨Prod.ext hkey hvalue, hrest⟩

/-- No member begins with the brace that closes an object. -/
theorem SpelledMember.ne_brace {member : SpelledMember} (key : SpellsString member.key member.keyText)
    (rest after : List Char) : member.item.2 ++ rest ≠ '\x7d' :: after := by
  obtain ⟨body, -, hkey⟩ := key
  rw [item, text, hkey]
  exact fun h => absurd (List.cons.inj h).1 (by decide)

/-- Two arrays are told apart if their items are. -/
theorem told_arr {items others : List (Json × List Char)}
    (opens : ∀ item ∈ items, ∀ rest after, item.2 ++ rest ≠ ']' :: after)
    (opens' : ∀ other ∈ others, ∀ rest after, other.2 ++ rest ≠ ']' :: after)
    (told : ∀ item ∈ items, ∀ other ∈ others, Told item other) :
    Told (arr (items.map Prod.fst), '[' :: [','].intercalate (items.map Prod.snd) ++ [']'])
      (arr (others.map Prod.fst), '[' :: [','].intercalate (others.map Prod.snd) ++ [']']) := by
  intro rest after _ _ h
  simp only [List.cons_append, List.append_assoc, List.nil_append, List.cons.injEq, true_and] at h
  obtain ⟨hsame, hrest⟩ := intercalate_inj ⟨by decide, by decide⟩ opens opens' told h
  exact ⟨congrArg Json.arr hsame, hrest⟩

/-- Two objects are told apart if the values of their members are. -/
theorem told_obj {members others : List SpelledMember}
    (keys : ∀ member ∈ members, SpellsString member.key member.keyText)
    (keys' : ∀ other ∈ others, SpellsString other.key other.keyText)
    (told : ∀ member ∈ members, ∀ other ∈ others,
      Told (member.value, member.valueText) (other.value, other.valueText)) :
    Told
      (obj (members.map fun member => (member.key, member.value)),
        '\x7b' :: [','].intercalate (members.map SpelledMember.text) ++ ['\x7d'])
      (obj (others.map fun other => (other.key, other.value)),
        '\x7b' :: [','].intercalate (others.map SpelledMember.text) ++ ['\x7d']) := by
  intro rest after _ _ h
  have htexts : ∀ members : List SpelledMember,
      members.map SpelledMember.text = (members.map SpelledMember.item).map Prod.snd := by
    intro members
    rw [List.map_map]
    rfl
  simp only [List.cons_append, List.append_assoc, List.nil_append, List.cons.injEq, true_and, htexts] at h
  obtain ⟨hsame, hrest⟩ := intercalate_inj ⟨by decide, by decide⟩
    (List.forall_mem_map.2 fun member hmem => SpelledMember.ne_brace (keys member hmem))
    (List.forall_mem_map.2 fun other hmem => SpelledMember.ne_brace (keys' other hmem))
    (List.forall_mem_map.2 fun member hmem => List.forall_mem_map.2 fun other hmem' =>
      told_member (keys member hmem) (keys' other hmem') (told member hmem other hmem')) h
  rw [List.map_map, List.map_map] at hsame
  exact ⟨congrArg Json.obj hsame, hrest⟩

/-- **A value without doubles is told from what follows it.** -/
theorem Spells.told {first second : Json} {text other : List Char} (hfirst : Spells first text)
    (hsecond : Spells second other) (doubleless : first.Doubleless) (doubleless' : second.Doubleless) :
    Told (first, text) (second, other) := by
  induction hfirst generalizing second other with
  | null =>
      intro rest after _ _ h
      have hkind := Spells.null.kindName_eq hsecond doubleless doubleless' h
      cases hsecond with
      | null => exact ⟨rfl, List.append_cancel_left h⟩
      | _ => exact absurd hkind (by simp only [kindName]; decide)
  | bool value =>
      intro rest after _ _ h
      have hkind := (Spells.bool value).kindName_eq hsecond doubleless doubleless' h
      cases hsecond with
      | bool other =>
          match value, other with
          | true, true => exact ⟨rfl, List.append_cancel_left h⟩
          | false, false => exact ⟨rfl, List.append_cancel_left h⟩
          | true, false => exact absurd (List.cons.inj h).1 (by decide)
          | false, true => exact absurd (List.cons.inj h).1 (by decide)
      | _ => exact absurd hkind (by simp only [kindName]; decide)
  | int number =>
      intro rest after ends ends' h
      have hkind := (Spells.int number).kindName_eq hsecond doubleless doubleless' h
      cases hsecond with
      | int number' =>
          obtain ⟨hsame, hrest⟩ := number.told number' ends ends' h
          exact ⟨congrArg Json.int hsame, hrest⟩
      | double _ _ => cases doubleless'
      | notNumber _ => cases doubleless'
      | _ => exact absurd hkind (by simp only [kindName]; decide)
  | double _ _ => cases doubleless
  | notNumber _ => cases doubleless
  | str spelled =>
      intro rest after _ _ h
      have hkind := (Spells.str spelled).kindName_eq hsecond doubleless doubleless' h
      cases hsecond with
      | str spelled' =>
          obtain ⟨hsame, hrest⟩ := spelled.told spelled' h
          exact ⟨congrArg Json.str hsame, hrest⟩
      | _ => exact absurd hkind (by simp only [kindName]; decide)
  | @arr items each ih =>
      intro rest after ends ends' h
      have hkind := (Spells.arr each).kindName_eq hsecond doubleless doubleless' h
      cases hsecond with
      | @arr others each' =>
          cases doubleless with | arr hitems =>
          cases doubleless' with | arr hothers =>
          rw [List.forall_mem_map] at hitems hothers
          refine told_arr (fun item hmem => (each item hmem).ne_bracket (hitems item hmem))
            (fun other hmem => (each' other hmem).ne_bracket (hothers other hmem)) ?_ ends ends' h
          intro item hmem other hmem'
          exact ih item hmem (each' other hmem') (hitems item hmem) (hothers other hmem')
      | _ => exact absurd hkind (by simp only [kindName]; decide)
  | @obj members keys values ih =>
      intro rest after ends ends' h
      have hkind := (Spells.obj keys values).kindName_eq hsecond doubleless doubleless' h
      cases hsecond with
      | @obj others keys' values' =>
          cases doubleless with | obj hmembers =>
          cases doubleless' with | obj hothers =>
          rw [List.forall_mem_map] at hmembers hothers
          refine told_obj keys keys' ?_ ends ends' h
          intro member hmem other hmem'
          exact ih member hmem (values' other hmem') (hmembers member hmem) (hothers other hmem')
      | _ => exact absurd hkind (by simp only [kindName]; decide)

theorem Doubleless.render_append_inj {first second : Json} (hfirst : first.Doubleless)
    (hsecond : second.Doubleless) {rest after : List Char} (ends : EndsNumber rest)
    (ends' : EndsNumber after) (h : first.render ++ rest = second.render ++ after) :
    first = second ∧ rest = after :=
  first.spells_render.told second.spells_render hfirst hsecond ends ends' h

/-- **Different values have different compact texts.** -/
theorem Doubleless.compact_injective {first second : Json} (hfirst : first.Doubleless)
    (hsecond : second.Doubleless) (h : first.compact = second.compact) : first = second := by
  have hchars : first.render ++ [] = second.render ++ [] := by
    rw [String.ofList_injective h]
  exact (hfirst.render_append_inj hsecond endsNumber_nil endsNumber_nil hchars).1

/-! ### Equality -/

/-- A value without doubles and objects. -/
inductive Exact : Json → Prop
  | null : Exact null
  | bool (value : Bool) : Exact (bool value)
  | int (n : Int) : Exact (int n)
  | str (text : String) : Exact (str text)
  | arr {items : List Json} (each : ∀ item ∈ items, Exact item) : Exact (arr items)

theorem Exact.doubleless {value : Json} (exact : value.Exact) : value.Doubleless := by
  induction exact with
  | null => exact .null
  | bool value => exact .bool value
  | int n => exact .int n
  | str text => exact .str text
  | arr _ ih => exact .arr ih

theorem eq_of_equalItems {items others : List Json}
    (sound : ∀ item ∈ items, ∀ other, item.equals other = true → item = other)
    (h : equalItems items others = true) : items = others := by
  induction items generalizing others with
  | nil =>
      cases others with
      | nil => rfl
      | cons other others => cases h
  | cons item items ih =>
      cases others with
      | nil => cases h
      | cons other others =>
          rw [equalItems, Bool.and_eq_true] at h
          rw [sound item List.mem_cons_self other h.1,
            ih (fun item hmem => sound item (List.mem_cons_of_mem _ hmem)) h.2]

/-- **Values that are equal are the same.** -/
theorem Exact.eq_of_equals {first second : Json} (exact : first.Exact)
    (h : first.equals second = true) : first = second := by
  induction exact generalizing second with
  | null =>
      cases second with
      | null => rfl
      | _ => cases h
  | bool value =>
      cases second with
      | bool other => exact congrArg Json.bool (eq_of_beq h)
      | _ => cases h
  | int n =>
      cases second with
      | int m => exact congrArg Json.int (eq_of_beq h)
      | _ => cases h
  | str text =>
      cases second with
      | str other => exact congrArg Json.str (eq_of_beq h)
      | _ => cases h
  | arr each ih =>
      cases second with
      | arr others =>
          rw [equals] at h
          exact congrArg Json.arr (eq_of_equalItems (fun item hmem _ => ih item hmem) h)
      | _ => cases h

theorem equalItems_self {items : List Json} (each : ∀ item ∈ items, item.equals item = true) :
    equalItems items items = true := by
  induction items with
  | nil => rfl
  | cons item items ih =>
      obtain ⟨hitem, hitems⟩ := List.forall_mem_cons.1 each
      rw [equalItems, hitem, ih hitems]
      rfl

/-- A value without doubles equals itself. -/
theorem Exact.equals_self {value : Json} (exact : value.Exact) : value.equals value = true := by
  induction exact with
  | null => rfl
  | bool value => exact beq_self_eq_true value
  | int n => exact beq_self_eq_true n
  | str text => exact beq_self_eq_true text
  | arr each ih =>
      rw [equals]
      exact equalItems_self ih

end QueryFeed.Json
