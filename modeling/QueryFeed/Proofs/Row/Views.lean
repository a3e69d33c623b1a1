import Mathlib.Data.List.Forall2
import QueryFeed.Proofs.Table
import QueryFeed.Row.Basic

/-!
**The three views of a row agree.**

A row is read by name, as a table, and as a JSON object.  A name may be repeated, and names may differ in
nothing but the case of their letters.  Then the table and the object keep the last value of each exact
name, the object in the place of the first one, while reading by name takes the first column that agrees
up to case.  Where no two names agree up to case, the three are the same.

Main definitions:

* `SameLetter`, `SameUpToCase` — names that agree up to the case of ASCII letters.

Main results:

* `sameName_eq_true_iff` — names are compared letter by letter;
* `getByName?_eq_some_iff`, `getByName?_eq_none_iff` — **reading by name takes the first column**;
* `toJson_eq`, `member?_toJson` — **the object has the JSON forms of the table**;
* `views_agree` — which column each view takes, and that nothing is lost where the names differ.
-/

set_option autoImplicit false

namespace QueryFeed.Row

/-! ### Names up to case -/

/-- Whether a character is a capital letter of ASCII. -/
def IsCapital (c : Char) : Prop := 'A' ≤ c ∧ c ≤ 'Z'

/-- Two characters are equal, or one is a capital letter and the other is the small one, which comes 32
places later. -/
def SameLetter (c d : Char) : Prop :=
  c = d ∨ (IsCapital c ∧ d.toNat = c.toNat + 32) ∨ (IsCapital d ∧ c.toNat = d.toNat + 32)

/-- Two names agree letter by letter, up to the case of ASCII letters. -/
def SameUpToCase (name other : String) : Prop := List.Forall₂ SameLetter name.toList other.toList

theorem SameUpToCase.refl (name : String) : SameUpToCase name name :=
  List.forall₂_same.2 fun _ _ => Or.inl rfl

theorem isCapital_iff {c : Char} : IsCapital c ↔ 65 ≤ c.toNat ∧ c.toNat ≤ 90 := Iff.rfl

theorem toNat_toLower_of_isCapital {c : Char} (h : IsCapital c) :
    c.toLower.toNat = c.toNat + 32 := by
  have hbounds : 65 ≤ c.val.toNat ∧ c.val.toNat ≤ 90 := isCapital_iff.1 h
  have hlower : c.toLower.val = c.val + 32 := congrArg Char.val (dif_pos h)
  change c.toLower.val.toNat = c.val.toNat + 32
  rw [hlower, UInt32.toNat_add]
  change (c.val.toNat + 32) % 4294967296 = c.val.toNat + 32
  exact Nat.mod_eq_of_lt (by omega)

theorem toLower_of_not_isCapital {c : Char} (h : ¬IsCapital c) : c.toLower = c := dif_neg h

/-- Characters have the same small letter if and only if they agree up to case. -/
theorem toLower_eq_iff {c d : Char} : c.toLower = d.toLower ↔ SameLetter c d := by
  rw [← Char.toNat_inj, SameLetter, ← Char.toNat_inj]
  by_cases hc : IsCapital c <;> by_cases hd : IsCapital d
  · rw [toNat_toLower_of_isCapital hc, toNat_toLower_of_isCapital hd]
    simp only [isCapital_iff] at hc hd ⊢
    omega
  · rw [toNat_toLower_of_isCapital hc, toLower_of_not_isCapital hd]
    simp only [isCapital_iff] at hc hd ⊢
    omega
  · rw [toLower_of_not_isCapital hc, toNat_toLower_of_isCapital hd]
    simp only [isCapital_iff] at hc hd ⊢
    omega
  · rw [toLower_of_not_isCapital hc, toLower_of_not_isCapital hd]
    simp [hc, hd]

/-- **Names are compared letter by letter.** -/
theorem sameName_eq_true_iff {name other : String} :
    sameName name other = true ↔ SameUpToCase name other := by
  rw [sameName, beq_iff_eq, SameUpToCase, ← List.forall₂_eq_eq_eq, List.forall₂_map_left_iff,
    List.forall₂_map_right_iff]
  simp only [toLower_eq_iff]

/-! ### Reading by name -/

/-- **Reading by name takes the first column whose name agrees.** -/
theorem getByName?_eq_some_iff {row : Row} {name : String} {value : Value} :
    row.getByName? name = some value ↔ ∃ before column after,
      row.cells = before ++ (column, value) :: after ∧ SameUpToCase column name ∧
        ∀ cell ∈ before, ¬SameUpToCase cell.1 name := by
  rw [getByName?, Option.map_eq_some_iff]
  simp only [List.find?_eq_some_iff_append, sameName_eq_true_iff, Bool.not_eq_true',
    ← Bool.not_eq_true]
  constructor
  · rintro ⟨⟨column, _⟩, ⟨hsame, before, after, hcells, hbefore⟩, rfl⟩
    exact ⟨before, column, after, hcells, hsame, hbefore⟩
  · rintro ⟨before, column, after, hcells, hsame, hbefore⟩
    exact ⟨(column, value), ⟨hsame, before, after, hcells, hbefore⟩, rfl⟩

theorem getByName?_eq_none_iff {row : Row} {name : String} :
    row.getByName? name = none ↔ ∀ column ∈ row.columns, ¬SameUpToCase column name := by
  rw [getByName?, Option.map_eq_none_iff, List.find?_eq_none, columns, List.forall_mem_map]
  simp only [sameName_eq_true_iff]

/-! ### The object and the table -/

/-- **The object of a row has the JSON forms of the values of its table.** -/
theorem toJson_eq (row : Row) : row.toJson = .obj (Table.mapValues Value.toJson row.toTable) :=
  congrArg Json.obj (Table.ofEntries_mapValues Value.toJson row.cells)

theorem member?_toJson (row : Row) (name : String) :
    row.toJson.member? name = (Table.get? row.toTable name).map Value.toJson := by
  rw [toJson_eq, Json.member?, Table.get?_mapValues]

/-- Where no two names agree up to case, each name is that of one column. -/
theorem nodup_columns {row : Row}
    (distinct : row.columns.Pairwise fun column next => ¬SameUpToCase column next) :
    row.columns.Nodup := by
  refine distinct.imp fun hnot hsame => ?_
  subst hsame
  exact hnot (.refl _)

/-- Where no two names agree up to case, every column is read by its name. -/
theorem getByName?_of_distinct {row : Row}
    (distinct : row.columns.Pairwise fun column next => ¬SameUpToCase column next)
    {cell : String × Value} (h : cell ∈ row.cells) : row.getByName? cell.1 = some cell.2 := by
  obtain ⟨before, after, hcells⟩ := List.append_of_mem h
  refine getByName?_eq_some_iff.2 ⟨before, cell.1, after, hcells, .refl _, ?_⟩
  intro earlier hearlier
  rw [columns, hcells, List.map_append, List.pairwise_append] at distinct
  exact distinct.2.2 _ (List.mem_map_of_mem hearlier) _ List.mem_cons_self

/-- Where no name is repeated, a table has the value of each column. -/
theorem get?_toTable_of_nodup {row : Row} (nodup : row.columns.Nodup) {cell : String × Value}
    (h : cell ∈ row.cells) : Table.get? row.toTable cell.1 = some cell.2 := by
  obtain ⟨before, after, hcells⟩ := List.append_of_mem h
  rw [columns, hcells, List.map_append, List.map_cons, List.nodup_append] at nodup
  rw [toTable, hcells]
  exact Table.get?_ofEntries_of_last (List.nodup_cons.1 nodup.2.1).1

/-- **The three views of a row agree.**  The object has one member for each exact name, in the order in
which the names first appear, and the table has the same keys.  Both have the value of the last column
with exactly that name, the object in its JSON form.  Reading by name gives the value of the first column
that agrees up to case, and nothing if and only if there is none.  Where no two names agree up to case,
the three views have the value of every column, and no column is lost. -/
theorem views_agree (row : Row) :
    (∃ members, row.toJson = .obj members ∧
      (∀ name, name ∈ Table.keys members ↔ name ∈ row.columns) ∧
      ((Table.keys members).Pairwise fun name next =>
        row.columns.idxOf name < row.columns.idxOf next) ∧
      (Table.keys row.toTable).Nodup ∧
      ∀ name, name ∈ Table.keys row.toTable ↔ name ∈ Table.keys members) ∧
    (∀ name ∈ row.columns, ∃ before value after, row.cells = before ++ (name, value) :: after ∧
      name ∉ after.map Prod.fst ∧ Table.get? row.toTable name = some value ∧
      row.toJson.member? name = some value.toJson) ∧
    (∀ name, row.toJson.member? name = (Table.get? row.toTable name).map Value.toJson) ∧
    (∀ name value, row.getByName? name = some value ↔ ∃ before column after,
      row.cells = before ++ (column, value) :: after ∧ SameUpToCase column name ∧
        ∀ cell ∈ before, ¬SameUpToCase cell.1 name) ∧
    (∀ name, row.getByName? name = none ↔ ∀ column ∈ row.columns, ¬SameUpToCase column name) ∧
    ((row.columns.Pairwise fun column next => ¬SameUpToCase column next) →
      row.toTable = row.cells ∧ row.toJson = .obj (Table.mapValues Value.toJson row.cells) ∧
      ∀ cell ∈ row.cells, row.getByName? cell.1 = some cell.2 ∧
        Table.get? row.toTable cell.1 = some cell.2 ∧
        row.toJson.member? cell.1 = some cell.2.toJson) := by
  refine ⟨⟨_, toJson_eq row, ?_, ?_, ?_, ?_⟩, ?_, member?_toJson row,
    fun name value => getByName?_eq_some_iff, fun name => getByName?_eq_none_iff, ?_⟩
  · intro name
    rw [Table.keys_mapValues]
    exact Table.mem_keys_ofEntries
  · rw [Table.keys_mapValues]
    exact Table.keys_ofEntries_pairwise row.cells
  · exact Table.nodup_keys_ofEntries row.cells
  · intro name
    rw [Table.keys_mapValues]
  · intro name hname
    obtain ⟨before, value, after, hcells, hlast⟩ := Table.exists_last hname
    have hvalue : Table.get? row.toTable name = some value := by
      rw [toTable, hcells]
      exact Table.get?_ofEntries_of_last hlast
    refine ⟨before, value, after, hcells, hlast, hvalue, ?_⟩
    rw [member?_toJson, hvalue]
    rfl
  · intro hdistinct
    have hnodup := nodup_columns hdistinct
    have htable : row.toTable = row.cells := Table.ofEntries_eq_self hnodup
    refine ⟨htable, ?_, fun cell hcell => ?_⟩
    · rw [toJson_eq, htable]
    · have hvalue := get?_toTable_of_nodup hnodup hcell
      refine ⟨getByName?_of_distinct hdistinct hcell, hvalue, ?_⟩
      rw [member?_toJson, hvalue]
      rfl

/-- A row as a join gives it, with a name that is repeated and one that differs from it in case. -/
def joined : Row := ⟨[("ID", .int32 1), ("name", .text "a"), ("id", .int32 2), ("ID", .null)]⟩

/-- A row whose names differ. -/
def unsorted : Row := ⟨[("zeta", .int32 1), ("alpha", .text "a")]⟩

theorem views_agree_joined :
    ("ID" ∈ joined.columns ∧ ∃ before value after, joined.cells = before ++ ("ID", value) :: after ∧
      "ID" ∉ after.map Prod.fst ∧ Table.get? joined.toTable "ID" = some value ∧
      joined.toJson.member? "ID" = some value.toJson) ∧
    joined.toJson = .obj [("ID", .null), ("name", .str "a"), ("id", .int 2)] ∧
    joined.getByName? "iD" = some (.int32 1) ∧
    (unsorted.columns.Pairwise fun column next => ¬SameUpToCase column next) ∧
    unsorted.toTable = unsorted.cells ∧ unsorted.getByName? "alpha" = some (.text "a") := by
  obtain ⟨-, hlast, -, hfirst, -, -⟩ := views_agree joined
  obtain ⟨-, -, -, -, -, hviews⟩ := views_agree unsorted
  have hmem : "ID" ∈ joined.columns := by decide
  have hdistinct : unsorted.columns.Pairwise fun column next => ¬SameUpToCase column next := by
    refine List.Pairwise.cons ?_ (List.pairwise_singleton _ _)
    intro next hnext
    rw [List.mem_singleton.1 hnext, ← sameName_eq_true_iff]
    decide
  obtain ⟨htable, -, heach⟩ := hviews hdistinct
  have hsame : SameUpToCase "ID" "iD" := sameName_eq_true_iff.1 (by decide)
  refine ⟨⟨hmem, hlast "ID" hmem⟩, rfl, ?_, hdistinct, htable, ?_⟩
  · exact (hfirst "iD" _).2 ⟨[], "ID", _, rfl, hsame, nofun⟩
  · exact (heach ("alpha", .text "a") (by simp [unsorted])).1

end QueryFeed.Row
