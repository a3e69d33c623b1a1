import QueryFeed.Proofs.Row.Views
import QueryFeed.Row.Entity

/-!
**Rows are mapped to entities by column name only.**

A record looks at the columns one after the other and is refused at the first one that does not fit, so the
error depends on the order of the columns.  Whether there is one does not: a record is read if and only if
it takes every column and no field is missing that must be there, and what is read depends only on the last
value of each name.  The same holds of a map of whole numbers, which is sorted by its keys.

Main definitions:

* `Entity.Takes` — a record takes a column.

Main results:

* `Entity.exists_visit_iff`, `Entity.get?_visit` — which columns of a record are read, and as what;
* `Entity.read_congr` — **objects with the same members are read as the same entity**;
* `RowMapper.entity_by_name` — rows with the same table are mapped to the same entity.
-/

set_option autoImplicit false

namespace QueryFeed

/-- A reading in two steps succeeds if both do. -/
theorem DecodeError.bind_eq_ok_iff {α β : Type} {first : Except DecodeError α}
    {next : α → Except DecodeError β} {result : β} :
    (first >>= next) = .ok result ↔ ∃ value, first = .ok value ∧ next value = .ok result := by
  cases first <;> simp [bind, Except.bind]

namespace Entity

open DecodeError (bind_eq_ok_iff)

/-! ### The columns of a record -/

section

variable {fields : List Field} {closed : Bool} {members : List (String × Json)} {found : Table Json}

/-- A record takes a column: it is a field and its value is read, or it is no field and the record is
open. -/
def Takes (fields : List Field) (closed : Bool) (column : String × Json) : Prop :=
  match fields.find? (·.name = column.1) with
  | none => closed = false
  | some field => ∃ content, field.read column.2 = .ok content

/-- The first column is left out, or it is read and stands before what is read of the others. -/
theorem visit_cons_eq_ok_iff {column : String × Json} :
    visit fields closed (column :: members) = .ok found ↔
      (fields.find? (·.name = column.1) = none ∧ closed = false ∧
        visit fields closed members = .ok found) ∨
      ∃ field content others, fields.find? (·.name = column.1) = some field ∧
        field.read column.2 = .ok content ∧ visit fields closed members = .ok others ∧
        found = (column.1, content) :: others := by
  obtain ⟨name, value⟩ := column
  rw [visit]
  cases hfield : fields.find? (·.name = name) with
  | none => cases closed <;> simp
  | some field =>
      simp only [bind_eq_ok_iff, pure, Except.pure, Except.ok.injEq]
      simp [eq_comm]

/-- **The columns of a record are read if and only if it takes each of them.** -/
theorem exists_visit_iff :
    (∃ found, visit fields closed members = .ok found) ↔
      ∀ column ∈ members, Takes fields closed column := by
  induction members with
  | nil => simp [visit]
  | cons column rest ih =>
      rw [List.forall_mem_cons, ← ih, Takes]
      simp only [visit_cons_eq_ok_iff]
      cases fields.find? (·.name = column.1) with
      | none => simp
      | some field =>
          constructor
          · rintro ⟨found, ⟨hnone, -⟩ | ⟨field, content, others, hfield, hread, hvisit, -⟩⟩
            · cases hnone
            · cases hfield
              exact ⟨⟨content, hread⟩, others, hvisit⟩
          · rintro ⟨⟨content, hread⟩, others, hvisit⟩
            exact ⟨_, .inr ⟨field, content, others, rfl, hread, hvisit, rfl⟩⟩

/-- What is read of a name depends only on the value of this name. -/
theorem get?_visit (h : visit fields closed members = .ok found) (name : String) :
    Table.get? found name = (Table.get? members name).bind fun value =>
      (fields.find? (·.name = name)).bind fun field => (field.read value).toOption := by
  induction members generalizing found with
  | nil =>
      cases h
      rfl
  | cons column rest ih =>
      rcases visit_cons_eq_ok_iff.1 h with
        ⟨hnone, -, hvisit⟩ | ⟨field, content, others, hfield, hread, hvisit, rfl⟩
      · rw [Table.get?, ih hvisit]
        split
        · rename_i hname
          rw [← hname, hnone]
          simp
        · rfl
      · rw [Table.get?, Table.get?]
        split
        · rename_i hname
          rw [← hname, Option.bind_some, hfield, Option.bind_some, hread]
          rfl
        · exact ih hvisit

/-- The values of a record depend only on what is read of each name. -/
theorem assemble_congr {others : Table Json}
    (same : ∀ name, Table.get? found name = Table.get? others name) (fields : List Field) :
    assemble found fields = assemble others fields := by
  induction fields with
  | nil => rfl
  | cons field rest ih => rw [assemble, assemble, ih, same]

end

/-! ### The columns of a map of whole numbers -/

/-- Reads one column of a map of whole numbers. -/
def readInteger (member : String × Json) : Except DecodeError (String × Json) :=
  (member.2.asInteger .i64).map fun n => (member.1, Json.int n)

theorem mapM_readInteger_cons_eq_ok_iff {column : String × Json} {members found : Table Json} :
    (column :: members).mapM readInteger = .ok found ↔
      ∃ n others, column.2.asInteger .i64 = .ok n ∧ members.mapM readInteger = .ok others ∧
        found = (column.1, .int n) :: others := by
  rw [List.mapM_cons, bind_eq_ok_iff]
  simp only [bind_eq_ok_iff, pure, Except.pure, Except.ok.injEq, readInteger]
  cases column.2.asInteger .i64 with
  | error e => simp [Except.map]
  | ok n => simp [Except.map, eq_comm]

/-- A map of whole numbers is read if and only if each of its columns is a whole number. -/
theorem exists_mapM_readInteger_iff {members : Table Json} :
    (∃ found, members.mapM readInteger = .ok found) ↔
      ∀ column ∈ members, ∃ n, column.2.asInteger .i64 = .ok n := by
  induction members with
  | nil => simp [pure, Except.pure]
  | cons column rest ih =>
      rw [List.forall_mem_cons, ← ih]
      simp only [mapM_readInteger_cons_eq_ok_iff]
      constructor
      · rintro ⟨_, n, others, hread, hothers, -⟩
        exact ⟨⟨n, hread⟩, others, hothers⟩
      · rintro ⟨⟨n, hread⟩, others, hothers⟩
        exact ⟨_, n, others, hread, hothers, rfl⟩

theorem keys_mapM_readInteger {members found : Table Json}
    (h : members.mapM readInteger = .ok found) : Table.keys found = Table.keys members := by
  induction members generalizing found with
  | nil =>
      cases h
      rfl
  | cons column rest ih =>
      obtain ⟨n, others, -, hothers, rfl⟩ := mapM_readInteger_cons_eq_ok_iff.1 h
      exact congrArg (column.1 :: ·) (ih hothers)

theorem get?_mapM_readInteger {members found : Table Json}
    (h : members.mapM readInteger = .ok found) (name : String) :
    Table.get? found name = (Table.get? members name).bind fun value =>
      (value.asInteger .i64).toOption.map Json.int := by
  induction members generalizing found with
  | nil =>
      cases h
      rfl
  | cons column rest ih =>
      obtain ⟨n, others, hread, hothers, rfl⟩ := mapM_readInteger_cons_eq_ok_iff.1 h
      rw [Table.get?, Table.get?]
      split
      · rw [Option.bind_some, hread]
        rfl
      · exact ih hothers

/-! ### Objects with the same members -/

/-- A record is what its fields are assembled to from what is read of its columns. -/
theorem read_record_eq_ok_iff {fields : List Field} {closed : Bool} {members : Table Json}
    {entity : Json} : (record fields closed).read (.obj members) = .ok entity ↔
      ∃ found values, visit fields closed members = .ok found ∧
        assemble found fields = .ok values ∧ entity = .obj values := by
  change (visit fields closed members >>= fun found => assemble found fields >>= fun values =>
    pure (Json.obj values)) = _ ↔ _
  simp only [bind_eq_ok_iff, pure, Except.pure, Except.ok.injEq]
  simp only [exists_and_left, eq_comm]

/-- A map of whole numbers is what is read of its columns, sorted. -/
theorem read_integers_eq_ok_iff {members : Table Json} {entity : Json} :
    integers.read (.obj members) = .ok entity ↔
      ∃ found, members.mapM readInteger = .ok found ∧ entity = .obj (Table.sorted found) := by
  change (members.mapM readInteger >>= fun found => pure (Json.obj (Table.sorted found))) = _ ↔ _
  simp only [bind_eq_ok_iff, pure, Except.pure, Except.ok.injEq]
  simp only [eq_comm]

/-- **Objects with the same members are read as the same entity**, whatever the order of the members. -/
theorem read_congr {shape : Entity} (keyed : shape ≠ .anything) {members others : Table Json}
    (distinct : (Table.keys members).Nodup) (distinct' : (Table.keys others).Nodup)
    (same : ∀ name, Table.get? members name = Table.get? others name) {entity : Json}
    (h : shape.read (.obj members) = .ok entity) : shape.read (.obj others) = .ok entity := by
  have hsubset : others ⊆ members := (Table.perm_of_get?_eq distinct distinct' same).symm.subset
  cases shape with
  | anything => exact absurd rfl keyed
  | record fields closed =>
      obtain ⟨found, values, hvisit, hvalues, rfl⟩ := read_record_eq_ok_iff.1 h
      obtain ⟨again, hagain⟩ := exists_visit_iff.2 fun column hmem =>
        exists_visit_iff.1 ⟨found, hvisit⟩ column (hsubset hmem)
      have hsame : ∀ name, Table.get? found name = Table.get? again name := by
        intro name
        rw [get?_visit hvisit, get?_visit hagain, same]
      rw [assemble_congr hsame fields] at hvalues
      exact read_record_eq_ok_iff.2 ⟨again, values, hagain, hvalues, rfl⟩
  | integers =>
      obtain ⟨found, hfound, rfl⟩ := read_integers_eq_ok_iff.1 h
      obtain ⟨again, hagain⟩ := exists_mapM_readInteger_iff.2 fun column hmem =>
        exists_mapM_readInteger_iff.1 ⟨found, hfound⟩ column (hsubset hmem)
      have hsame : ∀ name, Table.get? found name = Table.get? again name := by
        intro name
        rw [get?_mapM_readInteger hfound, get?_mapM_readInteger hagain, same]
      have hsorted : Table.sorted found = Table.sorted again :=
        Table.sorted_eq_of_get?_eq (by rwa [keys_mapM_readInteger hfound])
          (by rwa [keys_mapM_readInteger hagain]) hsame
      exact read_integers_eq_ok_iff.2 ⟨again, hagain, congrArg Json.obj hsorted⟩

end Entity

/-! ### Rows -/

namespace RowMapper

/-- A mapping to an entity fails only as a mapping. -/
theorem category_of_entity {typeName : String} {shape : Entity} {row : Row} {e : Database.Error}
    (h : entity typeName shape row = .error e) : e.category = .mapping := by
  rw [entity] at h
  cases hread : shape.read row.toJson with
  | error found =>
      rw [hread] at h
      cases h
      rfl
  | ok value =>
      rw [hread] at h
      cases h

theorem entity_eq_ok_iff {typeName : String} {shape : Entity} {row : Row} {found : Json} :
    entity typeName shape row = .ok found ↔ shape.read row.toJson = .ok found := by
  rw [entity]
  cases shape.read row.toJson <;> simp [Except.mapError]

theorem entity_of_same_table {typeName : String} {shape : Entity} (keyed : shape ≠ .anything)
    {first second : Row}
    (same : ∀ name, Table.get? first.toTable name = Table.get? second.toTable name) {found : Json}
    (h : entity typeName shape first = .ok found) : entity typeName shape second = .ok found := by
  rw [entity_eq_ok_iff, Row.toJson_eq] at h ⊢
  have hdistinct : ∀ row : Row, (Table.keys (Table.mapValues Value.toJson row.toTable)).Nodup := by
    intro row
    rw [Table.keys_mapValues]
    exact Table.nodup_keys_ofEntries row.cells
  refine Entity.read_congr keyed (hdistinct first) (hdistinct second) (fun name => ?_) h
  rw [Table.get?_mapValues, Table.get?_mapValues, same]

/-- **Rows are mapped by column name only.**  Let two rows have the same table: the same column names, each
with the same last value.  To a record or a map of whole numbers, one is mapped if and only if the other is,
and to the same entity.  A mapping fails only as a mapping, and leaving out a column whose name is repeated
later changes neither whether a row is mapped nor what it is mapped to. -/
theorem entity_by_name {typeName : String} {shape : Entity} (keyed : shape ≠ .anything)
    {first second : Row}
    (same : ∀ name, Table.get? first.toTable name = Table.get? second.toTable name) :
    (∀ found, entity typeName shape first = .ok found ↔ entity typeName shape second = .ok found) ∧
    (∀ row e, entity typeName shape row = .error e → e.category = .mapping) ∧
    ∀ before cell after, cell.1 ∈ after.map Prod.fst → ∀ found,
      entity typeName shape ⟨before ++ cell :: after⟩ = .ok found ↔
        entity typeName shape ⟨before ++ after⟩ = .ok found := by
  have hmapped : ∀ {first second : Row},
      (∀ name, Table.get? first.toTable name = Table.get? second.toTable name) → ∀ found,
        entity typeName shape first = .ok found ↔ entity typeName shape second = .ok found :=
    fun same _ => ⟨entity_of_same_table keyed same, entity_of_same_table keyed fun name =>
      (same name).symm⟩
  refine ⟨hmapped same, fun _ _ => category_of_entity, ?_⟩
  intro before cell after hrepeated
  exact hmapped (Table.get?_ofEntries_of_repeated hrepeated)

/-- A record with a small number and an optional name, and no other columns. -/
def account : Entity :=
  .record [⟨"id", .integer .u8, .required⟩, ⟨"name", .text, .optional⟩] true

/-- A row whose first number is out of range, and which has another one at the end. -/
def renumbered : Row := ⟨[("id", .int32 300), ("name", .text "a"), ("id", .int32 7)]⟩

/-- The same columns with their last values, in another order. -/
def reordered : Row := ⟨[("name", .text "a"), ("id", .int32 7)]⟩

/-- The objects of the two rows have their members in different orders, but the rows are mapped alike, and so
is one with a column that is repeated later. -/
theorem entity_by_name_renumbered :
    account ≠ .anything ∧
    (∀ name, Table.get? renumbered.toTable name = Table.get? reordered.toTable name) ∧
    renumbered.toJson = .obj [("id", .int 7), ("name", .str "a")] ∧
    reordered.toJson = .obj [("name", .str "a"), ("id", .int 7)] ∧
    entity "Account" account renumbered = .ok (.obj [("id", .int 7), ("name", .str "a")]) ∧
    entity "Account" account reordered = .ok (.obj [("id", .int 7), ("name", .str "a")]) ∧
    entity "Account" account ⟨[("name", .text "b"), ("name", .text "a"), ("id", .int32 7)]⟩ =
      .ok (.obj [("id", .int 7), ("name", .str "a")]) := by
  have hkeyed : account ≠ .anything := nofun
  have hsame : ∀ name,
      Table.get? renumbered.toTable name = Table.get? reordered.toTable name := by
    intro name
    change (if "id" = name then some (.int32 7) else if "name" = name then some (.text "a") else none) =
      if "name" = name then some (.text "a") else if "id" = name then some (Value.int32 7) else none
    by_cases hid : "id" = name
    · subst hid
      rfl
    · rw [if_neg hid, if_neg hid]
  obtain ⟨hmapped, -, hrepeated⟩ := entity_by_name hkeyed hsame
  have hreordered : entity "Account" account reordered =
      .ok (.obj [("id", .int 7), ("name", .str "a")]) := rfl
  exact ⟨hkeyed, hsame, rfl, rfl, (hmapped _).2 hreordered, hreordered,
    (hrepeated [] ("name", .text "b") _ (by decide) _).2 hreordered⟩

end RowMapper

end QueryFeed
