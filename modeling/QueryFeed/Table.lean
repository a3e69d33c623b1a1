/-!
**Tables with text keys.**

A table lists its entries in the order in which their keys were first written.  Writing a key that
is already there replaces the value and keeps the place, so a table made by `insert` names each key
once.

Main definitions:

* `Table.get?`, `Table.insert`, `Table.erase` — reading and writing one entry;
* `Table.insertAll`, `Table.ofEntries` — writing many entries, the last one of a key winning;
* `Table.sorted` — the entries in ascending order of their keys.

Main results:

* `Table.get?_insert_self`, `Table.get?_insert_of_ne`, `Table.get?_erase_self` — what is read back;
* `Table.get?_ofEntries` — the last entry of a key is read back;
* `Table.keys_insert_of_mem`, `Table.keys_insert_of_not_mem` — which keys there are, and where.
-/

set_option autoImplicit false

namespace QueryFeed

universe u

/-- Entries in the order in which their keys were first written. -/
abbrev Table (α : Type u) := List (String × α)

namespace Table

variable {α : Type u}

/-! ### Reading -/

/-- The value written under a key. -/
def get? : Table α → String → Option α
  | [], _ => none
  | (key, value) :: rest, name => if key = name then some value else get? rest name

/-- The keys in the order of the entries. -/
def keys (table : Table α) : List String := table.map Prod.fst

/-- Whether an entry with this key is there. -/
def contains (table : Table α) (name : String) : Bool := (get? table name).isSome

/-! ### Writing -/

/-- Replaces the value of a key in its place, or adds the key at the end. -/
def insert : Table α → String → α → Table α
  | [], name, value => [(name, value)]
  | (key, old) :: rest, name, value =>
      if key = name then (key, value) :: rest else (key, old) :: insert rest name value

/-- Removes every entry with this key. -/
def erase (table : Table α) (name : String) : Table α := table.filter (·.1 != name)

/-- Writes the entries one after the other. -/
def insertAll (table : Table α) (entries : List (String × α)) : Table α :=
  entries.foldl (fun table entry => insert table entry.1 entry.2) table

/-- The table with these entries, the last one of a repeated key winning. -/
def ofEntries (entries : List (String × α)) : Table α := insertAll [] entries

/-! ### Sorted views -/

/-- The entries in ascending order of their keys, compared by code points. -/
def sorted (table : Table α) : List (String × α) :=
  table.mergeSort (fun first second => decide (first.1 ≤ second.1))

/-- The keys in ascending order. -/
def sortedKeys (table : Table α) : List String := (sorted table).map Prod.fst

/-! ### What is read back -/

@[simp] theorem get?_nil (name : String) : get? ([] : Table α) name = none := rfl

@[simp] theorem get?_insert_self (table : Table α) (name : String) (value : α) :
    get? (insert table name value) name = some value := by
  induction table with
  | nil => simp [insert, get?]
  | cons entry rest ih =>
      by_cases h : entry.1 = name <;> simp [insert, get?, h, ih]

theorem get?_insert_of_ne (table : Table α) {name other : String} (value : α)
    (h : name ≠ other) : get? (insert table name value) other = get? table other := by
  induction table with
  | nil => simp [insert, get?, h]
  | cons entry rest ih =>
      by_cases he : entry.1 = name
      · simp [insert, get?, he, h]
      · simp [insert, get?, he, ih]

@[simp] theorem get?_erase_self (table : Table α) (name : String) :
    get? (erase table name) name = none := by
  induction table with
  | nil => rfl
  | cons entry rest ih =>
      by_cases h : entry.1 = name
      · simpa [erase, h] using ih
      · simpa [erase, h, get?] using ih

theorem get?_erase_of_ne (table : Table α) {name other : String} (h : name ≠ other) :
    get? (erase table name) other = get? table other := by
  induction table with
  | nil => rfl
  | cons entry rest ih =>
      by_cases he : entry.1 = name
      · have : entry.1 ≠ other := by rw [he]; exact h
        simpa [erase, he, get?, this, h] using ih
      · by_cases ho : entry.1 = other
        · have hon : other ≠ name := fun e => h e.symm
          simp [erase, ho, get?, hon]
        · simpa [erase, he, get?, ho] using ih

/-- The last entry of a key is read back. -/
theorem get?_ofEntries (entries : List (String × α)) (name : String) :
    get? (ofEntries entries) name = entries.reverse.lookup name := by
  have hinsertAll : ∀ later : List (String × α), get? (insertAll [] later.reverse) name =
      later.lookup name := by
    intro later
    induction later with
    | nil => rfl
    | cons entry rest ih =>
        rw [List.reverse_cons, insertAll, List.foldl_append, List.foldl_cons, List.foldl_nil,
          List.lookup_cons]
        by_cases h : name = entry.1
        · rw [h, get?_insert_self, beq_self_eq_true]
        · rw [get?_insert_of_ne _ _ (Ne.symm h), beq_false_of_ne h]
          exact ih
  rw [ofEntries, ← hinsertAll, List.reverse_reverse]

/-! ### Which keys there are -/

theorem keys_insert_of_mem {table : Table α} {name : String} (value : α)
    (h : name ∈ keys table) : keys (insert table name value) = keys table := by
  induction table with
  | nil => simp [keys] at h
  | cons entry rest ih =>
      by_cases he : entry.1 = name
      · simp [insert, keys, he]
      · have hr : name ∈ keys rest := by
          simp only [keys, List.map_cons, List.mem_cons] at h
          exact h.resolve_left (fun e => he e.symm)
        have := ih hr
        simp only [keys] at this
        simp [insert, keys, he, this]

theorem keys_insert_of_not_mem {table : Table α} {name : String} (value : α)
    (h : name ∉ keys table) : keys (insert table name value) = keys table ++ [name] := by
  induction table with
  | nil => rfl
  | cons entry rest ih =>
      simp only [keys, List.map_cons, List.mem_cons, not_or] at h
      have := ih h.2
      simp only [keys] at this
      simp [insert, keys, Ne.symm h.1, this]

end Table

end QueryFeed
