import Mathlib.Data.List.Basic
import Mathlib.Data.List.Induction
import Mathlib.Data.List.Nodup
import QueryFeed.Table

/-!
**What a table made of entries holds.**

Entries are written one after the other, so a key keeps the place of its first entry and has the value of
its last one.  Nothing is lost where no key is repeated, and a change of the values commutes with the
writing.

Main results:

* `keys_ofEntries_pairwise` — **the keys stand in the order of their first entries**;
* `mem_keys_ofEntries`, `get?_ofEntries_eq_none_iff` — which keys there are;
* `get?_ofEntries_of_last` — **the last entry of a key is read back**;
* `get?_mapValues`, `ofEntries_mapValues` — changing the values;
* `ofEntries_eq_self` — a table of entries without repeated keys is those entries;
* `sorted_eq_of_get?_eq` — **tables with the same content are sorted to the same entries**.
-/

set_option autoImplicit false

namespace QueryFeed.Table

universe u v

variable {α : Type u} {β : Type v}

/-! ### One entry after the other -/

theorem ofEntries_concat (entries : List (String × α)) (entry : String × α) :
    ofEntries (entries ++ [entry]) = insert (ofEntries entries) entry.1 entry.2 := by
  rw [ofEntries, insertAll, List.foldl_append]
  rfl

theorem insert_of_not_mem {table : Table α} {name : String} (value : α)
    (h : name ∉ keys table) : insert table name value = table ++ [(name, value)] := by
  induction table with
  | nil => rfl
  | cons entry rest ih =>
      simp only [keys, List.map_cons, List.mem_cons, not_or] at h
      rw [insert, if_neg (Ne.symm h.1), ih h.2]
      rfl

/-! ### The keys -/

theorem mem_keys_ofEntries {entries : List (String × α)} {name : String} :
    name ∈ keys (ofEntries entries) ↔ name ∈ entries.map Prod.fst := by
  induction entries using List.reverseRecOn with
  | nil => rfl
  | append_singleton entries entry ih =>
      rw [ofEntries_concat, List.map_append, List.mem_append, ← ih]
      by_cases hmem : entry.1 ∈ keys (ofEntries entries)
      · rw [keys_insert_of_mem _ hmem]
        constructor
        · exact Or.inl
        · rintro (hold | hnew)
          · exact hold
          · rw [List.map_singleton, List.mem_singleton] at hnew
            rw [hnew]
            exact hmem
      · rw [keys_insert_of_not_mem _ hmem, List.mem_append]
        rfl

/-- **The keys stand in the order of their first entries.** -/
theorem keys_ofEntries_pairwise (entries : List (String × α)) :
    (keys (ofEntries entries)).Pairwise fun name next =>
      (entries.map Prod.fst).idxOf name < (entries.map Prod.fst).idxOf next := by
  induction entries using List.reverseRecOn with
  | nil => exact .nil
  | append_singleton entries entry ih =>
      -- another entry at the end leaves the first entry of a key where it was
      have hkept : ∀ name ∈ keys (ofEntries entries),
          ((entries ++ [entry]).map Prod.fst).idxOf name = (entries.map Prod.fst).idxOf name := by
        intro name hname
        rw [List.map_append, List.idxOf_append_of_mem (mem_keys_ofEntries.1 hname)]
      have hold : (keys (ofEntries entries)).Pairwise fun name next =>
          ((entries ++ [entry]).map Prod.fst).idxOf name <
            ((entries ++ [entry]).map Prod.fst).idxOf next := by
        refine ih.imp_of_mem fun hname hnext hlt => ?_
        rw [hkept _ hname, hkept _ hnext]
        exact hlt
      rw [ofEntries_concat]
      by_cases hmem : entry.1 ∈ keys (ofEntries entries)
      · rw [keys_insert_of_mem _ hmem]
        exact hold
      · rw [keys_insert_of_not_mem _ hmem]
        refine List.pairwise_append.2 ⟨hold, List.pairwise_singleton _ _, ?_⟩
        intro name hname next hnext
        rw [List.mem_singleton] at hnext
        subst hnext
        have hnot : entry.1 ∉ entries.map Prod.fst := fun h => hmem (mem_keys_ofEntries.2 h)
        have hbelow := List.idxOf_lt_length_iff.2 (mem_keys_ofEntries.1 hname)
        rw [hkept name hname, List.map_append, List.idxOf_append_of_notMem hnot]
        omega

theorem nodup_keys_ofEntries (entries : List (String × α)) : (keys (ofEntries entries)).Nodup := by
  refine (keys_ofEntries_pairwise entries).imp fun hlt hsame => ?_
  rw [hsame] at hlt
  omega

/-! ### The values -/

/-- **The last entry of a key is read back.** -/
theorem get?_ofEntries_of_last {before after : List (String × α)} {name : String} {value : α}
    (last : name ∉ after.map Prod.fst) :
    get? (ofEntries (before ++ (name, value) :: after)) name = some value := by
  have hafter : after.reverse.lookup name = none := by
    rw [List.lookup_eq_none_iff]
    intro entry hentry
    rw [bne_iff_ne]
    rintro rfl
    exact last (List.mem_map_of_mem (List.mem_reverse.1 hentry))
  rw [get?_ofEntries, List.reverse_append, List.reverse_cons, List.append_assoc, List.lookup_append,
    hafter, List.singleton_append, List.lookup_cons, beq_self_eq_true]
  rfl

/-- Every entry of a key has a last one behind it. -/
theorem exists_last {entries : List (String × α)} {name : String}
    (h : name ∈ entries.map Prod.fst) :
    ∃ before value after, entries = before ++ (name, value) :: after ∧
      name ∉ after.map Prod.fst := by
  induction entries with
  | nil => simp at h
  | cons entry rest ih =>
      by_cases hrest : name ∈ rest.map Prod.fst
      · obtain ⟨before, value, after, rfl, hlast⟩ := ih hrest
        exact ⟨entry :: before, value, after, rfl, hlast⟩
      · rw [List.map_cons, List.mem_cons] at h
        obtain rfl := h.resolve_right hrest
        exact ⟨[], entry.2, rest, rfl, hrest⟩

/-- An entry whose key is written again later leaves no trace in what is read back. -/
theorem get?_ofEntries_of_repeated {before after : List (String × α)} {entry : String × α}
    (repeated : entry.1 ∈ after.map Prod.fst) (name : String) :
    get? (ofEntries (before ++ entry :: after)) name = get? (ofEntries (before ++ after)) name := by
  rw [get?_ofEntries, get?_ofEntries, List.reverse_append, List.reverse_cons, List.append_assoc,
    List.singleton_append, List.reverse_append, List.lookup_append, List.lookup_append,
    List.lookup_cons]
  by_cases h : name = entry.1
  · obtain ⟨later, hlater, hkey⟩ := List.mem_map.1 repeated
    have hfound : after.reverse.lookup name ≠ none := by
      rw [Ne, List.lookup_eq_none_iff, not_forall]
      exact ⟨later, by simp [hlater, hkey, h]⟩
    obtain ⟨value, hvalue⟩ := Option.ne_none_iff_exists'.1 hfound
    rw [hvalue, Option.some_or, Option.some_or]
  · rw [beq_false_of_ne h]

theorem get?_eq_none_iff {table : Table α} {name : String} :
    get? table name = none ↔ name ∉ keys table := by
  induction table with
  | nil => simp [keys]
  | cons entry rest ih =>
      rw [get?, keys, List.map_cons, List.mem_cons]
      by_cases h : entry.1 = name
      · simp [h]
      · rw [if_neg h, ih, keys]
        simp [Ne.symm h]

theorem get?_ofEntries_eq_none_iff {entries : List (String × α)} {name : String} :
    get? (ofEntries entries) name = none ↔ name ∉ entries.map Prod.fst := by
  rw [get?_eq_none_iff, mem_keys_ofEntries]

/-! ### Changing the values -/

/-- The entries with other values. -/
def mapValues (f : α → β) (entries : List (String × α)) : List (String × β) :=
  entries.map fun entry => (entry.1, f entry.2)

@[simp] theorem keys_mapValues (f : α → β) (table : Table α) :
    keys (mapValues f table) = keys table := by
  simp [keys, mapValues, Function.comp_def]

@[simp] theorem get?_mapValues (f : α → β) (table : Table α) (name : String) :
    get? (mapValues f table) name = (get? table name).map f := by
  induction table with
  | nil => rfl
  | cons entry rest ih =>
      rw [mapValues, List.map_cons, get?, get?]
      split
      · rfl
      · exact ih

theorem insert_mapValues (f : α → β) (table : Table α) (name : String) (value : α) :
    insert (mapValues f table) name (f value) = mapValues f (insert table name value) := by
  induction table with
  | nil => rfl
  | cons entry rest ih =>
      rw [mapValues, List.map_cons, insert, insert]
      split
      · rfl
      · exact congrArg ((entry.1, f entry.2) :: ·) ih

/-- **Changing the values commutes with writing the entries.** -/
theorem ofEntries_mapValues (f : α → β) (entries : List (String × α)) :
    ofEntries (mapValues f entries) = mapValues f (ofEntries entries) := by
  induction entries using List.reverseRecOn with
  | nil => rfl
  | append_singleton entries entry ih =>
      have hconcat : mapValues f (entries ++ [entry]) =
          mapValues f entries ++ [(entry.1, f entry.2)] := List.map_append
      rw [hconcat, ofEntries_concat, ofEntries_concat, ih, insert_mapValues]

/-! ### Entries without repeated keys -/

/-- **A table of entries without repeated keys is those entries.** -/
theorem ofEntries_eq_self {entries : List (String × α)} (distinct : (entries.map Prod.fst).Nodup) :
    ofEntries entries = entries := by
  induction entries using List.reverseRecOn with
  | nil => rfl
  | append_singleton entries entry ih =>
      rw [List.map_append, List.map_singleton, List.nodup_append] at distinct
      obtain ⟨hentries, -, hnew⟩ := distinct
      have hnot : entry.1 ∉ keys (ofEntries entries) := by
        intro hmem
        exact hnew _ (mem_keys_ofEntries.1 hmem) _ List.mem_cons_self rfl
      rw [ofEntries_concat, insert_of_not_mem _ hnot, ih hentries]

/-! ### Tables with the same content -/

/-- Where no key is repeated, every entry is read back. -/
theorem get?_eq_some_iff_mem {table : Table α} (distinct : (keys table).Nodup) {name : String}
    {value : α} : get? table name = some value ↔ (name, value) ∈ table := by
  induction table with
  | nil => simp
  | cons entry rest ih =>
      obtain ⟨key, found⟩ := entry
      obtain ⟨hnew, hrest⟩ := List.nodup_cons.1 distinct
      rw [get?, List.mem_cons, Prod.mk.injEq]
      by_cases h : key = name
      · subst h
        rw [if_pos rfl, Option.some_inj]
        constructor
        · exact fun hsame => Or.inl ⟨rfl, hsame.symm⟩
        · rintro (⟨-, rfl⟩ | hmem)
          · rfl
          · exact absurd (List.mem_map_of_mem hmem) hnew
      · rw [if_neg h, ih hrest]
        simp [Ne.symm h]

theorem perm_of_get?_eq {first second : Table α} (distinct : (keys first).Nodup)
    (distinct' : (keys second).Nodup) (same : ∀ name, get? first name = get? second name) :
    first.Perm second := by
  refine (List.perm_ext_iff_of_nodup (List.Nodup.of_map Prod.fst distinct)
    (List.Nodup.of_map Prod.fst distinct')).2 ?_
  rintro ⟨name, value⟩
  rw [← get?_eq_some_iff_mem distinct, ← get?_eq_some_iff_mem distinct', same]

/-- The entries of a sorted table ascend. -/
theorem pairwise_sorted (table : Table α) : (sorted table).Pairwise fun first second =>
    decide (first.1 ≤ second.1) = true := by
  refine List.pairwise_mergeSort ?_ ?_ table
  · intro first second third h h'
    exact decide_eq_true (String.le_trans (of_decide_eq_true h) (of_decide_eq_true h'))
  · intro first second
    simpa using String.le_total first.1 second.1

/-- **Tables with the same content are sorted to the same entries.** -/
theorem sorted_eq_of_get?_eq {first second : Table α} (distinct : (keys first).Nodup)
    (distinct' : (keys second).Nodup) (same : ∀ name, get? first name = get? second name) :
    sorted first = sorted second := by
  have hperm : (sorted first).Perm (sorted second) :=
    (List.mergeSort_perm first _).trans
      ((perm_of_get?_eq distinct distinct' same).trans (List.mergeSort_perm second _).symm)
  refine List.Perm.eq_of_pairwise ?_ (pairwise_sorted first) (pairwise_sorted second) hperm
  -- two entries with the same key are the same one
  rintro ⟨name, value⟩ ⟨other, found⟩ hvalue hfound hle hge
  obtain rfl : name = other := String.le_antisymm (of_decide_eq_true hle) (of_decide_eq_true hge)
  have hleft := (get?_eq_some_iff_mem distinct).2 ((List.mergeSort_perm first _).subset hvalue)
  have hright := (get?_eq_some_iff_mem distinct').2 ((List.mergeSort_perm second _).subset hfound)
  rw [same, hright] at hleft
  cases hleft
  rfl

end QueryFeed.Table
