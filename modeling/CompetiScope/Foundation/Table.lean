import CompetiScope.Foundation.Dict

/-!
# Tables of keyed rows

A table holds every row under the key the row carries, so writing a row needs
no key of its own.
-/

namespace Foundation

universe u v

structure Table (Key : Type u) (Row : Type v) [DecidableEq Key]
    (key : Row → Key) where
  rows : Dict Key Row
  keyed : ∀ id row, rows.get? id = some row → key row = id

namespace Table

variable {Key : Type u} {Row : Type v} [DecidableEq Key] {key : Row → Key}

def empty : Table Key Row key :=
  { rows := ∅
    keyed := by
      intro id row found
      cases found }

instance : EmptyCollection (Table Key Row key) := ⟨empty⟩

def get? (table : Table Key Row key) (id : Key) : Option Row :=
  table.rows.get? id

def values (table : Table Key Row key) : List Row :=
  table.rows.values

/-- Write a row under its key. -/
def upsert (table : Table Key Row key) (row : Row) : Table Key Row key :=
  { rows := table.rows.set (key row) row
    keyed := by
      intro id stored found
      rw [Dict.get?_set] at found
      split at found
      · next same =>
          cases found
          exact same.symm
      · exact table.keyed id stored found }

/-- Keep the rows that pass a test. -/
def filter (table : Table Key Row key) (keep : Row → Bool) :
    Table Key Row key :=
  { rows := table.rows.filterValues keep
    keyed := by
      intro id row found
      rw [Dict.get?_filterValues, Option.filter_eq_some_iff] at found
      exact table.keyed id row found.1 }

theorem get?_filter (table : Table Key Row key) (keep : Row → Bool)
    (id : Key) : (table.filter keep).get? id = (table.get? id).filter keep :=
  Dict.get?_filterValues keep table.rows id

theorem get?_filter_of_kept {table : Table Key Row key} {keep : Row → Bool}
    {id : Key} (kept : ∀ row, table.get? id = some row → keep row = true) :
    (table.filter keep).get? id = table.get? id := by
  rw [get?_filter]
  cases found : table.get? id with
  | none => rfl
  | some row => rw [Option.filter_some, if_pos (kept row found)]

theorem get?_of_filter_eq {first second : Table Key Row key}
    {keep : Row → Bool} (same : first.filter keep = second.filter keep)
    {id : Key} {row : Row} (found : second.get? id = some row)
    (kept : keep row = true) : first.get? id = some row := by
  have inFilter : (second.filter keep).get? id = some row := by
    rw [get?_filter, found, Option.filter_some, if_pos kept]
  rw [← same, get?_filter, Option.filter_eq_some_iff] at inFilter
  exact inFilter.1

theorem key_of_get? {table : Table Key Row key} {id : Key} {row : Row}
    (found : table.get? id = some row) : key row = id :=
  table.keyed id row found

theorem get?_upsert (table : Table Key Row key) (row : Row) (id : Key) :
    (table.upsert row).get? id =
      if id = key row then some row else table.get? id :=
  Dict.get?_set table.rows (key row) id row

@[simp] theorem get?_upsert_self (table : Table Key Row key) (row : Row) :
    (table.upsert row).get? (key row) = some row := by
  rw [get?_upsert, if_pos rfl]

theorem mem_values {table : Table Key Row key} {row : Row} :
    row ∈ table.values ↔ table.get? (key row) = some row := by
  rw [values, Dict.mem_values]
  constructor
  · rintro ⟨id, found⟩
    rw [table.keyed id row found]
    exact found
  · intro found
    exact ⟨key row, found⟩

theorem eq_of_key_eq {table : Table Key Row key} {first second : Row}
    (isFirst : first ∈ table.values) (isSecond : second ∈ table.values)
    (same : key first = key second) : first = second := by
  rw [mem_values] at isFirst isSecond
  rw [same, isSecond] at isFirst
  exact (Option.some.inj isFirst).symm

theorem nodup_map_key (table : Table Key Row key) :
    (table.values.map key).Nodup := by
  have keys : table.values.map key = table.rows.keys := by
    rw [values, Dict.values, List.map_map, Dict.keys]
    apply List.map_congr_left
    intro entry isEntry
    exact table.keyed entry.1 entry.2 (Dict.mem_entries.mp isEntry)
  rw [keys]
  exact table.rows.keysNodup

theorem values_filter (table : Table Key Row key) (keep : Row → Bool) :
    (table.filter keep).values = table.values.filter keep :=
  Dict.values_filterValues keep table.rows

theorem ext_rows {first second : Table Key Row key}
    (same : first.rows = second.rows) : first = second := by
  obtain ⟨_, _⟩ := first
  obtain ⟨_, _⟩ := second
  cases same
  rfl

theorem filter_filter (first second : Row → Bool)
    (table : Table Key Row key) :
    (table.filter first).filter second =
      table.filter fun row => second row && first row :=
  ext_rows (Dict.filterValues_filterValues first second table.rows)

/-- A kept row may be written before or after the filter, unless it takes the
place of one that is not kept. -/
theorem filter_upsert {keep : Row → Bool} {table : Table Key Row key}
    {row : Row} (kept : keep row = true)
    (known : ∀ before, table.get? (key row) = some before →
      keep before = true) :
    (table.upsert row).filter keep = (table.filter keep).upsert row :=
  ext_rows (Dict.filterValues_set kept known)

/-- Writing a row that is not kept leaves what is kept, unless it takes the
place of a kept one. -/
theorem filter_upsert_of_dropped {keep : Row → Bool}
    {table : Table Key Row key} {row : Row} (dropped : keep row = false)
    (known : ∀ before, table.get? (key row) = some before →
      keep before = false) :
    (table.upsert row).filter keep = table.filter keep :=
  ext_rows (Dict.filterValues_set_of_dropped dropped known)

/-! ## Rows merged into the rows they meet -/

section Merge

variable {merge : Option Row → Row → Row}

/-- Merge a row into the row stored under its key. -/
def mergeRow (merge : Option Row → Row → Row) (table : Table Key Row key)
    (row : Row) : Table Key Row key :=
  table.upsert (merge (table.get? (key row)) row)

theorem get?_mergeRow (keeps : ∀ existing row, key (merge existing row) =
    key row) (table : Table Key Row key) (row : Row) (id : Key) :
    (table.mergeRow merge row).get? id =
      if id = key row then some (merge (table.get? id) row)
      else table.get? id := by
  rw [mergeRow, get?_upsert, keeps]
  split
  · next same => rw [same]
  · rfl

/-- Rows under distinct keys do not meet each other. -/
theorem get?_foldl_mergeRow
    (keeps : ∀ existing row, key (merge existing row) = key row)
    {rows : List Row} (distinct : (rows.map key).Nodup)
    (table : Table Key Row key) (id : Key) :
    (rows.foldl (mergeRow merge) table).get? id =
      match rows.find? (key · = id) with
      | some row => some (merge (table.get? id) row)
      | none => table.get? id := by
  induction rows generalizing table with
  | nil => rfl
  | cons row rows induction =>
      rw [List.map_cons, List.nodup_cons] at distinct
      rw [List.foldl_cons, induction distinct.2]
      by_cases same : key row = id
      · have noOther : rows.find? (key · = id) = none := by
          rw [List.find?_eq_none]
          intro other member sameKey
          have meets : key other = key row :=
            (of_decide_eq_true sameKey).trans same.symm
          exact distinct.1 (meets ▸ List.mem_map_of_mem member)
        rw [noOther, List.find?_cons_of_pos (by simpa using same)]
        simp only
        rw [get?_mergeRow keeps, if_pos same.symm]
      · rw [List.find?_cons_of_neg (by simpa using same),
          get?_mergeRow keeps, if_neg fun equal => same equal.symm]

variable {keep : Row → Bool} {rows : List Row}

/-- Rows that are kept, and meet rows that are, may be merged before or after
the filter. -/
theorem filter_foldl_mergeRow
    (keeps : ∀ existing row, key (merge existing row) = key row)
    (kept : ∀ row ∈ rows, ∀ existing,
      (∀ before, existing = some before → keep before = true) →
        keep (merge existing row) = true)
    {table : Table Key Row key}
    (known : ∀ row ∈ rows, ∀ before, table.get? (key row) = some before →
      keep before = true) :
    (rows.foldl (mergeRow merge) table).filter keep =
      rows.foldl (mergeRow merge) (table.filter keep) := by
  induction rows generalizing table with
  | nil => rfl
  | cons row rows induction =>
      have here := known row List.mem_cons_self
      have isKept := kept row List.mem_cons_self _ here
      have first : (table.mergeRow merge row).filter keep =
          (table.filter keep).mergeRow merge row := by
        rw [mergeRow, mergeRow, get?_filter_of_kept here]
        apply filter_upsert isKept
        rwa [keeps]
      rw [List.foldl_cons, List.foldl_cons, ← first]
      apply induction
      · exact fun other member =>
          kept other (List.mem_cons_of_mem row member)
      · intro other member before found
        rw [get?_mergeRow keeps] at found
        split at found
        · next meets =>
            cases found
            rwa [meets]
        · exact known other (List.mem_cons_of_mem row member) before found

/-- Rows that are not kept, and meet none that are, leave what is kept. -/
theorem filter_foldl_mergeRow_of_dropped
    (keeps : ∀ existing row, key (merge existing row) = key row)
    (dropped : ∀ row ∈ rows, ∀ existing,
      (∀ before, existing = some before → keep before = false) →
        keep (merge existing row) = false)
    {table : Table Key Row key}
    (known : ∀ row ∈ rows, ∀ before, table.get? (key row) = some before →
      keep before = false) :
    (rows.foldl (mergeRow merge) table).filter keep = table.filter keep := by
  induction rows generalizing table with
  | nil => rfl
  | cons row rows induction =>
      have here := known row List.mem_cons_self
      have isDropped := dropped row List.mem_cons_self _ here
      have first : (table.mergeRow merge row).filter keep =
          table.filter keep := by
        apply filter_upsert_of_dropped isDropped
        rwa [keeps]
      rw [List.foldl_cons, ← first]
      apply induction
      · exact fun other member =>
          dropped other (List.mem_cons_of_mem row member)
      · intro other member before found
        rw [get?_mergeRow keeps] at found
        split at found
        · next meets =>
            cases found
            rwa [meets]
        · exact known other (List.mem_cons_of_mem row member) before found

end Merge

end Table

end Foundation
