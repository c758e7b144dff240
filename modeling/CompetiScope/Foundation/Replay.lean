import Mathlib.Data.List.Basic
import CompetiScope.Foundation.Table

/-!
# Folds that may be replayed

A list of rows is folded into a state once or twice with the same result.  Two
kinds of step allow it: a step that overwrites what it has a value for, and a
step that leaves a state alone which has absorbed its row.  A record is
replayed field by field, a table row by row and a dictionary key by key.
-/

namespace Foundation

section Folds

variable {State Row Part : Type*}

/-- Folding the rows in again changes nothing. -/
def Replays (step : State → Row → State) (rows : List Row) : Prop :=
  ∀ start, rows.foldl step (rows.foldl step start) = rows.foldl step start

private theorem foldl_overwrite {step : State → Row → State}
    {chosen : Row → Option State}
    (overwrites : ∀ state row, step state row = (chosen row).getD state)
    (rows : List Row) (start : State) :
    rows.foldl step start = ((rows.filterMap chosen).getLast?).getD start := by
  induction rows generalizing start with
  | nil => rfl
  | cons row rows induction =>
      rw [List.foldl_cons, induction, overwrites]
      cases isChosen : chosen row with
      | none => rw [List.filterMap_cons_none isChosen, Option.getD_none]
      | some value =>
          rw [List.filterMap_cons_some isChosen, Option.getD_some,
            List.getLast?_cons, Option.getD_some]

/-- A step that overwrites may be replayed. -/
theorem replays_of_overwrites {step : State → Row → State}
    (chosen : Row → Option State)
    (overwrites : ∀ state row, step state row = (chosen row).getD state)
    (rows : List Row) : Replays step rows := by
  intro start
  rw [foldl_overwrite overwrites, foldl_overwrite overwrites]
  cases (rows.filterMap chosen).getLast? with
  | none => rfl
  | some value => rfl

private theorem foldl_absorbed {step : State → Row → State}
    {rows : List Row} {state : State}
    (absorbed : ∀ row ∈ rows, step state row = state) :
    rows.foldl step state = state := by
  induction rows with
  | nil => rfl
  | cons row rows induction =>
      rw [List.foldl_cons, absorbed row List.mem_cons_self]
      exact induction fun other member =>
        absorbed other (List.mem_cons_of_mem row member)

private theorem absorbed_after {step : State → Row → State}
    {rows suffix : List Row} (within : ∀ row ∈ suffix, row ∈ rows)
    (absorbs : ∀ state, ∀ row ∈ rows, step (step state row) row =
      step state row)
    (keeps : ∀ state, ∀ row ∈ rows, ∀ other ∈ rows, step state row = state →
      step (step state other) row = step state other)
    {state : State} {row : Row} (member : row ∈ rows)
    (known : row ∈ suffix ∨ step state row = state) :
    step (suffix.foldl step state) row = suffix.foldl step state := by
  induction suffix generalizing state with
  | nil =>
      rcases known with inside | absorbed
      · cases inside
      · exact absorbed
  | cons head tail induction =>
      have isHead := within head List.mem_cons_self
      apply induction fun other inside =>
        within other (List.mem_cons_of_mem head inside)
      rcases known with inside | absorbed
      · rcases List.mem_cons.mp inside with rfl | later
        · exact .inr (absorbs state row member)
        · exact .inl later
      · exact .inr (keeps state row member head isHead absorbed)

/-- A step that absorbs its row, and leaves absorbed what was, may be
replayed. -/
theorem replays_of_absorbs {step : State → Row → State} {rows : List Row}
    (absorbs : ∀ state, ∀ row ∈ rows, step (step state row) row =
      step state row)
    (keeps : ∀ state, ∀ row ∈ rows, ∀ other ∈ rows, step state row = state →
      step (step state other) row = step state other) :
    Replays step rows := by
  intro start
  apply foldl_absorbed
  intro row member
  exact absorbed_after (fun _ inside => inside) absorbs keeps member
    (.inl member)

/-- A part of the state that is folded for itself is replayed for itself. -/
theorem foldl_part {step : State → Row → State} (part : State → Part)
    (partStep : Part → Row → Part) {rows : List Row}
    (commutes : ∀ state row, part (step state row) = partStep (part state) row)
    (replays : Replays partStep rows) (start : State) :
    part (rows.foldl step (rows.foldl step start)) =
      part (rows.foldl step start) := by
  have folded : ∀ state,
      part (rows.foldl step state) = rows.foldl partStep (part state) := by
    intro state
    exact (List.foldl_hom part fun state row => (commutes state row).symm).symm
  rw [folded, folded, replays]

end Folds

/-! ## Dictionaries -/

namespace Dict

variable {Key Value Row : Type*} [DecidableEq Key]

/-- What `set` does to the keys. -/
def addKey (keys : List Key) (key : Key) : List Key :=
  if key ∈ keys then keys else keys ++ [key]

theorem keys_set (dict : Dict Key Value) (key : Key) (value : Value) :
    (dict.set key value).keys = addKey dict.keys key := by
  by_cases present : key ∈ dict.keys
  · rw [addKey, if_pos present, keys_set_of_mem present]
  · rw [addKey, if_neg present, set, dif_neg present, keys]
    simp [keys]

theorem keys_update (first second : Dict Key Value) :
    (first.update second).keys = second.keys.foldl addKey first.keys := by
  have added : second.keys.foldl addKey first.keys =
      second.entries.foldl (fun keys entry => addKey keys entry.1)
        first.keys :=
    List.foldl_map
  rw [added]
  exact (List.foldl_hom (Dict.keys) fun dict entry =>
    (keys_set dict entry.1 entry.2).symm).symm

private theorem mem_foldl_addKey {keys added : List Key} {key : Key} :
    key ∈ added.foldl addKey keys ↔ key ∈ keys ∨ key ∈ added := by
  induction added generalizing keys with
  | nil => simp
  | cons head tail induction =>
      rw [List.foldl_cons, induction, addKey, List.mem_cons]
      split
      · next present =>
          constructor
          · rintro (old | later)
            · exact .inl old
            · exact .inr (.inr later)
          · rintro (old | rfl | later)
            · exact .inl old
            · exact .inl present
            · exact .inr later
      · rw [List.mem_append, List.mem_singleton, or_assoc]

private theorem foldl_addKey_eq_self {keys added : List Key} :
    added.foldl addKey keys = keys ↔ ∀ key ∈ added, key ∈ keys := by
  constructor
  · intro same key member
    rw [← same]
    exact mem_foldl_addKey.mpr (.inr member)
  · intro present
    apply foldl_absorbed
    intro key member
    rw [addKey, if_pos (present key member)]

theorem addKeys_replays (added : Row → List Key) (rows : List Row) :
    Replays (fun keys row => (added row).foldl addKey keys) rows := by
  apply replays_of_absorbs
  · intro keys row _
    rw [foldl_addKey_eq_self]
    intro key member
    exact mem_foldl_addKey.mpr (.inr member)
  · intro keys row _ other _ absorbed
    rw [foldl_addKey_eq_self] at absorbed ⊢
    intro key member
    exact mem_foldl_addKey.mpr (.inl (absorbed key member))

@[simp] theorem update_self (dict : Dict Key Value) :
    dict.update dict = dict := by
  apply ext_get?
  · rw [keys_update]
    exact foldl_addKey_eq_self.mpr fun _ member => member
  · intro key
    rw [get?_update]
    exact Option.or_self

/-- A value that is set last may be set in the second dictionary. -/
theorem set_update (first second : Dict Key Value) (key : Key)
    (value : Value) :
    (first.update second).set key value =
      first.update (second.set key value) := by
  apply ext_get?
  · rw [keys_set, keys_update, keys_update, keys_set]
    by_cases present : key ∈ second.keys
    · have added : key ∈ second.keys.foldl addKey first.keys :=
        mem_foldl_addKey.mpr (.inr present)
      rw [addKey, if_pos added, addKey, if_pos present]
    · have last : addKey second.keys key = second.keys ++ [key] := by
        rw [addKey, if_neg present]
      rw [last, List.foldl_append]
      rfl
  · intro other
    rw [get?_set, get?_update, get?_update, get?_set]
    split
    · rfl
    · rfl

/-- Updates may be replayed. -/
theorem update_replays (values : Row → Dict Key Value) (rows : List Row) :
    Replays (fun (dict : Dict Key Value) row => dict.update (values row))
      rows := by
  intro start
  apply ext_get?
  · exact foldl_part Dict.keys _
      (fun dict row => keys_update dict (values row))
      (addKeys_replays (fun row => (values row).keys) rows) start
  · intro key
    refine foldl_part (fun dict : Dict Key Value => dict.get? key)
      (fun found row => ((values row).get? key).or found)
      (fun dict row => get?_update dict (values row) key) ?_ start
    apply replays_of_overwrites fun row => ((values row).get? key).map some
    intro found row
    cases (values row).get? key with
    | none => rfl
    | some value => rfl

end Dict

/-! ## Tables -/

namespace Table

variable {Key Row : Type*} [DecidableEq Key] {key : Row → Key}
  {merge : Option Row → Row → Row}

theorem ext_get? {first second : Table Key Row key}
    (sameKeys : first.rows.keys = second.rows.keys)
    (same : ∀ id, first.get? id = second.get? id) : first = second :=
  ext_rows (Dict.ext_get? sameKeys same)

/-- What is merged into the row of a key. -/
def mergeFound (merge : Option Row → Row → Row) (found : Option Row)
    (row : Row) : Option Row :=
  some (merge found row)

/-- A new row is what it becomes when it is merged into itself. -/
theorem mergeFound_replays {mergeKnown : Row → Row → Row}
    (known : ∀ found row, merge (some found) row = mergeKnown found row)
    (isNew : ∀ row, merge none row = mergeKnown row row)
    {rows : List Row} (replays : Replays mergeKnown rows) :
    Replays (mergeFound merge) rows := by
  have ofSome : ∀ found : Row,
      rows.foldl (mergeFound merge) (some found) =
        some (rows.foldl mergeKnown found) :=
    fun found => List.foldl_hom some fun found row =>
      congrArg some (known found row)
  have atSome : ∀ found : Row,
      rows.foldl (mergeFound merge)
          (rows.foldl (mergeFound merge) (some found)) =
        rows.foldl (mergeFound merge) (some found) := by
    intro found
    rw [ofSome, ofSome, replays]
  intro start
  cases start with
  | some found => exact atSome found
  | none =>
      cases rows with
      | nil => rfl
      | cons row rows =>
          have same : mergeFound merge none row =
              mergeFound merge (some row) row :=
            congrArg some ((isNew row).trans (known row row).symm)
          have first : (row :: rows).foldl (mergeFound merge) none =
              (row :: rows).foldl (mergeFound merge) (some row) := by
            rw [List.foldl_cons, List.foldl_cons, same]
          rw [first]
          exact atSome row

/-- The rows of a key meet each other and no other row. -/
theorem get?_foldl_mergeRow_filter
    (keeps : ∀ existing row, key (merge existing row) = key row)
    (rows : List Row) (table : Table Key Row key) (id : Key) :
    (rows.foldl (mergeRow merge) table).get? id =
      (rows.filter (key · = id)).foldl (mergeFound merge)
        (table.get? id) := by
  induction rows generalizing table with
  | nil => rfl
  | cons row rows induction =>
      rw [List.foldl_cons, induction, get?_mergeRow keeps]
      by_cases same : key row = id
      · rw [if_pos same.symm, List.filter_cons_of_pos (by simpa using same)]
        rfl
      · rw [if_neg fun equal => same equal.symm,
          List.filter_cons_of_neg (by simpa using same)]

theorem keys_foldl_mergeRow
    (keeps : ∀ existing row, key (merge existing row) = key row)
    (rows : List Row) (table : Table Key Row key) :
    (rows.foldl (mergeRow merge) table).rows.keys =
      (rows.map key).foldl Dict.addKey table.rows.keys := by
  rw [List.foldl_map]
  refine (List.foldl_hom (fun table : Table Key Row key => table.rows.keys)
    fun table row => ?_).symm
  rw [mergeRow, upsert, Dict.keys_set, keeps]

/-- Rows may be merged again when those of every key may. -/
theorem mergeRow_replays
    (keeps : ∀ existing row, key (merge existing row) = key row)
    {rows : List Row}
    (each : ∀ id, Replays (mergeFound merge) (rows.filter (key · = id))) :
    Replays (fun (table : Table Key Row key) row =>
      table.mergeRow merge row) rows := by
  intro table
  apply ext_get?
  · refine foldl_part
      (fun table : Table Key Row key => table.rows.keys)
      (fun keys row => [key row].foldl Dict.addKey keys)
      ?_ (Dict.addKeys_replays (fun row => [key row]) rows) table
    intro table row
    exact keys_foldl_mergeRow keeps [row] table
  · intro id
    rw [get?_foldl_mergeRow_filter keeps, get?_foldl_mergeRow_filter keeps,
      each id]

/-- Rows that replace what they meet may be merged again. -/
theorem upsert_replays (rows : List Row) :
    Replays (fun (table : Table Key Row key) row => table.upsert row)
      rows := by
  refine mergeRow_replays (fun _ _ => rfl) ?_
  intro id
  exact replays_of_overwrites (fun row => some (some row))
    (fun _ _ => rfl) _

end Table

end Foundation
