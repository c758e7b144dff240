import Mathlib.Data.List.Nodup

/-!
# Rows, unique indexes and transactions

A table is its rows in the order of their insertion.  A unique index covers
the rows that have a key.  A transaction either writes what its body made of
the tables or leaves them alone.
-/

namespace Foundation

variable {Row Key State Error Result : Type*}

/-! ## Updates -/

/-- `UPDATE` of the rows a clause selects. -/
def updateRows (selects : Row → Bool) (write : Row → Row)
    (rows : List Row) : List Row :=
  rows.map fun row => if selects row then write row else row

theorem mem_updateRows {selects : Row → Bool} {write : Row → Row}
    {rows : List Row} {row : Row} :
    row ∈ updateRows selects write rows ↔
      (∃ old ∈ rows, selects old = true ∧ write old = row) ∨
        row ∈ rows ∧ selects row = false := by
  rw [updateRows, List.mem_map]
  constructor
  · rintro ⟨old, member, rfl⟩
    by_cases selected : selects old = true
    · rw [if_pos selected]
      exact .inl ⟨old, member, selected, rfl⟩
    · rw [if_neg selected]
      exact .inr ⟨member, Bool.eq_false_iff.mpr selected⟩
  · rintro (⟨old, member, selected, rfl⟩ | ⟨member, kept⟩)
    · exact ⟨old, member, if_pos selected⟩
    · exact ⟨row, member, if_neg (Bool.eq_false_iff.mp kept)⟩

/-- A column an update does not write stays. -/
theorem map_updateRows {selects : Row → Bool} {write : Row → Row}
    {column : Row → Key} (kept : ∀ row, column (write row) = column row)
    (rows : List Row) :
    (updateRows selects write rows).map column = rows.map column := by
  rw [updateRows, List.map_map]
  apply List.map_congr_left
  intro row _
  rw [Function.comp_apply]
  split
  · exact kept row
  · rfl

/-! ## Unique indexes -/

/-- No two rows have the same key; a row without a key is not covered. -/
def UniqueOn (index : Row → Option Key) (rows : List Row) : Prop :=
  (rows.filterMap index).Nodup

instance [DecidableEq Key] (index : Row → Option Key) (rows : List Row) :
    Decidable (UniqueOn index rows) :=
  inferInstanceAs (Decidable (List.Nodup _))

theorem UniqueOn.eq_of_mem {index : Row → Option Key} {rows : List Row}
    (unique : UniqueOn index rows) {first second : Row} {key : Key}
    (firstMember : first ∈ rows) (secondMember : second ∈ rows)
    (firstKey : index first = some key)
    (secondKey : index second = some key) : first = second := by
  unfold UniqueOn at unique
  induction rows with
  | nil => cases firstMember
  | cons row rows induction =>
      rw [List.filterMap_cons] at unique
      have rest : (rows.filterMap index).Nodup := by
        cases here : index row with
        | none =>
            rw [here] at unique
            exact unique
        | some other =>
            rw [here] at unique
            exact (List.nodup_cons.mp unique).2
      have alone : ∀ other ∈ rows, index row = some key →
          index other ≠ some key := by
        intro other member isKey otherKey
        rw [isKey] at unique
        exact (List.nodup_cons.mp unique).1
          (List.mem_filterMap.mpr ⟨other, member, otherKey⟩)
      rcases List.mem_cons.mp firstMember with rfl | firstLater
      · rcases List.mem_cons.mp secondMember with rfl | secondLater
        · rfl
        · exact (alone second secondLater firstKey secondKey).elim
      · rcases List.mem_cons.mp secondMember with rfl | secondLater
        · exact (alone first firstLater secondKey firstKey).elim
        · exact induction rest firstLater secondLater

/-! ## Transactions -/

/-- The state a body leaves is kept if the body succeeds and the commit does
too. -/
def transaction (commitError : Option Error)
    (body : State → Except Error (Result × State)) (state : State) :
    Except Error Result × State :=
  match body state, commitError with
  | .error error, _ => (.error error, state)
  | .ok _, some error => (.error error, state)
  | .ok (result, next), none => (.ok result, next)

/-- A transaction that fails leaves the state as it was. -/
theorem transaction_of_error {commitError : Option Error}
    {body : State → Except Error (Result × State)} {state : State}
    {error : Error}
    (failed : (transaction commitError body state).1 = .error error) :
    (transaction commitError body state).2 = state := by
  unfold transaction at failed ⊢
  cases made : body state with
  | error error => rfl
  | ok made =>
      cases commitError with
      | some error => rfl
      | none =>
          rw [made] at failed
          cases failed

/-- What a transaction leaves is the state before it or the one its body
made. -/
theorem transaction_cases {commitError : Option Error}
    {body : State → Except Error (Result × State)} (state : State) :
    (∃ error, transaction commitError body state = (.error error, state)) ∨
      ∃ result next, body state = .ok (result, next) ∧
        transaction commitError body state = (.ok result, next) := by
  unfold transaction
  cases body state with
  | error error => exact .inl ⟨error, rfl⟩
  | ok made =>
      cases commitError with
      | some error => exact .inl ⟨error, rfl⟩
      | none => exact .inr ⟨made.1, made.2, rfl, rfl⟩

end Foundation
