import Mathlib.Data.List.Basic

/-!
# Slices of a list

A list cut at ascending places: the slices put together again are the list,
and they begin where it was cut.
-/

namespace Foundation

variable {α : Type*}

/-- `values[start:stop]`. -/
def slice (values : List α) (start stop : Nat) : List α :=
  (values.take stop).drop start

/-- The slices from each start to the next one, the last one up to `stop`. -/
def slicesAt (values : List α) (stop : Nat) : List Nat → List (List α)
  | [] => []
  | start :: starts =>
      slice values start (starts.head?.getD stop) ::
        slicesAt values stop starts

/-- The places where pieces begin that follow each other from a place on. -/
def startsFrom (place : Nat) : List (List α) → List Nat
  | [] => []
  | piece :: pieces => place :: startsFrom (place + piece.length) pieces

theorem slice_append_slice (values : List α) {start middle stop : Nat}
    (first : start ≤ middle) (second : middle ≤ stop) :
    slice values start middle ++ slice values middle stop =
      slice values start stop := by
  have front : values.take middle = (values.take stop).take middle := by
    rw [List.take_take, Nat.min_eq_left second]
  unfold slice
  rw [front]
  generalize values.take stop = front
  have back : front.drop middle = (front.drop start).drop (middle - start) := by
    rw [List.drop_drop, Nat.add_sub_cancel' first]
  rw [List.drop_take, back, List.take_append_drop]

theorem length_slice (values : List α) {start stop : Nat}
    (inside : stop ≤ values.length) :
    (slice values start stop).length = stop - start := by
  unfold slice
  rw [List.length_drop, List.length_take, Nat.min_eq_left inside]

/-- Every start is followed by an end that is not before it. -/
theorem le_headD_of_ascending {start stop : Nat} {starts : List Nat}
    (ascending : (start :: starts).Pairwise (· ≤ ·))
    (inside : ∀ place ∈ start :: starts, place ≤ stop) :
    start ≤ starts.head?.getD stop ∧ starts.head?.getD stop ≤ stop := by
  cases starts with
  | nil => exact ⟨inside start List.mem_cons_self, Nat.le_refl stop⟩
  | cons next starts =>
      exact ⟨(List.pairwise_cons.mp ascending).1 next List.mem_cons_self,
        inside next (List.mem_cons_of_mem _ List.mem_cons_self)⟩

theorem flatten_slicesAt (values : List α) {stop : Nat} (starts : List Nat)
    (ascending : starts.Pairwise (· ≤ ·))
    (inside : ∀ place ∈ starts, place ≤ stop) :
    (slicesAt values stop starts).flatten =
      slice values (starts.head?.getD stop) stop := by
  induction starts with
  | nil =>
      symm
      unfold slice
      rw [List.head?_nil, Option.getD_none]
      exact List.drop_eq_nil_of_le (List.length_take_le stop values)
  | cons start starts induction =>
      obtain ⟨first, second⟩ := le_headD_of_ascending ascending inside
      rw [slicesAt, List.flatten_cons,
        induction (List.pairwise_cons.mp ascending).2
          (fun place member => inside place (List.mem_cons_of_mem _ member)),
        slice_append_slice values first second]
      rfl

/-- A list cut at ascending places, put together again. -/
theorem take_append_flatten_slicesAt (values : List α) {stop : Nat}
    {starts : List Nat} (ascending : starts.Pairwise (· ≤ ·))
    (inside : ∀ place ∈ starts, place ≤ stop) :
    values.take (starts.head?.getD stop) ++
        (slicesAt values stop starts).flatten =
      values.take stop := by
  rw [flatten_slicesAt values starts ascending inside]
  have notBeyond : starts.head?.getD stop ≤ stop := by
    cases starts with
    | nil => exact Nat.le_refl stop
    | cons start starts => exact inside start List.mem_cons_self
  exact slice_append_slice values (Nat.zero_le _) notBeyond

theorem startsFrom_slicesAt (values : List α) {stop : Nat}
    (starts : List Nat) (ascending : starts.Pairwise (· ≤ ·))
    (inside : ∀ place ∈ starts, place ≤ stop)
    (withinValues : stop ≤ values.length) :
    startsFrom (starts.head?.getD stop) (slicesAt values stop starts) =
      starts := by
  induction starts with
  | nil => rfl
  | cons start starts induction =>
      obtain ⟨first, second⟩ := le_headD_of_ascending ascending inside
      have later := induction (List.pairwise_cons.mp ascending).2
        (fun place member => inside place (List.mem_cons_of_mem _ member))
      have next : start + (starts.head?.getD stop - start) =
          starts.head?.getD stop := by
        omega
      rw [slicesAt, startsFrom,
        length_slice values (Nat.le_trans second withinValues),
        List.head?_cons, Option.getD_some, next, later]

end Foundation
