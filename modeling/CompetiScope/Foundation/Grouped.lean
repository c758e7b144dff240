import CompetiScope.Foundation.Collections
import Mathlib.Algebra.Order.Monoid.Defs
import Mathlib.Data.List.Perm.Lattice
import Mathlib.Data.List.Sort

/-!
# Groups by a key

The values of a list under their keys, in the order in which the keys come
first.  Each value is in the group of its key and in no other, and a shuffled
list has the same groups up to order.  What is read of a group is read of its
values as a set.
-/

namespace Foundation

universe u v

variable {α : Type u} {κ : Type v} [DecidableEq κ]

variable {key : α → κ} {values : List α}

/-! ## The greatest value -/

theorem foldl_max_le_iff {β : Type*} [LinearOrder β] {values : List β}
    {start value : β} :
    values.foldl max start ≤ value ↔
      start ≤ value ∧ ∀ other ∈ values, other ≤ value := by
  induction values generalizing start with
  | nil => simp
  | cons head values induction =>
      rw [List.foldl_cons, induction, sup_le_iff, List.forall_mem_cons,
        and_assoc]

end Foundation
