import Mathlib.Data.List.Induction
import Mathlib.Data.List.Nodup
import Mathlib.Data.List.Perm.Subperm
import Mathlib.Order.Lattice

/-!
# Selections from a list

Two ways to select: the best remaining item again and again, and first one
item of every group and then more of the groups that are there already.
Neither loses an item or has one twice.
-/

namespace Foundation

variable {α κ Value : Type*}

theorem map_subperm {β : Type*} (function : α → β) {part whole : List α}
    (selects : part.Subperm whole) :
    (part.map function).Subperm (whole.map function) := by
  obtain ⟨inOrder, perm, sublist⟩ := selects
  exact ⟨inOrder.map function, perm.map function, sublist.map function⟩

theorem filterMap_range (values : List α) :
    (List.range values.length).filterMap (values[·]?) = values := by
  induction values using List.reverseRecOn with
  | nil => rfl
  | append_singleton values value induction =>
      rw [List.length_append, List.length_singleton, List.range_succ,
        List.filterMap_append]
      have front : (List.range values.length).filterMap
          ((values ++ [value])[·]?) =
          (List.range values.length).filterMap (values[·]?) := by
        apply List.filterMap_congr
        intro index member
        exact List.getElem?_append_left (List.mem_range.mp member)
      have last : [values.length].filterMap ((values ++ [value])[·]?) =
          [value] := by
        simp
      rw [front, last, induction]

/-! ## The best of what remains -/

section Best

variable [LinearOrder Value]

/-- `max(items, key=score)`: the first of the greatest ones. -/
def firstBest (score : α → Value) (best : α) : List α → α
  | [] => best
  | item :: items =>
      if score best < score item then firstBest score item items
      else firstBest score best items

theorem firstBest_mem (score : α → Value) (best : α) (items : List α) :
    firstBest score best items ∈ best :: items := by
  induction items generalizing best with
  | nil => exact List.mem_singleton_self best
  | cons item items induction =>
      rw [firstBest]
      split
      · exact List.mem_cons_of_mem _ (induction item)
      · rcases List.mem_cons.mp (induction best) with same | later
        · rw [same]
          exact List.mem_cons_self
        · exact List.mem_cons_of_mem _ (List.mem_cons_of_mem _ later)

variable [DecidableEq α]

/-- Takes the best remaining item for a number of steps; the score may depend
on what has been selected. -/
def selectBest (score : List α → α → Value) :
    Nat → List α → List α → List α × List α
  | 0, selected, remaining => (selected, remaining)
  | _ + 1, selected, [] => (selected, [])
  | steps + 1, selected, first :: rest =>
      let best := firstBest (score selected) first rest
      selectBest score steps (selected ++ [best]) ((first :: rest).erase best)

theorem selectBest_perm (score : List α → α → Value) (steps : Nat)
    (selected remaining : List α) :
    ((selectBest score steps selected remaining).1 ++
      (selectBest score steps selected remaining).2).Perm
        (selected ++ remaining) := by
  induction steps generalizing selected remaining with
  | zero => exact List.Perm.refl _
  | succ steps induction =>
      cases remaining with
      | nil => exact List.Perm.refl _
      | cons first rest =>
          have taken := List.perm_cons_erase
            (firstBest_mem (score selected) first rest)
          apply (induction _ _).trans
          rw [List.append_assoc, List.singleton_append]
          exact taken.symm.append_left selected

end Best

/-! ## One of every group first -/

section Spread

variable [DecidableEq κ]

/-- Selects the first item of every group until the limit is reached, and
then fills up with the items that were passed by. -/
def spread (key : α → κ) (limit : Nat) (selected passed : List α)
    (seen : List κ) : List α → List α
  | [] => (selected ++ passed.take (limit - selected.length)).take limit
  | item :: items =>
      if key item ∈ seen then
        spread key limit selected (passed ++ [item]) seen items
      else if limit ≤ (selected ++ [item]).length then selected ++ [item]
      else
        spread key limit (selected ++ [item]) passed (key item :: seen) items

/-- No item twice, as many as there may be, and no second item of a group
while a group has none. -/
structure Spreads (key : α → κ) (limit : Nat) (items result : List α) :
    Prop where
  selects : result.Subperm items
  length_eq : result.length = min limit items.length
  fair : ¬ (result.map key).Nodup →
    ∀ item ∈ items, key item ∈ result.map key

theorem spread_spreads {key : α → κ} {limit : Nat}
    {selected passed : List α} {seen : List κ} (items : List α)
    (room : selected.length < limit)
    (distinct : (selected.map key).Nodup)
    (seenIs : ∀ value, value ∈ seen ↔ value ∈ selected.map key)
    (known : ∀ item ∈ passed, key item ∈ selected.map key) :
    Spreads key limit (selected ++ passed ++ items)
      (spread key limit selected passed seen items) := by
  induction items generalizing selected passed seen with
  | nil =>
      have short : (selected ++
          passed.take (limit - selected.length)).length ≤ limit := by
        rw [List.length_append, List.length_take]
        omega
      rw [spread, List.take_of_length_le short, List.append_nil]
      constructor
      case selects =>
        apply List.Sublist.subperm
        exact List.Sublist.append_left (List.take_sublist _ _) selected
      case length_eq =>
        rw [List.length_append, List.length_append, List.length_take]
        omega
      case fair =>
        intro _ item member
        rw [List.map_append, List.mem_append]
        left
        rcases List.mem_append.mp member with isSelected | isPassed
        · exact List.mem_map_of_mem isSelected
        · exact known item isPassed
  | cons item items induction =>
      rw [spread]
      split
      case isTrue again =>
        have whole : selected ++ passed ++ item :: items =
            selected ++ (passed ++ [item]) ++ items := by
          simp only [List.append_assoc, List.singleton_append]
        rw [whole]
        apply induction room distinct seenIs
        intro other member
        rcases List.mem_append.mp member with before | isItem
        · exact known other before
        · rw [List.mem_singleton.mp isItem]
          exact (seenIs _).mp again
      case isFalse fresh =>
        have isNew : key item ∉ selected.map key :=
          fun old => fresh ((seenIs _).mpr old)
        have more : ((selected ++ [item]).map key).Nodup := by
          rw [List.map_append, List.map_singleton]
          apply List.Nodup.append distinct (List.nodup_singleton _)
          exact List.disjoint_singleton.mpr isNew
        have perm : (selected ++ [item] ++ passed ++ items).Perm
            (selected ++ passed ++ item :: items) := by
          simp only [List.append_assoc]
          apply List.Perm.append_left
          have middle : (passed ++ item :: items).Perm
              (item :: (passed ++ items)) := List.perm_middle
          exact middle.symm
        split
        case isTrue full =>
          rw [List.length_append, List.length_singleton] at full
          constructor
          case selects =>
            apply List.Subperm.trans _ perm.subperm
            apply List.Sublist.subperm
            rw [List.append_assoc]
            exact List.sublist_append_left _ _
          case length_eq =>
            simp only [List.length_append, List.length_cons, List.length_nil]
            omega
          case fair =>
            intro twice
            exact absurd more twice
        case isFalse notFull =>
          have spreads := @induction (selected ++ [item]) passed
            (key item :: seen) (by omega) more
            (by
              intro value
              rw [List.mem_cons, seenIs, List.map_append, List.mem_append,
                List.map_singleton, List.mem_singleton, or_comm])
            (by
              intro other member
              rw [List.map_append]
              exact List.mem_append_left _ (known other member))
          constructor
          case selects => exact spreads.selects.trans perm.subperm
          case length_eq => rw [spreads.length_eq, perm.length_eq]
          case fair =>
            intro twice other member
            exact spreads.fair twice other (perm.mem_iff.mpr member)

end Spread

end Foundation
