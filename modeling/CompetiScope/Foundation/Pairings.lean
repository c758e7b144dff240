import Mathlib.Algebra.BigOperators.Group.List.Basic
import Mathlib.Algebra.GroupWithZero.Nat
import Mathlib.Data.List.Forall2

/-!
# Lists that correspond item by item

Two lists correspond when they have the same length and each pair of items is
related.  What is counted or summed over one of them can be read off the other.
-/

namespace Foundation

open List

universe u v

variable {α : Type u} {β : Type v}

/-- Two relations between the same lists hold together. -/
theorem forall₂_and {first second : α → β → Prop} {left : List α}
    {right : List β} (firstHolds : Forall₂ first left right)
    (secondHolds : Forall₂ second left right) :
    Forall₂ (fun item other => first item other ∧ second item other)
      left right := by
  induction firstHolds with
  | nil => exact .nil
  | cons head _ induction =>
      cases secondHolds with
      | cons otherHead otherTail =>
          exact .cons ⟨head, otherHead⟩ (induction otherTail)

theorem exists_of_forall₂_left {related : α → β → Prop} {left : List α}
    {right : List β} (pairs : Forall₂ related left right) {item : α}
    (member : item ∈ left) : ∃ other ∈ right, related item other := by
  induction pairs with
  | nil => cases member
  | @cons head other _ _ headRelated _ induction =>
      rcases List.mem_cons.mp member with rfl | later
      · exact ⟨other, List.mem_cons_self, headRelated⟩
      · obtain ⟨found, isOther, foundRelated⟩ := induction later
        exact ⟨found, List.mem_cons_of_mem other isOther, foundRelated⟩

theorem exists_of_forall₂_right {related : α → β → Prop} {left : List α}
    {right : List β} (pairs : Forall₂ related left right) {other : β}
    (member : other ∈ right) : ∃ item ∈ left, related item other := by
  have flipped : Forall₂ (fun other item => related item other) right left :=
    pairs.flip
  exact exists_of_forall₂_left flipped member

/-- Items are counted on either side when the tests agree. -/
theorem countP_eq_of_forall₂ {test : α → Bool} {otherTest : β → Bool}
    {left : List α} {right : List β}
    (pairs : Forall₂ (fun item other => test item = otherTest other)
      left right) :
    left.countP test = right.countP otherTest := by
  induction pairs with
  | nil => rfl
  | cons same _ induction =>
      rw [List.countP_cons, List.countP_cons, induction, same]

theorem sum_le_of_forall₂ {weight : α → Nat} {otherWeight : β → Nat}
    {left : List α} {right : List β}
    (below : Forall₂ (fun item other => otherWeight other ≤ weight item)
      left right) :
    (right.map otherWeight).sum ≤ (left.map weight).sum := by
  induction below with
  | nil => exact Nat.le_refl 0
  | cons smaller _ induction =>
      simp only [List.map_cons, List.sum_cons]
      omega

/-- Where one side never counts more, the sums agree only if every pair
does. -/
theorem sum_eq_iff_of_forall₂ {weight : α → Nat} {otherWeight : β → Nat}
    {left : List α} {right : List β}
    (below : Forall₂ (fun item other => otherWeight other ≤ weight item)
      left right) :
    (left.map weight).sum = (right.map otherWeight).sum ↔
      Forall₂ (fun item other => weight item = otherWeight other)
        left right := by
  induction below with
  | nil => simp
  | cons smaller rest induction =>
      have tails := sum_le_of_forall₂ rest
      rw [List.forall₂_cons, ← induction, List.map_cons, List.map_cons,
        List.sum_cons, List.sum_cons]
      omega

/-- The items of a list have names that their places determine. -/
theorem nodup_map_of_numbered {name : α → β} {names : Nat → Set β}
    {items : List α} {start : Nat}
    (disjoint : ∀ first second value,
      value ∈ names first → value ∈ names second → first = second)
    (numbered : ∀ place item, items[place]? = some item →
      name item ∈ names (start + place)) :
    (items.map name).Nodup := by
  rw [List.Nodup, List.pairwise_iff_getElem]
  intro first second firstBound secondBound before same
  rw [List.length_map] at firstBound secondBound
  rw [List.getElem_map, List.getElem_map] at same
  have firstItem := List.getElem?_eq_getElem firstBound
  have secondItem := List.getElem?_eq_getElem secondBound
  have firstNamed := numbered first _ firstItem
  rw [same] at firstNamed
  have together := disjoint _ _ _ firstNamed (numbered second _ secondItem)
  omega

end Foundation
