import Mathlib.Data.List.Basic

/-!
# Picking items until a limit is reached

A list is gone through once; an item is picked when it is admitted next to
those picked before it.
-/

namespace Foundation

variable {α : Type*}

def pickUntil (limit : Nat) (admits : List α → α → Bool) (picked : List α) :
    List α → List α
  | [] => picked
  | item :: items =>
      if admits picked item then
        if limit ≤ picked.length + 1 then picked ++ [item]
        else pickUntil limit admits (picked ++ [item]) items
      else pickUntil limit admits picked items

section Rules

variable {limit : Nat} {admits : List α → α → Bool} {picked items : List α}

/-- What every admitted item preserves holds of the picked items. -/
theorem pickUntil_invariant {holds : List α → Prop}
    (preserved : ∀ picked, ∀ item ∈ items, holds picked →
      admits picked item = true → holds (picked ++ [item]))
    (start : holds picked) : holds (pickUntil limit admits picked items) := by
  induction items generalizing picked with
  | nil => exact start
  | cons item items induction =>
      have later : ∀ picked, ∀ other ∈ items, holds picked →
          admits picked other = true → holds (picked ++ [other]) :=
        fun picked other member =>
          preserved picked other (List.mem_cons_of_mem item member)
      unfold pickUntil
      split
      · next admitted =>
          have grown := preserved picked item List.mem_cons_self start admitted
          split
          · exact grown
          · exact induction later grown
      · exact induction later start

theorem pickUntil_length_le (room : picked.length < limit) :
    (pickUntil limit admits picked items).length ≤ limit := by
  induction items generalizing picked with
  | nil => exact Nat.le_of_lt room
  | cons item items induction =>
      unfold pickUntil
      split
      · split
        · rw [List.length_append, List.length_singleton]
          exact room
        · apply induction
          rw [List.length_append, List.length_singleton]
          omega
      · exact induction room

theorem prefix_pickUntil :
    picked <+: pickUntil limit admits picked items := by
  refine @pickUntil_invariant _ _ _ _ _ (fun others => picked <+: others) ?_ ?_
  · intro others item member start admitted
    exact start.trans (List.prefix_append others [item])
  · exact List.prefix_rfl

theorem mem_pickUntil {value : α}
    (member : value ∈ pickUntil limit admits picked items) :
    value ∈ picked ∨ value ∈ items := by
  revert member
  refine @pickUntil_invariant _ _ _ _ _
    (fun others => value ∈ others → value ∈ picked ∨ value ∈ items) ?_ ?_
  · intro others item inItems start admitted member
    rcases List.mem_append.mp member with before | last
    · exact start before
    · rw [List.mem_singleton.mp last]
      exact Or.inr inItems
  · exact Or.inl

/-- Items that are never admitted may be left out. -/
theorem pickUntil_filter {keep : α → Bool} {holds : List α → Prop}
    (needed : ∀ picked item, holds picked → admits picked item = true →
      keep item = true)
    (preserved : ∀ picked item, holds picked → holds (picked ++ [item]))
    (start : holds picked) :
    pickUntil limit admits picked items =
      pickUntil limit admits picked (items.filter keep) := by
  induction items generalizing picked with
  | nil => rfl
  | cons item items induction =>
      by_cases admitted : admits picked item = true
      · have kept := needed picked item start admitted
        rw [List.filter_cons_of_pos kept, pickUntil, pickUntil, if_pos admitted,
          if_pos admitted, induction (preserved picked item start)]
      · rw [pickUntil, if_neg admitted, induction start]
        by_cases kept : keep item = true
        · rw [List.filter_cons_of_pos kept, pickUntil, if_neg admitted]
        · rw [List.filter_cons_of_neg kept]

/-- The last item that fits is the first that is admitted. -/
theorem pickUntil_last (room : limit ≤ picked.length + 1) :
    pickUntil limit admits picked items =
      picked ++ (items.find? (admits picked)).toList := by
  induction items with
  | nil => simp [pickUntil]
  | cons item items induction =>
      unfold pickUntil
      by_cases admitted : admits picked item = true
      · rw [if_pos admitted, if_pos room, List.find?_cons_of_pos admitted]
        rfl
      · rw [if_neg admitted, List.find?_cons_of_neg admitted, induction]

end Rules

end Foundation
