import Mathlib.Data.List.Basic

/-!
# Items that keep apart

A list is gone through once, and an item is kept unless it is close to one
that has been kept.  Closeness is any relation.  What is kept is apart, what
is dropped is close to an earlier item that is kept, and a second pass drops
nothing.
-/

namespace Foundation

variable {α : Type*} {close : α → α → Bool}

def keepApart (close : α → α → Bool) (kept : List α) : List α → List α
  | [] => kept
  | item :: items =>
      if kept.any (close item) then keepApart close kept items
      else keepApart close (kept ++ [item]) items

/-- No item is close to an earlier one. -/
def Apart (close : α → α → Bool) (items : List α) : Prop :=
  items.Pairwise fun earlier later => close later earlier = false

theorem apart_concat {items : List α} {item : α} :
    Apart close (items ++ [item]) ↔
      Apart close items ∧ ∀ earlier ∈ items, close item earlier = false := by
  unfold Apart
  rw [List.pairwise_append]
  constructor
  · intro parts
    obtain ⟨apart, -, across⟩ := parts
    exact ⟨apart, fun earlier member =>
      across earlier member item (List.mem_singleton_self item)⟩
  · intro parts
    obtain ⟨apart, across⟩ := parts
    refine ⟨apart, List.pairwise_singleton _ _, ?_⟩
    intro earlier member later isItem
    rw [List.mem_singleton.mp isItem]
    exact across earlier member

theorem keepApart_append (kept first second : List α) :
    keepApart close kept (first ++ second) =
      keepApart close (keepApart close kept first) second := by
  induction first generalizing kept with
  | nil => rfl
  | cons item first induction =>
      rw [List.cons_append, keepApart, keepApart]
      split
      · exact induction kept
      · exact induction (kept ++ [item])

theorem prefix_keepApart (kept items : List α) :
    kept <+: keepApart close kept items := by
  induction items generalizing kept with
  | nil => exact List.prefix_rfl
  | cons item items induction =>
      rw [keepApart]
      split
      · exact induction kept
      · exact (List.prefix_append kept [item]).trans (induction _)

theorem keepApart_sublist (kept items : List α) :
    (keepApart close kept items).Sublist (kept ++ items) := by
  induction items generalizing kept with
  | nil =>
      rw [List.append_nil]
      exact List.Sublist.refl kept
  | cons item items induction =>
      rw [keepApart]
      split
      · apply (induction kept).trans
        exact List.Sublist.append_left (List.sublist_cons_self item items) kept
      · have kept_items := induction (kept ++ [item])
        rw [List.append_assoc] at kept_items
        exact kept_items

theorem apart_keepApart {kept : List α} (apart : Apart close kept)
    (items : List α) : Apart close (keepApart close kept items) := by
  induction items generalizing kept with
  | nil => exact apart
  | cons item items induction =>
      rw [keepApart]
      split
      case isTrue => exact induction apart
      case isFalse far =>
        apply induction
        apply apart_concat.mpr
        refine ⟨apart, ?_⟩
        intro earlier member
        by_contra near
        apply far
        exact List.any_eq_true.mpr
          ⟨earlier, member, Bool.of_not_eq_false near⟩

/-- A pass over items that are apart drops nothing. -/
theorem keepApart_of_apart {kept items : List α}
    (apart : Apart close (kept ++ items)) :
    keepApart close kept items = kept ++ items := by
  induction items generalizing kept with
  | nil => rw [keepApart, List.append_nil]
  | cons item items induction =>
      have whole : kept ++ item :: items = kept ++ [item] ++ items := by
        rw [List.append_assoc]
        rfl
      rw [whole] at apart
      have front : Apart close (kept ++ [item]) :=
        apart.sublist (List.sublist_append_left _ items)
      have far : ¬ kept.any (close item) = true := by
        intro near
        obtain ⟨earlier, member, isClose⟩ := List.any_eq_true.mp near
        have apartFrom := (apart_concat.mp front).2 earlier member
        rw [isClose] at apartFrom
        contradiction
      rw [keepApart, if_neg far, induction apart, whole]

/-- A second pass drops nothing. -/
theorem keepApart_keepApart (items : List α) :
    keepApart close [] (keepApart close [] items) =
      keepApart close [] items :=
  @keepApart_of_apart _ _ [] _ (apart_keepApart List.Pairwise.nil items)

/-- An item is kept where it stands, or it is close to an earlier item that
is kept. -/
theorem kept_or_close (front : List α) (item : α) (back : List α) :
    keepApart close [] front ++ [item] <+:
        keepApart close [] (front ++ item :: back) ∨
      ∃ earlier ∈ keepApart close [] front, close item earlier = true := by
  by_cases near : (keepApart close [] front).any (close item) = true
  · right
    exact List.any_eq_true.mp near
  · left
    rw [keepApart_append, keepApart, if_neg near]
    exact prefix_keepApart _ back

end Foundation
