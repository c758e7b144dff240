import CompetiScope.Foundation.Collections
import CompetiScope.Foundation.Indexed
import CompetiScope.Foundation.Replay
import CompetiScope.Foundation.StableSort
import Mathlib.Algebra.BigOperators.Group.List.Basic
import Mathlib.Data.List.Induction

/-!
# Sums under keys

A pass over items adds an amount under the key of each.  The keys come in the
order in which they are first met, and each has the sum of the amounts of its
items, in whatever order the items come.
-/

namespace Foundation

variable {Key Item Amount Value : Type*} [DecidableEq Key]

/-! ## The keys of a pass -/

theorem foldl_addKey_eq_orderedUnique (keys : List Key) :
    keys.foldl Dict.addKey [] = orderedUnique keys := by
  induction keys using List.reverseRecOn with
  | nil => rfl
  | append_singleton keys key induction =>
      rw [List.foldl_append, induction, List.foldl_cons, List.foldl_nil,
        Dict.addKey]
      by_cases known : key ∈ keys
      · rw [if_pos (mem_orderedUnique.mpr known)]
        obtain ⟨more, isPrefix⟩ := orderedUnique_append_isPrefix keys [key]
        have distinct := orderedUnique_nodup (keys ++ [key])
        rw [← isPrefix] at distinct
        have nothing : more = [] := by
          apply List.eq_nil_iff_forall_not_mem.mpr
          intro value member
          have inBoth : value ∈ orderedUnique (keys ++ [key]) := by
            rw [← isPrefix]
            exact List.mem_append_right _ member
          have inKeys : value ∈ keys := by
            rw [mem_orderedUnique, List.mem_append,
              List.mem_singleton] at inBoth
            rcases inBoth with before | rfl
            · exact before
            · exact known
          exact List.disjoint_of_nodup_append distinct
            (mem_orderedUnique.mpr inKeys) member
        rw [← isPrefix, nothing, List.append_nil]
      · rw [if_neg (mt mem_orderedUnique.mp known),
          orderedUnique_concat known]

theorem keys_foldl_set (keyOf : Item → Key)
    (valueOf : Dict Key Value → Item → Value) (items : List Item) :
    (items.foldl (fun (dict : Dict Key Value) item =>
        dict.set (keyOf item) (valueOf dict item)) ∅).keys =
      orderedUnique (items.map keyOf) := by
  rw [← foldl_addKey_eq_orderedUnique, List.foldl_map]
  exact (List.foldl_hom (@Dict.keys Key Value) fun dict item =>
    (Dict.keys_set dict (keyOf item) (valueOf dict item)).symm).symm

/-- The last item with a key is found under it. -/
theorem get?_indexBy_eq (keyOf : Item → Key) (items : List Item)
    (key : Key) :
    (indexBy keyOf items).get? key =
      items.reverse.find? fun item => keyOf item = key := by
  unfold indexBy
  induction items using List.reverseRecOn with
  | nil => rfl
  | append_singleton items item induction =>
      rw [List.foldl_append, List.foldl_cons, List.foldl_nil, Dict.get?_set,
        List.reverse_append, List.reverse_singleton, List.singleton_append,
        List.find?_cons, induction]
      by_cases same : key = keyOf item
      · simp [same]
      · have other : keyOf item ≠ key := fun equal => same equal.symm
        simp [same, other]

/-! ## The sums of a pass -/

variable [AddCommMonoid Amount]

/-- `sums[key] = sums.get(key, 0) + amount` for every item. -/
def tally (keyOf : Item → Key) (amountOf : Item → Amount)
    (items : List Item) : Dict Key Amount :=
  items.foldl (fun sums item =>
    sums.set (keyOf item) (sums.getD (keyOf item) 0 + amountOf item)) ∅

def amountUnder (keyOf : Item → Key) (amountOf : Item → Amount)
    (items : List Item) (key : Key) : Amount :=
  ((items.filter fun item => keyOf item = key).map amountOf).sum

variable {keyOf : Item → Key} {amountOf : Item → Amount}

theorem keys_tally (items : List Item) :
    (tally keyOf amountOf items).keys = orderedUnique (items.map keyOf) :=
  keys_foldl_set keyOf _ items

theorem getD_tally (items : List Item) (key : Key) :
    (tally keyOf amountOf items).getD key 0 =
      amountUnder keyOf amountOf items key := by
  unfold tally amountUnder
  induction items using List.reverseRecOn with
  | nil => rfl
  | append_singleton items item induction =>
      rw [List.foldl_append, List.foldl_cons, List.foldl_nil, Dict.getD_set,
        List.filter_append, List.map_append, List.sum_append]
      by_cases same : key = keyOf item
      · rw [if_pos same, ← same, induction]
        simp [same]
      · have other : keyOf item ≠ key := fun equal => same equal.symm
        rw [if_neg same, induction]
        simp [other]

theorem amountUnder_append (first second : List Item) (key : Key) :
    amountUnder keyOf amountOf (first ++ second) key =
      amountUnder keyOf amountOf first key +
        amountUnder keyOf amountOf second key := by
  unfold amountUnder
  rw [List.filter_append, List.map_append, List.sum_append]

theorem amountUnder_flatMap {Group : Type*} (itemsOf : Group → List Item)
    (groups : List Group) (key : Key) :
    amountUnder keyOf amountOf (groups.flatMap itemsOf) key =
      (groups.map fun group =>
        amountUnder keyOf amountOf (itemsOf group) key).sum := by
  induction groups with
  | nil => rfl
  | cons group groups induction =>
      rw [List.flatMap_cons, amountUnder_append, induction, List.map_cons,
        List.sum_cons]

/-! ## The order of a stable sort -/

/-- Two different values of a list come one before the other. -/
theorem pair_sublist_or {items : List Item} {first second : Item}
    (differ : first ≠ second) (firstMember : first ∈ items)
    (secondMember : second ∈ items) :
    [first, second].Sublist items ∨ [second, first].Sublist items := by
  obtain ⟨front, back, rfl⟩ := List.append_of_mem firstMember
  rcases List.mem_append.mp secondMember with before | after
  · right
    have pair : [second, first] = [second] ++ [first] := rfl
    rw [pair]
    apply List.Sublist.append
    · exact List.singleton_sublist.mpr before
    · exact List.singleton_sublist.mpr List.mem_cons_self
  · left
    have later : second ∈ back :=
      List.mem_of_ne_of_mem (Ne.symm differ) after
    apply List.sublist_append_of_sublist_right
    exact List.Sublist.cons_cons first (List.singleton_sublist.mpr later)

/-- Of two keys the first has the greater value, or they tie and it came
first. -/
def RankedBefore [LinearOrder Value] (valueOf : Item → Value)
    (arrived : List Item) (first second : Item) : Prop :=
  valueOf second < valueOf first ∨
    valueOf first = valueOf second ∧ [first, second].Sublist arrived

theorem pairwise_rankedBefore [LinearOrder Value] (valueOf : Item → Value)
    {arrived : List Item} (distinct : arrived.Nodup) :
    (sortDescending valueOf arrived).Pairwise
      (RankedBefore valueOf arrived) := by
  have perm := perm_sortDescending valueOf arrived
  have sortedDistinct : (sortDescending valueOf arrived).Nodup :=
    perm.nodup_iff.mpr distinct
  have sorted := pairwise_sortDescending valueOf arrived
  apply List.pairwise_iff_forall_sublist.mpr
  intro first second ordered
  have notLess := List.pairwise_iff_forall_sublist.mp sorted ordered
  rcases lt_or_eq_of_le notLess with less | tie
  · exact Or.inl less
  · refine Or.inr ⟨tie.symm, ?_⟩
    have differ : first ≠ second := by
      intro same
      have twice := ordered.nodup sortedDistinct
      rw [same] at twice
      exact (List.nodup_cons.mp twice).1 (List.mem_singleton_self second)
    have firstMember : first ∈ arrived :=
      perm.mem_iff.mp (ordered.subset List.mem_cons_self)
    have secondMember : second ∈ arrived :=
      perm.mem_iff.mp (ordered.subset (by simp))
    -- two values that tie keep the order in which they came
    rcases pair_sublist_or differ firstMember secondMember with
      came | reversed
    · exact came
    · have kept : [second, first].Sublist (sortDescending valueOf arrived) :=
        List.pair_sublist_insertionSort (le_of_eq tie.symm) reversed
      exact absurd kept (not_pair_sublist_of_nodup sortedDistinct ordered)

end Foundation
