import CompetiScope.Foundation.Dict
import CompetiScope.Foundation.StableSort
import Mathlib.Data.List.Perm.Basic
import Mathlib.Order.MinMax

/-!
# Sole leaders

Who leads a list of scores does not depend on the order of the list, and a
contest is decided when one leads alone.
-/

namespace Foundation

universe u v

variable {Key : Type u} {Score : Type v}

/-- The only value of a list, and `fallback` when there is not just one. -/
def soleOr (fallback : Key) : List Key → Key
  | [value] => value
  | _ => fallback

theorem soleOr_eq_or_mem (fallback : Key) (values : List Key) :
    soleOr fallback values = fallback ∨
      soleOr fallback values ∈ values := by
  match values with
  | [] => exact .inl rfl
  | [value] => exact .inr (List.mem_singleton_self value)
  | _ :: _ :: _ => exact .inl rfl

theorem soleOr_perm (fallback : Key) {first second : List Key}
    (permutation : first.Perm second) :
    soleOr fallback first = soleOr fallback second := by
  have sameLength := permutation.length_eq
  match first, second with
  | [], [] => rfl
  | [value], [other] =>
      rw [List.singleton_perm_singleton.mp permutation]
  | _ :: _ :: _, _ :: _ :: _ => rfl

section Leaders

variable [LinearOrder Score]

/-- The keys with the greatest score. -/
def leaders (scores : List (Key × Score)) : List Key :=
  match (scores.map Prod.snd).max? with
  | none => []
  | some best => (scores.filter (·.2 = best)).map Prod.fst

theorem mem_of_mem_leaders {scores : List (Key × Score)} {key : Key}
    (leads : key ∈ leaders scores) : ∃ score, (key, score) ∈ scores := by
  unfold leaders at leads
  split at leads
  · cases leads
  · obtain ⟨⟨same, score⟩, member, rfl⟩ := List.mem_map.mp leads
    exact ⟨score, List.mem_of_mem_filter member⟩

theorem leaders_perm {first second : List (Key × Score)}
    (permutation : first.Perm second) :
    (leaders first).Perm (leaders second) := by
  have sameBest : (first.map Prod.snd).max? = (second.map Prod.snd).max? := by
    apply Option.ext
    intro best
    rw [List.max?_eq_some_iff, List.max?_eq_some_iff]
    have scores := permutation.map Prod.snd
    simp only [scores.mem_iff]
  unfold leaders
  rw [sameBest]
  split
  · exact .nil
  · exact (permutation.filter _).map _

end Leaders

variable [DecidableEq Key]

/-- Dictionaries with the same values have the same entries. -/
theorem perm_entries_of_get? {first second : Dict Key Score}
    (same : ∀ key, first.get? key = second.get? key) :
    first.entries.Perm second.entries := by
  apply (List.perm_ext_iff_of_nodup (List.Nodup.of_map _ first.keysNodup)
    (List.Nodup.of_map _ second.keysNodup)).mpr
  rintro ⟨key, score⟩
  rw [Dict.mem_entries, Dict.mem_entries, same]

/-- `{key: score(key) for key in keys}`. -/
def scoresOf (score : Key → Score) (keys : List Key) : Dict Key Score :=
  keys.foldl (fun scores key => scores.set key (score key)) ∅

theorem get?_scoresOf (score : Key → Score) (keys : List Key) (key : Key) :
    (scoresOf score keys).get? key =
      if key ∈ keys then some (score key) else none := by
  have kept : ∀ (scores : Dict Key Score),
      (keys.foldl (fun scores key => scores.set key (score key))
          scores).get? key =
        if key ∈ keys then some (score key) else scores.get? key := by
    intro scores
    induction keys generalizing scores with
    | nil => simp
    | cons head keys induction =>
        rw [List.foldl_cons, induction, Dict.get?_set]
        by_cases same : key = head
        · simp [same]
        · simp [same]
  exact kept ∅

theorem scoresOf_congr {score other : Key → Score} {keys : List Key}
    (same : ∀ key ∈ keys, score key = other key) :
    scoresOf score keys = scoresOf other keys := by
  apply List.foldl_ext
  intro scores key member
  rw [same key member]

/-- `Counter(values)`. -/
def counter (values : List Key) : Dict Key Nat :=
  values.foldl (fun counts value =>
    counts.set value (counts.getD value 0 + 1)) ∅

theorem mem_keys_counter {values : List Key} {key : Key} :
    key ∈ (counter values).keys ↔ key ∈ values := by
  have keys := Dict.mem_keys_foldl_set (fun value : Key => value)
    (fun counts value => counts.getD value 0 + 1) values ∅ key
  have empty : (∅ : Dict Key Nat).keys = [] := rfl
  rw [counter, keys, empty]
  simp

/-- `Counter(values).most_common()`. -/
def mostCommon (values : List Key) : List (Key × Nat) :=
  sortDescending Prod.snd (counter values).entries

theorem mem_of_mem_mostCommon {values : List Key} {entry : Key × Nat}
    (member : entry ∈ mostCommon values) : entry.1 ∈ values := by
  have isEntry : entry ∈ (counter values).entries :=
    (perm_sortDescending Prod.snd _).mem_iff.mp member
  exact mem_keys_counter.mp (List.mem_map_of_mem isEntry)

end Foundation
