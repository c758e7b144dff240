import CompetiScope.Foundation.Dict

/-!
# Items under their keys

`{key(item): item for item in items}`: the last item with a key is found.
-/

namespace Foundation

universe u v

variable {Key : Type u} {Item : Type v} [DecidableEq Key]

def indexBy (keyOf : Item → Key) (items : List Item) : Dict Key Item :=
  items.foldl (fun index item => index.set (keyOf item) item) ∅

/-- What is found under a key is an item with that key. -/
theorem get?_indexBy {keyOf : Item → Key} {items : List Item} {key : Key}
    {item : Item} (found : (indexBy keyOf items).get? key = some item) :
    item ∈ items ∧ keyOf item = key := by
  have kept : ∀ (rest : List Item) (index : Dict Key Item),
      (∀ key item, index.get? key = some item →
        item ∈ items ∧ keyOf item = key) →
      (∀ item ∈ rest, item ∈ items) →
      ∀ key item, (rest.foldl (fun index item =>
          index.set (keyOf item) item) index).get? key = some item →
        item ∈ items ∧ keyOf item = key := by
    intro rest
    induction rest with
    | nil =>
        intro index invariant _
        exact invariant
    | cons head rest induction =>
        intro index invariant within
        apply induction (index.set (keyOf head) head)
        · intro key item found
          rw [Dict.get?_set] at found
          split at found
          case isTrue same =>
            rw [← Option.some.inj found]
            exact ⟨within head List.mem_cons_self, same.symm⟩
          case isFalse => exact invariant key item found
        · intro item member
          exact within item (List.mem_cons_of_mem head member)
  have initial : ∀ key item, (∅ : Dict Key Item).get? key = some item →
      item ∈ items ∧ keyOf item = key := by
    intro key item found
    rw [Dict.get?_empty] at found
    cases found
  exact kept items ∅ initial (fun _ member => member) key item found

theorem mem_keys_indexBy {keyOf : Item → Key} {items : List Item}
    {key : Key} :
    key ∈ (indexBy keyOf items).keys ↔ key ∈ items.map keyOf := by
  have keys := Dict.mem_keys_foldl_set keyOf
    (fun _ item => item) items ∅ key
  have empty : (∅ : Dict Key Item).keys = [] := rfl
  rw [indexBy, keys, List.mem_map, empty]
  simp

end Foundation
