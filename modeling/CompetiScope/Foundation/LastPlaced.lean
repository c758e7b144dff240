import CompetiScope.Foundation.Dict
import Mathlib.Data.List.Induction

/-!
# Items placed under keys

A pass places the value of an item under the key it has, or nowhere; a later
item takes the place of an earlier one.  The items that own a key may have to
share it with intruders: what is found there is the value of its owners just
when the owners agree and no intruder comes last with another value.
-/

namespace Foundation

variable {Item Key Value : Type*} [DecidableEq Key]

/-- The values of items under their keys, the later ones over the earlier
ones. -/
def placeLast (placeOf : Item → Option Key) (valueOf : Item → Value)
    (items : List Item) : Dict Key Value :=
  items.foldl
    (fun placed item =>
      match placeOf item with
      | some key => placed.set key (valueOf item)
      | none => placed) ∅

section Place

variable {placeOf : Item → Option Key} {valueOf : Item → Value}
  {items : List Item} {key : Key}

/-- The last item of a key is found under it. -/
theorem get?_placeLast :
    (placeLast placeOf valueOf items).get? key =
      (items.reverse.find? fun item => placeOf item = some key).map
        valueOf := by
  unfold placeLast
  induction items using List.reverseRecOn with
  | nil => rfl
  | append_singleton items item induction =>
      rw [List.foldl_append, List.foldl_cons, List.foldl_nil,
        List.reverse_append, List.reverse_singleton, List.singleton_append,
        List.find?_cons]
      cases place : placeOf item with
      | none =>
          rw [decide_eq_false (by simp)]
          exact induction
      | some other =>
          dsimp only
          rw [Dict.get?_set]
          by_cases same : other = key
          · rw [if_pos same.symm, decide_eq_true (congrArg some same)]
            rfl
          · rw [if_neg fun equal => same equal.symm,
              decide_eq_false fun equal => same (Option.some.inj equal)]
            exact induction

/-- Something is found just under the keys that items have. -/
theorem exists_of_get?_placeLast {value : Value}
    (found : (placeLast placeOf valueOf items).get? key = some value) :
    ∃ item ∈ items, placeOf item = some key := by
  rw [get?_placeLast, Option.map_eq_some_iff] at found
  obtain ⟨item, isLast, -⟩ := found
  refine ⟨item, List.mem_reverse.mp (List.mem_of_find?_eq_some isLast), ?_⟩
  simpa using List.find?_some isLast

end Place

/-! ## Owners and intruders -/

/-- The last item that passes a test splits the items. -/
theorem find?_reverse_eq_some_iff {test : Item → Bool} {items : List Item}
    {item : Item} :
    items.reverse.find? test = some item ↔
      test item = true ∧
        ∃ before after, items = before ++ item :: after ∧
          ∀ other ∈ after, test other = false := by
  rw [List.find?_eq_some_iff_append]
  constructor
  · rintro ⟨passes, front, back, split, fails⟩
    refine ⟨passes, back.reverse, front.reverse, ?_, ?_⟩
    · have turned := congrArg List.reverse split
      simpa using turned
    · intro other member
      simpa using fails other (List.mem_reverse.mp member)
  · rintro ⟨passes, before, after, rfl, fails⟩
    refine ⟨passes, after.reverse, before.reverse, by simp, ?_⟩
    intro other member
    simpa using fails other (List.mem_reverse.mp member)

/-- The owners agree, and an intruder behind which no other one comes has an
owner behind it or the value of one. -/
structure OwnersPrevail (owns intrudes : Item → Prop)
    (valueOf : Item → Value) (items : List Item) : Prop where
  agree : ∀ first ∈ items, ∀ second ∈ items, owns first → owns second →
    valueOf first = valueOf second
  prevail : ∀ before intruder after,
    items = before ++ intruder :: after → intrudes intruder →
      (∀ other ∈ after, ¬ intrudes other) →
        ∃ owner ∈ items, owns owner ∧
          (owner ∈ after ∨ valueOf owner = valueOf intruder)

/-- The last item that owns or intrudes has the value of the owners, and is
there just when there is one, if and only if the owners prevail. -/
theorem last_owned_iff {owns intrudes : Item → Prop} {test : Item → Bool}
    (valueOf : Item → Value)
    (tested : ∀ item, test item = true ↔ owns item ∨ intrudes item)
    (items : List Item) :
    (∀ value, (items.reverse.find? test).map valueOf = some value ↔
        ∃ item ∈ items, owns item ∧ valueOf item = value) ↔
      OwnersPrevail owns intrudes valueOf items := by
  have untested : ∀ item, test item = false ↔
      ¬ owns item ∧ ¬ intrudes item := by
    intro item
    rw [← Bool.not_eq_true, tested, not_or]
  constructor
  · intro found
    constructor
    case agree =>
      intro first isFirst second isSecond ownsFirst ownsSecond
      have one := (found (valueOf first)).mpr ⟨first, isFirst, ownsFirst, rfl⟩
      have other := (found (valueOf second)).mpr
        ⟨second, isSecond, ownsSecond, rfl⟩
      exact Option.some.inj (one.symm.trans other)
    case prevail =>
      intro before intruder after split intrudes last
      by_cases owned : ∃ owner ∈ after, owns owner
      · obtain ⟨owner, member, isOwner⟩ := owned
        refine ⟨owner, ?_, isOwner, .inl member⟩
        rw [split]
        exact List.mem_append_right _ (List.mem_cons_of_mem _ member)
      · have isLast : items.reverse.find? test = some intruder := by
          rw [find?_reverse_eq_some_iff]
          refine ⟨(tested intruder).mpr (.inr intrudes), before, after, split,
            ?_⟩
          intro other member
          rw [untested]
          exact ⟨fun isOwner => owned ⟨other, member, isOwner⟩,
            last other member⟩
        obtain ⟨owner, member, isOwner, same⟩ :=
          (found (valueOf intruder)).mp (by rw [isLast]; rfl)
        exact ⟨owner, member, isOwner, .inr same⟩
  · rintro ⟨agree, prevail⟩ value
    have lastOwned : ∀ item, items.reverse.find? test = some item →
        ∃ owner ∈ items, owns owner ∧ valueOf owner = valueOf item := by
      intro item isLast
      rw [find?_reverse_eq_some_iff] at isLast
      obtain ⟨passes, before, after, split, fails⟩ := isLast
      have member : item ∈ items := by
        rw [split]
        exact List.mem_append_right _ List.mem_cons_self
      rcases (tested item).mp passes with isOwner | isIntruder
      · exact ⟨item, member, isOwner, rfl⟩
      · obtain ⟨owner, isMember, isOwner, later | same⟩ :=
          prevail before item after split isIntruder fun other isLater =>
            ((untested other).mp (fails other isLater)).2
        · exact (((untested owner).mp (fails owner later)).1 isOwner).elim
        · exact ⟨owner, isMember, isOwner, same⟩
    constructor
    · intro found
      rw [Option.map_eq_some_iff] at found
      obtain ⟨item, isLast, rfl⟩ := found
      exact lastOwned item isLast
    · rintro ⟨item, member, isOwner, rfl⟩
      cases isLast : items.reverse.find? test with
      | none =>
          rw [List.find?_eq_none] at isLast
          have passes := (tested item).mpr (.inl isOwner)
          exact (isLast item (List.mem_reverse.mpr member) passes).elim
      | some last =>
          obtain ⟨owner, isMember, owned, same⟩ := lastOwned last isLast
          rw [Option.map_some, ← same,
            agree item member owner isMember isOwner owned]

end Foundation
