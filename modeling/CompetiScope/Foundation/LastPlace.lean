import Mathlib.Data.List.Induction
import Mathlib.Data.List.Perm.Basic
import Mathlib.Data.List.Nodup

/-!
# The last place of a window

Items of some kinds are wanted among the first ones of a list.  The first
item of a kind that has none in the window is moved to its last place, one
kind after another.  So all places but the last keep their items, and the last
goes to the last kind that is missing from them.
-/

namespace Foundation

variable {Item Kind : Type*}

/-- Move the first wanted item to the last place of a window that has none. -/
def promote (wanted : Item → Bool) (window : Nat) (items : List Item) :
    List Item :=
  match items.findIdx? wanted with
  | none => items
  | some index =>
      if index < window then items
      else
        match items[index]? with
        | none => items
        | some item =>
            (items.eraseIdx index).take (window - 1) ++
              item :: (items.eraseIdx index).drop (window - 1)

/-- Promote an item of each kind. -/
def promoteAll [DecidableEq Kind] (kindOf : Item → Kind) (window : Nat)
    (kinds : List Kind) (items : List Item) : List Item :=
  kinds.foldl
    (fun items kind => promote (fun item => kindOf item = kind) window items)
    items

section Promote

variable {wanted : Item → Bool} {window : Nat} {items : List Item}

theorem findIdx?_append_cons {front back : List Item} {item : Item}
    (isWanted : wanted item = true)
    (unwanted : ∀ other ∈ front, wanted other = false) :
    (front ++ item :: back).findIdx? wanted = some front.length := by
  have none : front.findIdx? wanted = none :=
    List.findIdx?_eq_none_iff.mpr unwanted
  rw [List.findIdx?_append, none, List.findIdx?_cons, if_pos isWanted]
  simp

theorem promote_of_window {front back : List Item} {item : Item}
    (isWanted : wanted item = true)
    (unwanted : ∀ other ∈ front, wanted other = false)
    (inWindow : front.length < window) :
    promote wanted window (front ++ item :: back) = front ++ item :: back := by
  rw [promote, findIdx?_append_cons isWanted unwanted]
  exact if_pos inWindow

theorem promote_of_behind {front back : List Item} {item : Item}
    (isWanted : wanted item = true)
    (unwanted : ∀ other ∈ front, wanted other = false)
    (behind : window ≤ front.length) :
    promote wanted window (front ++ item :: back) =
      front.take (window - 1) ++
        item :: (front.drop (window - 1) ++ back) := by
  have short : window - 1 ≤ front.length := by omega
  rw [promote, findIdx?_append_cons isWanted unwanted]
  dsimp only
  rw [if_neg (Nat.not_lt_of_le behind), List.getElem?_append_right (Nat.le_refl _),
    Nat.sub_self, List.getElem?_cons_zero]
  dsimp only
  rw [List.eraseIdx_append_of_length_le (Nat.le_refl _), Nat.sub_self,
    List.eraseIdx_cons_zero, List.take_append_of_le_length short,
    List.drop_append_of_le_length short]

/-- The list stays as it is, or its first wanted item is moved. -/
theorem promote_cases (wanted : Item → Bool) (window : Nat)
    (items : List Item) :
    ((∀ item ∈ items, wanted item = false) ∧
        promote wanted window items = items) ∨
      ∃ front item back, items = front ++ item :: back ∧
        wanted item = true ∧ (∀ other ∈ front, wanted other = false) ∧
        (front.length < window ∧ promote wanted window items = items ∨
          window ≤ front.length ∧ promote wanted window items =
            front.take (window - 1) ++
              item :: (front.drop (window - 1) ++ back)) := by
  cases found : items.find? wanted with
  | none =>
      have unwanted : ∀ item ∈ items, wanted item = false := by
        intro item member
        exact Bool.eq_false_iff.mpr (List.find?_eq_none.mp found item member)
      refine .inl ⟨unwanted, ?_⟩
      rw [promote, List.findIdx?_eq_none_iff.mpr unwanted]
  | some item =>
      obtain ⟨isWanted, front, back, rfl, unwanted⟩ :=
        List.find?_eq_some_iff_append.mp found
      have unwanted : ∀ other ∈ front, wanted other = false := by
        intro other member
        have notWanted := unwanted other member
        simpa using notWanted
      refine .inr ⟨front, item, back, rfl, isWanted, unwanted, ?_⟩
      by_cases inWindow : front.length < window
      · exact .inl ⟨inWindow, promote_of_window isWanted unwanted inWindow⟩
      · exact .inr ⟨Nat.le_of_not_lt inWindow,
          promote_of_behind isWanted unwanted (Nat.le_of_not_lt inWindow)⟩

theorem promote_perm (wanted : Item → Bool) (window : Nat)
    (items : List Item) : (promote wanted window items).Perm items := by
  rcases promote_cases wanted window items with
    ⟨-, same⟩ | ⟨front, item, back, rfl, -, -, ⟨-, same⟩ | ⟨-, moved⟩⟩
  · rw [same]
  · rw [same]
  · rw [moved]
    calc front.take (window - 1) ++ item :: (front.drop (window - 1) ++ back)
        |>.Perm (item :: (front.take (window - 1) ++
          (front.drop (window - 1) ++ back))) := List.perm_middle
      _ = item :: (front ++ back) := by
        rw [← List.append_assoc, List.take_append_drop]
      List.Perm _ (front ++ item :: back) := List.perm_middle.symm

/-- The places before the last keep their items. -/
theorem take_promote (wanted : Item → Bool) (window : Nat)
    (items : List Item) :
    (promote wanted window items).take (window - 1) =
      items.take (window - 1) := by
  rcases promote_cases wanted window items with
    ⟨-, same⟩ | ⟨front, item, back, rfl, -, -, ⟨-, same⟩ | ⟨behind, moved⟩⟩
  · rw [same]
  · rw [same]
  · have length : (front.take (window - 1)).length = window - 1 := by
      rw [List.length_take]
      omega
    rw [moved, List.take_append_of_le_length (by omega),
      List.take_append_of_le_length (by omega), List.take_take, Nat.min_self]

/-- The items of a kind keep their order. -/
theorem filter_promote [DecidableEq Kind] (kindOf : Item → Kind)
    (kind other : Kind) (window : Nat) (items : List Item) :
    (promote (fun item => kindOf item = kind) window items).filter
        (fun item => kindOf item = other) =
      items.filter fun item => kindOf item = other := by
  rcases promote_cases (fun item => decide (kindOf item = kind)) window
    items with ⟨-, same⟩ |
      ⟨front, item, back, rfl, isWanted, unwanted, ⟨-, same⟩ | ⟨-, moved⟩⟩
  · rw [same]
  · rw [same]
  · rw [moved]
    have isKind := of_decide_eq_true isWanted
    by_cases sameKind : kindOf item = other
    · have none : ∀ part : List Item, part ⊆ front →
          part.filter (fun item => decide (kindOf item = other)) = [] := by
        intro part subset
        rw [List.filter_eq_nil_iff]
        intro inFront member
        have notKind := of_decide_eq_false (unwanted inFront (subset member))
        rw [← isKind, sameKind] at notKind
        simpa using notKind
      simp only [List.filter_append, List.filter_cons,
        none _ (List.take_subset _ _), none _ (List.drop_subset _ _),
        none _ (List.Subset.refl _), List.nil_append]
    · have whole := congrArg
        (List.filter fun item => decide (kindOf item = other))
        (List.take_append_drop (window - 1) front)
      rw [List.filter_append] at whole
      simp only [List.filter_append, List.filter_cons, sameKind,
        decide_false, Bool.false_eq_true, if_false, ← whole,
        List.append_assoc]

end Promote

/-! ## All kinds -/

section PromoteAll

variable [DecidableEq Kind]

/-- A kind that occurs, but not in front of the last place. -/
def Missing (kindOf : Item → Kind) (window : Nat) (items : List Item)
    (kind : Kind) : Prop :=
  (∃ item ∈ items, kindOf item = kind) ∧
    ∀ item ∈ items.take (window - 1), kindOf item ≠ kind

instance (kindOf : Item → Kind) (window : Nat) (items : List Item)
    (kind : Kind) : Decidable (Missing kindOf window items kind) :=
  inferInstanceAs (Decidable (_ ∧ _))

/-- The item of the last place: the first one of the last kind that is
missing. -/
def lastPlace (kindOf : Item → Kind) (window : Nat) (kinds : List Kind)
    (items : List Item) : Option Item :=
  match kinds.reverse.find? fun kind => Missing kindOf window items kind with
  | some kind => items.find? fun item => kindOf item = kind
  | none => items[window - 1]?

/-- The items of the window. -/
def windowOf (kindOf : Item → Kind) (window : Nat) (kinds : List Kind)
    (items : List Item) : List Item :=
  items.take (window - 1) ++ (lastPlace kindOf window kinds items).toList

variable {kindOf : Item → Kind} {window : Nat} {items : List Item}
  {kinds : List Kind}

theorem promoteAll_concat (kind : Kind) :
    promoteAll kindOf window (kinds ++ [kind]) items =
      promote (fun item => kindOf item = kind) window
        (promoteAll kindOf window kinds items) := by
  rw [promoteAll, List.foldl_append]
  rfl

theorem promoteAll_perm (kindOf : Item → Kind) (window : Nat)
    (kinds : List Kind) (items : List Item) :
    (promoteAll kindOf window kinds items).Perm items := by
  induction kinds using List.reverseRecOn with
  | nil => exact List.Perm.refl _
  | append_singleton kinds kind induction =>
      rw [promoteAll_concat]
      exact (promote_perm _ window _).trans induction

theorem take_promoteAll (kindOf : Item → Kind) (window : Nat)
    (kinds : List Kind) (items : List Item) :
    (promoteAll kindOf window kinds items).take (window - 1) =
      items.take (window - 1) := by
  induction kinds using List.reverseRecOn with
  | nil => rfl
  | append_singleton kinds kind induction =>
      rw [promoteAll_concat, take_promote, induction]

/-- The first item of each kind stays the first. -/
theorem find?_promoteAll (kind : Kind) :
    (promoteAll kindOf window kinds items).find?
        (fun item => kindOf item = kind) =
      items.find? fun item => kindOf item = kind := by
  rw [← List.head?_filter, ← List.head?_filter]
  induction kinds using List.reverseRecOn with
  | nil => rfl
  | append_singleton kinds other induction =>
      rw [promoteAll_concat, filter_promote, induction]

theorem take_eq_concat (items : List Item) (positive : 0 < window) :
    items.take window =
      items.take (window - 1) ++ (items[window - 1]?).toList := by
  obtain ⟨last, rfl⟩ : ∃ last, window = last + 1 :=
    ⟨window - 1, by omega⟩
  rw [Nat.add_sub_cancel, List.take_add_one]

/-- The last place goes to the first wanted item, unless one stands in front
of it or there is none. -/
theorem getElem?_promote {wanted : Item → Bool} (positive : 0 < window) :
    (promote wanted window items)[window - 1]? =
      if (∃ item ∈ items, wanted item = true) ∧
          ∀ item ∈ items.take (window - 1), wanted item = false
      then items.find? wanted else items[window - 1]? := by
  rcases promote_cases wanted window items with
    ⟨none, same⟩ | ⟨front, item, back, rfl, isWanted, unwanted, moves⟩
  · rw [same, if_neg]
    rintro ⟨⟨item, member, isWanted⟩, -⟩
    rw [none item member] at isWanted
    cases isWanted
  · have first : (front ++ item :: back).find? wanted = some item := by
      rw [List.find?_eq_some_iff_append]
      refine ⟨isWanted, front, back, rfl, ?_⟩
      intro other member
      simpa using unwanted other member
    have occurs : ∃ other ∈ front ++ item :: back, wanted other = true :=
      ⟨item, by simp, isWanted⟩
    have inFront : ∀ place ≤ front.length,
        ∀ other ∈ (front ++ item :: back).take place,
          wanted other = false := by
      intro place inside other member
      rw [List.take_append_of_le_length inside] at member
      exact unwanted other (List.mem_of_mem_take member)
    rcases moves with ⟨inWindow, same⟩ | ⟨behind, moved⟩
    · rw [same]
      rcases Nat.lt_or_ge front.length (window - 1) with before | at_end
      · rw [if_neg]
        rintro ⟨-, absent⟩
        have member : item ∈ (front ++ item :: back).take (window - 1) := by
          have length : window - 1 =
              front.length + (window - 1 - front.length - 1 + 1) := by
            omega
          rw [length, List.take_length_add_append, List.take_succ_cons]
          simp
        rw [absent item member] at isWanted
        cases isWanted
      · have place : window - 1 = front.length := by omega
        rw [if_pos ⟨occurs, inFront _ (by omega)⟩, first, place,
          List.getElem?_append_right (Nat.le_refl _), Nat.sub_self]
        rfl
    · have length : (front.take (window - 1)).length = window - 1 := by
        rw [List.length_take]
        omega
      rw [moved, if_pos ⟨occurs, inFront _ (by omega)⟩, first,
        List.getElem?_append_right (by omega), length, Nat.sub_self]
      rfl

/-- The item at the last place of the window. -/
theorem getElem?_promoteAll (positive : 0 < window) :
    (promoteAll kindOf window kinds items)[window - 1]? =
      lastPlace kindOf window kinds items := by
  induction kinds using List.reverseRecOn with
  | nil => rfl
  | append_singleton kinds kind induction =>
      have reversed : (kinds ++ [kind]).reverse = kind :: kinds.reverse := by
        simp
      have isMissing : ((∃ item ∈ promoteAll kindOf window kinds items,
            decide (kindOf item = kind) = true) ∧
          ∀ item ∈ (promoteAll kindOf window kinds items).take (window - 1),
            decide (kindOf item = kind) = false) ↔
          Missing kindOf window items kind := by
        simp only [(promoteAll_perm kindOf window kinds items).mem_iff,
          take_promoteAll, decide_eq_true_iff, decide_eq_false_iff_not]
        rfl
      rw [promoteAll_concat, getElem?_promote positive, find?_promoteAll,
        induction]
      unfold lastPlace
      rw [reversed, List.find?_cons]
      by_cases missing : Missing kindOf window items kind
      · rw [if_pos (isMissing.mpr missing), decide_eq_true missing]
      · rw [if_neg (mt isMissing.mp missing), decide_eq_false missing]

/-- The window of the promoted list. -/
theorem take_promoteAll_window (positive : 0 < window) :
    (promoteAll kindOf window kinds items).take window =
      windowOf kindOf window kinds items := by
  rw [take_eq_concat _ positive, take_promoteAll, getElem?_promoteAll positive]
  rfl

/-- Kinds that all occur have an item in the window just when at most one of
them is missing from the places before the last. -/
theorem window_has_all_iff (distinct : kinds.Nodup)
    (occur : ∀ kind ∈ kinds, ∃ item ∈ items, kindOf item = kind) :
    (∀ kind ∈ kinds, ∃ item ∈ windowOf kindOf window kinds items,
        kindOf item = kind) ↔
      (kinds.filter fun kind =>
        Missing kindOf window items kind).length ≤ 1 := by
  constructor
  · intro has
    have atLast : ∀ kind ∈ kinds.filter fun kind =>
        Missing kindOf window items kind,
        (lastPlace kindOf window kinds items).map kindOf = some kind := by
      intro kind member
      obtain ⟨inKinds, missing⟩ := List.mem_filter.mp member
      obtain ⟨item, inWindow, isKind⟩ := has kind inKinds
      rcases List.mem_append.mp inWindow with before | last
      · exact absurd isKind ((of_decide_eq_true missing).2 item before)
      · rw [Option.mem_toList] at last
        rw [last, Option.map_some, isKind]
    have nodup := distinct.filter fun kind =>
      decide (Missing kindOf window items kind)
    generalize kinds.filter (fun kind =>
      decide (Missing kindOf window items kind)) = missing at atLast nodup ⊢
    match missing with
    | [] => exact Nat.zero_le _
    | [_] => exact Nat.le_refl _
    | first :: second :: rest =>
        have isFirst := atLast first (by simp)
        have isSecond := atLast second (by simp)
        rw [isFirst] at isSecond
        have same := Option.some.inj isSecond
        rw [same] at nodup
        simp at nodup
  · intro few kind inKinds
    by_cases missing : Missing kindOf window items kind
    · have only : ∀ other ∈ kinds, Missing kindOf window items other →
          other = kind := by
        intro other member alsoMissing
        have inBoth : ∀ kind ∈ kinds, Missing kindOf window items kind →
            kind ∈ kinds.filter fun kind =>
              Missing kindOf window items kind := by
          intro kind member missing
          exact List.mem_filter.mpr ⟨member, decide_eq_true missing⟩
        have one := inBoth other member alsoMissing
        have two := inBoth kind inKinds missing
        generalize kinds.filter (fun kind =>
          decide (Missing kindOf window items kind)) = list at few one two
        match list with
        | [] => cases one
        | [_] => rw [List.mem_singleton.mp one, List.mem_singleton.mp two]
        | _ :: _ :: _ =>
            simp only [List.length_cons] at few
            omega
      have isLast : kinds.reverse.find? (fun kind =>
          decide (Missing kindOf window items kind)) = some kind := by
        cases found : kinds.reverse.find? fun kind =>
            decide (Missing kindOf window items kind) with
        | none =>
            have none := List.find?_eq_none.mp found kind
              (List.mem_reverse.mpr inKinds)
            exact absurd (decide_eq_true missing) none
        | some other =>
            have member := List.mem_reverse.mp
              (List.mem_of_find?_eq_some found)
            have alsoMissing := List.find?_some found
            rw [only other member (of_decide_eq_true alsoMissing)]
      obtain ⟨item, member, isKind⟩ := occur kind inKinds
      cases first : items.find? fun item => kindOf item = kind with
      | none =>
          have none := List.find?_eq_none.mp first item member
          exact absurd (decide_eq_true isKind) none
      | some item =>
          have isItem := List.find?_some first
          refine ⟨item, ?_, of_decide_eq_true isItem⟩
          unfold windowOf lastPlace
          rw [isLast]
          dsimp only
          rw [first]
          simp
    · unfold Missing at missing
      rw [not_and] at missing
      have before := missing (occur kind inKinds)
      simp only [not_forall, not_not] at before
      obtain ⟨item, member, isKind⟩ := before
      exact ⟨item, List.mem_append_left _ member, isKind⟩

end PromoteAll

end Foundation
