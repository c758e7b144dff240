import Mathlib.Data.List.Dedup
import Mathlib.Data.List.Sort

/-!
# Ordered collections without repetition

`orderedUnique` keeps the first occurrence of every value, `sortedSet` is the
sorted list of the distinct values.  Only membership matters to most users, so
each operation comes with its membership lemma.
-/

namespace Foundation

variable {α : Type*}

/-- First occurrences of the values that are not in `seen` yet. -/
def orderedUniqueFrom [DecidableEq α] (seen : List α) : List α → List α
  | [] => []
  | value :: values =>
      if value ∈ seen then orderedUniqueFrom seen values
      else value :: orderedUniqueFrom (value :: seen) values

def orderedUnique [DecidableEq α] (values : List α) : List α :=
  orderedUniqueFrom [] values

private theorem mem_orderedUniqueFrom [DecidableEq α] {seen values : List α}
    {value : α} :
    value ∈ orderedUniqueFrom seen values ↔
      value ∈ values ∧ value ∉ seen := by
  induction values generalizing seen with
  | nil => simp [orderedUniqueFrom]
  | cons head tail induction =>
      by_cases known : head ∈ seen
      · rw [orderedUniqueFrom, if_pos known, induction, List.mem_cons]
        constructor
        · rintro ⟨member, fresh⟩
          exact ⟨.inr member, fresh⟩
        · rintro ⟨same | member, fresh⟩
          · exact (fresh (same ▸ known)).elim
          · exact ⟨member, fresh⟩
      · rw [orderedUniqueFrom, if_neg known, List.mem_cons, List.mem_cons,
          induction, List.mem_cons]
        constructor
        · rintro (same | ⟨member, fresh⟩)
          · exact ⟨.inl same, same ▸ known⟩
          · exact ⟨.inr member, fun old => fresh (.inr old)⟩
        · rintro ⟨same | member, fresh⟩
          · exact .inl same
          · by_cases same : value = head
            · exact .inl same
            · exact .inr ⟨member, fun old => old.elim same fresh⟩

@[simp] theorem mem_orderedUnique [DecidableEq α] {values : List α}
    {value : α} : value ∈ orderedUnique values ↔ value ∈ values := by
  simp [orderedUnique, mem_orderedUniqueFrom]

@[simp] theorem orderedUnique_eq_nil [DecidableEq α] {values : List α} :
    orderedUnique values = [] ↔ values = [] := by
  simp only [List.eq_nil_iff_forall_not_mem, mem_orderedUnique]

private theorem orderedUniqueFrom_append_isPrefix [DecidableEq α]
    (seen first second : List α) :
    orderedUniqueFrom seen first <+:
      orderedUniqueFrom seen (first ++ second) := by
  induction first generalizing seen with
  | nil => exact List.nil_prefix
  | cons head tail induction =>
      by_cases known : head ∈ seen
      · simpa [orderedUniqueFrom, known] using induction seen
      · simpa [orderedUniqueFrom, known] using induction (head :: seen)

/-- Appending values does not disturb what is already there. -/
theorem orderedUnique_append_isPrefix [DecidableEq α] (first second : List α) :
    orderedUnique first <+: orderedUnique (first ++ second) :=
  orderedUniqueFrom_append_isPrefix [] first second

private theorem orderedUniqueFrom_concat [DecidableEq α] {value : α}
    (seen values : List α) (fresh : value ∉ values)
    (unseen : value ∉ seen) :
    orderedUniqueFrom seen (values ++ [value]) =
      orderedUniqueFrom seen values ++ [value] := by
  induction values generalizing seen with
  | nil => simp [orderedUniqueFrom, unseen]
  | cons head tail induction =>
      rw [List.mem_cons, not_or] at fresh
      by_cases known : head ∈ seen
      · simpa [orderedUniqueFrom, known] using
          induction seen fresh.2 unseen
      · simpa [orderedUniqueFrom, known] using
          induction (head :: seen) fresh.2 (by simp [fresh.1, unseen])

/-- A new value goes last. -/
theorem orderedUnique_concat [DecidableEq α] {value : α} {values : List α}
    (fresh : value ∉ values) :
    orderedUnique (values ++ [value]) = orderedUnique values ++ [value] :=
  orderedUniqueFrom_concat [] values fresh List.not_mem_nil

private theorem orderedUniqueFrom_eq_nil [DecidableEq α]
    {seen values : List α} (known : ∀ value ∈ values, value ∈ seen) :
    orderedUniqueFrom seen values = [] := by
  induction values with
  | nil => rfl
  | cons head tail induction =>
      rw [orderedUniqueFrom, if_pos (known head List.mem_cons_self)]
      exact induction fun value member =>
        known value (List.mem_cons_of_mem head member)

private theorem orderedUniqueFrom_append_eq_left [DecidableEq α]
    (seen first second : List α) (distinct : first.Nodup)
    (unseen : ∀ value ∈ first, value ∉ seen)
    (known : ∀ value ∈ second, value ∈ first ∨ value ∈ seen) :
    orderedUniqueFrom seen (first ++ second) = first := by
  induction first generalizing seen with
  | nil =>
      apply orderedUniqueFrom_eq_nil
      intro value member
      exact (known value member).resolve_left List.not_mem_nil
  | cons head tail induction =>
      rw [List.cons_append, orderedUniqueFrom,
        if_neg (unseen head List.mem_cons_self)]
      have tailUnseen : ∀ value ∈ tail, value ∉ head :: seen := by
        intro value member old
        rcases List.mem_cons.mp old with same | old
        · exact (List.nodup_cons.mp distinct).1 (same ▸ member)
        · exact unseen value (List.mem_cons_of_mem head member) old
      have tailKnown : ∀ value ∈ second,
          value ∈ tail ∨ value ∈ head :: seen := by
        intro value member
        rcases known value member with here | old
        · rcases List.mem_cons.mp here with same | later
          · exact .inr (List.mem_cons.mpr (.inl same))
          · exact .inl later
        · exact .inr (List.mem_cons_of_mem head old)
      rw [induction (head :: seen) distinct.of_cons tailUnseen tailKnown]

/-- Values that are there already change nothing. -/
theorem orderedUnique_append_eq_left [DecidableEq α] {first second : List α}
    (distinct : first.Nodup) (known : ∀ value ∈ second, value ∈ first) :
    orderedUnique (first ++ second) = first :=
  orderedUniqueFrom_append_eq_left [] first second distinct
    (fun _ _ => List.not_mem_nil) fun value member => .inl (known value member)

private theorem orderedUniqueFrom_nodup [DecidableEq α]
    (seen values : List α) : (orderedUniqueFrom seen values).Nodup := by
  induction values generalizing seen with
  | nil => exact List.nodup_nil
  | cons head tail induction =>
      rw [orderedUniqueFrom]
      split
      · exact induction seen
      · refine List.nodup_cons.mpr ⟨?_, induction (head :: seen)⟩
        intro member
        exact (mem_orderedUniqueFrom.mp member).2 List.mem_cons_self

theorem orderedUnique_nodup [DecidableEq α] (values : List α) :
    (orderedUnique values).Nodup :=
  orderedUniqueFrom_nodup [] values

@[simp] theorem orderedUnique_orderedUnique [DecidableEq α]
    (values : List α) :
    orderedUnique (orderedUnique values) = orderedUnique values := by
  have alone : orderedUnique (orderedUnique values ++ []) =
      orderedUnique values :=
    orderedUnique_append_eq_left (orderedUnique_nodup values)
      fun _ member => nomatch member
  rwa [List.append_nil] at alone

/-- Values that are distinct are kept as they are. -/
theorem orderedUnique_eq_self [DecidableEq α] {values : List α}
    (distinct : values.Nodup) : orderedUnique values = values := by
  have alone : orderedUnique (values ++ []) = values :=
    orderedUnique_append_eq_left distinct fun _ member => nomatch member
  rwa [List.append_nil] at alone

private theorem orderedUniqueFrom_sublist [DecidableEq α]
    (seen values : List α) :
    (orderedUniqueFrom seen values).Sublist values := by
  induction values generalizing seen with
  | nil => exact List.Sublist.slnil
  | cons head tail induction =>
      rw [orderedUniqueFrom]
      split
      · exact (induction seen).cons head
      · exact (induction (head :: seen)).cons_cons head

theorem orderedUnique_sublist [DecidableEq α] (values : List α) :
    (orderedUnique values).Sublist values :=
  orderedUniqueFrom_sublist [] values

/-- The distinct values in increasing order, `sorted(set(values))`. -/
def sortedSet [LinearOrder α] (values : List α) : List α :=
  values.dedup.insertionSort (· ≤ ·)

@[simp] theorem mem_sortedSet [LinearOrder α] {values : List α} {value : α} :
    value ∈ sortedSet values ↔ value ∈ values := by
  simp [sortedSet]

@[simp] theorem sortedSet_eq_nil [LinearOrder α] {values : List α} :
    sortedSet values = [] ↔ values = [] := by
  simp only [List.eq_nil_iff_forall_not_mem, mem_sortedSet]

/-! ## Lists distinct by a key -/

/-- The values whose key is neither in `seen` nor that of an earlier one. -/
def distinctByFrom {κ : Type*} [DecidableEq κ] (key : α → κ) (seen : List κ) :
    List α → List α
  | [] => []
  | value :: values =>
      if key value ∈ seen then distinctByFrom key seen values
      else value :: distinctByFrom key (key value :: seen) values

def distinctBy {κ : Type*} [DecidableEq κ] (key : α → κ) (values : List α) :
    List α :=
  distinctByFrom key [] values

private theorem mem_of_mem_distinctByFrom {κ : Type*} [DecidableEq κ]
    {key : α → κ} {seen : List κ} {values : List α} {value : α}
    (member : value ∈ distinctByFrom key seen values) : value ∈ values := by
  induction values generalizing seen with
  | nil => exact member
  | cons head tail induction =>
      rw [distinctByFrom] at member
      split at member
      · exact List.mem_cons_of_mem head (induction member)
      · rcases List.mem_cons.mp member with same | later
        · exact List.mem_cons.mpr (.inl same)
        · exact List.mem_cons_of_mem head (induction later)

theorem mem_of_mem_distinctBy {κ : Type*} [DecidableEq κ] {key : α → κ}
    {values : List α} {value : α}
    (member : value ∈ distinctBy key values) : value ∈ values :=
  mem_of_mem_distinctByFrom member

private theorem mem_distinctByFrom_of_find? {κ : Type*} [DecidableEq κ]
    {key : α → κ} {seen : List κ} {values : List α} {value : α}
    (first : values.find? (key · = key value) = some value)
    (unseen : key value ∉ seen) : value ∈ distinctByFrom key seen values := by
  induction values generalizing seen with
  | nil => cases first
  | cons head tail induction =>
      rw [distinctByFrom]
      by_cases same : key head = key value
      · rw [List.find?_cons_of_pos (by simpa using same),
          Option.some.injEq] at first
        rw [first, if_neg unseen]
        exact List.mem_cons_self
      · rw [List.find?_cons_of_neg (by simpa using same)] at first
        split
        · exact induction first unseen
        · refine List.mem_cons_of_mem head (induction first ?_)
          rw [List.mem_cons, not_or]
          exact ⟨fun equal => same equal.symm, unseen⟩

/-- What is first with its key is kept. -/
theorem mem_distinctBy_of_find? {κ : Type*} [DecidableEq κ] {key : α → κ}
    {values : List α} {value : α}
    (first : values.find? (key · = key value) = some value) :
    value ∈ distinctBy key values :=
  mem_distinctByFrom_of_find? first List.not_mem_nil

/-- Every key is kept. -/
theorem exists_mem_distinctBy {κ : Type*} [DecidableEq κ] (key : α → κ)
    {values : List α} {value : α} (member : value ∈ values) :
    ∃ kept ∈ distinctBy key values, key kept = key value := by
  cases first : values.find? (key · = key value) with
  | none =>
      have missing := List.find?_eq_none.mp first value member
      simp at missing
  | some kept =>
      have sameKey : key kept = key value := by
        simpa using List.find?_some first
      rw [← sameKey] at first
      exact ⟨kept, mem_distinctBy_of_find? first, sameKey⟩

private theorem distinctByFrom_fresh {κ : Type*} [DecidableEq κ]
    {key : α → κ} (seen : List κ) (values : List α) :
    ((distinctByFrom key seen values).map key).Nodup ∧
      ∀ value ∈ distinctByFrom key seen values, key value ∉ seen := by
  induction values generalizing seen with
  | nil => exact ⟨List.nodup_nil, fun _ member => nomatch member⟩
  | cons head tail induction =>
      rw [distinctByFrom]
      split
      · exact induction seen
      · next unseen =>
          obtain ⟨distinct, fresh⟩ := induction (key head :: seen)
          constructor
          · rw [List.map_cons, List.nodup_cons]
            refine ⟨?_, distinct⟩
            intro repeated
            obtain ⟨value, member, sameKey⟩ := List.mem_map.mp repeated
            exact fresh value member (sameKey ▸ List.mem_cons_self)
          · intro value member
            rcases List.mem_cons.mp member with same | later
            · rwa [same]
            · intro old
              exact fresh value later (List.mem_cons_of_mem _ old)

theorem distinctBy_nodup {κ : Type*} [DecidableEq κ] (key : α → κ)
    (values : List α) : ((distinctBy key values).map key).Nodup :=
  (distinctByFrom_fresh [] values).1

/-- A fold that keeps one of the two values it compares ends on a value of
the list. -/
theorem foldl_mem_of_choice {choose : α → α → α}
    (chooses : ∀ first second, choose first second = first ∨
      choose first second = second)
    (values : List α) (start : α) :
    values.foldl choose start ∈ start :: values := by
  induction values generalizing start with
  | nil => exact List.mem_singleton.mpr rfl
  | cons value values induction =>
      rw [List.foldl_cons]
      rcases List.mem_cons.mp (induction (choose start value)) with here | later
      · rw [here]
        rcases chooses start value with isFirst | isSecond
        · rw [isFirst]
          exact List.mem_cons_self
        · rw [isSecond]
          exact List.mem_cons_of_mem start List.mem_cons_self
      · exact List.mem_cons_of_mem start (List.mem_cons_of_mem value later)

end Foundation
