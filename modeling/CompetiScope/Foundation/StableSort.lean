import Mathlib.Data.List.Sort

/-!
# Sorting by decreasing keys

The sort is stable, so the value that comes out first is the first of those
with the greatest key.
-/

namespace Foundation

universe u v

variable {α : Type u} {κ : Type v} [LinearOrder κ]

/-- `sorted(values, key=key, reverse=True)`. -/
def sortDescending (key : α → κ) (values : List α) : List α :=
  values.insertionSort fun first second => key second ≤ key first

/-- No value in front of the leader reaches its key and none behind exceeds
it. -/
def LeadsBy (key : α → κ) (values : List α) (leader : α) : Prop :=
  ∃ front back, values = front ++ leader :: back ∧
    (∀ value ∈ front, key value < key leader) ∧
      ∀ value ∈ back, key value ≤ key leader

variable {key : α → κ} {values : List α} {leader : α}

theorem LeadsBy.le (leads : LeadsBy key values leader) :
    ∀ value ∈ values, key value ≤ key leader := by
  obtain ⟨front, back, rfl, below, behind⟩ := leads
  intro value member
  rcases List.mem_append.mp member with inFront | inRest
  · exact (below value inFront).le
  · rcases List.mem_cons.mp inRest with same | inBack
    · rw [same]
    · exact behind value inBack

theorem LeadsBy.mem (leads : LeadsBy key values leader) :
    leader ∈ values := by
  obtain ⟨front, back, rfl, -, -⟩ := leads
  exact List.mem_append_right front List.mem_cons_self

/-- There is a leader as soon as there is a value. -/
theorem exists_leadsBy (key : α → κ) (value : α) (values : List α) :
    ∃ leader, LeadsBy key (value :: values) leader := by
  induction values generalizing value with
  | nil =>
      refine ⟨value, [], [], rfl, ?_, ?_⟩
      · intro other member
        cases member
      · intro other member
        cases member
  | cons next values induction =>
      obtain ⟨leader, leads⟩ := induction next
      by_cases reaches : key leader ≤ key value
      · refine ⟨value, [], next :: values, rfl, ?_, ?_⟩
        · intro other member
          cases member
        · intro other member
          exact (leads.le other member).trans reaches
      · obtain ⟨front, back, split, below, behind⟩ := leads
        refine ⟨leader, value :: front, back, ?_, ?_, behind⟩
        · rw [split, List.cons_append]
        · intro other member
          rcases List.mem_cons.mp member with same | inFront
          · rw [same]
            exact not_le.mp reaches
          · exact below other inFront

theorem LeadsBy.head?_sortDescending (leads : LeadsBy key values leader) :
    (sortDescending key values).head? = some leader := by
  obtain ⟨front, back, rfl, below, behind⟩ := leads
  induction front with
  | nil =>
      rw [List.nil_append, sortDescending,
        List.insertionSort_cons_of_forall_rel _ behind]
      rfl
  | cons value front induction =>
      have first := induction fun other member =>
        below other (List.mem_cons_of_mem value member)
      have smaller : key value < key leader := below value List.mem_cons_self
      obtain ⟨rest, sorted⟩ := List.head?_eq_some_iff.mp first
      rw [sortDescending] at sorted ⊢
      rw [List.cons_append, List.insertionSort_cons, sorted,
        List.orderedInsert_cons, if_neg (not_le.mpr smaller)]
      rfl

/-- What comes out first is the leader. -/
theorem head?_sortDescending_eq_some :
    (sortDescending key values).head? = some leader ↔
      LeadsBy key values leader := by
  constructor
  · intro first
    cases values with
    | nil => cases first
    | cons value values =>
        obtain ⟨other, leads⟩ := exists_leadsBy key value values
        have same : other = leader :=
          Option.some.inj (leads.head?_sortDescending.symm.trans first)
        rwa [← same]
  · exact LeadsBy.head?_sortDescending

theorem head?_sortDescending_eq_none :
    (sortDescending key values).head? = none ↔ values = [] := by
  rw [List.head?_eq_none_iff, sortDescending, ← List.length_eq_zero_iff,
    List.length_insertionSort, List.length_eq_zero_iff]

/-! ## Whole lists -/

theorem perm_sortDescending (key : α → κ) (values : List α) :
    (sortDescending key values).Perm values :=
  List.perm_insertionSort _ values

instance descending_total (key : α → κ) :
    Std.Total fun first second => key second ≤ key first :=
  ⟨fun first second => le_total (key second) (key first)⟩

instance descending_trans (key : α → κ) :
    IsTrans α fun first second => key second ≤ key first :=
  ⟨fun _ _ _ first second => le_trans second first⟩

theorem pairwise_sortDescending (key : α → κ) (values : List α) :
    (sortDescending key values).Pairwise fun first second =>
      key second ≤ key first :=
  List.pairwise_insertionSort _ values

theorem sortDescending_map {β : Type*} (function : α → β) (key : β → κ)
    (values : List α) :
    sortDescending key (values.map function) =
      (sortDescending (fun value => key (function value)) values).map
        function :=
  (List.map_insertionSort _ _ function values
    fun _ _ _ _ => Iff.rfl).symm

theorem orderedInsert_append {order : α → α → Prop} [DecidableRel order]
    {value : α} (first : List α) {second : List α}
    (before : ∀ other ∈ second, order value other) :
    List.orderedInsert order value (first ++ second) =
      List.orderedInsert order value first ++ second := by
  induction first with
  | nil =>
      cases second with
      | nil => rfl
      | cons other second =>
          rw [List.nil_append, List.orderedInsert_cons,
            if_pos (before other List.mem_cons_self)]
          rfl
  | cons other first induction =>
      rw [List.cons_append, List.orderedInsert_cons,
        List.orderedInsert_cons, induction]
      split
      · rfl
      · rfl

/-- A list whose front dominates its back is sorted part by part. -/
theorem sortDescending_append {first second : List α}
    (dominates : ∀ value ∈ first, ∀ other ∈ second, key other ≤ key value) :
    sortDescending key (first ++ second) =
      sortDescending key first ++ sortDescending key second := by
  induction first with
  | nil => rfl
  | cons value first induction =>
      have later := induction fun value member =>
        dominates value (List.mem_cons_of_mem _ member)
      unfold sortDescending at *
      rw [List.cons_append, List.insertionSort_cons, later,
        List.insertionSort_cons]
      apply orderedInsert_append
      intro other member
      exact dominates value List.mem_cons_self other
        ((List.mem_insertionSort _).mp member)

/-- A sorted list is its greater part and then the rest. -/
theorem filter_append_filter_of_sorted {keep : α → Bool}
    (sorted : values.Pairwise fun first second => key second ≤ key first)
    (greater : ∀ value ∈ values, ∀ other ∈ values, keep value = true →
      keep other = false → key other < key value) :
    values.filter keep ++ values.filter (! keep ·) = values := by
  induction values with
  | nil => rfl
  | cons value values induction =>
      obtain ⟨first, rest⟩ := List.pairwise_cons.mp sorted
      have later := induction rest fun value member other otherMember =>
        greater value (List.mem_cons_of_mem _ member) other
          (List.mem_cons_of_mem _ otherMember)
      cases kept : keep value with
      | true =>
          rw [List.filter_cons_of_pos kept,
            List.filter_cons_of_neg (by simp [kept]), List.cons_append, later]
      | false =>
          -- what follows is not greater than this value
          have none : values.filter keep = [] := by
            rw [List.filter_eq_nil_iff]
            intro other member isKept
            exact absurd (first other member) (not_le.mpr
              (greater other (List.mem_cons_of_mem _ member) value
                List.mem_cons_self isKept kept))
          rw [none, List.nil_append] at later
          rw [List.filter_cons_of_neg (by simp [kept]), none,
            List.nil_append, List.filter_cons_of_pos (by simp [kept]), later]

theorem eq_of_perm_of_descending {first second : List α}
    (perm : first.Perm second)
    (sorted : first.Pairwise fun value other => key other ≤ key value)
    (alike : second.Pairwise fun value other => key other ≤ key value)
    (distinct : (second.map key).Nodup) : first = second := by
  apply perm.eq_of_pairwise _ sorted alike
  intro value other member otherMember below above
  exact List.inj_on_of_nodup_map distinct (perm.mem_iff.mp member) otherMember
    (le_antisymm above below)

/-- Two values of a list without repetition have one order. -/
theorem not_pair_sublist_of_nodup {first second : α}
    (distinct : values.Nodup) (ordered : [first, second].Sublist values) :
    ¬ [second, first].Sublist values := by
  induction values with
  | nil => cases ordered
  | cons value values induction =>
      obtain ⟨absent, rest⟩ := List.nodup_cons.mp distinct
      intro reversed
      cases ordered with
      | cons _ later =>
          cases reversed with
          | cons _ other => exact induction rest later other
          | cons_cons _ tail =>
              exact absent (later.subset (by simp))
      | cons_cons _ tail =>
          cases reversed with
          | cons _ other => exact absent (other.subset (by simp))
          | cons_cons _ _ => exact absent (tail.subset (by simp))

/-- Sorting a sorted list that has been reversed gives it back if and only if
no two of its values tie. -/
theorem sortDescending_reverse_eq_iff
    (sorted : values.Pairwise fun first second => key second ≤ key first)
    (distinct : values.Nodup) :
    sortDescending key values.reverse = values ↔ (values.map key).Nodup := by
  constructor
  · intro same
    rw [List.Nodup, List.pairwise_map, List.pairwise_iff_forall_sublist]
    intro first second ordered tied
    have reversed : [second, first].Sublist values.reverse := by
      simpa using ordered.reverse
    have kept := List.pair_sublist_insertionSort
      (r := fun first second => key second ≤ key first) tied.le reversed
    rw [← sortDescending, same] at kept
    exact not_pair_sublist_of_nodup distinct ordered kept
  · intro noTies
    exact eq_of_perm_of_descending
      ((perm_sortDescending key _).trans (List.reverse_perm values))
      (pairwise_sortDescending key _) sorted noTies

end Foundation
