import Mathlib.Data.List.Induction
import Mathlib.Data.List.Nodup
import Mathlib.Data.List.TakeWhile
import Mathlib.Data.Set.Insert

/-!
# Lists kept while a snapshot is written back

A loop goes over a snapshot of rows.  It puts each row on the list of the row
it names and then writes the row back as the snapshot has it, its own list
included, so that what was put on that list before is lost.  The lists are
exact afterwards just when nothing that is lost was new.
-/

namespace Foundation

universe u v

variable {Item : Type u} {Id : Type v} [DecidableEq Id]

/-- The rows behind the last one with an id, the latest first; all of them if
none has it. -/
def sinceWritten (id : Item → Id) (owner : Id) (items : List Item) :
    List Item :=
  items.reverse.takeWhile fun item => id item ≠ owner

/-- One row of the loop. -/
def writeBack (id : Item → Id) (target : Item → Option Id)
    (snapshot lists : Id → Set Id) (item : Item) : Id → Set Id :=
  fun owner =>
    if owner = id item then snapshot owner
    else if target item = some owner then insert (id item) (lists owner)
    else lists owner

section

variable {id : Item → Id} {target : Item → Option Id} {owner : Id}

theorem sinceWritten_concat_self {item : Item} (isOwner : id item = owner)
    (items : List Item) : sinceWritten id owner (items ++ [item]) = [] := by
  simp [sinceWritten, isOwner]

theorem sinceWritten_concat_of_ne {item : Item} (other : id item ≠ owner)
    (items : List Item) :
    sinceWritten id owner (items ++ [item]) =
      item :: sinceWritten id owner items := by
  simp [sinceWritten, other]

theorem mem_of_mem_sinceWritten {item : Item} {items : List Item}
    (member : item ∈ sinceWritten id owner items) : item ∈ items :=
  List.mem_reverse.mp ((List.takeWhile_sublist _).subset member)

theorem sinceWritten_of_not_mem {items : List Item}
    (absent : ∀ item ∈ items, id item ≠ owner) :
    sinceWritten id owner items = items.reverse := by
  apply List.takeWhile_eq_self_iff.mpr
  intro item member
  simpa using absent item (List.mem_reverse.mp member)

theorem sinceWritten_append_cons {front back : List Item} {keeper : Item}
    (isOwner : id keeper = owner)
    (absent : ∀ item ∈ back, id item ≠ owner) :
    sinceWritten id owner (front ++ keeper :: back) = back.reverse := by
  have visible : ∀ item ∈ back.reverse,
      (decide (id item ≠ owner)) = true := by
    intro item member
    simpa using absent item (List.mem_reverse.mp member)
  rw [sinceWritten, List.reverse_append, List.reverse_cons,
    List.append_assoc, List.takeWhile_append_of_pos visible,
    List.singleton_append, List.takeWhile_cons_of_neg (by simp [isOwner]),
    List.append_nil]

omit [DecidableEq Id] in
/-- No later row has the id of a row. -/
theorem absent_behind {front back : List Item} {keeper : Item}
    (distinct : ((front ++ keeper :: back).map id).Nodup)
    (isOwner : id keeper = owner) : ∀ later ∈ back, id later ≠ owner := by
  intro later inBack sameOwner
  rw [List.map_append, List.map_cons, List.nodup_append'] at distinct
  apply (List.nodup_cons.mp distinct.2.1).1
  rw [isOwner, ← sameOwner]
  exact List.mem_map_of_mem inBack

/-- What the loop leaves on a list: what the snapshot had, and the rows that
were put on it since its own row was written. -/
theorem foldl_writeBack (snapshot : Id → Set Id) (items : List Item)
    (owner : Id) :
    items.foldl (writeBack id target snapshot) snapshot owner =
      snapshot owner ∪
        { named | ∃ item ∈ sinceWritten id owner items,
          target item = some owner ∧ id item = named } := by
  induction items using List.reverseRecOn with
  | nil => simp [sinceWritten]
  | append_singleton items item induction =>
      rw [List.foldl_append, List.foldl_cons, List.foldl_nil]
      by_cases isOwner : owner = id item
      · rw [writeBack, if_pos isOwner,
          sinceWritten_concat_self isOwner.symm]
        simp
      · have other : id item ≠ owner := fun same => isOwner same.symm
        rw [writeBack, if_neg isOwner, sinceWritten_concat_of_ne other]
        by_cases named : target item = some owner
        · rw [if_pos named, induction]
          ext other
          simp [named, or_left_comm, eq_comm]
        · rw [if_neg named, induction]
          simp [named]

/-- Every row that names the owner afterwards is on its list, and no other,
exactly when the list of the snapshot holds only such rows, holds those that
the loop does not visit and holds those it visits before the owner. -/
theorem lists_exact_iff {rows scope : List Item} {snapshot : Id → Set Id}
    (named : Item → Id → Prop)
    (same : ∀ first ∈ rows, ∀ second ∈ rows, id first = id second →
      first = second)
    (scopeDistinct : (scope.map id).Nodup)
    (within : ∀ item ∈ scope, item ∈ rows)
    (agrees : ∀ item ∈ scope, named item owner ↔ target item = some owner)
    (other : ∀ item ∈ scope, target item ≠ some (id item)) :
    (∀ other, other ∈ scope.foldl (writeBack id target snapshot) snapshot
        owner ↔ ∃ item ∈ rows, id item = other ∧ named item owner) ↔
      (∀ other ∈ snapshot owner,
        ∃ item ∈ rows, id item = other ∧ named item owner) ∧
      (∀ item ∈ rows, item ∉ scope → named item owner →
        id item ∈ snapshot owner) ∧
      ∀ front keeper back, scope = front ++ keeper :: back →
        id keeper = owner → ∀ item ∈ front, target item = some owner →
          id item ∈ snapshot owner := by
  simp only [foldl_writeBack, Set.mem_union, Set.mem_ofPred_eq]
  constructor
  · intro exact
    refine ⟨?_, ?_, ?_⟩
    · intro other member
      exact (exact other).mp (.inl member)
    · intro item inRows outside names
      rcases (exact (id item)).mpr ⟨item, inRows, rfl, names⟩ with
        known | ⟨visited, since, -, sameId⟩
      · exact known
      · have inScope := mem_of_mem_sinceWritten since
        have isItem := same visited (within visited inScope) item inRows
          sameId
        exact (outside (isItem ▸ inScope)).elim
    · intro front keeper back split isOwner item inFront names
      have inScope : item ∈ scope := by
        rw [split]
        exact List.mem_append_left _ inFront
      rcases (exact (id item)).mpr ⟨item, within item inScope, rfl,
          (agrees item inScope).mpr names⟩ with
        known | ⟨visited, since, -, sameId⟩
      · exact known
      · rw [split] at scopeDistinct since
        rw [sinceWritten_append_cons isOwner
          (absent_behind scopeDistinct isOwner), List.mem_reverse] at since
        rw [List.map_append, List.map_cons, List.nodup_append']
          at scopeDistinct
        refine (scopeDistinct.2.2 (List.mem_map_of_mem inFront) ?_).elim
        rw [← sameId]
        exact List.mem_cons_of_mem _ (List.mem_map_of_mem since)
  · rintro ⟨stale, unvisited, early⟩ named
    constructor
    · rintro (known | ⟨item, since, names, rfl⟩)
      · exact stale named known
      · have inScope := mem_of_mem_sinceWritten since
        exact ⟨item, within item inScope, rfl,
          (agrees item inScope).mpr names⟩
    · rintro ⟨item, inRows, rfl, names⟩
      by_cases inScope : item ∈ scope
      · have targets := (agrees item inScope).mp names
        by_cases kept : ∃ keeper ∈ scope, id keeper = owner
        · obtain ⟨keeper, inKeeper, isOwner⟩ := kept
          obtain ⟨front, back, split⟩ := List.append_of_mem inKeeper
          have inSplit := inScope
          rw [split, List.mem_append, List.mem_cons] at inSplit
          rcases inSplit with inFront | isKeeper | inBack
          · exact .inl (early front keeper back split isOwner item inFront
              targets)
          · rw [isKeeper, ← isOwner] at targets
            exact (other keeper inKeeper targets).elim
          · right
            refine ⟨item, ?_, targets, rfl⟩
            rw [split] at scopeDistinct ⊢
            rw [sinceWritten_append_cons isOwner
              (absent_behind scopeDistinct isOwner)]
            exact List.mem_reverse.mpr inBack
        · right
          refine ⟨item, ?_, targets, rfl⟩
          rw [sinceWritten_of_not_mem fun visited inVisited sameOwner =>
            kept ⟨visited, inVisited, sameOwner⟩]
          exact List.mem_reverse.mpr inScope
      · exact .inl (unvisited item inRows inScope names)

end

end Foundation
