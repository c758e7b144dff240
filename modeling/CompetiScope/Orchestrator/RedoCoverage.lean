import Mathlib.Data.List.Find
import CompetiScope.Foundation.GreedyPick
import CompetiScope.Orchestrator.BranchCoverage
import CompetiScope.Orchestrator.RedoSelection

/-!
# What a redo covers

A batch of findings is redone under one merged scope, and the blockers of a
phase under one set of dimensions and competitors.  Naming nobody means
everybody, which a union of names does not know.
-/

namespace CompetiScope

open Foundation

/-! ## Picking the findings of a batch -/

/-- The findings name no competitor in common. -/
def QCIssue.Apart (first second : QCIssue) : Prop :=
  ∀ name ∈ first.redoScope.competitors, name ∉ second.redoScope.competitors

instance (first second : QCIssue) : Decidable (first.Apart second) :=
  inferInstanceAs (Decidable (∀ name ∈ first.redoScope.competitors,
    name ∉ second.redoScope.competitors))

/-- What may join a finding, whatever else joins it. -/
def mayJoin (primary candidate : QCIssue) : Bool :=
  candidate.id ≠ primary.id ∧ clusterKey candidate = clusterKey primary ∧
    candidate.redoScope.competitors ≠ []

def joins (primary : QCIssue) (picked : List QCIssue) (candidate : QCIssue) :
    Bool :=
  candidate.id ∉ picked.map (·.id) ∧
    clusterKey candidate = clusterKey primary ∧
    candidate.redoScope.competitors ≠ [] ∧
    ∀ issue ∈ picked, candidate.Apart issue

def fitsCluster (picked : List QCIssue) (candidate : QCIssue) : Bool :=
  ∀ issue ∈ picked, candidate.Apart issue

/-- The names collected by the loops. -/
def namesOf (issues : List QCIssue) : List String :=
  issues.flatMap (·.redoScope.competitors)

theorem any_mem_namesOf {picked : List QCIssue} {candidate : QCIssue} :
    candidate.redoScope.competitors.any (· ∈ namesOf picked) = false ↔
      ∀ issue ∈ picked, candidate.Apart issue := by
  rw [List.any_eq_false]
  constructor
  · intro unknown issue member name named shared
    apply unknown name named
    exact decide_eq_true (List.mem_flatMap.mpr ⟨issue, member, shared⟩)
  · intro apart name named known
    obtain ⟨issue, member, shared⟩ :=
      List.mem_flatMap.mp (of_decide_eq_true known)
    exact apart issue member name named shared

theorem selectCluster_eq_pickUntil (picked issues : List QCIssue) :
    selectCluster picked (namesOf picked) issues =
      pickUntil 3 fitsCluster picked issues := by
  induction issues generalizing picked with
  | nil => rfl
  | cons issue issues induction =>
      have grown : namesOf picked ++ issue.redoScope.competitors =
          namesOf (picked ++ [issue]) := by
        simp [namesOf]
      unfold selectCluster pickUntil
      dsimp only
      by_cases fits : ∀ other ∈ picked, issue.Apart other
      · have unknown := any_mem_namesOf.mpr fits
        have fresh : ¬ issue.redoScope.competitors.any
            (· ∈ namesOf picked) = true := by
          rw [unknown]
          exact Bool.false_ne_true
        have admitted : fitsCluster picked issue = true := by
          simpa [fitsCluster] using fits
        rw [if_neg fresh, if_pos admitted, List.length_append,
          List.length_singleton, grown, induction]
      · have known : issue.redoScope.competitors.any
            (· ∈ namesOf picked) = true := by
          by_contra unknown
          exact fits (any_mem_namesOf.mp (Bool.eq_false_of_not_eq_true unknown))
        have refused : ¬ fitsCluster picked issue = true := by
          simpa [fitsCluster] using fits
        rw [if_pos known, if_neg refused, induction]

theorem expandBatch_eq_pickUntil (primary : QCIssue)
    (picked candidates : List QCIssue) :
    expandBatch primary picked (namesOf picked) candidates =
      pickUntil 3 (joins primary) picked candidates := by
  induction candidates generalizing picked with
  | nil => rfl
  | cons candidate candidates induction =>
      have grown : namesOf picked ++ candidate.redoScope.competitors =
          namesOf (picked ++ [candidate]) := by
        simp [namesOf]
      have tests : (candidate.id ∈ picked.map (·.id) ∨
          candidate.redoScope.kind ≠ primary.redoScope.kind ∨
          candidate.redoScope.targetSubagent ≠
            primary.redoScope.targetSubagent ∨
          candidate.redoScope.competitors = [] ∨
          candidate.redoScope.competitors.any
            (· ∈ namesOf picked) = true) ↔
          ¬ joins primary picked candidate = true := by
        rw [← Bool.not_eq_false, any_mem_namesOf]
        simp only [joins, clusterKey, decide_eq_true_eq, Prod.mk.injEq]
        tauto
      unfold expandBatch pickUntil
      dsimp only
      by_cases joined : joins primary picked candidate = true
      · rw [if_neg (fun skipped => tests.mp skipped joined), if_pos joined,
          List.length_append, List.length_singleton, grown, induction]
      · rw [if_pos (tests.mpr joined), if_neg joined, induction]

/-! ## The shape of a batch -/

/-- Findings redone together. -/
structure Batch (issues : List QCIssue) : Prop where
  size : issues.length ≤ 3
  shared : ∀ first ∈ issues, ∀ second ∈ issues,
    clusterKey first = clusterKey second
  apart : issues.Pairwise QCIssue.Apart

theorem batch_singleton (issue : QCIssue) : Batch [issue] := by
  constructor
  case size => exact Nat.le_of_ble_eq_true rfl
  case shared => simp
  case apart => exact List.pairwise_singleton _ _

theorem QCIssue.Apart.symm {first second : QCIssue}
    (apart : first.Apart second) : second.Apart first :=
  fun name named other => apart name other named

/-- What admitting one more finding keeps. -/
theorem pickUntil_batch {admits : List QCIssue → QCIssue → Bool}
    {key : RedoKind × Option String} {picked candidates : List QCIssue}
    (fits : ∀ picked, ∀ candidate ∈ candidates,
      admits picked candidate = true →
        clusterKey candidate = key ∧ ∀ issue ∈ picked, candidate.Apart issue)
    (room : picked.length < 3) (shared : ∀ issue ∈ picked, clusterKey issue = key)
    (apart : picked.Pairwise QCIssue.Apart) :
    Batch (pickUntil 3 admits picked candidates) := by
  have whole : (∀ issue ∈ pickUntil 3 admits picked candidates,
      clusterKey issue = key) ∧
        (pickUntil 3 admits picked candidates).Pairwise QCIssue.Apart := by
    refine @pickUntil_invariant _ _ _ _ _ (fun issues =>
      (∀ issue ∈ issues, clusterKey issue = key) ∧
        issues.Pairwise QCIssue.Apart) ?_ ⟨shared, apart⟩
    rintro issues candidate member ⟨known, pairwise⟩ admitted
    obtain ⟨sameKey, fresh⟩ := fits issues candidate member admitted
    constructor
    · intro issue inside
      rcases List.mem_append.mp inside with before | last
      · exact known issue before
      · rw [List.mem_singleton.mp last]
        exact sameKey
    · rw [List.pairwise_append]
      refine ⟨pairwise, List.pairwise_singleton _ _, ?_⟩
      intro issue before other last
      rw [List.mem_singleton.mp last]
      exact (fresh issue before).symm
  constructor
  case size => exact pickUntil_length_le room
  case shared =>
    intro first isFirst second isSecond
    rw [whole.1 first isFirst, whole.1 second isSecond]
  case apart => exact whole.2

theorem expandRedoIssueBatch_batch (primary : QCIssue)
    (candidates : List QCIssue) :
    Batch (expandRedoIssueBatch primary candidates) := by
  unfold expandRedoIssueBatch
  split
  · exact batch_singleton primary
  · have names : primary.redoScope.competitors = namesOf [primary] := by
      simp [namesOf]
    rw [names, expandBatch_eq_pickUntil]
    refine @pickUntil_batch _ (clusterKey primary) _ _ ?_ (by simp) ?_
      (List.pairwise_singleton _ _)
    · intro picked candidate member joined
      simp only [joins, decide_eq_true_eq] at joined
      exact ⟨joined.2.1, joined.2.2.2⟩
    · intro issue member
      rw [List.mem_singleton.mp member]

theorem primary_mem_expandRedoIssueBatch (primary : QCIssue)
    (candidates : List QCIssue) :
    primary ∈ expandRedoIssueBatch primary candidates := by
  unfold expandRedoIssueBatch
  split
  · exact List.mem_singleton_self primary
  · have names : primary.redoScope.competitors = namesOf [primary] := by
      simp [namesOf]
    rw [names, expandBatch_eq_pickUntil]
    exact prefix_pickUntil.subset (List.mem_singleton_self primary)

/-! ## The best severity -/

theorem cons_le_of_keyLt {first second : Nat} {firstRest secondRest : List Nat}
    {firstLabel secondLabel : String}
    (smaller : keyLt (first :: firstRest, firstLabel)
      (second :: secondRest, secondLabel) = true) : first ≤ second := by
  simp only [keyLt, Bool.or_eq_true, Bool.and_eq_true, decide_eq_true_eq,
    List.cons_lt_cons_iff, List.cons.injEq] at smaller
  omega

theorem keyLt_of_lt {first second : Nat} {firstRest secondRest : List Nat}
    {firstLabel secondLabel : String} (smaller : first < second) :
    keyLt (first :: firstRest, firstLabel)
      (second :: secondRest, secondLabel) = true := by
  simp [keyLt, List.cons_lt_cons_iff, smaller]

/-- The chosen item has the smallest first rank. -/
theorem firstByKey_le {α : Type} {rank : α → Nat} {rest : α → List Nat}
    {label : α → String} {items : List α} {best : α}
    (chosen : firstByKey (fun item => (rank item :: rest item, label item))
      items = some best) :
    best ∈ items ∧ ∀ other ∈ items, rank best ≤ rank other := by
  induction items generalizing best with
  | nil => cases chosen
  | cons item items induction =>
      unfold firstByKey at chosen
      cases later : firstByKey
          (fun item => (rank item :: rest item, label item)) items with
      | none =>
          rw [later] at chosen
          cases chosen
          have empty : items = [] := by
            by_contra filled
            have found := firstByKey_isSome
              (fun item => (rank item :: rest item, label item)) filled
            rw [later] at found
            cases found
          subst empty
          simp
      | some least =>
          rw [later] at chosen
          obtain ⟨member, smallest⟩ := induction later
          dsimp only at chosen
          split at chosen
          · next smaller =>
              cases chosen
              refine ⟨List.mem_cons_of_mem item member, ?_⟩
              intro other isOther
              rcases List.mem_cons.mp isOther with same | inside
              · subst same
                exact cons_le_of_keyLt smaller
              · exact smallest other inside
          · next larger =>
              cases chosen
              refine ⟨List.mem_cons_self, ?_⟩
              intro other isOther
              rcases List.mem_cons.mp isOther with same | inside
              · rw [same]
              · have notBelow : ¬ rank least < rank item :=
                  fun below => larger (keyLt_of_lt below)
                exact (Nat.le_of_not_lt notBelow).trans (smallest other inside)

/-! ## The largest cluster -/

theorem mem_sortById {issues : List QCIssue} {issue : QCIssue} :
    issue ∈ sortById issues ↔ issue ∈ issues :=
  List.mem_insertionSort _

/-- Two names stand in findings of the best severity and of one agent and
dimension. -/
def NamesTwo (issues : List QCIssue) : Prop :=
  ∃ first ∈ batchableIssues issues, ∃ second ∈ batchableIssues issues,
    clusterKey first = clusterKey second ∧
      ∃ name ∈ first.redoScope.competitors,
        ∃ other ∈ second.redoScope.competitors, name ≠ other

theorem two_le_length_orderedUnique {values : List String} :
    2 ≤ (orderedUnique values).length ↔
      ∃ first ∈ values, ∃ second ∈ values, first ≠ second := by
  have distinct := orderedUnique_nodup values
  constructor
  · intro long
    match unique : orderedUnique values, long with
    | first :: second :: rest, _ =>
        rw [unique] at distinct
        have isFirst : first ∈ orderedUnique values := by simp [unique]
        have isSecond : second ∈ orderedUnique values := by simp [unique]
        refine ⟨first, mem_orderedUnique.mp isFirst, second,
          mem_orderedUnique.mp isSecond, ?_⟩
        rintro rfl
        simp at distinct
  · rintro ⟨first, isFirst, second, isSecond, different⟩
    rw [← mem_orderedUnique] at isFirst isSecond
    by_contra short
    match unique : orderedUnique values with
    | [] => simp [unique] at isFirst
    | [only] =>
        rw [unique, List.mem_singleton] at isFirst isSecond
        exact different (isFirst.trans isSecond.symm)
    | one :: two :: rest => simp [unique] at short

/-- The groups of `_select_largest_batchable_redo_cluster` that name two
competitors. -/
def batchableGroups (batchable : List QCIssue) :
    List ((RedoKind × Option String) × List QCIssue) :=
  ((orderedUnique (batchable.map clusterKey)).map fun key =>
    (key, batchable.filter fun issue => clusterKey issue = key)).filter
      fun group => 2 ≤ (orderedUnique
        (group.2.flatMap (·.redoScope.competitors))).length

theorem mem_batchableGroups {batchable : List QCIssue}
    {group : (RedoKind × Option String) × List QCIssue} :
    group ∈ batchableGroups batchable ↔
      group.2 = batchable.filter (fun issue => clusterKey issue = group.1) ∧
        ∃ first ∈ group.2, ∃ second ∈ group.2,
          ∃ name ∈ first.redoScope.competitors,
            ∃ other ∈ second.redoScope.competitors, name ≠ other := by
  rw [batchableGroups, List.mem_filter, decide_eq_true_iff,
    two_le_length_orderedUnique]
  simp only [List.mem_map, mem_orderedUnique, List.mem_flatMap]
  constructor
  · rintro ⟨⟨key, known, rfl⟩, name, ⟨first, isFirst, named⟩, other,
      ⟨second, isSecond, otherNamed⟩, different⟩
    exact ⟨rfl, first, isFirst, second, isSecond, name, named, other,
      otherNamed, different⟩
  · rintro ⟨isGroup, first, isFirst, second, isSecond, name, named, other,
      otherNamed, different⟩
    refine ⟨⟨group.1, ?_, ?_⟩, name, ⟨first, isFirst, named⟩, other,
      ⟨second, isSecond, otherNamed⟩, different⟩
    · rw [isGroup, List.mem_filter, decide_eq_true_iff] at isFirst
      exact ⟨first, isFirst.1, isFirst.2⟩
    · rw [← isGroup]

/-- The cluster is empty when there are no two names to batch; otherwise it
is picked from one group of findings. -/
theorem selectLargestBatchableRedoCluster_cases (detail : RunDetail) :
    (selectLargestBatchableRedoCluster detail = [] ∧
      ¬ NamesTwo detail.qaFindings) ∨
    ∃ key issues, issues ≠ [] ∧
      (∀ issue ∈ issues, issue ∈ batchableIssues detail.qaFindings ∧
        clusterKey issue = key) ∧
      selectLargestBatchableRedoCluster detail =
        pickUntil 3 fitsCluster [] issues ∧ NamesTwo detail.qaFindings := by
  let batchable := batchableIssues detail.qaFindings
  let rank (group : (RedoKind × Option String) × List QCIssue) : Nat :=
    (batchable.flatMap (·.redoScope.competitors)).length -
      (orderedUnique (group.2.flatMap (·.redoScope.competitors))).length
  let rest (group : (RedoKind × Option String) × List QCIssue) : List Nat :=
    [if group.1.1 = .analyst then 0 else 1]
  let label (group : (RedoKind × Option String) × List QCIssue) : String :=
    group.1.2.getD ""
  have unfolded : selectLargestBatchableRedoCluster detail =
      (firstByKey (fun group => (rank group :: rest group, label group))
        (batchableGroups batchable)).elim []
          (fun group => selectCluster [] [] (sortById group.2)) := by
    unfold selectLargestBatchableRedoCluster
    dsimp only
    split
    all_goals
      next found => exact (congrArg (Option.elim · [] fun group =>
        selectCluster [] [] (sortById group.2)) found).symm
  rw [unfolded]
  cases found : firstByKey
      (fun group => (rank group :: rest group, label group))
      (batchableGroups batchable) with
  | none =>
      refine Or.inl ⟨rfl, ?_⟩
      rintro ⟨first, isFirst, second, isSecond, sameKey, names⟩
      have listed : (clusterKey second, batchable.filter
          fun issue => clusterKey issue = clusterKey second) ∈
            batchableGroups batchable := by
        refine mem_batchableGroups.mpr ⟨rfl, first, ?_, second, ?_, names⟩
        · exact List.mem_filter.mpr ⟨isFirst, decide_eq_true sameKey⟩
        · exact List.mem_filter.mpr ⟨isSecond, decide_eq_true rfl⟩
      have chosen := firstByKey_isSome
        (fun group => (rank group :: rest group, label group))
        (List.ne_nil_of_mem listed)
      rw [found] at chosen
      cases chosen
  | some group =>
      obtain ⟨isGroup, first, isFirst, second, isSecond, names⟩ :=
        mem_batchableGroups.mp (firstByKey_le found).1
      have grouped : ∀ issue ∈ group.2,
          issue ∈ batchable ∧ clusterKey issue = group.1 := by
        intro issue member
        rw [isGroup, List.mem_filter, decide_eq_true_iff] at member
        exact member
      refine Or.inr ⟨group.1, sortById group.2, ?_, ?_, ?_, ?_⟩
      · exact List.ne_nil_of_mem (mem_sortById.mpr isFirst)
      · intro issue member
        exact grouped issue (mem_sortById.mp member)
      · exact selectCluster_eq_pickUntil [] (sortById group.2)
      · refine ⟨first, (grouped first isFirst).1, second,
          (grouped second isSecond).1, ?_, names⟩
        rw [(grouped first isFirst).2, (grouped second isSecond).2]

/-! ## The three ways to choose -/

/-- The findings the request asks for. -/
def requestedIssues (detail : RunDetail) (preferredIssueIds : List String) :
    List QCIssue :=
  detail.qaFindings.filter fun issue =>
    (issueSelectionKeys issue).any
      (· ∈ (preferredIssueIds.map strip).filter (· ≠ ""))

def availableIssues (detail : RunDetail) (preferredIssueIds : List String) :
    List QCIssue :=
  if preferredIssueIds ≠ [] then requestedIssues detail preferredIssueIds
  else detail.qaFindings

/-- The finding a batch starts from, unless a cluster is redone. -/
def StartsBatch (detail : RunDetail) (preferredIssueIds : List String)
    (primary : QCIssue) : Prop :=
  if preferredIssueIds ≠ [] then
    firstByKey poolRank (requestedIssues detail preferredIssueIds) =
      some primary
  else
    ¬ NamesTwo detail.qaFindings ∧
      firstByKey (issueRank detail) detail.qaFindings = some primary

theorem expandRedoIssueBatch_singleton (issue : QCIssue) :
    expandRedoIssueBatch issue [issue] = [issue] := by
  unfold expandRedoIssueBatch
  split
  · rfl
  · simp [sortById, expandBatch]

theorem selectRedoIssues_requested {detail : RunDetail}
    {preferredIssueIds : List String} (requested : preferredIssueIds ≠ []) :
    selectRedoIssues detail preferredIssueIds =
      match firstByKey poolRank
          (requestedIssues detail preferredIssueIds) with
      | none => []
      | some primary => expandRedoIssueBatch primary
          (requestedIssues detail preferredIssueIds) := by
  have unfolded : selectRedoIssues detail preferredIssueIds =
      if (requestedIssues detail preferredIssueIds).length ≤ 1 then
        requestedIssues detail preferredIssueIds
      else
        match firstByKey poolRank
            (requestedIssues detail preferredIssueIds) with
        | none => []
        | some primary => expandRedoIssueBatch primary
            (requestedIssues detail preferredIssueIds) := by
    unfold selectRedoIssues requestedIssues
    exact if_pos requested
  rw [unfolded]
  generalize requestedIssues detail preferredIssueIds = matched
  match matched with
  | [] => rfl
  | [issue] => exact (expandRedoIssueBatch_singleton issue).symm
  | first :: second :: rest => rw [if_neg (by simp)]

/-- A selection is empty, one cluster, or the batch of one finding. -/
theorem selectRedoIssues_cases (detail : RunDetail)
    (preferredIssueIds : List String) :
    (selectRedoIssues detail preferredIssueIds = [] ∧
      ∀ primary, ¬ StartsBatch detail preferredIssueIds primary) ∨
    (∃ primary, StartsBatch detail preferredIssueIds primary ∧
      selectRedoIssues detail preferredIssueIds =
        expandRedoIssueBatch primary
          (availableIssues detail preferredIssueIds)) ∨
    ((∀ primary, ¬ StartsBatch detail preferredIssueIds primary) ∧
      availableIssues detail preferredIssueIds = detail.qaFindings ∧
      ∃ key issues, issues ≠ [] ∧
        (∀ issue ∈ issues, issue ∈ batchableIssues detail.qaFindings ∧
          clusterKey issue = key) ∧
        selectRedoIssues detail preferredIssueIds =
          pickUntil 3 fitsCluster [] issues) := by
  unfold StartsBatch availableIssues
  by_cases requested : preferredIssueIds ≠ []
  · simp only [if_pos requested, selectRedoIssues_requested requested]
    cases found : firstByKey poolRank
        (requestedIssues detail preferredIssueIds) with
    | none => simp
    | some primary => simp
  · simp only [if_neg requested, selectRedoIssues]
    rcases selectLargestBatchableRedoCluster_cases detail with
      ⟨nothing, noTwo⟩ | ⟨key, issues, filled, grouped, picked, two⟩
    · simp only [nothing, ne_eq, not_true_eq_false, if_false, noTwo,
        not_false_eq_true, true_and]
      cases found : firstByKey (issueRank detail) detail.qaFindings with
      | none => simp
      | some primary => simp
    · have nonempty : selectLargestBatchableRedoCluster detail ≠ [] := by
        rw [picked]
        cases issues with
        | nil => exact absurd rfl filled
        | cons first rest =>
            have kept : first ∈ pickUntil 3 fitsCluster [] (first :: rest) := by
              simp only [pickUntil, fitsCluster, List.not_mem_nil,
                false_imp_iff, implies_true, decide_true, if_true,
                List.length_nil]
              exact prefix_pickUntil.subset (List.mem_singleton_self first)
            exact List.ne_nil_of_mem kept
      refine Or.inr (Or.inr ⟨?_, trivial, key, issues, filled, grouped, ?_⟩)
      · rintro primary ⟨noTwo, ranked⟩
        exact noTwo two
      · rw [if_pos nonempty, picked]

/-! ## Coverage of a merged scope -/

namespace RedoScope

def CoversCompetitor (scope : RedoScope) (name : String) : Prop :=
  scope.competitors = [] ∨ name ∈ scope.competitors

def CoversDimension (scope : RedoScope) (plan : AnalysisPlan)
    (dimension : String) : Prop :=
  (∀ other ∈ plan.dimensions, scope.targetSubagent ≠ some other) ∨
    scope.targetSubagent = some dimension

/-- Whatever of the plan the other scope asks for is asked for. -/
structure Covers (plan : AnalysisPlan) (scope other : RedoScope) : Prop where
  kind : scope.kind = other.kind
  competitors : ∀ name ∈ plan.competitors, other.CoversCompetitor name →
    scope.CoversCompetitor name
  dimensions : ∀ dimension ∈ plan.dimensions,
    other.CoversDimension plan dimension → scope.CoversDimension plan dimension

theorem covers_refl (plan : AnalysisPlan) (scope : RedoScope) :
    scope.Covers plan scope := by
  constructor
  case kind => rfl
  case competitors => exact fun _ _ => id
  case dimensions => exact fun _ _ => id

end RedoScope

theorem mem_competitors_mergeRedoScopes {primary : QCIssue}
    {others : List QCIssue} (several : others ≠ []) {name : String} :
    name ∈ (mergeRedoScopes primary others).competitors ↔
      name ∈ namesOf (primary :: others) := by
  have named : ∀ other ∈ namesOf (primary :: others), other ≠ "" := by
    intro other member
    obtain ⟨issue, inside, mentioned⟩ := List.mem_flatMap.mp member
    exact of_decide_eq_true (List.mem_filter.mp mentioned).2
  rw [mergeRedoScopes, if_neg several, RedoScope.competitors, List.mem_filter,
    List.mem_append, mem_sortedSet, decide_eq_true_iff]
  change (_ ∨ name ∈ namesOf (primary :: others)) ∧ name ≠ "" ↔ _
  constructor
  · rintro ⟨single | member, nonempty⟩
    · rw [Option.mem_toList] at single
      dsimp only at single
      split at single
      · exact mem_sortedSet.mp (List.mem_of_mem_head? single)
      · cases single
    · exact member
  · intro member
    exact ⟨Or.inr member, named name member⟩

/-- A merged scope covers its findings unless one of them names nobody and
the others do not name the whole plan. -/
theorem mergeRedoScopes_covers_iff {plan : AnalysisPlan} {primary : QCIssue}
    {others : List QCIssue} (batch : Batch (primary :: others)) :
    (∀ issue ∈ primary :: others,
        (mergeRedoScopes primary others).Covers plan issue.redoScope) ↔
      others = [] ∨
      (∀ issue ∈ primary :: others, issue.redoScope.competitors ≠ []) ∨
      namesOf (primary :: others) = [] ∨
      ∀ name ∈ plan.competitors, name ∈ namesOf (primary :: others) := by
  by_cases alone : others = []
  · subst alone
    refine iff_of_true ?_ (Or.inl rfl)
    intro issue member
    rw [List.mem_singleton.mp member]
    exact RedoScope.covers_refl plan primary.redoScope
  · rw [or_iff_right alone]
    have merged : (mergeRedoScopes primary others).competitors = [] ↔
        namesOf (primary :: others) = [] := by
      simp only [List.eq_nil_iff_forall_not_mem,
        mem_competitors_mergeRedoScopes alone]
    have sameKey : ∀ issue ∈ primary :: others,
        primary.redoScope.kind = issue.redoScope.kind ∧
          primary.redoScope.targetSubagent =
            issue.redoScope.targetSubagent := by
      intro issue member
      have same := batch.shared primary List.mem_cons_self issue member
      simpa [clusterKey] using same
    have kept : (mergeRedoScopes primary others).kind =
          primary.redoScope.kind ∧
        (mergeRedoScopes primary others).targetSubagent =
          primary.redoScope.targetSubagent := by
      rw [mergeRedoScopes, if_neg alone]
      exact ⟨rfl, rfl⟩
    constructor
    · intro covers
      by_cases allNamed : ∀ issue ∈ primary :: others,
          issue.redoScope.competitors ≠ []
      · exact Or.inl allNamed
      · right
        by_cases silent : namesOf (primary :: others) = []
        · exact Or.inl silent
        · right
          intro name planned
          simp only [not_forall, not_not] at allNamed
          obtain ⟨issue, member, unnamed⟩ := allNamed
          rcases (covers issue member).competitors name planned
              (Or.inl unnamed) with everybody | named
          · exact absurd (merged.mp everybody) silent
          · exact (mem_competitors_mergeRedoScopes alone).mp named
    · intro condition issue member
      constructor
      case kind => exact kept.1.trans (sameKey issue member).1
      case dimensions =>
        intro dimension planned covered
        unfold RedoScope.CoversDimension at covered ⊢
        rw [kept.2, (sameKey issue member).2]
        exact covered
      case competitors =>
        intro name planned covered
        have viaName : name ∈ issue.redoScope.competitors →
            (mergeRedoScopes primary others).CoversCompetitor name := by
          intro named
          right
          rw [mem_competitors_mergeRedoScopes alone]
          exact List.mem_flatMap.mpr ⟨issue, member, named⟩
        rcases condition with allNamed | silent | whole
        · rcases covered with unnamed | named
          · exact absurd unnamed (allNamed issue member)
          · exact viaName named
        · exact Or.inl (merged.mpr silent)
        · right
          rw [mem_competitors_mergeRedoScopes alone]
          exact whole name planned

/-! ## A batch that starts without a name -/

/-- The findings that join one that names nobody: the first that may, and the
first of the others that names nobody of the same. -/
def joiners (primary : QCIssue) (pool : List QCIssue) : List QCIssue :=
  match (sortById pool).filter (mayJoin primary) with
  | [] => []
  | first :: rest =>
      first :: (rest.find? fun candidate =>
        candidate.id ≠ first.id ∧ candidate.Apart first).toList

theorem expandRedoIssueBatch_eq_joiners {primary : QCIssue}
    (unnamed : primary.redoScope.competitors = [])
    (branch : primary.redoScope.kind.isBranchKind = true)
    (subagent : truthy primary.redoScope.targetSubagent ≠ none)
    (pool : List QCIssue) :
    expandRedoIssueBatch primary pool = primary :: joiners primary pool := by
  have names : primary.redoScope.competitors = namesOf [primary] := by
    simp [namesOf]
  have expanded : expandRedoIssueBatch primary pool =
      pickUntil 3 (joins primary) [primary] (sortById pool) := by
    rw [expandRedoIssueBatch, if_neg (by simp [branch, subagent]), names,
      expandBatch_eq_pickUntil]
  have onlyJoining : pickUntil 3 (joins primary) [primary] (sortById pool) =
      pickUntil 3 (joins primary) [primary]
        ((sortById pool).filter (mayJoin primary)) := by
    refine @pickUntil_filter _ _ _ _ _ (mayJoin primary)
      (fun picked => primary ∈ picked) ?_ ?_ (List.mem_singleton_self primary)
    · intro picked candidate known joined
      simp only [joins, mayJoin, decide_eq_true_eq] at joined ⊢
      refine ⟨?_, joined.2.1, joined.2.2.1⟩
      intro same
      exact joined.1 (List.mem_map.mpr ⟨primary, known, same.symm⟩)
    · intro picked candidate known
      exact List.mem_append_left _ known
  rw [expanded, onlyJoining, joiners]
  cases candidates : (sortById pool).filter (mayJoin primary) with
  | nil => rfl
  | cons first rest =>
      have allowed : ∀ candidate ∈ first :: rest,
          mayJoin primary candidate = true := by
        intro candidate member
        rw [← candidates] at member
        exact (List.mem_filter.mp member).2
      have vacuous : ∀ candidate : QCIssue, candidate.Apart primary := by
        intro candidate name named shared
        rw [unnamed] at shared
        cases shared
      have firstJoins : joins primary [primary] first = true := by
        have may := allowed first List.mem_cons_self
        simp only [mayJoin, decide_eq_true_eq] at may
        simp [joins, may, vacuous]
      have sameTest : rest.find? (joins primary ([primary] ++ [first])) =
          rest.find? fun candidate =>
            decide (candidate.id ≠ first.id ∧ candidate.Apart first) := by
        apply List.find?_congr
        intro candidate member
        have may := allowed candidate (List.mem_cons_of_mem first member)
        simp only [mayJoin, decide_eq_true_eq] at may
        simp [joins, may, vacuous]
      rw [pickUntil, if_pos firstJoins, if_neg (by simp),
        pickUntil_last (by simp), sameTest]
      rfl

theorem joiners_named {primary : QCIssue} {pool : List QCIssue} :
    ∀ issue ∈ joiners primary pool, issue.redoScope.competitors ≠ [] := by
  have allowed : ∀ issue ∈ (sortById pool).filter (mayJoin primary),
      issue.redoScope.competitors ≠ [] := by
    intro issue member
    have may := (List.mem_filter.mp member).2
    simp only [mayJoin, decide_eq_true_eq] at may
    exact may.2.2
  intro issue member
  rw [joiners] at member
  cases candidates : (sortById pool).filter (mayJoin primary) with
  | nil => simp [candidates] at member
  | cons first rest =>
      rw [candidates] at allowed member
      apply allowed
      rcases List.mem_cons.mp member with same | later
      · rw [same]
        exact List.mem_cons_self
      · exact List.mem_cons_of_mem first
          (List.mem_of_find?_eq_some (Option.mem_toList.mp later))

theorem joins_named {primary : QCIssue} {pool : List QCIssue}
    (named : primary.redoScope.competitors ≠ []) :
    ∀ issue ∈ expandRedoIssueBatch primary pool,
      issue.redoScope.competitors ≠ [] := by
  unfold expandRedoIssueBatch
  split
  · simpa using named
  · have names : primary.redoScope.competitors = namesOf [primary] := by
      simp [namesOf]
    rw [names, expandBatch_eq_pickUntil]
    refine @pickUntil_invariant _ _ _ _ _ (fun issues : List QCIssue =>
      ∀ issue ∈ issues, issue.redoScope.competitors ≠ []) ?_
      (by simpa using named)
    intro picked candidate member known joined issue inside
    simp only [joins, decide_eq_true_eq] at joined
    rcases List.mem_append.mp inside with before | last
    · exact known issue before
    · rw [List.mem_singleton.mp last]
      exact joined.2.2.1

/-! ## The selection and the retry -/

/-- What a selection owes the findings it was made from. -/
structure SelectionSound (detail : RunDetail)
    (preferredIssueIds : List String) : Prop where
  batch : Batch (selectRedoIssues detail preferredIssueIds)
  best : selectRedoIssues detail preferredIssueIds ≠ [] →
    ∃ issue ∈ selectRedoIssues detail preferredIssueIds,
      ∀ other ∈ availableIssues detail preferredIssueIds,
        issue.severity.rank ≤ other.severity.rank
  covers : ∀ primary others,
    selectRedoIssues detail preferredIssueIds = primary :: others →
      ∀ issue ∈ primary :: others,
        (mergeRedoScopes primary others).Covers detail.plan issue.redoScope

/-- The batch starts from a finding that names nobody, and those that join it
do not name the whole plan. -/
def BatchNarrows (detail : RunDetail) (preferredIssueIds : List String) :
    Prop :=
  ∃ primary, StartsBatch detail preferredIssueIds primary ∧
    primary.redoScope.competitors = [] ∧
    primary.redoScope.kind.isBranchKind = true ∧
    truthy primary.redoScope.targetSubagent ≠ none ∧
    joiners primary (availableIssues detail preferredIssueIds) ≠ [] ∧
    ∃ name ∈ detail.plan.competitors,
      name ∉ namesOf (joiners primary
        (availableIssues detail preferredIssueIds))

theorem StartsBatch.best {detail : RunDetail}
    {preferredIssueIds : List String} {primary : QCIssue}
    (starts : StartsBatch detail preferredIssueIds primary) :
    ∀ other ∈ availableIssues detail preferredIssueIds,
      primary.severity.rank ≤ other.severity.rank := by
  unfold StartsBatch at starts
  unfold availableIssues
  by_cases requested : preferredIssueIds ≠ []
  · rw [if_pos requested] at starts ⊢
    exact (firstByKey_le starts).2
  · rw [if_neg requested] at starts ⊢
    exact (firstByKey_le starts.2).2

theorem StartsBatch.unique {detail : RunDetail}
    {preferredIssueIds : List String} {primary other : QCIssue}
    (starts : StartsBatch detail preferredIssueIds primary)
    (otherStarts : StartsBatch detail preferredIssueIds other) :
    primary = other := by
  unfold StartsBatch at starts otherStarts
  by_cases requested : preferredIssueIds ≠ []
  · rw [if_pos requested] at starts otherStarts
    exact Option.some.inj (starts.symm.trans otherStarts)
  · rw [if_neg requested] at starts otherStarts
    exact Option.some.inj (starts.2.symm.trans otherStarts.2)

/-- The batch of one finding covers its members unless it narrows. -/
theorem expandRedoIssueBatch_covers_iff {plan : AnalysisPlan}
    (primary : QCIssue) (pool : List QCIssue) :
    (∀ first others, expandRedoIssueBatch primary pool = first :: others →
      ∀ issue ∈ first :: others,
        (mergeRedoScopes first others).Covers plan issue.redoScope) ↔
      ¬ (primary.redoScope.competitors = [] ∧
        primary.redoScope.kind.isBranchKind = true ∧
        truthy primary.redoScope.targetSubagent ≠ none ∧
        joiners primary pool ≠ [] ∧
        ∃ name ∈ plan.competitors, name ∉ namesOf (joiners primary pool)) := by
  have batch := expandRedoIssueBatch_batch primary pool
  by_cases branch : primary.redoScope.kind.isBranchKind = true ∧
      truthy primary.redoScope.targetSubagent ≠ none
  · by_cases unnamed : primary.redoScope.competitors = []
    · have joined := expandRedoIssueBatch_eq_joiners unnamed branch.1 branch.2
        pool
      have sameNames : namesOf (primary :: joiners primary pool) =
          namesOf (joiners primary pool) := by
        simp [namesOf, unnamed]
      rw [joined] at batch ⊢
      have coverage := @mergeRedoScopes_covers_iff plan _ _ batch
      rw [sameNames] at coverage
      constructor
      · intro covers
        rintro ⟨_, _, _, several, name, planned, missing⟩
        rcases coverage.mp (covers _ _ rfl) with alone | allNamed | silent |
          whole
        · exact several alone
        · exact allNamed primary List.mem_cons_self unnamed
        · obtain ⟨issue, member⟩ := List.exists_mem_of_ne_nil _ several
          have empty := (List.flatMap_eq_nil_iff.mp silent) issue member
          exact joiners_named issue member empty
        · exact missing (whole name planned)
      · intro wide first others isCons
        cases isCons
        apply coverage.mpr
        by_cases alone : joiners primary pool = []
        · exact Or.inl alone
        · refine Or.inr (Or.inr (Or.inr ?_))
          intro name planned
          by_contra missing
          exact wide ⟨unnamed, branch.1, branch.2, alone, name, planned,
            missing⟩
    · refine iff_of_true ?_ (fun narrows => unnamed narrows.1)
      intro first others isCons
      have named := @joins_named primary pool unnamed
      rw [isCons] at batch named
      exact (mergeRedoScopes_covers_iff batch).mpr (Or.inr (Or.inl named))
  · refine iff_of_true ?_ ?_
    · intro first others isCons
      have single : expandRedoIssueBatch primary pool = [primary] := by
        unfold expandRedoIssueBatch
        apply if_pos
        by_contra neither
        simp only [not_or, Bool.not_eq_true', Bool.not_eq_false] at neither
        exact branch neither
      rw [isCons] at batch
      apply (mergeRedoScopes_covers_iff batch).mpr
      left
      rw [isCons] at single
      cases single
      rfl
    · rintro ⟨_, branchKind, subagent, _⟩
      exact branch ⟨branchKind, subagent⟩

theorem selectionSound_iff (detail : RunDetail)
    (preferredIssueIds : List String) :
    SelectionSound detail preferredIssueIds ↔
      ¬ BatchNarrows detail preferredIssueIds := by
  rcases selectRedoIssues_cases detail preferredIssueIds with
    ⟨empty, noStart⟩ | ⟨primary, starts, isBatch⟩ |
    ⟨noStart, whole, key, issues, filled, grouped, isCluster⟩
  · refine iff_of_true ?_ ?_
    · constructor
      case batch =>
        rw [empty]
        exact ⟨Nat.zero_le 3, by simp, List.Pairwise.nil⟩
      case best => exact fun filled => absurd empty filled
      case covers =>
        intro primary others isCons
        rw [empty] at isCons
        cases isCons
    · rintro ⟨primary, starts, _⟩
      exact noStart primary starts
  · have coverage := @expandRedoIssueBatch_covers_iff detail.plan primary
      (availableIssues detail preferredIssueIds)
    constructor
    · rintro sound ⟨other, otherStarts, narrows⟩
      rw [← starts.unique otherStarts] at narrows
      have covers := sound.covers
      rw [isBatch] at covers
      exact coverage.mp covers narrows
    · intro wide
      constructor
      case batch =>
        rw [isBatch]
        exact expandRedoIssueBatch_batch primary _
      case best =>
        intro filled
        refine ⟨primary, ?_, starts.best⟩
        rw [isBatch]
        exact primary_mem_expandRedoIssueBatch primary _
      case covers =>
        rw [isBatch]
        apply coverage.mpr
        intro narrows
        exact wide ⟨primary, starts, narrows⟩
  · have fits : ∀ picked, ∀ candidate ∈ issues,
        fitsCluster picked candidate = true →
          clusterKey candidate = key ∧
            ∀ issue ∈ picked, candidate.Apart issue := by
      intro picked candidate member admitted
      exact ⟨(grouped candidate member).2, by simpa [fitsCluster] using admitted⟩
    have batch : Batch (pickUntil 3 fitsCluster [] issues) :=
      pickUntil_batch fits (by simp) (by simp) List.Pairwise.nil
    have drawn : ∀ issue ∈ pickUntil 3 fitsCluster [] issues,
        issue ∈ batchableIssues detail.qaFindings := by
      intro issue member
      rcases mem_pickUntil member with before | later
      · cases before
      · exact (grouped issue later).1
    refine iff_of_true ?_ ?_
    · constructor
      case batch => rwa [isCluster]
      case best =>
        intro selected
        obtain ⟨issue, member⟩ := List.exists_mem_of_ne_nil _ selected
        refine ⟨issue, member, ?_⟩
        rw [isCluster] at member
        have isBest := (List.mem_filter.mp (drawn issue member)).2
        simp only [Bool.and_eq_true, List.all_eq_true, decide_eq_true_eq]
          at isBest
        rw [whole]
        exact isBest.1.1.1
      case covers =>
        intro primary others isCons
        rw [isCluster] at isCons
        have named : ∀ issue ∈ primary :: others,
            issue.redoScope.competitors ≠ [] := by
          intro issue member
          rw [← isCons] at member
          have isNamed := (List.mem_filter.mp (drawn issue member)).2
          simp only [Bool.and_eq_true, decide_eq_true_eq] at isNamed
          exact isNamed.2
        rw [isCons] at batch
        exact (mergeRedoScopes_covers_iff batch).mpr (Or.inr (Or.inl named))
    · rintro ⟨primary, starts, _⟩
      exact noStart primary starts

/-- The targets of a retry contain what each blocker asks for. -/
def TargetsCover (target : QCIssue → Option String) (allowed : List String)
    (everything : QCIssue → Prop) (blockers : List QCIssue) : Prop :=
  ∀ issue ∈ blockers, ∀ value ∈ allowed,
    everything issue ∨ target issue = some value →
      NamesTarget target allowed blockers value

/-- Some blockers ask for everything, and others name a part of it. -/
def TargetsNarrow (target : QCIssue → Option String) (allowed : List String)
    (everything : QCIssue → Prop) (blockers : List QCIssue) : Prop :=
  (∃ issue ∈ blockers, everything issue) ∧
    (∃ issue ∈ blockers, ∃ value ∈ allowed, target issue = some value) ∧
    ∃ value ∈ allowed, ∀ issue ∈ blockers, target issue ≠ some value

theorem targetsCover_iff {target : QCIssue → Option String}
    {allowed : List String} {everything : QCIssue → Prop}
    {blockers : List QCIssue} :
    TargetsCover target allowed everything blockers ↔
      ¬ TargetsNarrow target allowed everything blockers := by
  constructor
  · rintro covers ⟨⟨issue, member, asksAll⟩, ⟨other, otherMember, named,
      planned, names⟩, value, valuePlanned, missing⟩
    rcases covers issue member value valuePlanned (Or.inl asksAll) with
      ⟨naming, namingMember, namesValue⟩ | nobody
    · exact missing naming namingMember namesValue
    · exact nobody other otherMember named planned names
  · intro wide issue member value planned asked
    rcases asked with asksAll | names
    · by_contra missing
      simp only [NamesTarget, not_or, not_exists, not_and, not_forall,
        not_not] at missing
      obtain ⟨unnamed, other, otherMember, named, namedPlanned, names⟩ :=
        missing
      exact wide ⟨⟨issue, member, asksAll⟩, ⟨other, otherMember, named,
        namedPlanned, names⟩, value, planned, unnamed⟩
    · exact Or.inl ⟨issue, member, names⟩

def NamesNoCompetitor (issue : QCIssue) : Prop :=
  truthy issue.targetCompetitor = none

def NamesNoDimension (plan : AnalysisPlan) (issue : QCIssue) : Prop :=
  ∀ dimension ∈ plan.dimensions, issue.targetSubagent ≠ some dimension

/-- The dimensions and competitors of a retry cover its blockers; no
competitor stands for all. -/
structure RetryCovers (plan : AnalysisPlan) (blockers : List QCIssue) :
    Prop where
  dimensions : ∀ issue ∈ blockers, ∀ dimension ∈ plan.dimensions,
    NamesNoDimension plan issue ∨ issue.targetSubagent = some dimension →
      dimension ∈ issueDimensions plan blockers
  competitors : ∀ issue ∈ blockers, ∀ name ∈ plan.competitors,
    NamesNoCompetitor issue ∨ issue.targetCompetitor = some name →
      issueTargetCompetitors plan blockers = [] ∨
        name ∈ issueTargetCompetitors plan blockers

def RetryNarrows (plan : AnalysisPlan) (blockers : List QCIssue) : Prop :=
  TargetsNarrow (·.targetSubagent) plan.dimensions (NamesNoDimension plan)
      blockers ∨
    TargetsNarrow (·.targetCompetitor) plan.competitors NamesNoCompetitor
      blockers

theorem mem_issueDimensions {plan : AnalysisPlan} {blockers : List QCIssue}
    {dimension : String} (planned : dimension ∈ plan.dimensions) :
    dimension ∈ issueDimensions plan blockers ↔
      NamesTarget (·.targetSubagent) plan.dimensions blockers dimension := by
  rw [issueDimensions, mem_sortedSet, ← mem_orElse_planTargets planned]
  rfl

theorem mem_issueTargetCompetitors {plan : AnalysisPlan}
    {blockers : List QCIssue} {name : String}
    (planned : name ∈ plan.competitors) :
    (issueTargetCompetitors plan blockers = [] ∨
        name ∈ issueTargetCompetitors plan blockers) ↔
      NamesTarget (·.targetCompetitor) plan.competitors blockers name := by
  rw [issueTargetCompetitors, sortedSet_eq_nil, mem_sortedSet,
    planTargets_eq_nil, mem_planTargets, NamesTarget, or_comm]
  simp only [planned, true_and]

theorem retryCovers_iff (plan : AnalysisPlan) (blockers : List QCIssue) :
    RetryCovers plan blockers ↔ ¬ RetryNarrows plan blockers := by
  rw [RetryNarrows, not_or, ← targetsCover_iff, ← targetsCover_iff]
  constructor
  · intro covers
    constructor
    · intro issue member dimension planned asked
      exact (mem_issueDimensions planned).mp
        (covers.dimensions issue member dimension planned asked)
    · intro issue member name planned asked
      exact (mem_issueTargetCompetitors planned).mp
        (covers.competitors issue member name planned asked)
  · rintro ⟨dimensions, competitors⟩
    constructor
    case dimensions =>
      intro issue member dimension planned asked
      exact (mem_issueDimensions planned).mpr
        (dimensions issue member dimension planned asked)
    case competitors =>
      intro issue member name planned asked
      exact (mem_issueTargetCompetitors planned).mpr
        (competitors issue member name planned asked)

/-- The selection of a redo and the retry of a phase cover their findings
exactly when neither mixes findings that name everybody with named ones. -/
theorem redoCoverage_iff (detail : RunDetail)
    (preferredIssueIds : List String) (phase : Phase) :
    (SelectionSound detail preferredIssueIds ∧
        RetryCovers detail.plan (blockingPhaseIssues detail phase)) ↔
      ¬ (BatchNarrows detail preferredIssueIds ∨
        RetryNarrows detail.plan (blockingPhaseIssues detail phase)) := by
  rw [selectionSound_iff, retryCovers_iff, not_or]

namespace RedoCoverageExample

def finding (id : String) (severity : Severity) (competitor : Option String) :
    QCIssue :=
  { id := id
    severity := severity
    detectedBy := .coverage
    targetAgent := "collector"
    targetSubagent := some "pricing"
    targetCompetitor := competitor
    redoScope :=
      { kind := .collector
        targetSubagent := some "pricing"
        targetCompetitor := competitor } }

/-- Nobody has prices, and a warning about Acme joins. -/
def detail : RunDetail :=
  { id := "run-1"
    plan :=
      { competitors := ["Acme", "Birch"]
        dimensions := ["pricing"] }
    qaFindings := [finding "qa-1" .blocker none,
      finding "qa-2" .warn (some "Acme")] }

theorem selection_narrowed :
    selectRedoIssues detail [] =
        [finding "qa-1" .blocker none, finding "qa-2" .warn (some "Acme")] ∧
      ¬ SelectionSound detail [] := by
  have selected : selectRedoIssues detail [] =
      [finding "qa-1" .blocker none, finding "qa-2" .warn (some "Acme")] := by
    decide +kernel
  refine ⟨selected, ?_⟩
  intro sound
  have covered := (sound.covers _ _ selected _ List.mem_cons_self).competitors
    "Birch" (by decide) (Or.inl rfl)
  rcases covered with everybody | named
  · revert everybody
    decide +kernel
  · revert named
    decide +kernel

end RedoCoverageExample

end CompetiScope
