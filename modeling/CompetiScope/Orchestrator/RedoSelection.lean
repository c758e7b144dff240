import Mathlib.Data.String.Basic
import CompetiScope.Foundation.Collections
import CompetiScope.Schema.Run

/-!
# Choosing the findings of the next redo

`_select_redo_issues` and `_merge_redo_scopes` of `orchestrator/service.py`.
A redo covers one finding, or up to three findings of one agent and dimension
whose competitors do not overlap.
-/

namespace CompetiScope

open Foundation

/-- `value` of an optional string when it is neither missing nor empty. -/
def truthy (value : Option String) : Option String :=
  value.filter (· ≠ "")

def RedoKind.text : RedoKind → String
  | writerOnly => "writer_only"
  | comparator => "comparator"
  | analyst => "analyst"
  | collector => "collector"
  | full => "full"

def RedoKind.rank : RedoKind → Nat
  | collector => 0
  | analyst => 1
  | comparator => 2
  | writerOnly => 3
  | full => 4

def Severity.rank : Severity → Nat
  | blocker => 0
  | warn => 1
  | info => 2

def DetectedBy.rank (detectedBy : DetectedBy) : Nat :=
  if detectedBy ∈ [.schema, .citation, .coverage] then 0 else 1

/-- Kinds whose redo is one dimension of the fan-out. -/
def RedoKind.isBranchKind (kind : RedoKind) : Bool :=
  kind = .collector || kind = .analyst

/-- The named competitors of a scope, the single one first. -/
def RedoScope.competitors (scope : RedoScope) : List String :=
  (scope.targetCompetitor.toList ++ scope.targetCompetitors).filter (· ≠ "")

/-- `_redo_scope_key`. -/
def redoScopeKey (scope : RedoScope) : String :=
  let competitors :=
    if scope.targetCompetitors ≠ [] then
      String.intercalate "," scope.targetCompetitors
    else (truthy scope.targetCompetitor).getD "*"
  scope.kind.text ++ ":" ++ competitors ++ ":" ++
    (truthy scope.targetSubagent).getD "*"

/-- Sort keys are tuples of numbers followed by one string. -/
def keyLt (left right : List Nat × String) : Bool :=
  left.1 < right.1 || (left.1 = right.1 && left.2 < right.2)

/-- `sorted(items, key=key)[0]`: the first of the smallest items. -/
def firstByKey {α : Type} (key : α → List Nat × String) : List α → Option α
  | [] => none
  | item :: items =>
      match firstByKey key items with
      | none => some item
      | some best => if keyLt (key best) (key item) then some best else some item

/-- `sorted(items, key=lambda item: item.id)`. -/
def sortById (issues : List QCIssue) : List QCIssue :=
  issues.insertionSort fun left right => left.id ≤ right.id

/-- The rank of `_select_redo_issue`; earlier attempts push an issue back. -/
def issueRank (detail : RunDetail) (issue : QCIssue) : List Nat × String :=
  let issueAttempts :=
    (detail.revisions.flatMap (·.issueIds)).count issue.id
  let scopeAttempts :=
    (detail.revisions.flatMap fun revision =>
      revision.redoScopes.map redoScopeKey).count (redoScopeKey issue.redoScope)
  ([issue.severity.rank, issueAttempts + scopeAttempts,
      if truthy issue.redoScope.targetCompetitor = none then 1 else 0,
      issue.redoScope.kind.rank, issue.detectedBy.rank], issue.id)

/-- The rank of `_select_redo_issue_from_pool`. -/
def poolRank (issue : QCIssue) : List Nat × String :=
  ([issue.severity.rank,
      if truthy issue.redoScope.targetCompetitor = none then 1 else 0,
      issue.redoScope.kind.rank, issue.detectedBy.rank], issue.id)

/-- The loop of `_expand_redo_issue_batch`. -/
def expandBatch (primary : QCIssue) (selected : List QCIssue)
    (competitors : List String) : List QCIssue → List QCIssue
  | [] => selected
  | candidate :: candidates =>
      let named := candidate.redoScope.competitors
      if candidate.id ∈ selected.map (·.id) ∨
          candidate.redoScope.kind ≠ primary.redoScope.kind ∨
          candidate.redoScope.targetSubagent ≠
            primary.redoScope.targetSubagent ∨
          named = [] ∨ named.any (· ∈ competitors) then
        expandBatch primary selected competitors candidates
      else if 3 ≤ (selected ++ [candidate]).length then
        selected ++ [candidate]
      else
        expandBatch primary (selected ++ [candidate]) (competitors ++ named)
          candidates

/-- `_expand_redo_issue_batch`. -/
def expandRedoIssueBatch (primary : QCIssue) (candidates : List QCIssue) :
    List QCIssue :=
  if !primary.redoScope.kind.isBranchKind ∨
      truthy primary.redoScope.targetSubagent = none then
    [primary]
  else
    expandBatch primary [primary] primary.redoScope.competitors
      (sortById candidates)

/-- Findings of the best severity that name a branch and a competitor. -/
def batchableIssues (issues : List QCIssue) : List QCIssue :=
  issues.filter fun issue =>
    issues.all (fun other => issue.severity.rank ≤ other.severity.rank) &&
      issue.redoScope.kind.isBranchKind &&
      (truthy issue.redoScope.targetSubagent).isSome &&
      issue.redoScope.competitors ≠ []

/-- The group key of `_select_largest_batchable_redo_cluster`. -/
def clusterKey (issue : QCIssue) : RedoKind × Option String :=
  (issue.redoScope.kind, issue.redoScope.targetSubagent)

/-- The selection loop over the chosen cluster. -/
def selectCluster (selected : List QCIssue) (competitors : List String) :
    List QCIssue → List QCIssue
  | [] => selected
  | issue :: issues =>
      let named := issue.redoScope.competitors
      if named.any (· ∈ competitors) then
        selectCluster selected competitors issues
      else if 3 ≤ (selected ++ [issue]).length then selected ++ [issue]
      else
        selectCluster (selected ++ [issue]) (competitors ++ named) issues

/-- `_select_largest_batchable_redo_cluster`. -/
def selectLargestBatchableRedoCluster (detail : RunDetail) : List QCIssue :=
  let batchable := batchableIssues detail.qaFindings
  let groups := (orderedUnique (batchable.map clusterKey)).map fun key =>
    (key, batchable.filter fun issue => clusterKey issue = key)
  let named (issues : List QCIssue) : Nat :=
    (orderedUnique (issues.flatMap (·.redoScope.competitors))).length
  let candidates := groups.filter fun group => 2 ≤ named group.2
  let total := (batchable.flatMap (·.redoScope.competitors)).length
  -- Largest group first, then the kind, then the dimension.
  match firstByKey
      (fun group =>
        ([total - named group.2, if group.1.1 = .analyst then 0 else 1],
          group.1.2.getD ""))
      candidates with
  | none => []
  | some group => selectCluster [] [] (sortById group.2)

/-- `_issue_selection_keys`. -/
def issueSelectionKeys (issue : QCIssue) : List String :=
  issue.id ::
    (["release_gate_issue_id", "run_qa_finding_id", "release_gate_task_id"]
      |>.filterMap issue.metadata.get?
      |>.map strip |>.filter (· ≠ ""))

/-- `_select_redo_issues`. -/
def selectRedoIssues (detail : RunDetail) (preferredIssueIds : List String) :
    List QCIssue :=
  if preferredIssueIds ≠ [] then
    let requested := (preferredIssueIds.map strip).filter (· ≠ "")
    let matched := detail.qaFindings.filter fun issue =>
      (issueSelectionKeys issue).any (· ∈ requested)
    if matched.length ≤ 1 then matched
    else
      match firstByKey poolRank matched with
      | none => []
      | some primary => expandRedoIssueBatch primary matched
  else
    let clustered := selectLargestBatchableRedoCluster detail
    if clustered ≠ [] then clustered
    else
      match firstByKey (issueRank detail) detail.qaFindings with
      | none => []
      | some primary => expandRedoIssueBatch primary detail.qaFindings

/-- `_merge_redo_scopes` of a non-empty selection with first issue `primary`. -/
def mergeRedoScopes (primary : QCIssue) (others : List QCIssue) : RedoScope :=
  if others = [] then primary.redoScope
  else
    let issues := primary :: others
    let competitors :=
      sortedSet (issues.flatMap (·.redoScope.competitors))
    { kind := primary.redoScope.kind
      targetSubagent := primary.redoScope.targetSubagent
      targetCompetitor :=
        if competitors.length = 1 then competitors.head? else none
      targetCompetitors := competitors
      rationale :=
        "Batch redo for " ++ toString issues.length ++ " " ++
          primary.redoScope.kind.text ++ " issue(s) in " ++
          (truthy primary.redoScope.targetSubagent).getD "all" ++ ": " ++
          String.intercalate "; " ((issues.take 3).map (·.problem)) }

def structuredTargetKeys : List String :=
  ["source_id", "claim_card_id", "decision_card_id", "section_key",
    "artifact_layer"]

/-- `_structured_redo_targets`: per key the distinct values, in order. -/
def structuredRedoTargets (issues : List QCIssue) :
    Dict String (List String) :=
  issues.foldl
    (fun targets issue =>
      structuredTargetKeys.foldl
        (fun targets key =>
          match truthy (issue.metadata.get? key) with
          | none => targets
          | some value =>
              let known := targets.getD key []
              if value ∈ known then targets
              else targets.set key (known ++ [value]))
        targets)
    ∅

theorem firstByKey_isSome {α : Type} (key : α → List Nat × String)
    {items : List α} (nonempty : items ≠ []) :
    (firstByKey key items).isSome := by
  cases items with
  | nil => exact (nonempty rfl).elim
  | cons item items =>
      unfold firstByKey
      cases firstByKey key items with
      | none => rfl
      | some best =>
          simp only
          split <;> rfl

end CompetiScope
