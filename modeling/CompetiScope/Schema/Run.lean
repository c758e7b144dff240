import CompetiScope.Schema.Knowledge

/-!
# Run state

The records of `schema/models.py`, `schema/api_dto.py` and
`orchestrator/service.py` that the analysis graph reads and writes.
Timestamps, traces and agent messages are left out: no modelled function
branches on them.
-/

namespace CompetiScope

open Foundation

inductive RedoKind where
  | writerOnly
  | comparator
  | analyst
  | collector
  | full
  deriving DecidableEq

structure RedoScope where
  kind : RedoKind
  targetSubagent : Option String := none
  targetCompetitor : Option String := none
  targetCompetitors : List String := []
  rationale : String := ""
  deriving DecidableEq

inductive Severity where
  | info
  | warn
  | blocker
  deriving DecidableEq

inductive DetectedBy where
  | citation
  | consistency
  | coverage
  | schema
  | reflector
  | textQuality
  deriving DecidableEq

structure QCIssue where
  id : String
  severity : Severity
  detectedBy : DetectedBy
  targetAgent : String
  targetSubagent : Option String := none
  targetCompetitor : Option String := none
  fieldPath : String := ""
  problem : String := ""
  redoScope : RedoScope
  /-- The string-valued entries; no modelled function reads another one. -/
  metadata : Dict String String := ∅
  deriving DecidableEq

structure AnalysisPlan where
  competitors : List String
  dimensions : List String
  deriving DecidableEq

structure RawSource where
  id : String
  competitor : String
  coveredCompetitors : List String := []
  dimension : String
  sourceType : String := ""
  title : String := ""
  url : Option String := none
  snippet : String := ""
  contentHash : String := ""
  confidence : Float := 0
  metadata : Dict String Json := ∅
  extractedAt : Nat := 0

structure ComparisonCell where
  competitor : String
  dimension : String
  value : String
  sourceIds : List String := []
  confidence : Float := 0

structure ComparisonMatrix where
  competitors : List String
  dimensions : List String
  cells : List ComparisonCell := []
  winnerByDimension : Dict String String := ∅
  summary : List String := []

structure ReflectionRecord where
  iteration : Nat
  coverageGaps : List String := []
  suggestedRedos : List RedoScope := []

structure RevisionRecord where
  iteration : Nat
  stage : RedoKind
  targetSubagent : Option String
  targetCompetitor : Option String
  targetCompetitors : List String
  redoScopes : List RedoScope
  beforeMd : String
  afterMd : String
  issueIds : List String
  qaIssueIdsBefore : List String
  issueCountBefore : Nat
  issueCountAfter : Nat
  structuredTargets : Dict String (List String) := ∅
  deriving DecidableEq

inductive RunStatus where
  | queued
  | running
  | interrupted
  | completed
  | completedWithBlockers
  | failed
  deriving DecidableEq

inductive ExecutionMode where
  | demo
  | real
  deriving DecidableEq

structure RunDetail where
  id : String
  status : RunStatus := .queued
  executionMode : ExecutionMode := .real
  plan : AnalysisPlan
  maxIterations : Nat := 2
  autoRedoWarnEnabled : Bool := false
  hitlEnabled : Bool := false
  reportMd : String := ""
  rawSources : List RawSource := []
  competitorKbs : Dict String CompetitorKB := ∅
  competitorKnowledge : Dict String CompetitorKnowledge := ∅
  comparisonMatrix : Option ComparisonMatrix := none
  qaFindings : List QCIssue := []
  reflections : List ReflectionRecord := []
  revisions : List RevisionRecord := []
  currentNode : Option String := none

/-- The redo prepared by a graph run and not yet turned into a revision. -/
structure PendingGraphRedo where
  iteration : Nat
  stage : RedoKind
  redoScope : RedoScope
  redoScopes : List RedoScope
  beforeMd : String
  issueIds : List String
  qaIssueIdsBefore : List String
  issueCountBefore : Nat
  structuredTargets : Dict String (List String) := ∅
  autoContinue : Bool := false
  deriving DecidableEq

structure RunRecord where
  detail : RunDetail
  pendingGraphRedo : Option PendingGraphRedo := none

inductive HitlDecision where
  | accept
  | modifyPlan
  | forcePass
  | redo
  deriving DecidableEq

/-- A reviewer's answer.  `dimensions` are the requested dimensions after
`_normalize_requested_dimensions`, `competitors` the plan's competitors after
`_apply_planner_competitor_review`, when the answer edits them. -/
structure HitlResumeRequest where
  decision : HitlDecision
  dimensions : List String := []
  competitors : Option (List String) := none
  deriving DecidableEq

namespace RunDetail

/-- `_redo_limit_reached`. -/
def redoLimitReached (detail : RunDetail) : Bool :=
  detail.maxIterations ≤ detail.revisions.length

/-- What clearing outputs for a rerun never changes. -/
structure SameSettings (before after : RunDetail) : Prop where
  plan : after.plan = before.plan
  maxIterations : after.maxIterations = before.maxIterations
  revisions : after.revisions = before.revisions
  hitlEnabled : after.hitlEnabled = before.hitlEnabled

namespace SameSettings

theorem refl (detail : RunDetail) : SameSettings detail detail :=
  ⟨rfl, rfl, rfl, rfl⟩

theorem trans {first second third : RunDetail}
    (left : SameSettings first second) (right : SameSettings second third) :
    SameSettings first third :=
  { plan := right.plan.trans left.plan
    maxIterations := right.maxIterations.trans left.maxIterations
    revisions := right.revisions.trans left.revisions
    hitlEnabled := right.hitlEnabled.trans left.hitlEnabled }

theorem foldl {Item : Type*} {update : RunDetail → Item → RunDetail}
    (each : ∀ detail item, SameSettings detail (update detail item))
    (items : List Item) (detail : RunDetail) :
    SameSettings detail (items.foldl update detail) := by
  induction items generalizing detail with
  | nil => exact refl detail
  | cons item items induction =>
      exact (each detail item).trans (induction (update detail item))

end SameSettings

end RunDetail

end CompetiScope
