import CompetiScope.BusinessIntel.ClaimValidator
import CompetiScope.Foundation.StableSort
import CompetiScope.Foundation.Table
import CompetiScope.Foundation.Words
import Mathlib.Data.String.Basic

/-!
# The preference memory

Feedback is redacted and stored, memory candidates are extracted from it and
upserted under an id made of their scope, kind and statement, and a run recalls
the best candidates of its project.  Floats are rationals here.
-/

namespace CompetiScope

open Foundation

inductive MemoryFeedbackType where
  | correction
  | preference
  | approval
  | rejection
  | note
  deriving DecidableEq

inductive MemoryTargetType where
  | report
  | claim
  | evidence
  | dimension
  | competitor
  | project
  deriving DecidableEq

def MemoryTargetType.text : MemoryTargetType → String
  | .report => "report"
  | .claim => "claim"
  | .evidence => "evidence"
  | .dimension => "dimension"
  | .competitor => "competitor"
  | .project => "project"

inductive MemoryCandidateKind where
  | preferredDimension
  | domainFact
  | sourcePreference
  | writingPreference
  | riskPreference
  | failurePattern
  | qaPolicy
  | correction
  deriving DecidableEq

def MemoryCandidateKind.text : MemoryCandidateKind → String
  | .preferredDimension => "preferred_dimension"
  | .domainFact => "domain_fact"
  | .sourcePreference => "source_preference"
  | .writingPreference => "writing_preference"
  | .riskPreference => "risk_preference"
  | .failurePattern => "failure_pattern"
  | .qaPolicy => "qa_policy"
  | .correction => "correction"

inductive MemoryCandidateStatus where
  | candidate
  | confirmed
  | rejected
  | archived
  deriving DecidableEq

structure UserFeedbackRecord where
  id : String
  workspaceId : String
  projectId : String
  userId : String
  feedbackType : MemoryFeedbackType := .note
  targetType : MemoryTargetType := .project
  targetId : String := ""
  runId : Option String := none
  reportVersionId : Option String := none
  message : String
  tags : List String := []
  redactionCounts : Dict String Nat := ∅
  createdAt : Nat := 0
  metadata : Dict String MetadataValue := ∅

structure MemoryCandidate where
  id : String
  workspaceId : String
  projectId : String
  kind : MemoryCandidateKind
  status : MemoryCandidateStatus := .candidate
  statement : String
  weight : Rat := 1 / 2
  confidence : Rat := 1 / 2
  sourceFeedbackIds : List String := []
  tags : List String := []
  matchScore : Rat := 0
  usedCount : Nat := 0
  createdAt : Nat := 0
  updatedAt : Nat := 0
  metadata : Dict String MetadataValue := ∅
  deriving DecidableEq

structure MemoryRecallContext where
  workspaceId : String
  projectId : String
  query : String
  queryTags : List String
  candidates : List MemoryCandidate
  promptContext : List String
  generatedAt : Nat

/-- A row of `memory_feedback`; a conflict replaces the record only. -/
structure FeedbackRow where
  workspaceId : String
  projectId : String
  record : UserFeedbackRecord
  createdAt : Nat

def FeedbackRow.id (row : FeedbackRow) : String :=
  row.record.id

structure PreferenceStore where
  feedback : Table String FeedbackRow FeedbackRow.id := ∅
  candidates : Table String MemoryCandidate MemoryCandidate.id := ∅

/-- The digest of the ids and `redact_text` under the policy in force: the
redacted text and how often each pattern was found. -/
structure PreferenceLibrary where
  sha256Hex : String → String
  redactText : String → String × Dict String Nat

/-! ## Tags -/

def dimensionKeywords : List (String × List String) :=
  [("pricing",
      ["pricing", "price", "cost", "seat", "package", "费用", "价格", "定价"]),
    ("security",
      ["security", "sso", "saml", "soc", "iso", "scim", "安全", "合规"]),
    ("feature", ["feature", "capability", "workflow", "功能", "能力", "流程"]),
    ("persona",
      ["persona", "buyer", "customer", "user", "用户", "客户", "画像"]),
    ("integration",
      ["integration", "api", "ecosystem", "plugin", "集成", "生态"])]

def sourceKeywords : List String :=
  ["official", "docs", "verified", "primary source", "source", "官网", "官方",
    "证据"]

def domainFactKeywords : List String :=
  ["fact", "domain", "market", "category", "segment", "trend", "competitor",
    "customer", "buyer", "adoption", "benchmark"]

def writingKeywords : List String :=
  ["concise", "table", "matrix", "battlecard", "executive", "简洁", "表格",
    "矩阵"]

def riskKeywords : List String :=
  ["risk", "unsupported", "evidence gap", "uncertain", "block", "风险",
    "不确定", "证据不足"]

def failureKeywords : List String :=
  ["failed", "failure", "regression", "retry", "redo", "re-run", "rerun",
    "blocked", "blocker", "defect"]

def qaPolicyKeywords : List String :=
  ["qa", "quality gate", "release gate", "policy", "must", "require",
    "threshold", "acceptance"]

section Tags

variable [PyRuntime]

/-- `_has_any`. -/
def hasAny (text : String) (keywords : List String) : Bool :=
  keywords.any fun keyword => contains (casefold text) (casefold keyword)

/-- `_infer_tags`. -/
def inferTags (text : String) : List String :=
  let normalized := casefold text
  (dimensionKeywords.filter fun entry => hasAny normalized entry.2).map
      Prod.fst ++
    (if hasAny normalized sourceKeywords then ["source"] else []) ++
    (if hasAny normalized domainFactKeywords then ["domain_fact"] else []) ++
    (if hasAny normalized writingKeywords then ["writing"] else []) ++
    (if hasAny normalized riskKeywords then ["risk"] else [])

/-- `_unique_tokens`. -/
def uniqueTokens (values : List String) : List String :=
  orderedUnique ((values.map fun value =>
    String.ofList (replaceRuns isSpace '_' false
      (casefold (strip value)).toList)).filter (· ≠ ""))

end Tags

/-- `_memory_excerpt`. -/
def memoryExcerpt (text : String) (limit : Nat) : String :=
  let cleaned := squeeze text
  if cleaned.length ≤ limit then cleaned
  else
    stripRight (String.ofList (cleaned.toList.take (limit - 1))) ++ "..."

/-! ## Feedback -/

/-- `_feedback_id`. -/
def feedbackId [PyRuntime] (library : PreferenceLibrary)
    (feedback : UserFeedbackRecord) (message : String) : String :=
  stablePrefixedId library.sha256Hex "feedback"
    [.text (String.intercalate "|"
      [feedback.workspaceId, feedback.projectId, feedback.userId,
        feedback.targetType.text, feedback.targetId]),
      .text (casefold (strip message))] 20

/-- The record `add_feedback` stores and returns. -/
def redactedFeedback [PyRuntime] (library : PreferenceLibrary)
    (feedback : UserFeedbackRecord) : UserFeedbackRecord :=
  let redaction := library.redactText feedback.message
  { feedback with
    id :=
      if feedback.id ≠ "" then feedback.id
      else feedbackId library feedback redaction.1
    message := redaction.1
    tags := uniqueTokens (feedback.tags ++ inferTags redaction.1)
    redactionCounts := redaction.2.filterValues fun count => 0 < count }

/-- `add_feedback`. -/
def PreferenceStore.addFeedback [PyRuntime] (library : PreferenceLibrary)
    (store : PreferenceStore) (feedback : UserFeedbackRecord) :
    UserFeedbackRecord × PreferenceStore :=
  let record := redactedFeedback library feedback
  let row : FeedbackRow :=
    match store.feedback.get? record.id with
    | none =>
        { workspaceId := record.workspaceId
          projectId := record.projectId
          record := record
          createdAt := record.createdAt }
    | some existing => { existing with record := record }
  (record, { store with feedback := store.feedback.upsert row })

/-! ## Extraction -/

/-- `_candidate_id`. -/
def candidateId [PyRuntime] (library : PreferenceLibrary)
    (workspaceId projectId : String) (kind : MemoryCandidateKind)
    (statement : String) : String :=
  stablePrefixedId library.sha256Hex "memory"
    [.text workspaceId, .text projectId, .text kind.text,
      .text (casefold (strip statement))] 20

section Extraction

variable [PyRuntime] (library : PreferenceLibrary)
  (feedback : UserFeedbackRecord) (autoConfirm : Bool) (now : Nat)

/-- `_candidate`. -/
def memoryCandidate (kind : MemoryCandidateKind) (statement : String)
    (tags : List String) (weight confidence : Rat) : MemoryCandidate :=
  { id := candidateId library feedback.workspaceId feedback.projectId kind
      statement
    workspaceId := feedback.workspaceId
    projectId := feedback.projectId
    kind := kind
    status := if autoConfirm then .confirmed else .candidate
    statement := statement
    weight := weight
    confidence := confidence
    sourceFeedbackIds := [feedback.id]
    tags := uniqueTokens tags
    createdAt := now
    updatedAt := now
    metadata :=
      ((∅ : Dict String MetadataValue).set "target_type"
        (.text feedback.targetType.text)).set "target_id"
          (.text feedback.targetId) }

/-- The dimensions named by the tags, `sorted(set(tags) & set(…))`. -/
def taggedDimensions (tags : List String) : List String :=
  sortedSet (tags.filter (· ∈ dimensionKeywords.map Prod.fst))

/-- What `extract_candidates` collects, in its order. -/
def collectedCandidates : List MemoryCandidate :=
  let tags := uniqueTokens (feedback.tags ++ inferTags feedback.message)
  let candidate := memoryCandidate library feedback autoConfirm now
  (taggedDimensions tags).map (fun dimension =>
      candidate .preferredDimension
        ("Prioritize " ++ dimension ++ " evidence and analysis when this " ++
          "project has similar scope.")
        [dimension] (72 / 100) (78 / 100)) ++
    (if hasAny feedback.message domainFactKeywords ∨ "domain_fact" ∈ tags then
      [candidate .domainFact
        ("Remember this domain fact for similar analysis: " ++
          memoryExcerpt feedback.message 220)
        ("domain_fact" :: tags.take 4) (76 / 100) (76 / 100)]
    else []) ++
    (if hasAny feedback.message sourceKeywords ∨ "source" ∈ tags then
      [candidate .sourcePreference
        ("Prefer official, fetched, or otherwise verified sources before " ++
          "search-only leads.")
        ["source", "verified"] (82 / 100) (84 / 100)]
    else []) ++
    (if hasAny feedback.message writingKeywords ∨ "writing" ∈ tags then
      [candidate .writingPreference
        ("Use decision-ready tables, battlecard language, and concise " ++
          "executive framing when writing the report.")
        ["writing", "battlecard", "matrix"] (7 / 10) (72 / 100)]
    else []) ++
    (if hasAny feedback.message riskKeywords ∨
        feedback.feedbackType = .rejection then
      [candidate .riskPreference
        ("Flag unsupported recommendations and evidence gaps explicitly " ++
          "before making a strong conclusion.")
        ["risk", "evidence_gap"] (8 / 10) (8 / 10)]
    else []) ++
    (if hasAny feedback.message failureKeywords ∨
        feedback.feedbackType = .rejection then
      [candidate .failurePattern
        ("Treat repeated blockers, redo requests, or quality regressions " ++
          "as failure patterns to check before the next run is released.")
        (["failure_pattern", "redo"] ++ tags.take 3) (84 / 100) (8 / 10)]
    else []) ++
    (if hasAny feedback.message qaPolicyKeywords then
      [candidate .qaPolicy
        ("Apply this feedback as a QA policy: enforce explicit evidence, " ++
          "release-gate thresholds, and reviewer-required checks before " ++
          "publish.")
        (["qa_policy", "quality_gate"] ++ tags.take 3) (86 / 100) (82 / 100)]
    else []) ++
    (if feedback.feedbackType = .correction then
      [candidate .correction
        ("Correction for " ++ feedback.targetType.text ++ ":" ++
          (if feedback.targetId ≠ "" then feedback.targetId else "project") ++
          " - " ++ feedback.message)
        ("correction" :: tags.take 4) (88 / 100) (82 / 100)]
    else [])

/-- `extract_candidates`. -/
def extractCandidates : List MemoryCandidate :=
  distinctBy MemoryCandidate.id
    (collectedCandidates library feedback autoConfirm now)

end Extraction

/-! ## Candidates -/

/-- What `upsert_candidate` makes of a stored candidate. -/
def MemoryCandidate.merge [PyRuntime] (now : Nat)
    (existing candidate : MemoryCandidate) : MemoryCandidate :=
  { existing with
    status :=
      if existing.status ≠ .candidate then existing.status
      else candidate.status
    weight := min 1 (max existing.weight candidate.weight + 8 / 100)
    confidence := max existing.confidence candidate.confidence
    sourceFeedbackIds := uniqueTokens
      (existing.sourceFeedbackIds ++ candidate.sourceFeedbackIds)
    tags := uniqueTokens (existing.tags ++ candidate.tags)
    usedCount := max existing.usedCount candidate.usedCount
    updatedAt := now
    metadata := existing.metadata.update candidate.metadata }

namespace PreferenceStore

variable [PyRuntime] (now : Nat) (store : PreferenceStore)

omit [PyRuntime] in
/-- `get_candidate`. -/
def getCandidate (candidateId : String) : Option MemoryCandidate :=
  store.candidates.get? candidateId

/-- The candidate `upsert_candidate` writes. -/
def upsertedCandidate (candidate : MemoryCandidate) : MemoryCandidate :=
  match store.getCandidate candidate.id with
  | none => candidate
  | some existing => existing.merge now candidate

/-- `upsert_candidate`. -/
def upsertCandidate (candidate : MemoryCandidate) :
    MemoryCandidate × PreferenceStore :=
  let updated := store.upsertedCandidate now candidate
  (updated, { store with candidates := store.candidates.upsert updated })

/-- `update_candidate_status`. -/
def updateCandidateStatus (candidateId : String)
    (status : MemoryCandidateStatus) :
    Option MemoryCandidate × PreferenceStore :=
  match store.getCandidate candidateId with
  | none => (none, store)
  | some candidate =>
      let result := store.upsertCandidate now
        { candidate with
          status := status
          updatedAt := now }
      (some result.1, result.2)

/-- The candidates of a feedback, upserted one after the other. -/
def upsertCandidates (candidates : List MemoryCandidate) : PreferenceStore :=
  candidates.foldl
    (fun store candidate => (store.upsertCandidate now candidate).2) store

end PreferenceStore

/-! ## Recall -/

structure RecallRequest where
  workspaceId : String
  projectId : String
  query : String := ""
  limit : Nat := 6
  includeUnconfirmed : Bool := false
  markUsed : Bool := false

/-- The rows the query of `_list_candidates` selects. -/
def RecallRequest.selects (request : RecallRequest)
    (candidate : MemoryCandidate) : Bool :=
  candidate.workspaceId = request.workspaceId &&
    candidate.projectId = request.projectId &&
    candidate.status ≠ .archived &&
    (request.includeUnconfirmed || candidate.status = .confirmed)

/-- `_list_candidates`. -/
def PreferenceStore.listCandidates (store : PreferenceStore)
    (request : RecallRequest) : List MemoryCandidate :=
  sortDescending MemoryCandidate.updatedAt
    (store.candidates.values.filter request.selects)

/-- `_score_candidate`. -/
def scoreCandidate [PyRuntime] (query : String) (queryTags : List String)
    (candidate : MemoryCandidate) : MemoryCandidate :=
  let tagOverlap :=
    (candidate.tags.dedup.filter (· ∈ queryTags)).length
  let textOverlap :=
    (candidate.tags.filter fun tag =>
      tag ≠ "" && contains (casefold query) tag).length
  let statusBonus : Rat := if candidate.status = .confirmed then 12 / 100 else 0
  let sourceBonus : Rat :=
    min (12 / 100) (candidate.sourceFeedbackIds.length * (3 / 100))
  let score := min 1
    (candidate.weight * (55 / 100) + candidate.confidence * (25 / 100) +
      min (18 / 100) ((tagOverlap + textOverlap : Nat) * (6 / 100)) +
      statusBonus + sourceBonus)
  { candidate with matchScore := roundHalfEven (1000 * score) / 1000 }

/-- `_prompt_line`. -/
def promptLine (candidate : MemoryCandidate) : String :=
  let label := candidate.kind.text.map fun char =>
    if char = '_' then ' ' else char
  "[" ++ label ++ "; weight=" ++ twoDecimals candidate.weight ++ "] " ++
    candidate.statement

namespace PreferenceStore

variable [PyRuntime] (now : Nat)

/-- `_mark_used`. -/
def markUsed (store : PreferenceStore) (candidate : MemoryCandidate) :
    MemoryCandidate × PreferenceStore :=
  let result := store.upsertCandidate now
    { candidate with
      usedCount := candidate.usedCount + 1
      updatedAt := now }
  ({ result.1 with matchScore := candidate.matchScore }, result.2)

def markAllUsed (store : PreferenceStore) :
    List MemoryCandidate → List MemoryCandidate × PreferenceStore
  | [] => ([], store)
  | candidate :: candidates =>
      let marked := store.markUsed now candidate
      let rest := markAllUsed marked.2 candidates
      (marked.1 :: rest.1, rest.2)

/-- The best candidates of a request. -/
def ranked (store : PreferenceStore) (request : RecallRequest) :
    List MemoryCandidate :=
  let queryTags := uniqueTokens (inferTags request.query)
  (sortDescending MemoryCandidate.matchScore
    ((store.listCandidates request).map
      (scoreCandidate request.query queryTags))).take (max 1 request.limit)

/-- `recall`. -/
def recallMemories (store : PreferenceStore) (request : RecallRequest) :
    MemoryRecallContext × PreferenceStore :=
  let best := store.ranked request
  let result :=
    if request.markUsed then store.markAllUsed now best else (best, store)
  ({ workspaceId := request.workspaceId
     projectId := request.projectId
     query := request.query
     queryTags := uniqueTokens (inferTags request.query)
     candidates := result.1
     promptContext := result.1.map promptLine
     generatedAt := now }, result.2)

end PreferenceStore

end CompetiScope
