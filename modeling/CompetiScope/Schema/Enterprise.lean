import CompetiScope.Foundation.Dict
import CompetiScope.Foundation.Text

/-!
# Records of the enterprise store

Evidence as the store keeps it, and what a release gate answers.
-/

namespace CompetiScope

open Foundation

/-- A value of a `metadata` dictionary. -/
inductive MetadataValue where
  | none
  | text (value : String)
  | flag (value : Bool)
  | number (value : Nat)
  | texts (values : List String)
  deriving DecidableEq

inductive EvidenceQualityLabel where
  | unreviewed
  | accepted
  | rejected
  | stale
  deriving DecidableEq

structure EvidenceRecord where
  id : String
  workspaceId : String := "default-workspace"
  projectId : String
  runId : Option String := none
  rawSourceId : String
  competitorId : String := ""
  dimension : String := ""
  sourceType : String := ""
  title : String := ""
  url : Option String := none
  canonicalUrl : String := ""
  snippet : String := ""
  contentHash : String := ""
  reliabilityScore : Rat := 0
  freshnessScore : Rat := 0
  qualityLabel : EvidenceQualityLabel := .unreviewed
  firstSeenRunId : Option String := none
  lastSeenRunId : Option String := none
  seenCount : Nat := 1
  capturedAt : Nat := 0
  metadata : Dict String MetadataValue := ∅
  deriving DecidableEq

namespace MetadataValue

/-- `bool(metadata.get(key))`. -/
def truthy : Option MetadataValue → Bool
  | some (.text value) => value ≠ ""
  | some (.flag value) => value
  | some (.number value) => value ≠ 0
  | some (.texts values) => values ≠ []
  | _ => false

/-- `str(value)` of a true value, the empty text of a false one. -/
def textOf (value : Option MetadataValue) : String :=
  if truthy value then
    match value with
    | some (.text value) => value
    | some (.number value) => toString value
    | some (.texts values) =>
        "['" ++ String.intercalate "', '" values ++ "']"
    | _ => "True"
  else ""

end MetadataValue

/-- `string_list` of a metadata entry. -/
def stringList : Option MetadataValue → List String
  | some (.texts values) => (values.map strip).filter (· ≠ "")
  | _ => []

inductive SourceTrustLevel where
  | unknown
  | synthetic
  | community
  | verified
  | official
  deriving DecidableEq

inductive SourceRobotsStatus where
  | unknown
  | allowed
  | blocked
  | error
  deriving DecidableEq

inductive SourcePolicyReviewStatus where
  | notRequired
  | pending
  | approved
  | rejected
  deriving DecidableEq

@[ext] structure SourceRegistryRecord where
  id : String
  workspaceId : String
  domain : String
  sourceType : String
  displayName : String := ""
  homepageUrl : Option String := none
  trustLevel : SourceTrustLevel := .unknown
  robotsStatus : SourceRobotsStatus := .unknown
  policyReviewStatus : SourcePolicyReviewStatus := .notRequired
  policyReviewReason : String := ""
  isActive : Bool := true
  firstSeenRunId : Option String := none
  lastSeenRunId : Option String := none
  firstSeenAt : Nat := 0
  lastSeenAt : Nat := 0
  seenCount : Nat := 1
  metadata : Dict String MetadataValue := ∅
  deriving DecidableEq

inductive ClaimStatus where
  | proposed
  | accepted
  | disputed
  | rejected
  | deprecated
  deriving DecidableEq

/-- A claim cites at least one record. -/
structure ClaimRecord where
  id : String
  workspaceId : String := "default-workspace"
  projectId : String
  runId : Option String := none
  competitorId : String := ""
  claimType : String := ""
  claimText : String := ""
  evidenceIds : List String
  confidence : Rat := 0
  status : ClaimStatus := .proposed
  createdByAgent : Option String := none
  createdAt : Nat := 0
  cited : evidenceIds ≠ [] := by decide
  deriving DecidableEq

/-- The entry of a record in the embedding index. -/
structure EvidenceEmbeddingRecord where
  id : String
  workspaceId : String
  projectId : String
  evidenceId : String
  embeddingModel : String
  embeddingDimensions : Nat
  embeddingHash : String
  embeddingText : String
  createdAt : Nat
  deriving DecidableEq

inductive CompetitorLayer where
  | l1
  | l2
  | l3
  | unknown
  deriving DecidableEq

structure ProjectRecord where
  id : String
  workspaceId : String
  name : String := ""
  topic : String := ""
  topicNormalized : String := ""
  competitorLayer : CompetitorLayer := .unknown
  competitorSetHash : String := ""
  scenarioId : Option String := none
  createdBy : Option String := none
  createdAt : Nat := 0
  updatedAt : Nat := 0
  deriving DecidableEq

structure CompetitorRecord where
  id : String
  workspaceId : String
  name : String := ""
  normalizedName : String := ""
  layer : CompetitorLayer := .unknown
  homepageUrl : Option String := none
  metadata : Dict String MetadataValue := ∅
  createdAt : Nat := 0
  updatedAt : Nat := 0
  deriving DecidableEq

structure ProjectCompetitorLink where
  projectId : String
  competitorId : String
  deriving DecidableEq

/-- The verdict of `evaluate_report_release_gate`. -/
structure ReportReleaseGate where
  allowed : Bool
  readinessScore : Nat := 0
  readinessRiskLevel : String := ""
  blockerCount : Nat := 0
  warnCount : Nat := 0
  issueIds : List String := []
  deriving DecidableEq

end CompetiScope
