import CompetiScope.Enterprise.ReportOperations
import CompetiScope.Identity.StandingTexts

/-!
# Filling evidence gaps

Retrieval has put candidates on the gaps.  The candidates that are new to a
gap fill it, and a draft of the report version lists them in a section of its
own.  The gaps are counted twice, for the draft and for the answer.
-/

namespace CompetiScope

open Foundation

structure RetrievalRecord where
  evidenceId : String
  deriving DecidableEq

structure EvidenceGapItem where
  id : String
  retrievalCandidateIds : List String := []
  retrievalRecords : List RetrievalRecord := []
  retrievalGroundedContext : String := ""
  evidenceIds : List String := []
  deriving DecidableEq

/-- `_unique_ids`. -/
def uniqueIds (values : List String) : List String :=
  orderedUnique (values.filter (· ≠ ""))

/-- The candidates that are new to the gap. -/
def EvidenceGapItem.newCandidateIds (gap : EvidenceGapItem) : List String :=
  (uniqueIds (gap.retrievalRecords.map (·.evidenceId) ++
    gap.retrievalCandidateIds)).filter (· ∉ gap.evidenceIds)

/-- The gap with its new candidates. -/
def EvidenceGapItem.linked (gap : EvidenceGapItem) : EvidenceGapItem :=
  { gap with
    evidenceIds := uniqueIds (gap.evidenceIds ++ gap.newCandidateIds) }

/-- What `_filled_gaps` returns. -/
structure FilledGaps where
  updatedGaps : List EvidenceGapItem
  filledGapIds : List String
  candidateIds : List String
  gapEvidenceLinks : Dict String (List String)

/-- `_filled_gaps`. -/
def filledGaps (gaps : List EvidenceGapItem) : FilledGaps :=
  let filled := gaps.filter (·.newCandidateIds ≠ [])
  { updatedGaps := gaps.map (·.linked)
    filledGapIds := uniqueIds (filled.map (·.id))
    candidateIds := uniqueIds (filled.flatMap (·.newCandidateIds))
    gapEvidenceLinks := filled.foldl
      (fun links gap => links.set gap.id gap.newCandidateIds) ∅ }

/-- The gaps without evidence. -/
def remainingGapIds (gaps : List EvidenceGapItem) : List String :=
  (gaps.filter (·.evidenceIds = [])).map (·.id)

/-- `_gap_resolution_status`. -/
def gapResolutionStatus (gaps : List EvidenceGapItem)
    (remaining : List String) : Dict String String :=
  gaps.foldl
    (fun status gap => status.set gap.id
      (if gap.id ∈ remaining then "unresolved" else "resolved")) ∅

/-! ## The section of the report -/

/-- `_format_gap_fill_source_tokens`. -/
def formatGapFillSourceTokens (evidenceIds : List String) : String :=
  if evidenceIds = [] then "none"
  else String.intercalate ", "
    (evidenceIds.map fun id => "[source:" ++ id ++ "]")

/-- The part of the grounded context that is quoted. -/
def EvidenceGapItem.excerpt (gap : EvidenceGapItem) : String :=
  String.ofList (gap.retrievalGroundedContext.toList.take 600)

/-- The lines on a filled gap. -/
def EvidenceGapItem.lines (gap : EvidenceGapItem) : List String :=
  ("- " ++ gap.id ++ ": linked evidence candidates " ++
    formatGapFillSourceTokens gap.evidenceIds ++ ".") ::
    if gap.retrievalGroundedContext = "" then []
    else ["  - Grounded context: " ++ gap.excerpt]

/-- `_append_gap_fill_section`. -/
def appendGapFillSection (reportMd : String) (gaps : List EvidenceGapItem)
    (filledGapIds : List String) : String :=
  let lines := [stripRight reportMd, "", "## RAG Gap Fill", ""] ++
    if filledGapIds = [] then
      ["- No retrieval candidates were strong enough to fill open " ++
        "evidence gaps."]
    else (gaps.filter (·.id ∈ filledGapIds)).flatMap (·.lines)
  strip (String.intercalate "\n" lines) ++ "\n"

/-! ## The draft and the answer -/

/-- The `rag_gap_fill` entry of the draft. -/
structure RagGapFill where
  sourceReportVersionId : String
  beforeGapCount : Nat
  afterGapCount : Nat
  gapClosureRate : Rat
  filledGapIds : List String
  gapEvidenceLinks : Dict String (List String)
  remainingGapIds : List String
  unfilledGapIds : List String
  candidateEvidenceIds : List String
  gapFillChainClosed : Bool
  gapResolutionStatus : Dict String String
  admittedEvidenceIds : List String
  onlineCollectedEvidenceIds : List String
  onlineFailures : List (Dict String String)

structure EvidenceGapFillResult where
  sourceReportVersionId : Option String
  updatedReportVersionId : Option String
  gapCount : Nat
  beforeGapCount : Nat
  afterGapCount : Nat
  gapClosureRate : Rat
  filledGapCount : Nat
  addedEvidenceCount : Nat
  onlineCollectedEvidenceCount : Nat
  onlineFailureCount : Nat
  onlineFailures : List (Dict String String)
  gapFillChainClosed : Bool
  admittedEvidenceIds : List String
  gapResolutionStatus : Dict String String
  candidateEvidenceIds : List String
  filledGapIds : List String
  gapEvidenceLinks : Dict String (List String)
  remainingGapIds : List String
  gaps : List EvidenceGapItem
  updatedReportVersion : Option ReportVersionRecord

/-- What the online collection before the retrieval came to. -/
structure OnlineCollection where
  evidenceIds : List String := []
  failures : List (Dict String String) := []

/-- Hashes, `round(first / second, 3)`, and how an entry is stored. -/
structure GapFillSettings where
  sha256Hex : String → String
  roundedRatio : Nat → Nat → Rat
  dumps : RagGapFill → String

section Fill

variable (settings : GapFillSettings) (store : EnterpriseReports)
  (gaps : List EvidenceGapItem) (online : OnlineCollection)

def ragGapFill (source : ReportVersionRecord) : RagGapFill :=
  let filled := filledGaps gaps
  let remaining := remainingGapIds filled.updatedGaps
  { sourceReportVersionId := source.id
    beforeGapCount := filled.filledGapIds.length + remaining.length
    afterGapCount := remaining.length
    gapClosureRate :=
      if filled.filledGapIds ≠ [] ∨ remaining ≠ [] then
        settings.roundedRatio filled.filledGapIds.length
          (filled.filledGapIds.length + remaining.length)
      else 0
    filledGapIds := filled.filledGapIds
    gapEvidenceLinks := filled.gapEvidenceLinks
    remainingGapIds := remaining
    unfilledGapIds := remaining
    candidateEvidenceIds := filled.candidateIds
    gapFillChainClosed :=
      filled.filledGapIds ≠ [] && filled.candidateIds ≠ [] && remaining = []
    gapResolutionStatus := gapResolutionStatus filled.updatedGaps remaining
    admittedEvidenceIds := filled.candidateIds
    onlineCollectedEvidenceIds := online.evidenceIds
    onlineFailures := online.failures }

/-- The draft `_write_gap_fill_report_version` hands to the store. -/
def gapFillDraft (source : ReportVersionRecord) (now : Nat) :
    ReportVersionRecord :=
  let filled := filledGaps gaps
  gapFillRecord settings.sha256Hex store source
    { filledGapIds := filled.filledGapIds
      candidateIds := filled.candidateIds
      reportMd := appendGapFillSection source.reportMd filled.updatedGaps
        filled.filledGapIds
      ragGapFill := settings.dumps (ragGapFill settings gaps online source) }
    now

/-- `_finalize_gap_fill` on the gaps as retrieval decorated them. -/
def finalizeGapFill (source : Option ReportVersionRecord) (now : Nat) :
    EnterpriseReports × EvidenceGapFillResult :=
  let filled := filledGaps gaps
  let remaining := remainingGapIds filled.updatedGaps
  let draft := source.map fun version =>
    gapFillDraft settings store gaps online version now
  let updated := draft.map store.canonicalVersion
  (match draft with
    | some version => store.upsertReportVersion version
    | none => store,
    { sourceReportVersionId := source.map (·.id)
      updatedReportVersionId := updated.map (·.id)
      gapCount := gaps.length
      beforeGapCount := gaps.length
      afterGapCount := remaining.length
      gapClosureRate :=
        if gaps.length ≠ 0 then
          settings.roundedRatio filled.filledGapIds.length gaps.length
        else 0
      filledGapCount := filled.filledGapIds.length
      addedEvidenceCount := filled.candidateIds.length
      onlineCollectedEvidenceCount := online.evidenceIds.length
      onlineFailureCount := online.failures.length
      onlineFailures := online.failures
      gapFillChainClosed :=
        gaps.length ≠ 0 && remaining = [] && filled.filledGapIds ≠ [] &&
          filled.candidateIds ≠ [] && updated.isSome
      admittedEvidenceIds := filled.candidateIds
      gapResolutionStatus := gapResolutionStatus filled.updatedGaps remaining
      candidateEvidenceIds := filled.candidateIds
      filledGapIds := filled.filledGapIds
      gapEvidenceLinks := filled.gapEvidenceLinks
      remainingGapIds := remaining
      gaps := filled.updatedGaps
      updatedReportVersion := updated })

end Fill

/-! ## What a gap fill promises -/

/-- A marker of the version stands for the record. -/
def Cites (evidence : List EvidenceRecord) (version : ReportVersionRecord)
    (evidenceId : String) : Prop :=
  ∃ found ∈ sourceMatches version.reportMd, ∃ item,
    resolvedRecord evidence version.evidenceIds found.1 = some item ∧
      item.id = evidenceId

/-- The entry tells of the gaps what the answer tells. -/
structure Describes (entry : RagGapFill) (result : EvidenceGapFillResult) :
    Prop where
  filled : entry.filledGapIds = result.filledGapIds
  remaining : entry.remainingGapIds = result.remainingGapIds
  links : entry.gapEvidenceLinks = result.gapEvidenceLinks
  closureRate : entry.gapClosureRate = result.gapClosureRate

/-- Every gap is listed once, among the filled ones or among the remaining
ones. -/
structure SplitsGaps (gaps : List EvidenceGapItem)
    (result : EvidenceGapFillResult) : Prop where
  disjoint : result.filledGapIds.Disjoint result.remainingGapIds
  all : (result.filledGapIds ++ result.remainingGapIds).Perm
    (gaps.map (·.id))

/-- The version a gap fill stores cites the new candidates, has them among
its evidence and describes the gaps as the answer does, which splits them. -/
structure GapFillCarries (settings : GapFillSettings)
    (store : EnterpriseReports) (gaps : List EvidenceGapItem)
    (online : OnlineCollection) (source : ReportVersionRecord) (now : Nat) :
    Prop where
  stored : ∃ version,
    (finalizeGapFill settings store gaps online (some source)
        now).1.versions.get?
      (gapFillDraft settings store gaps online source now).id =
        some version ∧
    (finalizeGapFill settings store gaps online (some source)
      now).2.updatedReportVersion = some version ∧
    (∀ id ∈ (finalizeGapFill settings store gaps online (some source)
        now).2.candidateEvidenceIds,
      Cites (store.reportScopeEvidence
        (gapFillDraft settings store gaps online source now)) version id ∧
        id ∈ version.evidenceIds) ∧
    ∃ entry, version.qualityMetadata.entries.get? "rag_gap_fill" =
        some (settings.dumps entry) ∧
      Describes entry (finalizeGapFill settings store gaps online
        (some source) now).2
  split : SplitsGaps gaps
    (finalizeGapFill settings store gaps online (some source) now).2

end CompetiScope
