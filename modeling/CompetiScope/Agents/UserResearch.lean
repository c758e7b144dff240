import CompetiScope.Foundation.Repr
import CompetiScope.Identity.IdentityKeys
import CompetiScope.Orchestrator.RedoSelection
import CompetiScope.Orchestrator.State
import CompetiScope.Sources.Matching
import Mathlib.Data.List.Flatten

/-!
# Simulated user research

The survey agent writes a survey and an interview source for every slice whose
user research is weak.  The ids of these sources are digests of their texts,
and the texts depend on the slice and on the findings about it alone.
-/

namespace CompetiScope

open Foundation

/-! ## The strength of user research -/

/-- `USER_RESEARCH_DIMENSION_HINTS`. -/
def userResearchDimensionHints : List String :=
  ["persona", "user", "customer", "buyer", "review", "feedback", "adoption",
    "switching", "use_case", "use case"]

/-- `USER_RESEARCH_SOURCE_TYPES`. -/
def userResearchSourceTypes : List String :=
  ["survey_simulated", "survey_response", "interview_record",
    "manual_transcript", "manual_note", "manual"]

/-- `PERSONA_EVIDENCE_DIMENSION_HINTS`. -/
def personaEvidenceDimensionHints : List String :=
  ["persona", "user", "customer", "buyer", "review", "feedback", "adoption",
    "switching"]

/-- `PERSONA_SYNTHETIC_SOURCE_TYPES`. -/
def personaSyntheticSourceTypes : List String :=
  ["survey_simulated"]

/-- `PERSONA_QUALITATIVE_SOURCE_TYPES`. -/
def personaQualitativeSourceTypes : List String :=
  ["survey_response", "interview_record", "manual_transcript", "manual_note",
    "manual"]

/-- `PERSONA_PUBLIC_SOURCE_TYPES`. -/
def personaPublicSourceTypes : List String :=
  ["webpage_verified", "community_forum", "reddit_thread",
    "github_discussion", "github_issue", "review_site", "developer_blog"]

/-- `PERSONA_SIGNAL_TERMS`. -/
def personaSignalTerms : List String :=
  ["persona", "target user", "customer", "customers", "buyer", "developer",
    "developers", "engineering team", "enterprise team", "team", "case study",
    "customer story", "review", "feedback", "adoption", "onboarding",
    "switching", "workflow fit", "use case", "pain point"]

/-- The outcomes of `_persona_evidence_strength`. -/
inductive PersonaReason where
  | noSources
  | singleLowConfidenceSynthetic
  | singleLowConfidenceQualitative
  | syntheticOnly
  | noPersonaSignal
  | tooFewSources
  | strong
  deriving DecidableEq

structure PersonaEvidenceStrength where
  sourceCount : Nat
  verifiedCount : Nat
  qualitativeCount : Nat
  syntheticCount : Nat
  personaSignalCount : Nat
  hasIndependentPublicSignal : Bool
  isWeak : Bool
  reason : PersonaReason
  deriving DecidableEq

/-- `_persona_source_is_synthetic`. -/
def personaSourceIsSynthetic (source : RawSource) : Bool :=
  source.sourceType ∈ personaSyntheticSourceTypes ||
    ["fallback_synthetic", "synthetic_fallback",
      "survey_interview_synthetic"].any fun key =>
        (source.metadata.get? key).any Json.truthy

section Strength

variable [PyRuntime]

/-- A hint occurs in the dimension, written with underscores. -/
def dimensionHasHint (hints : List String) (dimension : String) : Bool :=
  hints.any fun hint =>
    hasInfix hint.toList ((casefoldChars dimension.toList).map fun char =>
      if char = '-' then '_' else char)

/-- `_dimension_needs_user_research`. -/
def dimensionNeedsUserResearch (dimension : String) : Bool :=
  dimensionHasHint userResearchDimensionHints dimension

/-- `_dimension_needs_persona_strength_gate`. -/
def dimensionNeedsPersonaStrengthGate (dimension : String) : Bool :=
  dimensionHasHint personaEvidenceDimensionHints dimension

/-- `_has_user_research_source`. -/
def hasUserResearchSource (rawSources : List RawSource)
    (dimension competitor : String) : Bool :=
  rawSources.any fun source =>
    source.dimension = dimension &&
      source.sourceType ∈ userResearchSourceTypes &&
        sourceMatchesCompetitor source competitor

/-- `_persona_source_text`. -/
def personaSourceText (source : RawSource) : List Char :=
  casefoldChars (String.intercalate " "
    [source.title, source.url.getD "", source.snippet]).toList

/-- `_source_has_persona_signal`. -/
def sourceHasPersonaSignal (source : RawSource) : Bool :=
  personaSignalTerms.any fun term =>
    hasInfix term.toList (personaSourceText source)

/-- A page of the public, not made up, with a persona signal. -/
def hasPublicSignal (source : RawSource) : Bool :=
  source.sourceType ∈ personaPublicSourceTypes &&
    !personaSourceIsSynthetic source && sourceHasPersonaSignal source

/-- The branches of the reason that do not ask for a single source. -/
def personaReasonOfAll (sources : List RawSource) : PersonaReason :=
  if sources.countP personaSourceIsSynthetic = sources.length then
    .syntheticOnly
  else if sources.countP sourceHasPersonaSignal = 0 then .noPersonaSignal
  else if !sources.any hasPublicSignal ∧ sources.length < 2 then
    .tooFewSources
  else .strong

/-- The reason that `_persona_evidence_strength` gives. -/
def personaReason (sources : List RawSource) : PersonaReason :=
  match sources with
  | [] => .noSources
  | [source] =>
      let qualitative := source.sourceType ∈ personaQualitativeSourceTypes
      if personaSourceIsSynthetic source then .singleLowConfidenceSynthetic
      else if qualitative ∧ source.confidence < 0.7 then
        .singleLowConfidenceQualitative
      else if qualitative ∧ 0.8 ≤ source.confidence ∧
          sourceHasPersonaSignal source then .strong
      else personaReasonOfAll [source]
  | sources => personaReasonOfAll sources

/-- The sources of a slice. -/
def sourcesOfSlice (rawSources : List RawSource)
    (dimension competitor : String) : List RawSource :=
  rawSources.filter fun source =>
    source.dimension = dimension && sourceMatchesCompetitor source competitor

/-- `_persona_evidence_strength`. -/
def personaEvidenceStrength (rawSources : List RawSource)
    (dimension competitor : String) : PersonaEvidenceStrength :=
  let sources := sourcesOfSlice rawSources dimension competitor
  let reason := personaReason sources
  { sourceCount := sources.length
    verifiedCount := sources.countP (·.sourceType ∈ personaPublicSourceTypes)
    qualitativeCount :=
      sources.countP (·.sourceType ∈ personaQualitativeSourceTypes)
    syntheticCount := sources.countP personaSourceIsSynthetic
    personaSignalCount := sources.countP sourceHasPersonaSignal
    hasIndependentPublicSignal := sources.any hasPublicSignal
    isWeak := reason ≠ .strong
    reason := reason }

/-- `_has_strong_user_research_source`. -/
def hasStrongUserResearchSource (rawSources : List RawSource)
    (dimension competitor : String) : Bool :=
  if !hasUserResearchSource rawSources dimension competitor then false
  else if !dimensionNeedsPersonaStrengthGate dimension then true
  else !(personaEvidenceStrength rawSources dimension competitor).isWeak

end Strength

/-! ## The survey -/

/-- What the survey agent takes from elsewhere: redaction under the compliance
policy and the quality check of sources. -/
structure ResearchLibrary extends IdentityLibrary where
  redactResearchText : String → String
  sourceIsUsable : RawSource → Bool

/-- `compute_raw_source_id` of the fields of a source. -/
def IdentityLibrary.computeRawSourceId (library : IdentityLibrary)
    (source : RawSource) (runId : String) (sourceRole : Option String) :
    String :=
  let stableUrl := library.normalizeUrl source.url
  let stableContent :=
    if source.contentHash ≠ "" then source.contentHash
    else
      library.sha256Hex
        (if source.snippet ≠ "" then source.snippet else source.title)
  stablePrefixedId library.sha256Hex "raw-source"
    [.text (sourceRole.getD "source"), .text source.sourceType,
      .text (library.normalizeText (some source.competitor)),
      .text (library.normalizeDimensionKey (some source.dimension)),
      .text stableUrl, .text stableContent,
      .text (if stableUrl = "" ∧ stableContent = "" then runId else "")] 20

structure InterviewSynthesis where
  respondent : String
  role : String
  summary : String
  painPoints : List String
  useCases : List String
  contentHash : String
  deriving DecidableEq

/-- A bundle with the quotes of its responses; its questions and redaction
counts are left out. -/
structure SurveyEvidenceBundle where
  topic : String
  competitor : String
  dimension : String
  quotes : List String
  interviews : List InterviewSynthesis
  evidenceSummary : String
  contentHash : String

/-- The summary of the one record of `survey_simulator`. -/
def surveySimulatorSummary (topic competitor dimension : String)
    (qaFeedback : List QCIssue) : String :=
  let feedbackHint :=
    match qaFeedback with
    | [] => ""
    | issue :: _ => " Redo focus: " ++ issue.problem
  "Synthetic interview note for " ++ competitor ++ " in " ++ topic ++
    ": proxy respondents include " ++
    "an individual developer testing daily productivity, a team technical " ++
    "lead planning " ++
    "pull request workflow rollout, and an enterprise platform buyer " ++
    "reviewing governance. " ++
    "They evaluate " ++ dimension ++ " through workflow fit, onboarding " ++
    "effort, migration cost, " ++
    "security controls, budget approval, context quality, and switching " ++
    "risk." ++ feedbackHint

/-- `_survey_evidence_summary`. -/
def surveyEvidenceSummary (topic dimension competitor : String)
    (interviews : List InterviewSynthesis) (quotes : List String) : String :=
  "Simulated survey and interview research for " ++ competitor ++ " in " ++
    topic ++ ": " ++
    "target users, customers, enterprise teams, and buyer personas " ++
    "evaluate " ++ dimension ++
    " through adoption blockers, switching triggers, and buying criteria. " ++
    "Adoption blockers include onboarding effort, workflow fit, migration " ++
    "cost, governance/security review, budget approval, and team habit " ++
    "change. " ++
    "Switching triggers include incumbent tool limitations, context " ++
    "quality gaps, pull request pressure, cost pressure, and enterprise " ++
    "rollout needs. " ++
    "Buying criteria include code quality, context handling, workflow " ++
    "integration, security controls, admin visibility, and learning " ++
    "curve. " ++ ((interviews.map (·.summary)).head?.getD "") ++ " " ++
    quotes.head?.getD ""

/-- `_interview_evidence_summary`. -/
def interviewEvidenceSummary (topic dimension competitor : String)
    (interviews : List InterviewSynthesis) : String :=
  let listed := fun values : List String =>
    if sortedSet values = [] then "none"
    else String.intercalate ", " (sortedSet values)
  "Synthetic interview record for " ++ competitor ++ " in " ++ topic ++
    ": proxy respondents include an individual developer, a team " ++
    "technical lead, and an enterprise platform buyer. " ++
    "Respondents discussed " ++ dimension ++ " pain points (" ++
    listed (interviews.flatMap (·.painPoints)) ++ ") and use cases (" ++
    listed (interviews.flatMap (·.useCases)) ++ "). " ++
    String.intercalate " " (interviews.map (·.summary))

/-- `_qa_feedback_for_branch`, with the findings themselves. -/
def qaFeedbackForBranch (qaFindings : List QCIssue) (agent : String)
    (branch : Branch) : List QCIssue :=
  qaFindings.filter fun issue =>
    issue.targetAgent = agent &&
      (truthy issue.targetSubagent).all (· = branch.dimension) &&
        (truthy issue.targetCompetitor).all (· = branch.competitor)

namespace ResearchLibrary

variable (library : ResearchLibrary)

/-- `_build_survey_interview_bundle`. -/
def buildSurveyInterviewBundle (topic : String) (branch : Branch)
    (qaFeedback : List QCIssue) : SurveyEvidenceBundle :=
  let redact := library.redactResearchText
  let redactedTopic := redact topic
  let redactedDimension := redact branch.dimension
  let note := surveySimulatorSummary topic branch.competitor branch.dimension
    qaFeedback
  let quotes :=
    [redact (branch.competitor ++
      " is evaluated through buying criteria such as code " ++
      "quality, context handling, workflow integration, security controls, " ++
      "admin visibility, and learning curve.")]
  let interviews :=
    [{ respondent := redact (branch.competitor ++ " target-user proxy")
       role := redact "buyer/user persona synthesizer"
       summary := redact note
       painPoints :=
         ["workflow fit uncertainty", "onboarding effort", "migration cost",
           "governance and security review", "budget approval friction",
           "team habit change"]
       useCases :=
         [redactedTopic ++ " evaluation",
           redactedDimension ++ " buying criteria review",
           "individual developer productivity trial",
           "team pull request workflow rollout",
           "enterprise platform governance review"]
       contentHash := library.digest (some 16) note :
        InterviewSynthesis }]
  let evidenceSummary := redact
    (surveyEvidenceSummary topic branch.dimension branch.competitor interviews
      quotes)
  { topic := redactedTopic
    competitor := redact branch.competitor
    dimension := redactedDimension
    quotes := quotes
    interviews := interviews
    evidenceSummary := evidenceSummary
    contentHash := library.digest (some 16) evidenceSummary }

/-- The metadata of a simulated source. -/
def syntheticMetadata (sourceRole : String) : Dict String Json :=
  (((∅ : Dict String Json).set "fallback_synthetic" (.bool true)).set
    "survey_interview_synthetic" (.bool true)).set "source_role"
      (.str sourceRole)

/-- A source with the id of its fields. -/
def identified (runId sourceRole : String) (source : RawSource) : RawSource :=
  { source with
    id := library.computeRawSourceId source runId (some sourceRole) }

/-- `_sources_from_survey_bundle`. -/
def sourcesFromSurveyBundle (runId topic : String)
    (bundle : SurveyEvidenceBundle) (branch : Branch) (updatedAt : Nat) :
    List RawSource :=
  let competitor := library.redactResearchText branch.competitor
  let dimension := library.redactResearchText branch.dimension
  let survey := library.identified runId "survey"
    { id := ""
      competitor := competitor
      coveredCompetitors := [competitor]
      dimension := dimension
      sourceType := "survey_simulated"
      title := competitor ++ " " ++ dimension ++ " survey synthesis"
      snippet := bundle.evidenceSummary
      contentHash := bundle.contentHash
      confidence := 0.76
      extractedAt := updatedAt
      metadata := syntheticMetadata "survey" }
  let interviewSummary := library.redactResearchText
    (interviewEvidenceSummary topic branch.dimension branch.competitor
      bundle.interviews)
  let interview := library.identified runId "interview"
    { id := ""
      competitor := competitor
      coveredCompetitors := [competitor]
      dimension := dimension
      sourceType := "interview_record"
      title := competitor ++ " " ++ dimension ++ " interview synthesis"
      snippet := strip (interviewSummary ++ " " ++ bundle.evidenceSummary)
      contentHash := library.digest (some 16)
        (interviewSummary ++ "|" ++ bundle.evidenceSummary)
      confidence := 0.82
      extractedAt := updatedAt
      metadata := syntheticMetadata "interview" }
  if bundle.interviews = [] then [survey] else [survey, interview]

/-- The usable sources the survey agent writes for a slice. -/
def simulatedSources (topic : String) (updatedAt : Nat) (detail : RunDetail)
    (branch : Branch) : List RawSource :=
  (library.sourcesFromSurveyBundle detail.id topic
    (library.buildSurveyInterviewBundle topic branch
      (qaFeedbackForBranch detail.qaFindings "collector" branch))
    branch updatedAt).filter library.sourceIsUsable

variable [PyRuntime]

/-- The survey agent at one slice. -/
def enrichSlice (topic : String) (updatedAt : Nat) (detail : RunDetail)
    (rawSources : List RawSource) (branch : Branch) : List RawSource :=
  if hasStrongUserResearchSource rawSources branch.dimension
      branch.competitor then rawSources
  else rawSources ++ library.simulatedSources topic updatedAt detail branch

/-- `_run_survey_interview_enrichment`: the sources it leaves. -/
def runSurveyInterviewEnrichment (topic : String) (updatedAt : Nat)
    (detail : RunDetail) (dimensions competitors : List String) :
    List RawSource :=
  (branchesOf (dimensions.filter dimensionNeedsUserResearch)
    competitors).foldl (library.enrichSlice topic updatedAt detail)
      detail.rawSources

end ResearchLibrary

/-! ## Strong research stays strong -/

section Strong

variable [PyRuntime]

theorem personaReason_of_two_le {sources : List RawSource}
    (several : 2 ≤ sources.length) :
    personaReason sources = personaReasonOfAll sources := by
  match sources with
  | [] => exact absurd several (Nat.not_le.mpr Nat.zero_lt_two)
  | [_] => exact absurd several (Nat.not_le.mpr Nat.one_lt_two)
  | _ :: _ :: _ => rfl

theorem personaReasonOfAll_strong {sources : List RawSource}
    (isStrong : personaReasonOfAll sources = .strong) :
    sources.countP personaSourceIsSynthetic < sources.length ∧
      0 < sources.countP sourceHasPersonaSignal := by
  unfold personaReasonOfAll at isStrong
  split at isStrong
  · cases isStrong
  · next notAll =>
      split at isStrong
      · cases isStrong
      · next signal =>
          exact ⟨Nat.lt_of_le_of_ne List.countP_le_length notAll,
            Nat.pos_of_ne_zero signal⟩

/-- Strong sources are not all made up, and one of them has a signal. -/
theorem personaReason_strong {sources : List RawSource}
    (isStrong : personaReason sources = .strong) :
    sources.countP personaSourceIsSynthetic < sources.length ∧
      0 < sources.countP sourceHasPersonaSignal := by
  match sources with
  | [] => cases isStrong
  | [source] =>
      unfold personaReason at isStrong
      dsimp only at isStrong
      split at isStrong
      · cases isStrong
      · next notSynthetic =>
          split at isStrong
          · cases isStrong
          · split at isStrong
            · next qualifies => simp [notSynthetic, qualifies.2.2]
            · exact personaReasonOfAll_strong isStrong
  | first :: second :: sources => exact personaReasonOfAll_strong isStrong

theorem personaReason_append {sources : List RawSource}
    (isStrong : personaReason sources = .strong) (more : List RawSource) :
    personaReason (sources ++ more) = .strong := by
  obtain ⟨someReal, someSignal⟩ := personaReason_strong isStrong
  by_cases none : more = []
  · rw [none, List.append_nil]
    exact isStrong
  · have several : 2 ≤ (sources ++ more).length := by
      have added := List.length_pos_of_ne_nil none
      rw [List.length_append]
      omega
    have synthetic : (sources ++ more).countP personaSourceIsSynthetic ≠
        (sources ++ more).length := by
      have later : more.countP personaSourceIsSynthetic ≤ more.length :=
        List.countP_le_length
      rw [List.countP_append, List.length_append]
      omega
    have signal : (sources ++ more).countP sourceHasPersonaSignal ≠ 0 := by
      rw [List.countP_append]
      omega
    rw [personaReason_of_two_le several, personaReasonOfAll,
      if_neg synthetic, if_neg signal, if_neg]
    intro few
    exact absurd few.2 (Nat.not_lt.mpr several)

/-- Further sources do not weaken the research of a slice. -/
theorem hasStrongUserResearchSource_append {rawSources : List RawSource}
    {dimension competitor : String}
    (isStrong : hasStrongUserResearchSource rawSources dimension competitor =
      true) (more : List RawSource) :
    hasStrongUserResearchSource (rawSources ++ more) dimension competitor =
      true := by
  unfold hasStrongUserResearchSource at *
  have present : hasUserResearchSource rawSources dimension competitor =
      true := by
    by_contra missing
    simp [missing] at isStrong
  have presentLater : hasUserResearchSource (rawSources ++ more) dimension
      competitor = true := by
    unfold hasUserResearchSource at *
    rw [List.any_append, present, Bool.true_or]
  rw [present] at isStrong
  rw [presentLater]
  simp only [Bool.not_true, Bool.false_eq_true, if_false] at isStrong ⊢
  split
  · rfl
  · next gated =>
      rw [if_neg gated] at isStrong
      unfold personaEvidenceStrength at *
      simp only [ne_eq, decide_not, Bool.not_not, decide_eq_true_eq] at *
      unfold sourcesOfSlice at *
      rw [List.filter_append]
      exact personaReason_append isStrong _

end Strong

/-! ## New ids -/

section NewIds

variable [PyRuntime] (library : ResearchLibrary) (topic : String)
  (updatedAt : Nat) (detail : RunDetail)

def isWeakSlice (branch : Branch) : Bool :=
  !hasStrongUserResearchSource detail.rawSources branch.dimension
    branch.competitor

/-- The slices that are weak before the survey agent runs. -/
def weakSlices (branches : List Branch) : List Branch :=
  branches.filter (isWeakSlice detail)

/-- No source of a weak slice has the id of a source that is there, or of
another one that is written. -/
structure SurveyIdsNew (branches : List Branch) : Prop where
  fresh : ∀ branch ∈ weakSlices detail branches,
    ∀ source ∈ library.simulatedSources topic updatedAt detail branch,
      source.id ∉ detail.rawSources.map (·.id)
  apart : (((weakSlices detail branches).flatMap
    (library.simulatedSources topic updatedAt detail)).map (·.id)).Nodup

/-- What is added was written for slices that were weak from the start. -/
theorem foldl_enrichSlice (branches : List Branch) (more : List RawSource) :
    ∃ added, added.Sublist ((weakSlices detail branches).flatMap
        (library.simulatedSources topic updatedAt detail)) ∧
      branches.foldl (library.enrichSlice topic updatedAt detail)
          (detail.rawSources ++ more) =
        detail.rawSources ++ more ++ added := by
  induction branches generalizing more with
  | nil => exact ⟨[], List.nil_sublist _, by simp⟩
  | cons branch branches induction =>
      rw [List.foldl_cons, ResearchLibrary.enrichSlice]
      split
      · obtain ⟨added, isSublist, same⟩ := induction more
        refine ⟨added, isSublist.trans ?_, same⟩
        have later : (weakSlices detail branches).Sublist
            (weakSlices detail (branch :: branches)) :=
          (List.sublist_cons_self branch branches).filter _
        exact later.flatMap _
      · next weak =>
          obtain ⟨added, isSublist, same⟩ := induction (more ++
            library.simulatedSources topic updatedAt detail branch)
          refine ⟨library.simulatedSources topic updatedAt detail branch ++
            added, ?_, ?_⟩
          · have weakBefore : isWeakSlice detail branch = true := by
              rw [isWeakSlice, Bool.not_eq_true']
              by_contra isStrong
              exact weak (hasStrongUserResearchSource_append
                (by simpa using isStrong) more)
            rw [weakSlices, List.filter_cons_of_pos weakBefore,
              List.flatMap_cons]
            exact (List.Sublist.refl _).append isSublist
          · rw [List.append_assoc detail.rawSources, same]
            simp

theorem runSurveyInterviewEnrichment_ids {dimensions competitors : List String}
    (apart : (detail.rawSources.map (·.id)).Nodup)
    (new : SurveyIdsNew library topic updatedAt detail
      (branchesOf (dimensions.filter dimensionNeedsUserResearch)
        competitors)) :
    ((library.runSurveyInterviewEnrichment topic updatedAt detail dimensions
      competitors).map (·.id)).Nodup := by
  obtain ⟨added, isSublist, same⟩ := foldl_enrichSlice library topic updatedAt
    detail (branchesOf (dimensions.filter dimensionNeedsUserResearch)
      competitors) []
  rw [List.append_nil] at same
  rw [ResearchLibrary.runSurveyInterviewEnrichment, same, List.map_append]
  apply apart.append (new.apart.sublist (isSublist.map _))
  intro id present written
  obtain ⟨source, isAdded, rfl⟩ := List.mem_map.mp written
  obtain ⟨branch, isWeak, isSource⟩ :=
    List.mem_flatMap.mp (isSublist.subset isAdded)
  exact new.fresh branch isWeak source isSource present

end NewIds

end CompetiScope
