import Mathlib.Data.String.Basic
import CompetiScope.Foundation.Collections
import CompetiScope.Identity.StableIds
import CompetiScope.Schema.Run

/-!
# Requests on the Temporal route

The LangGraph route hands a `RunCreateRequest` to `create_run` itself.  The
Temporal route copies it into the input of a workflow, field by field, and the
activity `create_run` of the worker copies the input back.
-/

namespace CompetiScope

open Foundation

namespace ApiDto

inductive RequestedLayer where
  | l1
  | l2
  | l3
  deriving DecidableEq

inductive RequestedMode where
  | auto
  | demo
  | real
  deriving DecidableEq

inductive OutputLanguage where
  | zhCN
  | enUS
  deriving DecidableEq

/-- `DEFAULT_OUTPUT_LANGUAGE`. -/
def defaultOutputLanguage : OutputLanguage :=
  .zhCN

/-- The fields of a `RunCreateRequest`. -/
structure RunCreateFields where
  workspaceId : String := "default-workspace"
  projectId : Option String := none
  idempotencyKey : Option String := none
  topic : String
  competitors : List String := []
  dimensions : List String
  competitorLayer : Option RequestedLayer := none
  scenarioId : Option String := none
  executionMode : RequestedMode := .auto
  outputLanguage : OutputLanguage := defaultOutputLanguage
  autoRedoWarnEnabled : Option Bool := none
  hitlEnabled : Option Bool := none
  deriving DecidableEq

/-- `min_length` and `max_length` of a text. -/
def LengthWithin (least most : Nat) (text : String) : Prop :=
  least ≤ text.length ∧ text.length ≤ most

/-- The bounds of the model's fields. -/
structure RunCreateFields.Valid (fields : RunCreateFields) : Prop where
  workspaceId : LengthWithin 1 120 fields.workspaceId
  projectId : ∀ projectId ∈ fields.projectId, LengthWithin 1 160 projectId
  idempotencyKey : ∀ key ∈ fields.idempotencyKey, LengthWithin 1 200 key
  topic : LengthWithin 2 200 fields.topic
  competitors : fields.competitors.length ≤ 8
  dimensions : 1 ≤ fields.dimensions.length ∧ fields.dimensions.length ≤ 8
  scenarioId : ∀ scenarioId ∈ fields.scenarioId,
    LengthWithin 1 120 scenarioId

instance (least most : Nat) (text : String) :
    Decidable (LengthWithin least most text) :=
  inferInstanceAs (Decidable (_ ∧ _))

instance (fields : RunCreateFields) : Decidable fields.Valid :=
  decidable_of_iff
    (LengthWithin 1 120 fields.workspaceId ∧
      (∀ projectId ∈ fields.projectId, LengthWithin 1 160 projectId) ∧
      (∀ key ∈ fields.idempotencyKey, LengthWithin 1 200 key) ∧
      LengthWithin 2 200 fields.topic ∧
      fields.competitors.length ≤ 8 ∧
      (1 ≤ fields.dimensions.length ∧ fields.dimensions.length ≤ 8) ∧
      ∀ scenarioId ∈ fields.scenarioId, LengthWithin 1 120 scenarioId)
    ⟨fun ⟨workspace, project, key, topic, competitors, dimensions, scenario⟩ =>
        ⟨workspace, project, key, topic, competitors, dimensions, scenario⟩,
      fun valid =>
        ⟨valid.workspaceId, valid.projectId, valid.idempotencyKey,
          valid.topic, valid.competitors, valid.dimensions,
          valid.scenarioId⟩⟩

structure RunCreateRequest extends RunCreateFields where
  valid : toRunCreateFields.Valid

/-- Build the model, or fail with a `ValidationError`. -/
def RunCreateFields.validate (fields : RunCreateFields) :
    Option RunCreateRequest :=
  if valid : fields.Valid then
    some { toRunCreateFields := fields, valid := valid }
  else none

end ApiDto

open ApiDto

/-! ## The two copies -/

structure CompetitiveIntelWorkflowInput where
  topic : String
  dimensions : List String
  competitors : List String := []
  workspaceId : String := "default-workspace"
  projectId : Option String := none
  idempotencyKey : String := ""
  competitorLayer : Option RequestedLayer := none
  scenarioId : Option String := none
  executionMode : RequestedMode := .auto
  autoRedoWarnEnabled : Option Bool := none
  hitlEnabled : Option Bool := none

namespace ApiDto

def RequestedLayer.value : RequestedLayer → String
  | .l1 => "L1"
  | .l2 => "L2"
  | .l3 => "L3"

def RequestedMode.value : RequestedMode → String
  | .auto => "auto"
  | .demo => "demo"
  | .real => "real"

def OutputLanguage.value : OutputLanguage → String
  | .zhCN => "zh-CN"
  | .enUS => "en-US"

end ApiDto

/-- `request.model_dump(mode="json", exclude={"idempotency_key"})`. -/
def workflowKeyPayload (request : RunCreateFields) :
    List (String × PayloadValue) :=
  [("auto_redo_warn_enabled", .flag request.autoRedoWarnEnabled),
    ("competitor_layer", .text (request.competitorLayer.map (·.value))),
    ("competitors", .texts request.competitors),
    ("dimensions", .texts request.dimensions),
    ("execution_mode", .text (some request.executionMode.value)),
    ("hitl_enabled", .flag request.hitlEnabled),
    ("output_language", .text (some request.outputLanguage.value)),
    ("project_id", .text request.projectId),
    ("scenario_id", .text request.scenarioId),
    ("topic", .text (some request.topic)),
    ("workspace_id", .text (some request.workspaceId))]

/-- `workflow_idempotency_key`. -/
def workflowIdempotencyKey (sha256Hex : String → String)
    (request : RunCreateFields) : String :=
  "workflow:" ++ payloadDigest sha256Hex (workflowKeyPayload request) 32

/-- `request.idempotency_key or workflow_idempotency_key(request)`. -/
def temporalIdempotencyKey (sha256Hex : String → String)
    (request : RunCreateFields) : String :=
  match request.idempotencyKey with
  | some key =>
      if key = "" then workflowIdempotencyKey sha256Hex request else key
  | none => workflowIdempotencyKey sha256Hex request

/-- `competitive_intel_input_from_run_request`. -/
def competitiveIntelInputFromRunRequest (sha256Hex : String → String)
    (request : ApiDto.RunCreateRequest) : CompetitiveIntelWorkflowInput :=
  { workspaceId := request.workspaceId
    projectId := request.projectId
    idempotencyKey := temporalIdempotencyKey sha256Hex
      request.toRunCreateFields
    topic := request.topic
    competitors := request.competitors
    dimensions := request.dimensions
    competitorLayer := request.competitorLayer
    scenarioId := request.scenarioId
    executionMode := request.executionMode
    autoRedoWarnEnabled := request.autoRedoWarnEnabled
    hitlEnabled := request.hitlEnabled }

/-- The request the activity `create_run` builds. -/
def activityCreateRunRequest (input : CompetitiveIntelWorkflowInput) :
    Option ApiDto.RunCreateRequest :=
  RunCreateFields.validate
    { workspaceId := input.workspaceId
      projectId := input.projectId
      idempotencyKey :=
        if input.idempotencyKey = "" then none else some input.idempotencyKey
      topic := input.topic
      competitors := input.competitors
      dimensions := input.dimensions
      competitorLayer := input.competitorLayer
      scenarioId := input.scenarioId
      executionMode := input.executionMode
      autoRedoWarnEnabled := input.autoRedoWarnEnabled
      hitlEnabled := input.hitlEnabled }

/-! ## What create_run makes of a request -/

/-- The parts of a `RunService` that `create_run` consults: its settings, the
scenario packs, the skill registry and the planner with its memory. -/
structure RunDrafting where
  defaultExecutionMode : ExecutionMode
  realExecutionAllowed : Bool
  autoRedoWarnEnabled : Bool
  hitlEnabled : Bool
  seedCompetitors : String → List String
  normalizeDimensionRefs : List String → Bool → List String
  computeTopicNormalized : String → String
  plan : (workspaceId : String) → (projectId : Option String) →
    (topic : String) → (competitors dimensions : List String) →
    Option RequestedLayer → (scenarioId : Option String) → AnalysisPlan

/-- The run `create_run` drafts. -/
structure RunDraft where
  workspaceId : String
  projectId : Option String
  topic : String
  executionMode : ExecutionMode
  outputLanguage : ApiDto.OutputLanguage
  plan : AnalysisPlan
  autoRedoWarnEnabled : Bool
  hitlEnabled : Bool
  activeRunFingerprint : String
  deriving DecidableEq

namespace RunDrafting

/-- `_resolve_execution_mode`; real execution may be ruled out. -/
def resolveExecutionMode (service : RunDrafting) :
    RequestedMode → Option ExecutionMode
  | .demo => some .demo
  | .real => if service.realExecutionAllowed then some .real else none
  | .auto =>
      if service.defaultExecutionMode = .real ∧ service.realExecutionAllowed
      then some .real
      else some .demo

/-- `_resolve_hitl_enabled`. -/
def resolveHitlEnabled (service : RunDrafting) (request : RunCreateFields)
    (executionMode : ExecutionMode) : Bool :=
  match request.hitlEnabled with
  | some enabled => enabled
  | none =>
      service.hitlEnabled ||
        (executionMode = .real && request.competitors.isEmpty)

/-- `_normalize_competitor_names`. -/
def normalizeCompetitorNames [PyRuntime] (names : List String) :
    List String :=
  (distinctBy casefold ((names.map strip).filter (· ≠ ""))).take 8

/-- The competitors of a request, or the seeds of its scenario. -/
def requestedCompetitors [PyRuntime] (service : RunDrafting)
    (request : RunCreateFields) : List String :=
  match normalizeCompetitorNames request.competitors, request.scenarioId with
  | [], some scenarioId =>
      normalizeCompetitorNames (service.seedCompetitors scenarioId)
  | names, _ => names

/-- `_active_run_fingerprint`. -/
def activeRunFingerprint [PyRuntime] (service : RunDrafting)
    (sha256Hex : String → String) (request : RunCreateFields)
    (competitors dimensions : List String) (executionMode : ExecutionMode)
    (autoRedoWarnEnabled hitlEnabled : Bool) : String :=
  "active-run-" ++ payloadDigest sha256Hex
    [("auto_redo_warn_enabled", .flag (some autoRedoWarnEnabled)),
      ("competitor_layer", .text
        (some ((request.competitorLayer.map (·.value)).getD "auto"))),
      ("competitors", .texts (sortedSet
        ((competitors.filter (· ≠ "")).map fun name =>
          casefold (squeeze name)))),
      ("dimensions", .texts (sortedSet
        ((dimensions.filter (· ≠ "")).map fun dimension =>
          casefold (strip dimension)))),
      ("execution_mode", .text (some
        (match executionMode with
        | .demo => "demo"
        | .real => "real"))),
      ("hitl_enabled", .flag (some hitlEnabled)),
      ("output_language", .text (some request.outputLanguage.value)),
      ("project_id", .text
        (some (casefold (strip (request.projectId.getD ""))))),
      ("scenario_id", .text (some (request.scenarioId.getD "auto"))),
      ("topic", .text (some (service.computeTopicNormalized request.topic))),
      ("workspace_id", .text (some (casefold (strip request.workspaceId))))]
    32

/-- The run `create_run` drafts for a request. -/
def draft [PyRuntime] (service : RunDrafting) (sha256Hex : String → String)
    (request : RunCreateFields) : Option RunDraft :=
  (service.resolveExecutionMode request.executionMode).map
    fun executionMode =>
      let competitors := service.requestedCompetitors request
      let dimensions :=
        service.normalizeDimensionRefs request.dimensions competitors.isEmpty
      let autoRedoWarnEnabled :=
        request.autoRedoWarnEnabled.getD service.autoRedoWarnEnabled
      let hitlEnabled := service.resolveHitlEnabled request executionMode
      { workspaceId := request.workspaceId
        projectId := request.projectId
        topic := request.topic
        executionMode := executionMode
        outputLanguage := request.outputLanguage
        plan := service.plan request.workspaceId request.projectId
          request.topic competitors dimensions request.competitorLayer
          request.scenarioId
        autoRedoWarnEnabled := autoRedoWarnEnabled
        hitlEnabled := hitlEnabled
        activeRunFingerprint := service.activeRunFingerprint sha256Hex
          request competitors dimensions executionMode autoRedoWarnEnabled
          hitlEnabled }

end RunDrafting

/-! ## What the copies keep -/

theorem temporalIdempotencyKey_of_key {sha256Hex : String → String}
    {request : ApiDto.RunCreateRequest} {key : String}
    (keyed : request.idempotencyKey = some key) :
    temporalIdempotencyKey sha256Hex request.toRunCreateFields = key ∧
      key ≠ "" := by
  have bounds := request.valid.idempotencyKey key keyed
  have filled : key ≠ "" := by
    rintro rfl
    exact absurd bounds.1 (by decide)
  rw [temporalIdempotencyKey, keyed]
  exact ⟨if_neg filled, filled⟩

/-- The key of the Temporal route is a valid one. -/
theorem temporalIdempotencyKey_length (sha256Hex : String → String)
    (request : ApiDto.RunCreateRequest) :
    LengthWithin 1 200
      (temporalIdempotencyKey sha256Hex request.toRunCreateFields) := by
  have generated : LengthWithin 1 200
      (workflowIdempotencyKey sha256Hex request.toRunCreateFields) := by
    have bound := payloadDigest_length_le sha256Hex
      (workflowKeyPayload request.toRunCreateFields) 32
    have front : "workflow:".length = 9 := rfl
    rw [LengthWithin, workflowIdempotencyKey, String.length_append, front]
    omega
  cases keyed : request.idempotencyKey with
  | none =>
      rw [temporalIdempotencyKey, keyed]
      exact generated
  | some key =>
      rw [(temporalIdempotencyKey_of_key keyed).1]
      exact request.valid.idempotencyKey key keyed

/-- The fields of a request after both copies. -/
def translatedFields (sha256Hex : String → String)
    (request : ApiDto.RunCreateRequest) : RunCreateFields :=
  { request.toRunCreateFields with
    idempotencyKey := some
      (temporalIdempotencyKey sha256Hex request.toRunCreateFields)
    outputLanguage := defaultOutputLanguage }

/-- The way back never fails. -/
theorem activityCreateRunRequest_translated (sha256Hex : String → String)
    (request : ApiDto.RunCreateRequest) :
    ∃ translated, activityCreateRunRequest
        (competitiveIntelInputFromRunRequest sha256Hex request) =
          some translated ∧
      translated.toRunCreateFields = translatedFields sha256Hex request := by
  have keyBounds := temporalIdempotencyKey_length sha256Hex request
  have filled :
      temporalIdempotencyKey sha256Hex request.toRunCreateFields ≠ "" := by
    intro empty
    rw [empty] at keyBounds
    exact absurd keyBounds.1 (by decide)
  have valid : (translatedFields sha256Hex request).Valid :=
    { workspaceId := request.valid.workspaceId
      projectId := request.valid.projectId
      idempotencyKey := by
        intro key same
        rw [← Option.some.inj same]
        exact keyBounds
      topic := request.valid.topic
      competitors := request.valid.competitors
      dimensions := request.valid.dimensions
      scenarioId := request.valid.scenarioId }
  refine ⟨{ toRunCreateFields := _, valid := valid }, ?_, rfl⟩
  have key :
      (if temporalIdempotencyKey sha256Hex request.toRunCreateFields = "" then
        none
      else some (temporalIdempotencyKey sha256Hex request.toRunCreateFields)) =
        some (temporalIdempotencyKey sha256Hex request.toRunCreateFields) :=
    if_neg filled
  rw [activityCreateRunRequest, competitiveIntelInputFromRunRequest, key]
  exact dif_pos valid

/-- The Temporal route creates the run the LangGraph route creates: the
request comes back with every field, and `create_run` makes the same of it. -/
def RoutesAgree [PyRuntime] (service : RunDrafting)
    (sha256Hex : String → String) (request : ApiDto.RunCreateRequest) :
    Prop :=
  ∃ translated, activityCreateRunRequest
      (competitiveIntelInputFromRunRequest sha256Hex request) =
        some translated ∧
    translated.toRunCreateFields = request.toRunCreateFields ∧
    service.draft sha256Hex translated.toRunCreateFields =
      service.draft sha256Hex request.toRunCreateFields

theorem routesAgree_iff [PyRuntime] (service : RunDrafting)
    (sha256Hex : String → String) (request : ApiDto.RunCreateRequest) :
    RoutesAgree service sha256Hex request ↔
      request.outputLanguage = defaultOutputLanguage ∧
        request.idempotencyKey ≠ none := by
  obtain ⟨translated, returned, fields⟩ :=
    activityCreateRunRequest_translated sha256Hex request
  constructor
  · rintro ⟨other, otherReturned, same, -⟩
    rw [returned] at otherReturned
    cases otherReturned
    rw [fields] at same
    constructor
    · exact (congrArg RunCreateFields.outputLanguage same).symm
    · rw [← congrArg RunCreateFields.idempotencyKey same]
      exact Option.some_ne_none _
  · rintro ⟨language, keyed⟩
    have same : translated.toRunCreateFields = request.toRunCreateFields := by
      obtain ⟨key, found⟩ := Option.ne_none_iff_exists'.mp keyed
      have kept :=
        (@temporalIdempotencyKey_of_key sha256Hex request key found).1
      rw [fields, translatedFields, kept, ← found, ← language]
    exact ⟨translated, returned, same, by rw [same]⟩

namespace RequestTranslationExample

def service : RunDrafting :=
  { defaultExecutionMode := .demo
    realExecutionAllowed := false
    autoRedoWarnEnabled := true
    hitlEnabled := false
    seedCompetitors := fun _ => []
    normalizeDimensionRefs := fun dimensions _ => dimensions
    computeTopicNormalized := fun topic => topic
    plan := fun _ _ _ competitors dimensions _ _ =>
      { competitors := competitors
        dimensions := dimensions } }

/-- A request for an English report. -/
def request : ApiDto.RunCreateRequest :=
  { idempotencyKey := some "ui-run:1"
    topic := "AI coding assistants"
    competitors := ["Cursor"]
    dimensions := ["pricing"]
    outputLanguage := .enUS
    valid := by decide }

end RequestTranslationExample

theorem routesAgree_fails_english :
    ¬ @RoutesAgree asciiRuntime RequestTranslationExample.service id
        RequestTranslationExample.request := by
  intro agree
  obtain ⟨translated, returned, same, -⟩ := agree
  obtain ⟨other, otherReturned, fields⟩ :=
    activityCreateRunRequest_translated id RequestTranslationExample.request
  rw [returned] at otherReturned
  cases otherReturned
  rw [fields] at same
  have language := congrArg RunCreateFields.outputLanguage same
  cases language

end CompetiScope
