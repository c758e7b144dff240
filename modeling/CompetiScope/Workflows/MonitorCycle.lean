import Mathlib.Data.Prod.Lex
import CompetiScope.Enterprise.MonitorJobs
import CompetiScope.Foundation.StableSort
import CompetiScope.Identity.JsonIdentity
import CompetiScope.Runtime.TenantIsolation

/-!
# The cycles of a project monitor

A cycle compares the report version that is listed first for its project with
the one its run leaves.  Both are read from the store the run writes to, and
the run is found again by the key of the cycle.
-/

namespace CompetiScope

open Foundation

/-! ## Listing report versions -/

/-- `_STATUS_RANK`. -/
def ReportStatus.listRank : ReportStatus → Int
  | .published => 0
  | .approved => 1
  | .inReview => 2
  | .draft => 3
  | .rejected => 4
  | .archived => 5

/-- The key of `sort_report_versions`. -/
def versionRank (version : ReportVersionRecord) : Nat ×ₗ Nat ×ₗ Int :=
  toLex
    (version.versionNumber,
      toLex
        (version.publishedAt.getD version.createdAt,
          -version.status.listRank))

/-- The versions of a project; an empty id selects all of them. -/
def versionsOfProject (versions : Table String ReportVersionRecord (·.id))
    (projectId : String) : List ReportVersionRecord :=
  versions.values.filter fun version =>
    projectId = "" || version.scope.projectId = projectId

/-- `list_report_versions`. -/
def EnterpriseMemoryStore.listReportVersions (store : EnterpriseMemoryStore)
    (projectId : String) : List ReportVersionRecord :=
  sortDescending versionRank (versionsOfProject store.versions projectId)

/-! ## Snapshots and anomalies -/

structure MonitorSnapshot where
  projectId : String
  reportVersionId : Option String := none
  runId : Option String := none
  evidenceCount : Nat := 0
  claimCount : Nat := 0
  reportChars : Nat := 0
  reportHash : String := ""
  deriving DecidableEq

inductive MonitorAnomalySeverity where
  | info
  | warning
  | critical
  deriving DecidableEq

inductive MonitorAnomalyType where
  | scanFailed
  | reportMissing
  | reportChanged
  | evidenceDrop
  | claimDrop
  deriving DecidableEq

def MonitorAnomalyType.value : MonitorAnomalyType → String
  | .scanFailed => "scan_failed"
  | .reportMissing => "report_missing"
  | .reportChanged => "report_changed"
  | .evidenceDrop => "evidence_drop"
  | .claimDrop => "claim_drop"

/-- What the metadata of an anomaly says of the two snapshots. -/
inductive AnomalyChange where
  | none
  | versions (previous current : String)
  | counts (previous current : Nat)
  deriving DecidableEq

structure MonitorAnomaly where
  id : String
  severity : MonitorAnomalySeverity
  anomalyType : MonitorAnomalyType
  message : String
  cycleIndex : Nat
  change : AnomalyChange
  deriving DecidableEq

inductive MonitorCycleStatus where
  | completed
  | interrupted
  | failed
  deriving DecidableEq

def MonitorCycleStatus.runStatus : MonitorCycleStatus → MonitorRunStatus
  | .completed => .completed
  | .interrupted => .interrupted
  | .failed => .failed

/-- `_monitor_cycle_status`. -/
def monitorCycleStatus : RunStatus → MonitorCycleStatus
  | .interrupted => .interrupted
  | .failed => .failed
  | _ => .completed

/-- The metadata the id of an anomaly is computed of. -/
def AnomalyChange.metadata : AnomalyChange → List (String × Json)
  | .none => []
  | .versions previous current =>
      [("previous", .str previous), ("current", .str current)]
  | .counts previous current =>
      [("previous", .int previous), ("current", .int current)]

section

variable [PyRuntime] (sha256Hex : String → String)

/-- `_monitor_snapshot_from_report`. -/
def monitorSnapshotFromReport (report : ReportVersionRecord) :
    MonitorSnapshot :=
  { projectId := report.scope.projectId
    reportVersionId := some report.id
    runId := report.runId
    evidenceCount := report.evidenceIds.length
    claimCount := report.claimIds.length
    reportChars := report.reportMd.length
    reportHash := String.ofList ((sha256Hex report.reportMd).toList.take 32) }

/-- `_latest_monitor_snapshot`. -/
def latestMonitorSnapshot (store : EnterpriseMemoryStore)
    (projectId : String) : Option MonitorSnapshot :=
  (store.listReportVersions projectId).head?.map
    (monitorSnapshotFromReport sha256Hex)

/-- `_monitor_anomaly`. -/
def monitorAnomaly (cycleIndex : Nat) (anomalyType : MonitorAnomalyType)
    (severity : MonitorAnomalySeverity) (message : String)
    (change : AnomalyChange) : MonitorAnomaly :=
  { id := stableJsonId sha256Hex "anomaly"
      [.int cycleIndex, .str anomalyType.value, .str message,
        .obj change.metadata] 16
    severity := severity
    anomalyType := anomalyType
    message := message
    cycleIndex := cycleIndex
    change := change }

/-- `error or 'unknown error'`. -/
def shownError (error : String) : String :=
  if error = "" then "unknown error" else error

/-- What is found when a snapshot is compared with the one before it. -/
def comparedAnomalies (previous current : MonitorSnapshot)
    (cycleIndex : Nat) : List MonitorAnomaly :=
  (if current.reportHash ≠ previous.reportHash then
    [monitorAnomaly sha256Hex cycleIndex .reportChanged .info
      "Monitor detected a changed report body."
      (.versions (previous.reportVersionId.getD "")
        (current.reportVersionId.getD ""))]
  else []) ++
  (if current.evidenceCount < previous.evidenceCount then
    [monitorAnomaly sha256Hex cycleIndex .evidenceDrop .warning
      "Evidence count dropped compared with the previous monitor baseline."
      (.counts previous.evidenceCount current.evidenceCount)]
  else []) ++
  (if current.claimCount < previous.claimCount then
    [monitorAnomaly sha256Hex cycleIndex .claimDrop .warning
      "Claim count dropped compared with the previous monitor baseline."
      (.counts previous.claimCount current.claimCount)]
  else [])

/-- `_detect_monitor_anomalies`. -/
def detectMonitorAnomalies (previous current : Option MonitorSnapshot)
    (status : MonitorCycleStatus) (error : String) (cycleIndex : Nat) :
    List MonitorAnomaly :=
  (if status = .failed then
    [monitorAnomaly sha256Hex cycleIndex .scanFailed .critical
      ("Monitor cycle failed: " ++ shownError error) .none]
  else []) ++
  match previous, current with
  | _, none =>
      [monitorAnomaly sha256Hex cycleIndex .reportMissing .critical
        "Monitor cycle did not produce a report version." .none]
  | none, some _ => []
  | some previous, some current =>
      comparedAnomalies sha256Hex previous current cycleIndex

end

/-! ## The activity -/

structure MonitorWorkflowInput where
  workspaceId : String
  projectId : String
  monitorId : String := "default-project-monitor"
  requestedBy : String := "system-user"
  dimensions : List String := ["pricing", "feature", "persona"]
  executionMode : MonitorExecutionMode := .auto

structure MonitorCycleInput where
  request : MonitorWorkflowInput
  cycleIndex : Nat
  monitorStartedAt : String

structure MonitorCycleResult where
  cycleIndex : Nat
  projectId : String
  status : MonitorCycleStatus
  previous : Option MonitorSnapshot := none
  current : Option MonitorSnapshot := none
  runId : Option String := none
  reportVersionId : Option String := none
  anomalies : List MonitorAnomaly := []
  error : String := ""
  deriving DecidableEq

/-- The `RunCreateRequest` of a cycle. -/
structure MonitorRunRequest where
  workspaceId : String
  projectId : String
  idempotencyKey : String
  topic : String
  competitors : List String
  dimensions : List String
  competitorLayer : Option CompetitorLayer
  scenarioId : Option String
  executionMode : MonitorExecutionMode

/-- `_active_run_fingerprint`, the message of a `WorkspaceQuotaExceededError`
and what reads evidence. -/
structure MonitorSettings extends TenantSettings where
  parsing : EvidenceParsing
  fingerprint : MonitorRunRequest → String
  quotaReason : WorkspaceUsageSummary → WorkspaceRecord → String

/-- The run service and the store with its monitor jobs. -/
structure MonitorSite extends TenantService where
  monitorJobs : Table String MonitorJobRecord (·.id) := ∅

/-- A `_sync_enterprise_projection` of a pipeline: the plan and the metrics of
the run then, and the projection that is saved. -/
structure PipelineSync where
  plan : RunPlan
  metrics : RunCharges := { }
  projection : EnterpriseRunProjection

/-- The statuses for which a cycle starts no pipeline. -/
def cycleFinishedStatuses : List RunStatus :=
  [.completed, .completedWithBlockers, .interrupted, .failed]

/-- What the agents make of a run; `run_pipeline` turns an exception into the
status `failed`. -/
structure PipelineOutcome where
  status : RunStatus
  finished : status ∈ cycleFinishedStatuses := by decide
  plan : RunPlan
  metrics : RunCharges := { }
  syncs : List PipelineSync := []

/-- What an execution of the activity meets: the clock, the exception a
request raises when it is validated, the message of the model policy when it
blocks real runs, the plan that is drafted or the exception drafting raises,
and the work of the pipeline. -/
structure CycleRound where
  now : Nat
  invalid : Option String := none
  policyBlock : Option String := none
  drafted : Except String RunPlan
  pipeline : PipelineOutcome

namespace MonitorSite

variable [PyRuntime] (settings : MonitorSettings) (site : MonitorSite)
  (input : MonitorCycleInput) (project : ProjectRecord) (round : CycleRound)

/-- The names of `list_competitors` of a project. -/
def competitorNames (projectId : String) : List String :=
  let linkedIds := (site.store.projectCompetitors.values.filter
    (·.projectId = projectId)).map (·.competitorId)
  ((site.store.competitors.values.filter
    (·.id ∈ linkedIds)).insertionSort fun first second =>
      casefold first.name ≤ casefold second.name).map (·.name)

/-- `_monitor_cycle_idempotency_key`. -/
def cycleKey : String :=
  stablePrefixedId settings.sha256Hex "monitor"
    [.text input.request.monitorId, .text project.id,
      .number input.cycleIndex, .text input.monitorStartedAt] 32

def runRequest : MonitorRunRequest :=
  { workspaceId := project.workspaceId
    projectId := project.id
    idempotencyKey := cycleKey settings input project
    topic := project.topic
    competitors := site.competitorNames project.id
    dimensions := input.request.dimensions
    competitorLayer :=
      if project.competitorLayer = .unknown then none
      else some project.competitorLayer
    scenarioId := project.scenarioId
    executionMode := input.request.executionMode }

/-- The request as the run service reads it, with a drafted plan. -/
def tenantRequest (plan : RunPlan) : TenantRequest :=
  { idempotencyKey := cycleKey settings input project
    workspaceId := project.workspaceId
    projectId := some project.id
    topic := project.topic
    fingerprint :=
      settings.fingerprint (site.runRequest settings input project)
    plan := plan }

/-- The request before anything is drafted. -/
def lookupRequest : TenantRequest :=
  site.tenantRequest settings input project
    { competitors := site.competitorNames project.id }

/-- The message of the quota, if it refuses the run. -/
def quotaError : Option String :=
  if site.quotaAllows settings.toTenantSettings round.now
      (site.lookupRequest settings input project) then none
  else
    let workspace := settings.workspaces project.workspaceId
    let usage := getWorkspaceUsage settings.month
      (site.store.runDetails.rows.mapValues fun _ run => run.stored)
      project.workspaceId round.now
    let reason := settings.quotaReason usage workspace
    some (if reason = "" then "Workspace quota exceeded." else reason)

/-- The exception that is raised before the run is looked up. -/
def requestError : Option String :=
  round.invalid.or
    ((site.quotaError settings input project round).or
      (if input.request.executionMode = .real then round.policyBlock
      else none))

/-- The run `create_run` finds: the run of the key, or an active
duplicate. -/
def foundRun : Option TenantRun :=
  let request := site.lookupRequest settings input project
  (site.runs.get?
    (TenantService.tenantRunId settings.toTenantSettings request)).or
      (site.findActiveDuplicateRun round.now request)

/-- `create_run` of the run service. -/
def createRun : Except String (TenantRun × TenantService) :=
  match site.requestError settings input project round with
  | some error => .error error
  | none =>
      match site.foundRun settings input project round with
      | some run => .ok (run, site.toTenantService)
      | none =>
          match round.drafted with
          | .error error => .error error
          | .ok plan =>
              let request := site.tenantRequest settings input project plan
              .ok
                (TenantService.createdRun settings.toTenantSettings round.now
                  request,
                  site.withCreatedRun settings.toTenantSettings round.now
                    request)

end MonitorSite

section

variable [PyRuntime] (settings : MonitorSettings)

/-- The run with the plan and the metrics a sync finds. -/
def PipelineSync.detail (sync : PipelineSync) (run : TenantRun) : TenantRun :=
  { run with
    plan := sync.plan
    metrics := sync.metrics }

/-- `_sync_enterprise_projection`. -/
def TenantStore.sync (now : Nat) (run : TenantRun) (store : TenantStore)
    (sync : PipelineSync) : TenantStore :=
  let started := store.startRun settings.toTenantSettings now run.workspaceId
    (sync.detail run)
  { started with
    toEnterpriseMemoryStore :=
      EnterpriseMemoryStore.saveProjection settings.parsing now
        started.toEnterpriseMemoryStore sync.projection }

/-- The run as the pipeline leaves it. -/
def PipelineOutcome.run (outcome : PipelineOutcome) (run : TenantRun) :
    TenantRun :=
  { run with
    status := outcome.status
    plan := outcome.plan
    metrics := outcome.metrics }

/-- `run_pipeline`. -/
def TenantService.runPipeline (service : TenantService) (round : CycleRound)
    (run : TenantRun) : TenantService :=
  { runs := service.runs.upsert (round.pipeline.run run)
    store := round.pipeline.syncs.foldl
      (TenantStore.sync settings round.now run) service.store }

end

namespace MonitorSite

variable [PyRuntime] (settings : MonitorSettings) (site : MonitorSite)
  (input : MonitorCycleInput) (round : CycleRound)

/-- The run of a cycle and the service it leaves. -/
def executeRun (project : ProjectRecord) :
    Except String (TenantRun × TenantService) :=
  match site.createRun settings input project round with
  | .error error => .error error
  | .ok (run, service) =>
      if run.status ∈ cycleFinishedStatuses then .ok (run, service)
      else
        .ok
          (round.pipeline.run run, service.runPipeline settings round run)

/-- The snapshot a cycle reports of its run. -/
def currentSnapshot (service : TenantService) (runId projectId : String) :
    Option MonitorSnapshot :=
  match service.store.getRunProjection runId with
  | some projection =>
      some
        (monitorSnapshotFromReport settings.sha256Hex
          projection.reportVersion)
  | none =>
      latestMonitorSnapshot settings.sha256Hex
        service.store.toEnterpriseMemoryStore projectId

/-- The result of a cycle whose run could not be executed. -/
def failedResult (project : ProjectRecord) (error : String) :
    MonitorCycleResult :=
  let previous := latestMonitorSnapshot settings.sha256Hex
    site.store.toEnterpriseMemoryStore input.request.projectId
  { cycleIndex := input.cycleIndex
    projectId := project.id
    status := .failed
    previous := previous
    anomalies :=
      detectMonitorAnomalies settings.sha256Hex previous none .failed error
        input.cycleIndex
    error := error }

/-- The error text of a run that failed. -/
def runError (run : TenantRun) : String :=
  if run.status = .failed then "Run failed during monitor cycle." else ""

/-- The result of a cycle with its run. -/
def completedResult (project : ProjectRecord) (run : TenantRun)
    (service : TenantService) : MonitorCycleResult :=
  let previous := latestMonitorSnapshot settings.sha256Hex
    site.store.toEnterpriseMemoryStore input.request.projectId
  let current := currentSnapshot settings service run.id project.id
  let status := monitorCycleStatus run.status
  { cycleIndex := input.cycleIndex
    projectId := project.id
    status := status
    previous := previous
    current := current
    runId := some run.id
    reportVersionId := current.bind (·.reportVersionId)
    anomalies :=
      detectMonitorAnomalies settings.sha256Hex previous current status
        (runError run) input.cycleIndex
    error := runError run }

/-- `record_monitor_job_run` of a result. -/
def recordResult (service : TenantService) (result : MonitorCycleResult) :
    MonitorSite :=
  { service with
    monitorJobs :=
      recordMonitorJobRun round.now site.monitorJobs input.request.monitorId
        { status := result.status.runStatus
          runId := result.runId
          reportVersionId := result.reportVersionId
          error := result.error } }

/-- The activity once its project is found. -/
def executeCycle (project : ProjectRecord) :
    MonitorCycleResult × MonitorSite :=
  match site.executeRun settings input round project with
  | .error error =>
      let result := site.failedResult settings input project
        (String.ofList (error.toList.take 1000))
      (result,
        site.recordResult input round site.toTenantService result)
  | .ok (run, service) =>
      let result := site.completedResult settings input project run service
      (result, site.recordResult input round service result)

/-- The project of a cycle; without one the activity raises. -/
def cycleProject : Option ProjectRecord :=
  (site.store.projects.get? input.request.projectId).filter
    (·.workspaceId = input.request.workspaceId)

/-- The activity `run_monitor_cycle`. -/
def runCycle : Option (MonitorCycleResult × MonitorSite) :=
  (site.cycleProject input).map (site.executeCycle settings input round)

end MonitorSite

/-! ## What an execution leaves in the store -/

/-- Every project is still there, in its workspace. -/
def KeepsProjects (before after : TenantStore) : Prop :=
  ∀ id project, before.projects.get? id = some project →
    ∃ kept, after.projects.get? id = some kept ∧
      kept.workspaceId = project.workspaceId

theorem KeepsProjects.refl (store : TenantStore) :
    KeepsProjects store store :=
  fun _ project found => ⟨project, found, rfl⟩

theorem KeepsProjects.trans {before between after : TenantStore}
    (first : KeepsProjects before between)
    (second : KeepsProjects between after) : KeepsProjects before after := by
  intro id project found
  obtain ⟨middle, isKept, sameWorkspace⟩ := first id project found
  obtain ⟨kept, isThere, same⟩ := second id middle isKept
  exact ⟨kept, isThere, same.trans sameWorkspace⟩

theorem keepsProjects_startRun (settings : TenantSettings) (now : Nat)
    (store : TenantStore) (workspaceId : String) (detail : TenantRun) :
    KeepsProjects store (store.startRun settings now workspaceId detail) := by
  intro id project found
  have written : ∀ competitorIds projectId,
      (upsertProject settings now workspaceId projectId detail competitorIds
        store.projects).get? id =
      if id = projectId then
        some
          (writtenProject settings now workspaceId projectId detail
            competitorIds (store.projects.get? projectId))
      else store.projects.get? id := by
    intro competitorIds projectId
    rw [upsertProject, Table.get?_upsert, writtenProject_id]
  rw [TenantStore.startRun]
  simp only
  rw [written]
  split
  · next same =>
      rw [← same, found]
      exact ⟨_, rfl, rfl⟩
  · exact ⟨project, found, rfl⟩

section

variable [PyRuntime]

theorem projects_saveProjection (parsing : EvidenceParsing) (now : Nat)
    (store : EnterpriseMemoryStore) (projection : EnterpriseRunProjection) :
    (store.saveProjection parsing now projection).projects =
      store.projects := by
  have observed : ∀ (records : List EvidenceRecord)
      (start : EnterpriseMemoryStore),
      (records.foldl (EnterpriseMemoryStore.saveEvidence parsing now)
        start).projects = start.projects := by
    intro records
    induction records with
    | nil => exact fun start => rfl
    | cons record records induction => exact fun start => induction _
  exact observed projection.evidenceRecords store

/-- The versions a pipeline leaves. -/
def syncedVersions (versions : Table String ReportVersionRecord (·.id))
    (syncs : List PipelineSync) : Table String ReportVersionRecord (·.id) :=
  syncs.foldl
    (fun versions sync => versions.upsert sync.projection.reportVersion)
    versions

theorem foldl_sync (settings : MonitorSettings) (now : Nat) (run : TenantRun)
    (syncs : List PipelineSync) (store : TenantStore) :
    (syncs.foldl (TenantStore.sync settings now run) store).versions =
        syncedVersions store.versions syncs ∧
      KeepsProjects store
        (syncs.foldl (TenantStore.sync settings now run) store) := by
  induction syncs generalizing store with
  | nil => exact ⟨rfl, KeepsProjects.refl store⟩
  | cons sync syncs induction =>
      obtain ⟨versions, projects⟩ :=
        induction (TenantStore.sync settings now run store sync)
      have saved : (TenantStore.sync settings now run store sync).versions =
          store.versions.upsert sync.projection.reportVersion :=
        EnterpriseMemoryStore.versions_saveProjection sync.projection
      have kept : KeepsProjects store
          (TenantStore.sync settings now run store sync) := by
        intro id project found
        have started := keepsProjects_startRun settings.toTenantSettings now
          store run.workspaceId (sync.detail run) id project found
        rw [TenantStore.sync]
        simp only
        rwa [projects_saveProjection]
      rw [List.foldl_cons]
      constructor
      · rw [versions, saved]
        rfl
      · exact kept.trans projects

end

namespace MonitorSite

variable [PyRuntime] {settings : MonitorSettings} {site : MonitorSite}
  {input : MonitorCycleInput} {round : CycleRound} {project : ProjectRecord}
  {run : TenantRun} {service : TenantService}

/-- A run that is found is stored. -/
theorem foundRun_stored
    (found : site.foundRun settings input project round = some run) :
    site.runs.get? run.id = some run := by
  rw [foundRun, Option.or_eq_some_iff] at found
  rcases found with byKey | ⟨-, duplicate⟩
  · have sameId := Table.key_of_get? byKey
    rwa [sameId]
  · have member := TenantService.newestTenantRun_mem duplicate
    exact Table.mem_values.mp (List.mem_of_mem_filter member)

theorem createRun_ok
    (created : site.createRun settings input project round =
      .ok (run, service)) :
    service.runs.get? run.id = some run ∧
      service.store.versions = site.store.versions ∧
        KeepsProjects site.store service.store := by
  rw [createRun] at created
  split at created
  · cases created
  split at created
  · next found isFound =>
      cases created
      exact ⟨foundRun_stored isFound, rfl, KeepsProjects.refl _⟩
  · split at created
    · cases created
    · cases created
      refine ⟨Table.get?_upsert_self _ _, rfl, ?_⟩
      exact keepsProjects_startRun _ _ _ _ _

/-- The versions after a cycle whose run `create_run` answers with. -/
def versionsAfter (site : MonitorSite) (round : CycleRound)
    (created : TenantRun) : Table String ReportVersionRecord (·.id) :=
  if created.status ∈ cycleFinishedStatuses then site.store.versions
  else syncedVersions site.store.versions round.pipeline.syncs

theorem executeRun_ok
    (executed : site.executeRun settings input round project =
      .ok (run, service)) :
    ∃ created start,
      site.createRun settings input project round = .ok (created, start) ∧
        run.id = created.id ∧ run.status ∈ cycleFinishedStatuses ∧
          service.runs.get? run.id = some run ∧
            service.store.versions = site.versionsAfter round created ∧
              KeepsProjects site.store service.store := by
  rw [executeRun] at executed
  split at executed
  · cases executed
  next created start isCreated =>
  obtain ⟨stored, versions, projects⟩ := createRun_ok isCreated
  refine ⟨created, start, isCreated, ?_⟩
  rw [versionsAfter]
  split at executed
  · next finished =>
      cases executed
      rw [if_pos finished]
      exact ⟨rfl, finished, stored, versions, projects⟩
  · next unfinished =>
      cases executed
      obtain ⟨synced, kept⟩ := foldl_sync settings round.now created
        round.pipeline.syncs start.store
      rw [if_neg unfinished]
      refine ⟨rfl, round.pipeline.finished, Table.get?_upsert_self _ _, ?_,
        projects.trans kept⟩
      rw [← versions]
      exact synced

theorem executeRun_error {error : String} :
    site.executeRun settings input round project = .error error ↔
      site.createRun settings input project round = .error error := by
  rw [executeRun]
  cases site.createRun settings input project round with
  | error other => rfl
  | ok answer =>
      simp only
      split
      · exact iff_of_false nofun nofun
      · exact iff_of_false nofun nofun

end MonitorSite

namespace MonitorSite

variable {site : MonitorSite} {input : MonitorCycleInput}
  {project : ProjectRecord}

theorem cycleProject_id
    (found : site.cycleProject input = some project) :
    project.id = input.request.projectId :=
  Table.key_of_get? (Option.filter_eq_some_iff.mp found).1

/-- The project is found again after an execution. -/
theorem cycleProject_again {after : MonitorSite}
    (found : site.cycleProject input = some project)
    (kept : KeepsProjects site.store after.store) :
    ∃ again, after.cycleProject input = some again ∧
      again.id = project.id := by
  obtain ⟨isThere, inWorkspace⟩ := Option.filter_eq_some_iff.mp found
  obtain ⟨again, stillThere, sameWorkspace⟩ := kept _ _ isThere
  have isAgain : after.cycleProject input = some again := by
    rw [cycleProject, stillThere, Option.filter_some, sameWorkspace,
      if_pos inWorkspace]
  exact ⟨again, isAgain,
    (cycleProject_id isAgain).trans (cycleProject_id found).symm⟩

end MonitorSite

/-! ## Exactly when a retry repeats the cycle -/

/-- What a retry must repeat. -/
structure MonitorCycleResult.SameFindings
    (first second : MonitorCycleResult) : Prop where
  previous : first.previous = second.previous
  current : first.current = second.current
  runId : first.runId = second.runId
  anomalies : first.anomalies = second.anomalies

/-- The version that is listed first has the same snapshot. -/
def KeepsBaseline (sha256Hex : String → String)
    (before after : List ReportVersionRecord) : Prop :=
  before = [] ∧ after = [] ∨
    ∃ baseline kept, LeadsBy versionRank before baseline ∧
      LeadsBy versionRank after kept ∧
        monitorSnapshotFromReport sha256Hex kept =
          monitorSnapshotFromReport sha256Hex baseline

theorem KeepsBaseline.refl (sha256Hex : String → String)
    (versions : List ReportVersionRecord) :
    KeepsBaseline sha256Hex versions versions := by
  cases versions with
  | nil => exact .inl ⟨rfl, rfl⟩
  | cons version versions =>
      obtain ⟨leader, leads⟩ := exists_leadsBy versionRank version versions
      exact .inr ⟨leader, leader, leads, leads, rfl⟩

theorem latestMonitorSnapshot_eq_iff {sha256Hex : String → String}
    {before after : EnterpriseMemoryStore} {projectId : String} :
    latestMonitorSnapshot sha256Hex after projectId =
        latestMonitorSnapshot sha256Hex before projectId ↔
      KeepsBaseline sha256Hex (versionsOfProject before.versions projectId)
        (versionsOfProject after.versions projectId) := by
  unfold latestMonitorSnapshot EnterpriseMemoryStore.listReportVersions
    KeepsBaseline
  constructor
  · intro same
    cases first : (sortDescending versionRank
        (versionsOfProject before.versions projectId)).head? with
    | none =>
        rw [first, Option.map_none, Option.map_eq_none_iff] at same
        exact .inl ⟨head?_sortDescending_eq_none.mp first,
          head?_sortDescending_eq_none.mp same⟩
    | some baseline =>
        rw [first, Option.map_some, Option.map_eq_some_iff] at same
        obtain ⟨kept, second, sameSnapshot⟩ := same
        exact .inr ⟨baseline, kept, head?_sortDescending_eq_some.mp first,
          head?_sortDescending_eq_some.mp second, sameSnapshot⟩
  · rintro (⟨noneBefore, noneAfter⟩ | ⟨baseline, kept, leads, leadsAfter, same⟩)
    · rw [noneBefore, noneAfter]
    · rw [leads.head?_sortDescending, leadsAfter.head?_sortDescending,
        Option.map_some, Option.map_some, same]

/-- The error text of an anomaly. -/
def reportedError (error : String) : String :=
  shownError (String.ofList (error.toList.take 1000))

namespace MonitorSite

theorem keepsBaseline_versionsAfter {sha256Hex : String → String}
    {site : MonitorSite} {round : CycleRound} {created : TenantRun}
    {projectId : String} :
    KeepsBaseline sha256Hex
        (versionsOfProject site.store.versions projectId)
        (versionsOfProject (site.versionsAfter round created) projectId) ↔
      (created.status ∉ cycleFinishedStatuses →
        KeepsBaseline sha256Hex
          (versionsOfProject site.store.versions projectId)
          (versionsOfProject
            (syncedVersions site.store.versions round.pipeline.syncs)
            projectId)) := by
  unfold versionsAfter
  split
  · next finished =>
      exact iff_of_true (KeepsBaseline.refl _ _) fun unfinished =>
        (unfinished finished).elim
  · next unfinished =>
      exact ⟨fun kept _ => kept, fun kept => kept unfinished⟩

variable [PyRuntime] {settings : MonitorSettings} {site : MonitorSite}
  {input : MonitorCycleInput}

/-- A cycle that could not execute a run meets the same error again.  One that
executed a run leaves the version listed first for the project, and its run is
found again by a request that nothing refuses. -/
def RetryStable (settings : MonitorSettings) (site after : MonitorSite)
    (input : MonitorCycleInput) (project again : ProjectRecord)
    (first second : CycleRound) : Prop :=
  match site.createRun settings input project first with
  | .error error =>
      ∃ other,
        after.createRun settings input again second = .error other ∧
          reportedError other = reportedError error
  | .ok (created, _) =>
      (created.status ∉ cycleFinishedStatuses →
        KeepsBaseline settings.sha256Hex
          (versionsOfProject site.store.versions project.id)
          (versionsOfProject
            (syncedVersions site.store.versions first.pipeline.syncs)
            project.id)) ∧
      after.requestError settings input again second = none ∧
        ∃ found, after.foundRun settings input again second = some found ∧
          found.id = created.id

/-- A run that is found finished is answered without a pipeline. -/
theorem executeRun_found {after : MonitorSite} {again : ProjectRecord}
    {second : CycleRound} {run found : TenantRun}
    (accepted : after.requestError settings input again second = none)
    (isFound : after.foundRun settings input again second = some found)
    (sameId : found.id = run.id)
    (stored : after.runs.get? run.id = some run)
    (finished : run.status ∈ cycleFinishedStatuses) :
    after.executeRun settings input second again =
      .ok (run, after.toTenantService) := by
  have same : found = run := by
    have isStored := foundRun_stored isFound
    rw [sameId, stored] at isStored
    exact (Option.some.inj isStored).symm
  rw [executeRun, createRun, accepted, isFound, same]
  exact if_pos finished

/-- A run with the id of a stored run is one that was found. -/
theorem foundRun_of_created {after : MonitorSite} {again : ProjectRecord}
    {second : CycleRound} {run created : TenantRun} {start : TenantService}
    (isCreated : after.createRun settings input again second =
      .ok (created, start))
    (sameId : created.id = run.id)
    (stored : after.runs.get? run.id = some run) :
    after.requestError settings input again second = none ∧
      ∃ found, after.foundRun settings input again second = some found ∧
        found.id = run.id := by
  rw [createRun] at isCreated
  split at isCreated
  · cases isCreated
  next accepted =>
  refine ⟨accepted, ?_⟩
  split at isCreated
  · next found isFound =>
      cases isCreated
      exact ⟨_, isFound, sameId⟩
  · next notFound =>
      exfalso
      rw [foundRun, Option.or_eq_none_iff] at notFound
      have absent := notFound.1
      split at isCreated
      · cases isCreated
      · cases isCreated
        rw [← sameId] at stored
        exact nomatch absent.symm.trans stored

theorem detectMonitorAnomalies_failed (sha256Hex : String → String)
    (previous : Option MonitorSnapshot) (error : String) (cycleIndex : Nat) :
    detectMonitorAnomalies sha256Hex previous none .failed error cycleIndex =
      [monitorAnomaly sha256Hex cycleIndex .scanFailed .critical
          ("Monitor cycle failed: " ++ shownError error) .none,
        monitorAnomaly sha256Hex cycleIndex .reportMissing .critical
          "Monitor cycle did not produce a report version." .none] := by
  cases previous with
  | none => rfl
  | some previous => rfl

theorem detectMonitorAnomalies_failed_inj {sha256Hex : String → String}
    (previous : Option MonitorSnapshot) {error other : String}
    {cycleIndex : Nat} :
    detectMonitorAnomalies sha256Hex previous none .failed other cycleIndex =
        detectMonitorAnomalies sha256Hex previous none .failed error
          cycleIndex ↔
      shownError other = shownError error := by
  rw [detectMonitorAnomalies_failed, detectMonitorAnomalies_failed]
  constructor
  · intro same
    have messages := congrArg MonitorAnomaly.message
      (List.cons.inj same).1
    exact String.append_right_inj _ |>.mp messages
  · intro same
    rw [same]

section

variable {after : MonitorSite} {project again : ProjectRecord}
  {second : CycleRound}

/-- The retry of a cycle that could not execute a run. -/
theorem sameFindings_failed {error : String}
    (sameService : after.toTenantService = site.toTenantService) :
    (after.executeCycle settings input second again).1.SameFindings
        (site.failedResult settings input project
          (String.ofList (error.toList.take 1000))) ↔
      ∃ other, after.createRun settings input again second = .error other ∧
        reportedError other = reportedError error := by
  have sameStore : after.store = site.store :=
    congrArg TenantService.store sameService
  have sameTexts := fun other : String =>
    @detectMonitorAnomalies_failed_inj _ settings.sha256Hex
      (latestMonitorSnapshot settings.sha256Hex
        site.store.toEnterpriseMemoryStore input.request.projectId)
      (String.ofList (error.toList.take 1000))
      (String.ofList (other.toList.take 1000)) input.cycleIndex
  rw [executeCycle]
  cases executed : after.executeRun settings input second again with
  | error other =>
      have refused := executeRun_error.mp executed
      simp only
      constructor
      · intro same
        have anomalies := same.anomalies
        rw [failedResult, failedResult, sameStore] at anomalies
        exact ⟨other, refused, (sameTexts other).mp anomalies⟩
      · rintro ⟨another, refusedToo, same⟩
        rw [refused, Except.error.injEq] at refusedToo
        rw [← refusedToo] at same
        rw [failedResult, failedResult, sameStore]
        constructor
        case previous => rfl
        case current => rfl
        case runId => rfl
        case anomalies => exact (sameTexts other).mpr same
  | ok answer =>
      obtain ⟨run, service⟩ := answer
      apply iff_of_false
      · intro same
        cases same.runId
      · rintro ⟨other, refused, -⟩
        rw [executeRun_error.mpr refused] at executed
        cases executed

/-- The retry of a cycle that executed a run. -/
theorem sameFindings_completed {run : TenantRun} {service : TenantService}
    (sameService : after.toTenantService = service)
    (stored : service.runs.get? run.id = some run)
    (finished : run.status ∈ cycleFinishedStatuses)
    (sameProject : again.id = project.id) :
    (after.executeCycle settings input second again).1.SameFindings
        (site.completedResult settings input project run service) ↔
      KeepsBaseline settings.sha256Hex
          (versionsOfProject site.store.versions input.request.projectId)
          (versionsOfProject service.store.versions
            input.request.projectId) ∧
        after.requestError settings input again second = none ∧
          ∃ found, after.foundRun settings input again second = some found ∧
            found.id = run.id := by
  subst sameService
  rw [← latestMonitorSnapshot_eq_iff]
  constructor
  · intro same
    refine ⟨?_, ?_⟩
    · have previous := same.previous
      rw [executeCycle] at previous
      split at previous
      · exact previous
      · exact previous
    · have sameRun := same.runId
      rw [executeCycle] at sameRun
      split at sameRun
      · cases sameRun
      · next other otherService executed =>
          obtain ⟨created, start, isCreated, sameId, -⟩ :=
            executeRun_ok executed
          have isRun : other.id = run.id := Option.some.inj sameRun
          exact foundRun_of_created isCreated (sameId.symm.trans isRun)
            stored
  · rintro ⟨previous, accepted, found, isFound, sameId⟩
    rw [executeCycle,
      executeRun_found accepted isFound sameId stored finished]
    simp only
    rw [completedResult, completedResult, previous, sameProject]
    constructor
    case previous => rfl
    case current => rfl
    case runId => rfl
    case anomalies => rfl

end

/-- A retry repeats the findings of a cycle exactly when it meets the same
error, or when the run left the version listed first and is found again. -/
theorem runCycle_retry_iff {first : CycleRound} {result : MonitorCycleResult}
    {after : MonitorSite}
    (completed : site.runCycle settings input first = some (result, after))
    (second : CycleRound) :
    (∃ repeated next,
      after.runCycle settings input second = some (repeated, next) ∧
        repeated.SameFindings result) ↔
      ∃ project again, site.cycleProject input = some project ∧
        after.cycleProject input = some again ∧
          RetryStable settings site after input project again first
            second := by
  obtain ⟨project, isProject, executed⟩ :=
    Option.map_eq_some_iff.mp completed
  have onlyProject : ∀ other, site.cycleProject input = some other ↔
      other = project := by
    intro other
    rw [isProject, Option.some.injEq, eq_comm]
  suffices retried : ∃ again, after.cycleProject input = some again ∧
      ((after.executeCycle settings input second again).1.SameFindings
          result ↔
        RetryStable settings site after input project again first
          second) by
    obtain ⟨again, isAgain, sameIff⟩ := retried
    constructor
    · rintro ⟨repeated, next, isRepeated, same⟩
      rw [runCycle, isAgain, Option.map_some, Option.some.injEq]
        at isRepeated
      refine ⟨project, again, isProject, isAgain, sameIff.mp ?_⟩
      rw [isRepeated]
      exact same
    · rintro ⟨other, another, isOther, isAnother, stable⟩
      rw [onlyProject] at isOther
      rw [isAgain, Option.some.injEq] at isAnother
      subst isOther isAnother
      refine ⟨(after.executeCycle settings input second again).1,
        (after.executeCycle settings input second again).2, ?_,
        sameIff.mpr stable⟩
      rw [runCycle, isAgain, Option.map_some]
  rw [executeCycle] at executed
  split at executed
  · next error failed =>
      cases executed
      have kept : KeepsProjects site.store
          (site.recordResult input first site.toTenantService
            (site.failedResult settings input project
              (String.ofList (error.toList.take 1000)))).store :=
        KeepsProjects.refl site.store
      obtain ⟨again, isAgain, -⟩ := cycleProject_again isProject kept
      refine ⟨again, isAgain, ?_⟩
      rw [RetryStable, executeRun_error.mp failed]
      exact sameFindings_failed rfl
  · next run service executedRun =>
      cases executed
      obtain ⟨created, start, isCreated, sameId, finished, stored, versions,
        projects⟩ := executeRun_ok executedRun
      have sameService : (site.recordResult input first service
          (site.completedResult settings input project run
            service)).toTenantService = service :=
        rfl
      have kept : KeepsProjects site.store
          (site.recordResult input first service
            (site.completedResult settings input project run
              service)).store :=
        projects
      obtain ⟨again, isAgain, sameProject⟩ :=
        cycleProject_again isProject kept
      refine ⟨again, isAgain, ?_⟩
      rw [RetryStable, isCreated]
      simp only
      rw [sameFindings_completed sameService stored finished sameProject, versions,
        ← cycleProject_id isProject, keepsBaseline_versionsAfter, sameId]

end MonitorSite

/-! ## A cycle that loses evidence -/

namespace MonitorExample

local instance monitorExampleRuntime : PyRuntime := asciiRuntime

def settings : MonitorSettings :=
  { sha256Hex := id
    normalizeKey := id
    topicNormalized := id
    month := fun _ => 1
    workspaces := fun _ => { }
    parsing :=
      { sha256Hex := id
        hostname := id
        normalizeKey := id
        dedupeKeys := fun _ => []
        duplicateRows := fun _ _ => [] }
    fingerprint := fun request => request.idempotencyKey
    quotaReason := fun _ _ => "" }

def project : ProjectRecord :=
  { id := "project"
    workspaceId := "acme"
    topic := "plans" }

def report (id runId : String) (versionNumber : Nat)
    (evidenceIds : List String) (reportMd : String) : ReportVersionRecord :=
  { id := id
    runId := some runId
    scope :=
      { projectId := "project"
        topicNormalized := "plans"
        competitorLayer := "L1"
        competitorSetHash := "hash" }
    versionNumber := versionNumber
    reportMd := reportMd
    createdAt := versionNumber
    evidenceIds := evidenceIds }

/-- A project with one version, which cites two records. -/
def site : MonitorSite :=
  { store :=
      { projects := Table.upsert ∅ project
        versions :=
          Table.upsert ∅
            (report "version-1" "run-0" 1 ["page-1", "page-2"]
              "Two pages.") } }

def input : MonitorCycleInput :=
  { request :=
      { workspaceId := "acme"
        projectId := "project" }
    cycleIndex := 1
    monitorStartedAt := "noon" }

def plan : RunPlan :=
  { competitors := ["rival"] }

def runId : String :=
  TenantService.tenantRunId settings.toTenantSettings
    (site.lookupRequest settings input project)

def round (status : RunStatus) (finished : status ∈ cycleFinishedStatuses)
    (syncs : List PipelineSync) : CycleRound :=
  { now := 9
    drafted := .ok plan
    pipeline :=
      { status := status
        finished := finished
        plan := plan
        syncs := syncs } }

/-- The run of the cycle saves a version that cites one record. -/
def reporting : CycleRound :=
  round .completed (by decide)
    [{ plan := plan
       projection :=
        { projectId := "project"
          runId := runId
          reportVersion :=
            report "version-2" runId 2 ["page-1"] "One page." } }]

/-- The run of the cycle fails before it saves anything. -/
def failing : CycleRound :=
  round .failed (by decide) []

/-- The findings of two executions in the same round. -/
def findings (round : CycleRound) :
    Option (MonitorCycleResult × MonitorCycleResult) :=
  (site.runCycle settings input round).bind fun first =>
    (first.2.runCycle settings input round).map fun second =>
      (first.1, second.1)

theorem exists_runs {round : CycleRound}
    {holds : MonitorCycleResult × MonitorCycleResult → Bool}
    (found : (findings round).any holds = true) :
    ∃ result after repeated next,
      site.runCycle settings input round = some (result, after) ∧
        after.runCycle settings input round = some (repeated, next) ∧
          holds (result, repeated) = true := by
  rw [findings] at found
  cases first : site.runCycle settings input round with
  | none =>
      rw [first] at found
      cases found
  | some answer =>
      obtain ⟨result, after⟩ := answer
      rw [first, Option.bind_some] at found
      cases second : after.runCycle settings input round with
      | none =>
          rw [second] at found
          cases found
      | some answer =>
          rw [second] at found
          exact ⟨result, after, answer.1, answer.2, rfl, second, found⟩

/-- The retry of a cycle whose run failed repeats its findings. -/
theorem runCycle_retry_iff_failing :
    ∃ result after,
      site.runCycle settings input failing = some (result, after) ∧
        ∃ project again, site.cycleProject input = some project ∧
          after.cycleProject input = some again ∧
            MonitorSite.RetryStable settings site after input project again
              failing failing := by
  have repeats : (findings failing).any fun results =>
      results.2 = results.1 := by
    decide +kernel
  obtain ⟨result, after, repeated, next, completed, isRepeated, same⟩ :=
    exists_runs repeats
  have sameResult : repeated = result := of_decide_eq_true same
  refine ⟨result, after, completed, ?_⟩
  apply (MonitorSite.runCycle_retry_iff completed failing).mp
  refine ⟨repeated, next, isRepeated, ?_⟩
  rw [sameResult]
  constructor
  case previous => rfl
  case current => rfl
  case runId => rfl
  case anomalies => rfl

/-- A cycle whose run drops a page reports the drop; its retry compares the
version of the run with itself and reports nothing. -/
theorem runCycle_retry_differs :
    ∃ result after repeated next,
      site.runCycle settings input reporting = some (result, after) ∧
        after.runCycle settings input reporting = some (repeated, next) ∧
          result.anomalies.map (·.anomalyType) =
              [.reportChanged, .evidenceDrop] ∧
            repeated.anomalies = [] ∧
              repeated.previous = result.current ∧
                ¬ repeated.SameFindings result := by
  have differs : (findings reporting).any fun results =>
      results.1.anomalies.map (·.anomalyType) =
          [.reportChanged, .evidenceDrop] ∧
        results.2.anomalies = [] ∧
          results.2.previous = results.1.current := by
    decide +kernel
  obtain ⟨result, after, repeated, next, completed, isRepeated, found⟩ :=
    exists_runs differs
  obtain ⟨reported, silent, compared⟩ := of_decide_eq_true found
  refine ⟨result, after, repeated, next, completed, isRepeated, reported,
    silent, compared, ?_⟩
  intro same
  rw [← same.anomalies, silent] at reported
  cases reported

end MonitorExample

end CompetiScope
