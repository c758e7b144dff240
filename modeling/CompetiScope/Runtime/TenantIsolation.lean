import CompetiScope.Enterprise.MemoryStore
import CompetiScope.Enterprise.WorkspaceUsage
import CompetiScope.Runtime.RunCommands

/-!
# Runs created in a workspace

The command `create_run` checks the access to the workspace its request names
and hands the request to the run service and the store, which find runs by
idempotency key, projects by the id the request names and competitors by ids
derived from names.
-/

namespace CompetiScope

open Foundation

/-- The plan of a run as the store reads it. -/
structure RunPlan where
  competitors : List String
  competitorLayer : CompetitorLayer := .unknown
  scenarioId : Option String := none
  qaRuleIds : List String := []
  homepageHints : Dict String String := ∅
  homepageVerified : Dict String Bool := ∅
  deriving DecidableEq

/-- A `RunDetail` with the workspace and the project of its run. -/
structure TenantRun where
  id : String
  idempotencyKey : String
  workspaceId : String
  projectId : Option String := none
  topic : String
  status : RunStatus := .queued
  activeRunFingerprint : String
  createdAt : Nat
  plan : RunPlan
  metrics : RunCharges := { }

/-- What the usage of a workspace counts of a run. -/
def TenantRun.stored (run : TenantRun) : StoredRun :=
  { workspaceId := run.workspaceId
    createdAt := run.createdAt
    metrics := run.metrics }

/-- A store with its `run_details`. -/
structure TenantStore extends EnterpriseMemoryStore where
  runDetails : Table String TenantRun (·.id) := ∅

/-- The runs of the run service, loaded or in its journal, and its store. -/
structure TenantService where
  runs : Table String TenantRun (·.id) := ∅
  store : TenantStore := { }

/-- `EnterpriseUserContext`; `canPerform` is what is left of the policy when
the workspace is in the scope of the user. -/
structure WorkspaceActor where
  workspaceId : Option String := none
  canPerform : String → Bool

/-- `evaluate_access_policy` of the action `project:write`. -/
def WorkspaceActor.mayWrite (actor : WorkspaceActor) (workspaceId : String) :
    Bool :=
  actor.workspaceId.all (· = workspaceId) && actor.canPerform workspaceId

/-- The digest, `normalize_key`, `compute_topic_normalized`, the months and
the quotas of the workspaces. -/
structure TenantSettings where
  sha256Hex : String → String
  normalizeKey : String → String
  topicNormalized : String → String
  month : Nat → Nat
  workspaces : String → WorkspaceRecord

/-- A `RunCreateRequest` with its idempotency key, the fingerprint
`_active_run_fingerprint` makes of it and the plan that is drafted for it. -/
structure TenantRequest where
  idempotencyKey : String
  workspaceId : String := "default-workspace"
  projectId : Option String := none
  topic : String
  fingerprint : String
  plan : RunPlan

/-! ## The store -/

section Store

variable (settings : TenantSettings)

/-- `compute_competitor_id`. -/
def computeCompetitorId (workspaceId name : String) : String :=
  stablePrefixedId settings.sha256Hex "competitor"
    [.text workspaceId, .text (settings.normalizeKey name)] 16

/-- `compute_competitor_set_hash`. -/
def computeCompetitorSetHash (competitorIds : List String) : String :=
  settings.sha256Hex
    (String.intercalate "|"
      (sortedSet ((competitorIds.map strip).filter (· ≠ ""))))

/-- `compute_project_id`. -/
def computeProjectId (workspaceId topic : String)
    (competitorIds : List String) : String :=
  stablePrefixedId settings.sha256Hex "project"
    [.text workspaceId, .text (settings.topicNormalized topic),
      .text (computeCompetitorSetHash settings competitorIds)] 16

/-- What a run writes into its project. -/
def rewrittenProject (now : Nat) (detail : TenantRun)
    (competitorIds : List String) (project : ProjectRecord) :
    ProjectRecord :=
  { project with
    topic := detail.topic
    topicNormalized := settings.topicNormalized detail.topic
    competitorLayer := detail.plan.competitorLayer
    competitorSetHash := computeCompetitorSetHash settings competitorIds
    scenarioId := detail.plan.scenarioId
    updatedAt := now }

/-- The project of a run, which is new or the one that is found. -/
def writtenProject (now : Nat) (workspaceId projectId : String)
    (detail : TenantRun) (competitorIds : List String)
    (found : Option ProjectRecord) : ProjectRecord :=
  rewrittenProject settings now detail competitorIds
    (found.getD
      { id := projectId
        workspaceId := workspaceId
        name := detail.topic
        createdBy := some "system-user"
        createdAt := detail.createdAt })

def upsertProject (now : Nat) (workspaceId projectId : String)
    (detail : TenantRun) (competitorIds : List String)
    (projects : Table String ProjectRecord (·.id)) :
    Table String ProjectRecord (·.id) :=
  projects.upsert
    (writtenProject settings now workspaceId projectId detail competitorIds
      (projects.get? projectId))

/-- The metadata a run writes into a competitor. -/
def competitorMetadata (plan : RunPlan) (name : String)
    (metadata : Dict String MetadataValue) : Dict String MetadataValue :=
  let scenario :=
    match plan.scenarioId with
    | none => .none
    | some scenario => .text scenario
  ((metadata.set "scenario_id" scenario).set "qa_rule_ids"
    (.texts plan.qaRuleIds)).set "homepage_verified"
      (.flag (plan.homepageVerified.getD name false))

/-- A competitor of a plan as it is written into the store. -/
def plannedCompetitor (now : Nat) (workspaceId : String)
    (detail : TenantRun) (name : String) : CompetitorRecord :=
  { id := computeCompetitorId settings workspaceId name
    workspaceId := workspaceId
    name := name
    normalizedName := settings.normalizeKey name
    layer := detail.plan.competitorLayer
    homepageUrl := detail.plan.homepageHints.get? name
    metadata := competitorMetadata detail.plan name ∅
    createdAt := detail.createdAt
    updatedAt := now }

/-- A planned competitor is new or written into the one with its id. -/
def mergeCompetitor (plan : RunPlan) (existing : Option CompetitorRecord)
    (planned : CompetitorRecord) : CompetitorRecord :=
  match existing with
  | none => planned
  | some known =>
      { planned with
        workspaceId := known.workspaceId
        normalizedName := known.normalizedName
        metadata := competitorMetadata plan planned.name known.metadata
        createdAt := known.createdAt }

/-- The links of a project after a run: those of the competitors that are
left, and one for each competitor. -/
def relinked (projectId : String) (competitorIds : List String)
    (links : Table (String × String) ProjectCompetitorLink
      (fun link => (link.projectId, link.competitorId))) :
    Table (String × String) ProjectCompetitorLink
      (fun link => (link.projectId, link.competitorId)) :=
  competitorIds.foldl
    (fun links competitorId =>
      links.upsert
        { projectId := projectId
          competitorId := competitorId })
    (links.filter fun link =>
      link.projectId ≠ projectId || link.competitorId ∈ competitorIds)

/-- The competitors of a run, by their ids. -/
def competitorIdsOf (workspaceId : String) (plan : RunPlan) : List String :=
  plan.competitors.map (computeCompetitorId settings workspaceId)

/-- The project `start_run` resolves. -/
def resolvedProjectId (workspaceId : String) (detail : TenantRun) : String :=
  (detail.projectId.filter (· ≠ "")).getD
    (computeProjectId settings workspaceId detail.topic
      (competitorIdsOf settings workspaceId detail.plan))

/-- `start_run`. -/
def TenantStore.startRun (now : Nat) (store : TenantStore)
    (workspaceId : String) (detail : TenantRun) : TenantStore :=
  let competitorIds := competitorIdsOf settings workspaceId detail.plan
  let projectId := resolvedProjectId settings workspaceId detail
  { store with
    projects := upsertProject settings now workspaceId projectId detail
      competitorIds store.projects
    competitors :=
      (detail.plan.competitors.map
        (plannedCompetitor settings now workspaceId detail)).foldl
          (Table.mergeRow (mergeCompetitor detail.plan)) store.competitors
    projectCompetitors :=
      relinked projectId competitorIds store.projectCompetitors
    runDetails :=
      store.runDetails.upsert
        { detail with
          workspaceId := workspaceId
          projectId := some projectId } }

end Store

/-! ## The command -/

/-- The first of the runs created last. -/
def newestTenantRun : List TenantRun → Option TenantRun
  | [] => none
  | run :: runs =>
      match newestTenantRun runs with
      | none => some run
      | some newest =>
          if run.createdAt < newest.createdAt then some newest else some run

namespace TenantService

variable (settings : TenantSettings) (now : Nat) (service : TenantService)
  (request : TenantRequest)

/-- `_find_active_duplicate_run`. -/
def findActiveDuplicateRun : Option TenantRun :=
  newestTenantRun (service.runs.values.filter fun run =>
    run.activeRunFingerprint = request.fingerprint &&
      run.status ∈ activeRunDuplicateStatuses &&
      now - run.createdAt ≤ activeRunDuplicateWindowSeconds)

def tenantRunId : String :=
  computeRunIdForIdempotencyKey settings.sha256Hex request.idempotencyKey

/-- The run `create_run` finds: an active duplicate, or the run of its key. -/
def foundRun : Option TenantRun :=
  (service.findActiveDuplicateRun now request).or
    (service.runs.get? (tenantRunId settings request))

/-- `_ensure_workspace_quota`. -/
def quotaAllows : Bool :=
  checkWorkspaceQuota settings.month (settings.workspaces request.workspaceId)
    (service.store.runDetails.rows.mapValues fun _ run => run.stored)
    request.workspaceId now

/-- The run that is drafted for a request. -/
def draftedRun : TenantRun :=
  { id := tenantRunId settings request
    idempotencyKey := request.idempotencyKey
    workspaceId := request.workspaceId
    projectId := request.projectId
    topic := request.topic
    activeRunFingerprint := request.fingerprint
    createdAt := now
    plan := request.plan }

/-- The run that is created, with the project the store resolves. -/
def createdRun : TenantRun :=
  { draftedRun settings now request with
    projectId :=
      some
        (resolvedProjectId settings request.workspaceId
          (draftedRun settings now request)) }

/-- The service with the created run. -/
def withCreatedRun : TenantService :=
  { runs := service.runs.upsert (createdRun settings now request)
    store :=
      TenantStore.startRun settings now service.store request.workspaceId
        (draftedRun settings now request) }

/-- The command `create_run`: the run it answers with, whose pipeline is
started, and the service after it.  There is no answer when the access or the
quota is refused. -/
def createRun (actor : WorkspaceActor) : Option (TenantRun × TenantService) :=
  if !actor.mayWrite request.workspaceId then none
  else if !service.quotaAllows settings now request then none
  else
    match service.foundRun settings now request with
    | some run => some (run, service)
    | none =>
        some
          (createdRun settings now request,
            service.withCreatedRun settings now request)

/-! ## Records of other workspaces -/

/-- The project of a link belongs to another workspace. -/
def foreignLink (workspaceId : String) (link : ProjectCompetitorLink) :
    Bool :=
  (service.store.projects.get? link.projectId).any fun project =>
    project.workspaceId ≠ workspaceId

/-- The run that is answered is one of the workspace, and no record of another
workspace is created, changed or linked. -/
structure Isolated (workspaceId : String) (service next : TenantService)
    (answer : TenantRun) : Prop where
  answer : answer.workspaceId = workspaceId
  runs : next.runs.filter (·.workspaceId ≠ workspaceId) =
    service.runs.filter (·.workspaceId ≠ workspaceId)
  runDetails : next.store.runDetails.filter (·.workspaceId ≠ workspaceId) =
    service.store.runDetails.filter (·.workspaceId ≠ workspaceId)
  projects : next.store.projects.filter (·.workspaceId ≠ workspaceId) =
    service.store.projects.filter (·.workspaceId ≠ workspaceId)
  competitors : next.store.competitors.filter (·.workspaceId ≠ workspaceId) =
    service.store.competitors.filter (·.workspaceId ≠ workspaceId)
  evidence :
    next.store.sources.evidence.filter (·.workspaceId ≠ workspaceId) =
      service.store.sources.evidence.filter (·.workspaceId ≠ workspaceId)
  links : next.store.projectCompetitors.filter
      (service.foreignLink workspaceId) =
    service.store.projectCompetitors.filter (service.foreignLink workspaceId)
  newLinks : ∀ link ∈ next.store.projectCompetitors.values,
    link ∉ service.store.projectCompetitors.values →
      ∀ competitor,
        service.store.competitors.get? link.competitorId = some competitor →
          competitor.workspaceId = workspaceId

/-- Two services have the same records of a workspace. -/
structure SameFor (workspaceId : String) (first second : TenantService) :
    Prop where
  runs : first.runs.filter (·.workspaceId = workspaceId) =
    second.runs.filter (·.workspaceId = workspaceId)
  runDetails : first.store.runDetails.filter (·.workspaceId = workspaceId) =
    second.store.runDetails.filter (·.workspaceId = workspaceId)
  projects : first.store.projects.filter (·.workspaceId = workspaceId) =
    second.store.projects.filter (·.workspaceId = workspaceId)
  competitors :
    first.store.competitors.filter (·.workspaceId = workspaceId) =
      second.store.competitors.filter (·.workspaceId = workspaceId)
  evidence :
    first.store.sources.evidence.filter (·.workspaceId = workspaceId) =
      second.store.sources.evidence.filter (·.workspaceId = workspaceId)
  links : first.store.projectCompetitors.filter
      (!first.foreignLink workspaceId ·) =
    second.store.projectCompetitors.filter
      (!second.foreignLink workspaceId ·)

/-- What `create_run` finds under the ids of a request, the run of its key or
an active duplicate, the project it names and the competitors of its plan,
belongs to the workspace of the request. -/
structure StaysInside : Prop where
  found : ∀ run, service.foundRun settings now request = some run →
    run.workspaceId = request.workspaceId
  runDetails : service.foundRun settings now request = none →
    ∀ run, service.store.runDetails.get? (tenantRunId settings request) =
      some run → run.workspaceId = request.workspaceId
  project : service.foundRun settings now request = none →
    ∀ project, service.store.projects.get?
        (resolvedProjectId settings request.workspaceId
          (draftedRun settings now request)) = some project →
      project.workspaceId = request.workspaceId
  competitors : service.foundRun settings now request = none →
    ∀ name ∈ request.plan.competitors, ∀ competitor,
      service.store.competitors.get?
          (computeCompetitorId settings request.workspaceId name) =
        some competitor → competitor.workspaceId = request.workspaceId

/-- What is stored was updated before. -/
structure Past : Prop where
  projects : ∀ project ∈ service.store.projects.values,
    project.updatedAt < now
  competitors : ∀ competitor ∈ service.store.competitors.values,
    competitor.updatedAt < now

end TenantService

/-! ## The records a run writes -/

section Writes

@[simp] theorem mergeCompetitor_id (plan : RunPlan)
    (existing : Option CompetitorRecord) (planned : CompetitorRecord) :
    (mergeCompetitor plan existing planned).id = planned.id := by
  cases existing with
  | none => rfl
  | some known => rfl

section Project

variable (settings : TenantSettings) (now : Nat) {workspaceId : String}
  (detail : TenantRun)

theorem writtenProject_id (competitorIds : List String) {projectId : String}
    (projects : Table String ProjectRecord (·.id)) :
    (writtenProject settings now workspaceId projectId detail competitorIds
      (projects.get? projectId)).id = projectId := by
  cases found : projects.get? projectId with
  | none => rfl
  | some project =>
      have sameId : project.id = projectId := Table.key_of_get? found
      exact sameId

/-- The project of a run belongs to the workspace when the one that is found
does. -/
theorem writtenProject_workspaceId (projectId : String)
    (competitorIds : List String) {existing : Option ProjectRecord}
    (found : ∀ project, existing = some project →
      project.workspaceId = workspaceId) :
    (writtenProject settings now workspaceId projectId detail competitorIds
      existing).workspaceId = workspaceId := by
  cases existing with
  | none => rfl
  | some project => exact found project rfl

theorem upsertedProject_updatedAt
    {projects : Table String ProjectRecord (·.id)} {projectId : String}
    (competitorIds : List String) {project : ProjectRecord}
    (found : (upsertProject settings now workspaceId projectId detail
      competitorIds projects).get? projectId = some project) :
    project.updatedAt = now := by
  unfold upsertProject at found
  rw [Table.get?_upsert] at found
  split at found
  · cases found
    rfl
  · next differs => exact (differs (writtenProject_id _ _ _ _ _).symm).elim

end Project

/-- A competitor that is merged is updated. -/
theorem updatedAt_mergeCompetitors {now : Nat} {plan : RunPlan}
    {planned : List CompetitorRecord}
    (updated : ∀ row ∈ planned, row.updatedAt = now)
    {competitors : Table String CompetitorRecord (·.id)} {id : String}
    {competitor : CompetitorRecord}
    (found : (planned.foldl (Table.mergeRow (mergeCompetitor plan))
      competitors).get? id = some competitor)
    (written : (∃ row ∈ planned, row.id = id) ∨
      ∀ before, competitors.get? id = some before → before.updatedAt = now) :
    competitor.updatedAt = now := by
  induction planned generalizing competitors with
  | nil =>
      rcases written with ⟨row, member, -⟩ | known
      · cases member
      · exact known competitor found
  | cons row planned induction =>
      apply induction (fun other member =>
        updated other (List.mem_cons_of_mem row member)) found
      by_cases same : id = row.id
      · right
        intro before isBefore
        rw [Table.get?_mergeRow (mergeCompetitor_id plan), if_pos same]
          at isBefore
        cases isBefore
        have isNow := updated row List.mem_cons_self
        cases competitors.get? id with
        | none => exact isNow
        | some known => exact isNow
      · rcases written with ⟨other, member, sameId⟩ | known
        · rcases List.mem_cons.mp member with rfl | later
          · exact (same sameId.symm).elim
          · exact .inl ⟨other, later, sameId⟩
        · right
          intro before isBefore
          rw [Table.get?_mergeRow (mergeCompetitor_id plan), if_neg same]
            at isBefore
          exact known before isBefore

variable {projectId : String} {competitorIds : List String}
  {links : Table (String × String) ProjectCompetitorLink
    (fun link => (link.projectId, link.competitorId))}
  {keep : ProjectCompetitorLink → Bool}

private theorem relinked_eq :
    relinked projectId competitorIds links =
      (competitorIds.map fun competitorId =>
        { projectId := projectId
          competitorId := competitorId }).foldl
        (Table.mergeRow fun _ link => link)
        (links.filter fun link =>
          link.projectId ≠ projectId ||
            link.competitorId ∈ competitorIds) := by
  rw [List.foldl_map]
  rfl

/-- The links of other projects are left. -/
theorem filter_relinked_of_dropped
    (dropped : ∀ link, link.projectId = projectId → keep link = false) :
    (relinked projectId competitorIds links).filter keep =
      links.filter keep := by
  rw [relinked_eq, Table.filter_foldl_mergeRow_of_dropped (fun _ _ => rfl),
    Table.filter_filter]
  · congr 1
    funext link
    by_cases own : link.projectId = projectId
    · simp [own, dropped link own]
    · simp [own]
  · intro link listed existing known
    obtain ⟨competitorId, -, rfl⟩ := List.mem_map.mp listed
    exact dropped _ rfl
  · intro link listed before found
    obtain ⟨competitorId, -, rfl⟩ := List.mem_map.mp listed
    exact dropped before (congrArg Prod.fst (Table.key_of_get? found))

/-- The links of the project are read off those of the project. -/
theorem filter_relinked
    (kept : ∀ link, link.projectId = projectId → keep link = true) :
    (relinked projectId competitorIds links).filter keep =
      relinked projectId competitorIds (links.filter keep) := by
  rw [relinked_eq, relinked_eq,
    Table.filter_foldl_mergeRow (fun _ _ => rfl)]
  · rw [Table.filter_filter, Table.filter_filter]
    congr 2
    funext link
    exact Bool.and_comm _ _
  · intro link listed existing known
    obtain ⟨competitorId, -, rfl⟩ := List.mem_map.mp listed
    exact kept _ rfl
  · intro link listed before found
    obtain ⟨competitorId, -, rfl⟩ := List.mem_map.mp listed
    exact kept before (congrArg Prod.fst (Table.key_of_get? found))

theorem mem_relinked {link : ProjectCompetitorLink}
    (member : link ∈ (relinked projectId competitorIds links).values) :
    link ∈ links.values ∨ link.competitorId ∈ competitorIds := by
  by_cases listed : link.competitorId ∈ competitorIds
  · exact .inr listed
  · left
    have kept : link ∈ ((relinked projectId competitorIds links).filter
        fun link => link.competitorId ∉ competitorIds).values := by
      rw [Table.values_filter]
      exact List.mem_filter.mpr ⟨member, by simpa using listed⟩
    rw [relinked_eq, Table.filter_foldl_mergeRow_of_dropped
      (fun _ _ => rfl), Table.filter_filter, Table.values_filter] at kept
    · exact (List.mem_filter.mp kept).1
    · intro other isOther existing known
      obtain ⟨competitorId, isListed, rfl⟩ := List.mem_map.mp isOther
      simpa using isListed
    · intro other isOther before found
      obtain ⟨competitorId, isListed, rfl⟩ := List.mem_map.mp isOther
      have same : before.competitorId = competitorId :=
        congrArg Prod.snd (Table.key_of_get? found)
      simpa [same] using isListed

end Writes

namespace TenantService

variable {settings : TenantSettings} {now : Nat} {service : TenantService}
  {request : TenantRequest}

theorem createRun_eq_some {actor : WorkspaceActor} {answer : TenantRun}
    {next : TenantService} :
    service.createRun settings now request actor = some (answer, next) ↔
      actor.mayWrite request.workspaceId = true ∧
        service.quotaAllows settings now request = true ∧
          (service.foundRun settings now request = some answer ∧
              next = service ∨
            service.foundRun settings now request = none ∧
              answer = createdRun settings now request ∧
              next = service.withCreatedRun settings now request) := by
  unfold createRun
  cases actor.mayWrite request.workspaceId with
  | false => simp
  | true =>
      cases service.quotaAllows settings now request with
      | false => simp
      | true =>
          cases service.foundRun settings now request with
          | none => simp [eq_comm]
          | some run => simp [eq_comm]

/-! ## What stays inside -/

/-- A created run is written among the records of its workspace. -/
theorem isolated_withCreatedRun
    (isNew : service.foundRun settings now request = none)
    (inside : service.StaysInside settings now request) :
    Isolated request.workspaceId service
      (service.withCreatedRun settings now request)
      (createdRun settings now request) := by
  have unknown : service.runs.get? (tenantRunId settings request) = none :=
    (Option.or_eq_none_iff.mp isNew).2
  constructor
  case answer => rfl
  case runs =>
    apply Table.filter_upsert_of_dropped
    · simp [createdRun, draftedRun]
    · intro before found
      exact nomatch unknown.symm.trans found
  case runDetails =>
    apply Table.filter_upsert_of_dropped
    · simp
    · intro before found
      simp [inside.runDetails isNew before found]
  case projects =>
    apply Table.filter_upsert_of_dropped
    · simp [writtenProject_workspaceId settings now _ _ _
        (inside.project isNew)]
    · intro before found
      rw [writtenProject_id] at found
      simp [inside.project isNew before found]
  case competitors =>
    apply Table.filter_foldl_mergeRow_of_dropped (mergeCompetitor_id _)
    · intro planned listed existing known
      obtain ⟨name, -, rfl⟩ := List.mem_map.mp listed
      cases existing with
      | none => simp [mergeCompetitor, plannedCompetitor]
      | some before => exact known before rfl
    · intro planned listed before found
      obtain ⟨name, isListed, rfl⟩ := List.mem_map.mp listed
      simp [inside.competitors isNew name isListed before found]
  case evidence => rfl
  case links =>
    apply filter_relinked_of_dropped
    intro link own
    rw [foreignLink, own]
    cases found : service.store.projects.get?
        (resolvedProjectId settings request.workspaceId
          (draftedRun settings now request)) with
    | none => rfl
    | some before => simp [inside.project isNew before found]
  case newLinks =>
    intro link member isNewLink competitor found
    rcases mem_relinked member with isOld | listed
    · exact absurd isOld isNewLink
    · obtain ⟨name, isListed, sameId⟩ := List.mem_map.mp listed
      rw [← sameId] at found
      exact inside.competitors isNew name isListed competitor found

/-- What is found under the ids of a request belongs to the workspace when the
records of others are not changed. -/
theorem staysInside_of_isolated {answer : TenantRun} {next : TenantService}
    (past : service.Past now)
    (created : service.foundRun settings now request = some answer ∧
        next = service ∨
      service.foundRun settings now request = none ∧
        answer = createdRun settings now request ∧
        next = service.withCreatedRun settings now request)
    (isolated : Isolated request.workspaceId service next answer) :
    service.StaysInside settings now request := by
  rcases created with ⟨isFound, -⟩ | ⟨isNew, -, rfl⟩
  · have notNew : service.foundRun settings now request ≠ none := by
      rw [isFound]
      exact nofun
    refine ⟨?_, fun isNew => (notNew isNew).elim,
      fun isNew => (notNew isNew).elim, fun isNew => (notNew isNew).elim⟩
    intro run found
    rw [isFound] at found
    cases found
    exact isolated.answer
  · constructor
    case found => exact fun run found => nomatch isNew.symm.trans found
    case runDetails =>
      intro _ run found
      by_contra other
      have kept := Table.get?_of_filter_eq isolated.runDetails found
        (by simpa using other)
      have written := Table.get?_upsert_self service.store.runDetails
        { draftedRun settings now request with
          projectId := some
            (resolvedProjectId settings request.workspaceId
              (draftedRun settings now request)) }
      rw [Option.some.inj (kept.symm.trans written)] at other
      exact other rfl
    case project =>
      intro _ project found
      by_contra other
      have kept := Table.get?_of_filter_eq isolated.projects found
        (by simpa using other)
      have written := upsertedProject_updatedAt settings now
        (draftedRun settings now request)
        (competitorIdsOf settings request.workspaceId
          (draftedRun settings now request).plan) kept
      have before := past.projects project
        (Table.mem_values.mpr (Table.key_of_get? found ▸ found))
      omega
    case competitors =>
      intro _ name listed competitor found
      by_contra other
      have kept := Table.get?_of_filter_eq isolated.competitors found
        (by simpa using other)
      have written := updatedAt_mergeCompetitors (fun planned isPlanned => by
        obtain ⟨name, -, rfl⟩ := List.mem_map.mp isPlanned
        rfl) kept (.inl ⟨_, List.mem_map_of_mem listed, rfl⟩)
      have before := past.competitors competitor
        (Table.mem_values.mpr (Table.key_of_get? found ▸ found))
      omega

/-! ## Stores that differ in the records of others -/

section Others

variable {other : TenantService} {workspaceId : String}

theorem newestTenantRun_eq_none {runs : List TenantRun} :
    newestTenantRun runs = none ↔ runs = [] := by
  cases runs with
  | nil => exact iff_of_true rfl rfl
  | cons run runs =>
      refine iff_of_false ?_ (List.cons_ne_nil run runs)
      rw [newestTenantRun]
      split
      · exact nofun
      · split
        · exact nofun
        · exact nofun

private theorem newestTenantRun_cons {run newest : TenantRun}
    {runs : List TenantRun}
    (isNewest : newestTenantRun (run :: runs) = some newest) :
    newest = run ∧ (∀ last, newestTenantRun runs = some last →
        last.createdAt ≤ run.createdAt) ∨
      run.createdAt < newest.createdAt ∧
        newestTenantRun runs = some newest := by
  rw [newestTenantRun] at isNewest
  split at isNewest
  · next isLast =>
      cases isNewest
      exact .inl ⟨rfl, fun last found => nomatch isLast.symm.trans found⟩
  · next last isLast =>
      split at isNewest
      · next newer =>
          cases isNewest
          exact .inr ⟨newer, isLast⟩
      · next notNewer =>
          cases isNewest
          refine .inl ⟨rfl, fun other found => ?_⟩
          rw [isLast] at found
          cases found
          exact Nat.le_of_not_lt notNewer

theorem newestTenantRun_mem {runs : List TenantRun} {newest : TenantRun}
    (isNewest : newestTenantRun runs = some newest) : newest ∈ runs := by
  induction runs with
  | nil => cases isNewest
  | cons run runs induction =>
      rcases newestTenantRun_cons isNewest with ⟨rfl, -⟩ | ⟨-, later⟩
      · exact List.mem_cons_self
      · exact List.mem_cons_of_mem run (induction later)

private theorem createdAt_le_newest {runs : List TenantRun}
    {newest : TenantRun} (isNewest : newestTenantRun runs = some newest) :
    ∀ run ∈ runs, run.createdAt ≤ newest.createdAt := by
  induction runs generalizing newest with
  | nil => exact fun run member => nomatch member
  | cons first runs induction =>
      intro run member
      rcases newestTenantRun_cons isNewest with ⟨rfl, bound⟩ | ⟨newer, later⟩
      · rcases List.mem_cons.mp member with rfl | among
        · exact Nat.le_refl _
        · cases isLast : newestTenantRun runs with
          | none =>
              rw [newestTenantRun_eq_none.mp isLast] at among
              cases among
          | some last =>
              exact (induction isLast run among).trans (bound last isLast)
      · rcases List.mem_cons.mp member with rfl | among
        · exact newer.le
        · exact induction later run among

/-- The newest run is the newest of those that are kept when it is kept. -/
theorem newestTenantRun_filter {runs : List TenantRun} {newest : TenantRun}
    {keep : TenantRun → Bool} (isNewest : newestTenantRun runs = some newest)
    (kept : keep newest = true) :
    newestTenantRun (runs.filter keep) = some newest := by
  induction runs with
  | nil => cases isNewest
  | cons run runs induction =>
      rcases newestTenantRun_cons isNewest with ⟨rfl, bound⟩ | ⟨newer, later⟩
      · rw [List.filter_cons_of_pos kept, newestTenantRun]
        split
        · rfl
        · next last isLast =>
            have among := List.mem_of_mem_filter (newestTenantRun_mem isLast)
            rw [if_neg]
            have below := createdAt_le_newest isNewest last
              (List.mem_cons_of_mem _ among)
            omega
      · have inRest := induction later
        by_cases isKept : keep run = true
        · rw [List.filter_cons_of_pos isKept, newestTenantRun, inRest]
          exact if_pos newer
        · rwa [List.filter_cons_of_neg isKept]

theorem SameFor.symm {first second : TenantService}
    (same : SameFor workspaceId first second) :
    SameFor workspaceId second first :=
  { runs := same.runs.symm
    runDetails := same.runDetails.symm
    projects := same.projects.symm
    competitors := same.competitors.symm
    evidence := same.evidence.symm
    links := same.links.symm }

theorem findActiveDuplicateRun_of_same
    (same : SameFor workspaceId service other) {run : TenantRun}
    (found : service.findActiveDuplicateRun now request = some run)
    (inside : run.workspaceId = workspaceId)
    (otherInside : ∀ duplicate,
      other.findActiveDuplicateRun now request = some duplicate →
        duplicate.workspaceId = workspaceId) :
    other.findActiveDuplicateRun now request = some run := by
  unfold findActiveDuplicateRun at found otherInside ⊢
  generalize (fun candidate : TenantRun =>
    decide (candidate.activeRunFingerprint = request.fingerprint) &&
      decide (candidate.status ∈ activeRunDuplicateStatuses) &&
      decide (now - candidate.createdAt ≤ activeRunDuplicateWindowSeconds)) =
    isCandidate at *
  have own : ∀ first : TenantService,
      (first.runs.values.filter isCandidate).filter
          (·.workspaceId = workspaceId) =
        (first.runs.filter (·.workspaceId = workspaceId)).values.filter
          isCandidate := by
    intro first
    rw [Table.values_filter, List.filter_filter, List.filter_filter]
    congr 1
    funext candidate
    exact Bool.and_comm _ _
  have newest : newestTenantRun
      ((service.runs.values.filter isCandidate).filter
        (·.workspaceId = workspaceId)) = some run :=
    newestTenantRun_filter found (decide_eq_true inside)
  rw [own, same.runs, ← own] at newest
  cases isOther : newestTenantRun (other.runs.values.filter isCandidate) with
  | none =>
      rw [newestTenantRun_eq_none.mp isOther] at newest
      cases newest
  | some duplicate =>
      rw [← newest]
      exact (newestTenantRun_filter isOther
        (decide_eq_true (otherInside duplicate isOther))).symm

theorem foundRun_of_same (same : SameFor request.workspaceId service other)
    (inside : service.StaysInside settings now request)
    (otherInside : other.StaysInside settings now request) :
    other.foundRun settings now request =
      service.foundRun settings now request := by
  have duplicates : ∀ (first : TenantService) (run : TenantRun),
      first.StaysInside settings now request →
        first.findActiveDuplicateRun now request = some run →
          run.workspaceId = request.workspaceId := by
    intro first run known found
    exact known.found run (by rw [foundRun, found, Option.some_or])
  have sameDuplicate : other.findActiveDuplicateRun now request =
      service.findActiveDuplicateRun now request := by
    cases found : service.findActiveDuplicateRun now request with
    | some run =>
        exact findActiveDuplicateRun_of_same same found
          (duplicates service run inside found)
          fun duplicate => duplicates other duplicate otherInside
    | none =>
        cases isOther : other.findActiveDuplicateRun now request with
        | none => rfl
        | some run =>
            rw [← found]
            exact (findActiveDuplicateRun_of_same same.symm isOther
              (duplicates other run otherInside isOther)
              fun duplicate => duplicates service duplicate inside).symm
  cases found : service.findActiveDuplicateRun now request with
  | some run => rw [foundRun, foundRun, sameDuplicate, found]; rfl
  | none =>
      have ofKey : ∀ first : TenantService,
          first.StaysInside settings now request →
            first.findActiveDuplicateRun now request = none →
              (first.runs.filter
                (·.workspaceId = request.workspaceId)).get?
                  (tenantRunId settings request) =
                first.runs.get? (tenantRunId settings request) := by
        intro first known noDuplicate
        apply Table.get?_filter_of_kept
        intro run isRun
        exact decide_eq_true (known.found run
          (by rw [foundRun, noDuplicate, Option.none_or, isRun]))
      rw [foundRun, foundRun, sameDuplicate, found, Option.none_or,
        Option.none_or, ← ofKey service inside found,
        ← ofKey other otherInside (sameDuplicate.trans found), same.runs]

theorem quotaAllows_of_same
    (same : SameFor request.workspaceId service other) :
    other.quotaAllows settings now request =
      service.quotaAllows settings now request := by
  have charged : ∀ first : TenantService,
      (first.store.runDetails.rows.mapValues fun _ run =>
          run.stored).values.filter
        (·.chargedTo settings.month request.workspaceId
          (settings.month now)) =
      ((first.store.runDetails.filter
          (·.workspaceId = request.workspaceId)).values.map
        TenantRun.stored).filter
          (·.chargedTo settings.month request.workspaceId
            (settings.month now)) := by
    intro first
    have values : (first.store.runDetails.rows.mapValues fun _ run =>
        run.stored).values =
          first.store.runDetails.values.map TenantRun.stored := by
      rw [Dict.values_mapValues, Table.values, Dict.values, List.map_map]
      rfl
    rw [values, Table.values_filter, List.filter_map, List.filter_map,
      List.filter_filter]
    congr 2
    funext run
    by_cases own : run.workspaceId = request.workspaceId
    · simp [own]
    · simp [own, StoredRun.chargedTo, TenantRun.stored]
  unfold quotaAllows checkWorkspaceQuota getWorkspaceUsage
  rw [charged, charged, same.runDetails]

/-- A run is written into the projects of its workspace. -/
private theorem ownProjects_withCreatedRun
    (isNew : service.foundRun settings now request = none)
    (inside : service.StaysInside settings now request) :
    (service.withCreatedRun settings now request).store.projects.filter
        (·.workspaceId = request.workspaceId) =
      upsertProject settings now request.workspaceId
        (resolvedProjectId settings request.workspaceId
          (draftedRun settings now request))
        (draftedRun settings now request)
        (competitorIdsOf settings request.workspaceId
          (draftedRun settings now request).plan)
        (service.store.projects.filter
          (·.workspaceId = request.workspaceId)) := by
  have found := inside.project isNew
  unfold upsertProject
  rw [Table.get?_filter_of_kept fun project isFound =>
    decide_eq_true (found project isFound)]
  apply Table.filter_upsert
  · exact decide_eq_true
      (writtenProject_workspaceId settings now _ _ _ found)
  · intro before isBefore
    rw [writtenProject_id] at isBefore
    exact decide_eq_true (found before isBefore)

/-- The competitors of a run are written into those of its workspace. -/
private theorem ownCompetitors_withCreatedRun
    (isNew : service.foundRun settings now request = none)
    (inside : service.StaysInside settings now request) :
    (service.withCreatedRun settings now request).store.competitors.filter
        (·.workspaceId = request.workspaceId) =
      (request.plan.competitors.map
        (plannedCompetitor settings now request.workspaceId
          (draftedRun settings now request))).foldl
        (Table.mergeRow (mergeCompetitor request.plan))
        (service.store.competitors.filter
          (·.workspaceId = request.workspaceId)) := by
  apply Table.filter_foldl_mergeRow (mergeCompetitor_id _)
  · intro planned listed existing known
    obtain ⟨name, -, rfl⟩ := List.mem_map.mp listed
    cases existing with
    | none => simp [mergeCompetitor, plannedCompetitor]
    | some before => exact known before rfl
  · intro planned listed before found
    obtain ⟨name, isListed, rfl⟩ := List.mem_map.mp listed
    exact decide_eq_true (inside.competitors isNew name isListed before found)

/-- Creating a run changes no project of others. -/
private theorem foreignLink_withCreatedRun
    (isNew : service.foundRun settings now request = none)
    (inside : service.StaysInside settings now request) :
    (service.withCreatedRun settings now request).foreignLink
        request.workspaceId =
      service.foreignLink request.workspaceId := by
  have found := inside.project isNew
  funext link
  unfold foreignLink
  change ((upsertProject settings now _ _ _ _ _).get? _).any _ = _
  rw [upsertProject, Table.get?_upsert]
  split
  · next own =>
      rw [writtenProject_id] at own
      rw [own, Option.any_some,
        writtenProject_workspaceId settings now _ _ _ found]
      cases isFound : service.store.projects.get?
          (resolvedProjectId settings request.workspaceId
            (draftedRun settings now request)) with
      | none => simp
      | some before => simp [found before isFound]
  · rfl

theorem sameFor_withCreatedRun
    (same : SameFor request.workspaceId service other)
    (isNew : service.foundRun settings now request = none)
    (inside : service.StaysInside settings now request)
    (otherIsNew : other.foundRun settings now request = none)
    (otherInside : other.StaysInside settings now request) :
    SameFor request.workspaceId
      (service.withCreatedRun settings now request)
      (other.withCreatedRun settings now request) := by
  have runs : ∀ first : TenantService,
      first.foundRun settings now request = none →
        (first.withCreatedRun settings now request).runs.filter
            (·.workspaceId = request.workspaceId) =
          (first.runs.filter (·.workspaceId = request.workspaceId)).upsert
            (createdRun settings now request) := by
    intro first firstIsNew
    have unknown : first.runs.get? (tenantRunId settings request) = none :=
      (Option.or_eq_none_iff.mp firstIsNew).2
    apply Table.filter_upsert
    · simp [createdRun, draftedRun]
    · intro before found
      exact nomatch unknown.symm.trans found
  have runDetails : ∀ first : TenantService,
      first.foundRun settings now request = none →
        first.StaysInside settings now request →
          (first.withCreatedRun settings now
              request).store.runDetails.filter
              (·.workspaceId = request.workspaceId) =
            (first.store.runDetails.filter
              (·.workspaceId = request.workspaceId)).upsert
                (createdRun settings now request) := by
    intro first firstIsNew known
    apply Table.filter_upsert
    · simp
    · intro before found
      exact decide_eq_true (known.runDetails firstIsNew before found)
  have links : ∀ first : TenantService,
      first.foundRun settings now request = none →
        first.StaysInside settings now request →
          (first.withCreatedRun settings now
              request).store.projectCompetitors.filter
              (!first.foreignLink request.workspaceId ·) =
            relinked
              (resolvedProjectId settings request.workspaceId
                (draftedRun settings now request))
              (competitorIdsOf settings request.workspaceId request.plan)
              (first.store.projectCompetitors.filter
                (!first.foreignLink request.workspaceId ·)) := by
    intro first firstIsNew known
    apply filter_relinked
    intro link own
    rw [foreignLink, own]
    cases found : first.store.projects.get?
        (resolvedProjectId settings request.workspaceId
          (draftedRun settings now request)) with
    | none => rfl
    | some before => simp [known.project firstIsNew before found]
  constructor
  case runs => rw [runs service isNew, runs other otherIsNew, same.runs]
  case runDetails =>
    rw [runDetails service isNew inside,
      runDetails other otherIsNew otherInside, same.runDetails]
  case projects =>
    rw [ownProjects_withCreatedRun isNew inside,
      ownProjects_withCreatedRun otherIsNew otherInside, same.projects]
  case competitors =>
    rw [ownCompetitors_withCreatedRun isNew inside,
      ownCompetitors_withCreatedRun otherIsNew otherInside,
      same.competitors]
  case evidence => exact same.evidence
  case links =>
    rw [foreignLink_withCreatedRun isNew inside,
      foreignLink_withCreatedRun otherIsNew otherInside,
      links service isNew inside, links other otherIsNew otherInside,
      same.links]

end Others

/-- A user who may write in one workspace only: when what `create_run` finds
under the ids of the request belongs to that workspace, no record of another
one is touched, and the result does not depend on the records of others; when
it does not, a record of another workspace is touched. -/
theorem createRun_isolated {actor : WorkspaceActor} {workspaceId : String}
    (writesOnly : ∀ other, actor.mayWrite other = true → other = workspaceId)
    {answer : TenantRun} {next : TenantService}
    (accepted : service.createRun settings now request actor =
      some (answer, next)) :
    (service.StaysInside settings now request →
      Isolated workspaceId service next answer ∧
        ∀ other : TenantService, SameFor workspaceId service other →
          other.StaysInside settings now request →
            ∃ otherNext,
              other.createRun settings now request actor =
                  some (answer, otherNext) ∧
                SameFor workspaceId next otherNext) ∧
      (service.Past now → Isolated workspaceId service next answer →
        service.StaysInside settings now request) := by
  obtain ⟨mayWrite, allowed, created⟩ := createRun_eq_some.mp accepted
  obtain rfl := writesOnly request.workspaceId mayWrite
  refine ⟨?_, fun past isolated =>
    staysInside_of_isolated past created isolated⟩
  intro inside
  constructor
  · rcases created with ⟨isFound, rfl⟩ | ⟨isNew, rfl, rfl⟩
    · exact ⟨inside.found answer isFound, rfl, rfl, rfl, rfl, rfl, rfl,
        fun link member isNewLink => (isNewLink member).elim⟩
    · exact isolated_withCreatedRun isNew inside
  · intro other same otherInside
    have sameFound := foundRun_of_same same inside otherInside
    have otherAllowed : other.quotaAllows settings now request = true := by
      rwa [quotaAllows_of_same same]
    rcases created with ⟨isFound, rfl⟩ | ⟨isNew, rfl, rfl⟩
    · exact ⟨other, createRun_eq_some.mpr
        ⟨mayWrite, otherAllowed, .inl ⟨sameFound.trans isFound, rfl⟩⟩, same⟩
    · exact ⟨other.withCreatedRun settings now request,
        createRun_eq_some.mpr
          ⟨mayWrite, otherAllowed, .inr ⟨sameFound.trans isNew, rfl, rfl⟩⟩,
        sameFor_withCreatedRun same isNew inside (sameFound.trans isNew)
          otherInside⟩

end TenantService

/-! ## A request that names a project of others -/

namespace TenantExample

def settings : TenantSettings :=
  { sha256Hex := fun text => String.ofList text.toList.reverse
    normalizeKey := id
    topicNormalized := id
    month := fun _ => 1
    workspaces := fun _ => { } }

/-- A user of the workspace `acme`. -/
def actor : WorkspaceActor :=
  { workspaceId := some "acme"
    canPerform := fun _ => true }

theorem actor_mayWrite (other : String)
    (allowed : actor.mayWrite other = true) : other = "acme" := by
  have sameScope := (Bool.and_eq_true_iff.mp allowed).1
  simpa [actor, eq_comm] using sameScope

def plan : RunPlan :=
  { competitors := ["rival"] }

def request (key : String) (projectId : Option String) : TenantRequest :=
  { idempotencyKey := key
    workspaceId := "acme"
    projectId := projectId
    topic := "plans"
    fingerprint := "fingerprint"
    plan := plan }

def project (id workspaceId : String) : ProjectRecord :=
  { id := id
    workspaceId := workspaceId
    topic := "prices" }

/-- The run of the key `key` in the workspace `beta`. -/
def betaRun : TenantRun :=
  { id := TenantService.tenantRunId settings (request "key" none)
    idempotencyKey := "key"
    workspaceId := "beta"
    topic := "prices"
    activeRunFingerprint := "other"
    createdAt := 1
    plan := plan }

/-- Two workspaces with a project each; one of them has a run. -/
def service : TenantService :=
  { runs := Table.upsert ∅ betaRun
    store :=
      { projects :=
          Table.upsert (Table.upsert ∅ (project "acme-project" "acme"))
            (project "beta-project" "beta")
        runDetails := Table.upsert ∅ betaRun } }

/-- What the command answers with and leaves behind. -/
def created (request : TenantRequest) : Option (TenantRun × TenantService) :=
  service.createRun settings 9 request actor

def ownRequest : TenantRequest :=
  request "new" (some "acme-project")

/-- The service without the workspace `beta`. -/
def alone : TenantService :=
  { store :=
      { projects := Table.upsert ∅ (project "acme-project" "acme") } }

theorem alone_sameFor : TenantService.SameFor "acme" service alone := by
  constructor
  case runs => rfl
  case runDetails => rfl
  case projects => rfl
  case competitors => rfl
  case evidence => rfl
  case links => rfl

theorem ownRequest_staysInside {first : TenantService}
    (noRun : first.foundRun settings 9 ownRequest = none)
    (noDetail : first.store.runDetails.get?
      (TenantService.tenantRunId settings ownRequest) = none)
    (isOwn : first.store.projects.get?
        (resolvedProjectId settings "acme"
          (TenantService.draftedRun settings 9 ownRequest)) =
        some (project "acme-project" "acme"))
    (noCompetitor : ∀ id, first.store.competitors.get? id = none) :
    first.StaysInside settings 9 ownRequest := by
  constructor
  case found => exact fun run found => nomatch noRun.symm.trans found
  case runDetails =>
    exact fun _ run found => nomatch noDetail.symm.trans found
  case project =>
    intro _ stored found
    rw [Option.some.inj (found.symm.trans isOwn)]
    rfl
  case competitors =>
    exact fun _ name _ competitor found =>
      nomatch (noCompetitor _).symm.trans found

/-- A request for a project of its workspace is answered as if the other
workspace did not exist. -/
theorem createRun_isolated_ownProject :
    ∃ answer next, created ownRequest = some (answer, next) ∧
      TenantService.Isolated "acme" service next answer ∧
      ∃ otherNext,
        alone.createRun settings 9 ownRequest actor =
            some (answer, otherNext) ∧
          TenantService.SameFor "acme" next otherNext := by
  have accepted : (created ownRequest).isSome := by
    decide +kernel
  obtain ⟨⟨answer, next⟩, isCreated⟩ := Option.isSome_iff_exists.mp accepted
  obtain ⟨isolated, others⟩ :=
    (TenantService.createRun_isolated actor_mayWrite isCreated).1
      (ownRequest_staysInside rfl rfl (by decide +kernel) fun _ => rfl)
  exact ⟨answer, next, isCreated, isolated,
    others alone alone_sameFor
      (ownRequest_staysInside rfl rfl (by decide +kernel) fun _ => rfl)⟩

/-- A request that names the project of another workspace rewrites and links
it, and a request with the key of a run of another workspace is answered with
that run. -/
theorem createRun_touchesOthers :
    (∀ other, actor.mayWrite other = true → other = "acme") ∧
      (∃ answer next,
        created (request "new" (some "beta-project")) = some (answer, next) ∧
          ((next.store.projects.get? "beta-project").map
              fun project => (project.workspaceId, project.topic)) =
            some ("beta", "plans") ∧
          (next.store.projectCompetitors.values.map (·.projectId)) =
            ["beta-project"] ∧
          ¬ TenantService.Isolated "acme" service next answer) ∧
      ∃ answer next, created (request "key" none) = some (answer, next) ∧
        answer = betaRun ∧
        ¬ TenantService.Isolated "acme" service next answer := by
  refine ⟨actor_mayWrite, ?_, ?_⟩
  · have accepted :
        (created (request "new" (some "beta-project"))).isSome := by
      decide +kernel
    obtain ⟨⟨answer, next⟩, isCreated⟩ :=
      Option.isSome_iff_exists.mp accepted
    have written : (created (request "new" (some "beta-project"))).all
        fun result =>
          ((result.2.store.projects.get? "beta-project").map
              fun project => (project.workspaceId, project.topic)) =
            some ("beta", "plans") ∧
          (result.2.store.projectCompetitors.values.map (·.projectId)) =
            ["beta-project"] := by
      decide +kernel
    rw [isCreated, Option.all_some, decide_eq_true_eq] at written
    refine ⟨answer, next, isCreated, written.1, written.2, ?_⟩
    intro isolated
    have kept : next.store.projects.get? "beta-project" =
        some (project "beta-project" "beta") :=
      Table.get?_of_filter_eq isolated.projects (by decide +kernel)
        (by decide +kernel)
    have rewritten := written.1
    rw [kept] at rewritten
    exact absurd rewritten (by decide)
  · refine ⟨betaRun, service, ?_, rfl, ?_⟩
    · rfl
    · intro isolated
      exact absurd isolated.answer (by decide)

end TenantExample

end CompetiScope
