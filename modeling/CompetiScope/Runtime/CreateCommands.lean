import CompetiScope.Enterprise.WorkspaceUsage
import CompetiScope.Runtime.RunsKept

/-!
# Commands and activities that create runs

The command `create_run` on both of its routes, with its quota checks and its
`await` on Temporal; the activities that create the run again; the deferred
retries that make it visible.  One step is what happens between two awaits.
-/

namespace CompetiScope

open Foundation

/-- A `RunCreateRequest` with the workspace its run is charged to. -/
structure ChargedRequest extends RunCreateRequest where
  workspaceId : String

/-- A `CreateRunCommand`; `newKey` is what `new_ui_run_idempotency_key` draws
for it. -/
structure CreateRunCommand where
  idempotencyKey : Option String := none
  newKey : String
  workspaceId : String
  fingerprint : String
  detail : RunDetail

namespace CreateRunCommand

/-- The key the caller supplied; an empty one counts as none. -/
def suppliedKey (command : CreateRunCommand) : Option String :=
  command.idempotencyKey.filter (· ≠ "")

/-- `_with_run_idempotency_key`. -/
def request (command : CreateRunCommand) : ChargedRequest :=
  { idempotencyKey := command.suppliedKey.getD command.newKey
    fingerprint := command.fingerprint
    detail := command.detail
    workspaceId := command.workspaceId }

end CreateRunCommand

inductive CommandRoute where
  | langgraph
  | temporal
  deriving DecidableEq

/-- How `_ensure_temporal_run_visible` ends: with an answer of `create_run`,
or with an exception before or after the run was registered. -/
inductive VisibilityOutcome where
  | answered
  | raised (registered : Bool)
  deriving DecidableEq

/-- A call of `create_run` that was answered: the run of its key, whether it
existed, and the run returned; `none` when the quota is exceeded. -/
structure AnsweredCall where
  runId : String
  existed : Bool
  answer : Option String
  deriving DecidableEq

/-- A `RuntimeCommandService` with its run service and store.  `starting` are
the commands that await Temporal, `deferred` the retries with their failed
attempts; `suppliedRuns` and `calls` are what happened so far and nothing
reads them. -/
structure RuntimeService where
  host : RunHost := {}
  runDetails : Dict String StoredRun := ∅
  starting : List ChargedRequest := []
  deferred : List (ChargedRequest × Nat) := []
  /-- The runs whose keys callers supplied. -/
  suppliedRuns : List String := []
  calls : List AnsweredCall := []

/-- The quotas of the workspaces are fixed. -/
structure RuntimeSettings extends HostSettings where
  month : Nat → Nat
  workspaces : String → WorkspaceRecord

inductive CommandAction where
  /-- A step of the run service that creates no run. -/
  | served (action : HostAction)
  /-- The command `create_run` up to its first `await` that gives way. -/
  | createRun (command : CreateRunCommand) (route : CommandRoute)
  /-- `start_competitive_intel` returns, or raises when there is no
  outcome. -/
  | workflowStarted (index : Nat) (outcome : Option VisibilityOutcome)
  /-- An attempt of `_retry_temporal_run_visibility`. -/
  | retryVisibility (index : Nat) (outcome : VisibilityOutcome)
  /-- The activity `create_run`. -/
  | createRunActivity (request : ChargedRequest)
  /-- The activities `run_project_scan` and `run_cycle`. -/
  | scanProject (request : ChargedRequest)
  /-- `_sync_enterprise_projection` stores the run again. -/
  | syncProjection (runId : String) (metrics : RunCharges)

/-- The number of delays of `_retry_temporal_run_visibility`. -/
def visibilityAttempts : Nat :=
  3

/-- The run that is returned. -/
def CreateAnswer.runId : CreateAnswer → String
  | .sameKey runId _ => runId
  | .activeDuplicate runId => runId
  | .newRun runId => runId

namespace RuntimeService

section

variable (service : RuntimeService) (settings : RuntimeSettings)

/-- The run of the key of a request. -/
def runId (settings : RuntimeSettings) (request : ChargedRequest) : String :=
  computeRunIdForIdempotencyKey settings.sha256Hex request.idempotencyKey

/-- `_ensure_workspace_quota_allows_run` raises nothing. -/
def quotaAllows (workspaceId : String) : Bool :=
  checkWorkspaceQuota settings.month (settings.workspaces workspaceId)
    service.runDetails workspaceId service.host.now

/-- The store after `create_run`, which charges new runs. -/
def charge (request : ChargedRequest) :
    CreateAnswer → Dict String StoredRun
  | .newRun runId =>
      startRun service.runDetails runId
        { workspaceId := request.workspaceId
          createdAt := service.host.now }
  | _ => service.runDetails

def answerCall (request : ChargedRequest) (answer : Option String) :
    AnsweredCall :=
  let runId := runId settings request
  { runId := runId
    existed := (service.host.runs.get? runId).isSome
    answer := answer }

/-- A call that the quota allows. -/
def created (request : ChargedRequest) (answer : CreateAnswer)
    (host : RunHost) : RuntimeService :=
  { service with
    host := host
    runDetails := service.charge request answer
    calls :=
      service.calls ++
        [service.answerCall settings request (some answer.runId)] }

/-- A call that raises `WorkspaceQuotaExceededError`. -/
def rejected (request : ChargedRequest) : RuntimeService :=
  { service with
    calls := service.calls ++ [service.answerCall settings request none] }

/-- `create_run` of the run service; `answer` is the run it finds and `host`
the run service after its caller went on with that run. -/
def create (request : ChargedRequest) (answer : CreateAnswer)
    (host : RunHost) : RuntimeService :=
  if service.quotaAllows settings request.workspaceId then
    service.created settings request answer host
  else service.rejected settings request

/-- `_ensure_temporal_run_visible`. -/
def ensureTemporalRunVisible (request : ChargedRequest) : RuntimeService :=
  service.create settings request
    (service.host.answer settings.sha256Hex request.toRunCreateRequest true)
    (service.host.registerRun settings.sha256Hex settings.journal
      request.toRunCreateRequest true)

/-- `_ensure_temporal_run_visible` with its exceptions; the quota is checked
before anything is registered. -/
def tryVisibility (request : ChargedRequest) :
    VisibilityOutcome → Option RuntimeService
  | .answered => some (service.ensureTemporalRunVisible settings request)
  | .raised false => some service
  | .raised true =>
      if service.quotaAllows settings request.workspaceId then
        some
          { service.ensureTemporalRunVisible settings request with
            calls := service.calls }
      else none

/-- The command `create_run`. -/
def createRun (command : CreateRunCommand) (route : CommandRoute) :
    RuntimeService :=
  let request := command.request
  match route with
  | .langgraph =>
      service.create settings request
        (service.host.commandAnswer settings.sha256Hex
          request.toRunCreateRequest)
        (service.host.createRun settings.sha256Hex settings.journal
          request.toRunCreateRequest)
  | .temporal =>
      if service.quotaAllows settings request.workspaceId then
        match service.host.findActiveDuplicateRun request.fingerprint with
        | some duplicate =>
            service.created settings request (.activeDuplicate duplicate)
              service.host
        | none =>
            { service with starting := service.starting ++ [request] }
      else service.rejected settings request

def noteKey (command : CreateRunCommand) : RuntimeService :=
  { service with
    suppliedRuns :=
      service.suppliedRuns ++
        (command.suppliedKey.map fun _ =>
          runId settings command.request).toList }

end

end RuntimeService

/-- The steps of a runtime service. -/
def commandStep [PyRuntime] (settings : RuntimeSettings)
    (service : RuntimeService) : CommandAction → Option RuntimeService
  | .served action =>
      if action.creates then none
      else
        (hostStep settings.toHostSettings service.host action).map fun host =>
          { service with host := host }
  | .createRun command route =>
      some
        ((service.createRun settings command route).noteKey settings command)
  | .workflowStarted index outcome =>
      match service.starting[index]? with
      | none => none
      | some request =>
          let rest :=
            { service with starting := service.starting.eraseIdx index }
          match outcome with
          | none => some rest
          | some .answered => rest.tryVisibility settings request .answered
          | some raised =>
              (rest.tryVisibility settings request raised).map fun tried =>
                { tried with deferred := tried.deferred ++ [(request, 0)] }
  | .retryVisibility index outcome =>
      match service.deferred[index]? with
      | none => none
      | some (request, attempts) =>
          (service.tryVisibility settings request outcome).map fun tried =>
            { tried with
              deferred :=
                if outcome = .answered ∨ attempts + 1 = visibilityAttempts
                then tried.deferred.eraseIdx index
                else tried.deferred.set index (request, attempts + 1) }
  | .createRunActivity request =>
      some
        (service.create settings request
          (service.host.answer settings.sha256Hex request.toRunCreateRequest
            false)
          (service.host.registerRun settings.sha256Hex settings.journal
            request.toRunCreateRequest false))
  | .scanProject request =>
      some
        (service.create settings request
          (service.host.answer settings.sha256Hex request.toRunCreateRequest
            false)
          (service.host.scanProject settings.sha256Hex settings.journal
            request.toRunCreateRequest))
  | .syncProjection runId metrics =>
      match service.runDetails.get? runId with
      | none => none
      | some run =>
          some
            { service with
              runDetails :=
                startRun service.runDetails runId
                  { run with metrics := metrics } }

/-! ## What a step does to the runs and the store -/

/-- Who calls `create_run` of the run service. -/
inductive CallKind where
  | command
  | visibility
  | activity
  deriving DecidableEq

namespace RuntimeService

/-- The call of `create_run` an action makes, if any. -/
def call? (service : RuntimeService) :
    CommandAction → Option (ChargedRequest × CallKind)
  | .createRun command _ => some (command.request, .command)
  | .workflowStarted _ none => none
  | .workflowStarted _ (some (.raised false)) => none
  | .workflowStarted index _ =>
      service.starting[index]?.map fun request => (request, .visibility)
  | .retryVisibility _ (.raised false) => none
  | .retryVisibility index _ =>
      service.deferred[index]?.map fun entry => (entry.1, .visibility)
  | .createRunActivity request => some (request, .activity)
  | .scanProject request => some (request, .activity)
  | _ => none

/-- The run a call finds. -/
def answerFor (service : RuntimeService) (settings : RuntimeSettings)
    (request : ChargedRequest) : CallKind → CreateAnswer
  | .command =>
      service.host.commandAnswer settings.sha256Hex request.toRunCreateRequest
  | .visibility =>
      service.host.answer settings.sha256Hex request.toRunCreateRequest true
  | .activity =>
      service.host.answer settings.sha256Hex request.toRunCreateRequest false

theorem answerFor_newRun {service : RuntimeService}
    {settings : RuntimeSettings} {request : ChargedRequest}
    {kind : CallKind} {created : String}
    (isNew : service.answerFor settings request kind = .newRun created) :
    created = runId settings request ∧
      service.host.runs.get? created = none ∧
      (kind ≠ .visibility →
        service.host.findActiveDuplicateRun request.fingerprint = none) := by
  cases kind with
  | command =>
      obtain ⟨sameId, unknown, noDuplicate⟩ :=
        RunHost.answer_newRun (RunHost.commandAnswer_newRun isNew)
      exact ⟨sameId, sameId ▸ unknown, fun _ => noDuplicate rfl⟩
  | visibility =>
      obtain ⟨sameId, unknown, -⟩ := RunHost.answer_newRun isNew
      exact ⟨sameId, sameId ▸ unknown, fun visible => (visible rfl).elim⟩
  | activity =>
      obtain ⟨sameId, unknown, noDuplicate⟩ := RunHost.answer_newRun isNew
      exact ⟨sameId, sameId ▸ unknown, fun _ => noDuplicate rfl⟩

/-- A call is refused or creates what it does not find; a call that raised
an exception is not answered. -/
inductive Called (settings : RuntimeSettings)
    (service next : RuntimeService) (request : ChargedRequest)
    (kind : CallKind) : Prop where
  | rejected
      (refused : service.quotaAllows settings request.workspaceId = false)
      (host : next.host = service.host)
      (runDetails : next.runDetails = service.runDetails)
      (calls : next.calls =
        service.calls ++ [service.answerCall settings request none])
  | created
      (allowed : service.quotaAllows settings request.workspaceId = true)
      (effect : service.host.CreateEffect next.host
        request.toRunCreateRequest (service.answerFor settings request kind))
      (runDetails : next.runDetails =
        service.charge request (service.answerFor settings request kind))
      (calls : next.calls = service.calls ∨
        next.calls = service.calls ++
          [service.answerCall settings request
            (some (service.answerFor settings request kind).runId)])

/-- The commands in flight have no part in a call. -/
theorem Called.transfer {settings : RuntimeSettings}
    {service next before after : RuntimeService} {request : ChargedRequest}
    {kind : CallKind} (called : Called settings service next request kind)
    (host : service.host = before.host)
    (runDetails : service.runDetails = before.runDetails)
    (calls : service.calls = before.calls)
    (nextHost : next.host = after.host)
    (nextRunDetails : next.runDetails = after.runDetails)
    (nextCalls : next.calls = after.calls) :
    Called settings before after request kind := by
  cases service
  cases before
  dsimp only at host runDetails calls
  subst host runDetails calls
  cases called with
  | rejected refused sameHost sameDetails grown =>
      exact .rejected refused (nextHost.symm.trans sameHost)
        (nextRunDetails.symm.trans sameDetails) (nextCalls.symm.trans grown)
  | created allowed effect charged grown =>
      rw [nextHost] at effect
      rw [nextRunDetails] at charged
      rw [nextCalls] at grown
      exact .created allowed effect charged grown

theorem called_create {service : RuntimeService}
    {settings : RuntimeSettings} {request : ChargedRequest}
    (kind : CallKind) {host : RunHost}
    (effect : service.host.CreateEffect host request.toRunCreateRequest
      (service.answerFor settings request kind)) :
    Called settings service
      (service.create settings request
        (service.answerFor settings request kind) host) request kind := by
  unfold create
  split
  · next allowed => exact .created allowed effect rfl (.inr rfl)
  · next refused =>
      exact .rejected (Bool.eq_false_of_not_eq_true refused) rfl rfl rfl

theorem create_suppliedRuns {service : RuntimeService}
    {settings : RuntimeSettings} {request : ChargedRequest}
    {answer : CreateAnswer} {host : RunHost} :
    (service.create settings request answer host).suppliedRuns =
      service.suppliedRuns := by
  unfold create
  split <;> rfl

theorem called_visible (service : RuntimeService)
    (settings : RuntimeSettings) (request : ChargedRequest) :
    Called settings service
      (service.ensureTemporalRunVisible settings request) request
        .visibility :=
  called_create .visibility (RunHost.registerRun_effect _ _ _ _ _)

/-- Only an exception before the registration makes no call. -/
theorem tryVisibility_cases {service tried : RuntimeService}
    {settings : RuntimeSettings} {request : ChargedRequest}
    {outcome : VisibilityOutcome}
    (attempted : service.tryVisibility settings request outcome =
      some tried) :
    outcome = .raised false ∧ tried = service ∨
      outcome ≠ .raised false ∧
        tried.suppliedRuns = service.suppliedRuns ∧
        Called settings service tried request .visibility := by
  cases outcome with
  | answered =>
      cases attempted
      exact .inr ⟨nofun, create_suppliedRuns,
        called_visible service settings request⟩
  | raised registered =>
      cases registered with
      | false =>
          cases attempted
          exact .inl ⟨rfl, rfl⟩
      | true =>
          simp only [tryVisibility] at attempted
          split at attempted
          · next allowed =>
              cases attempted
              refine .inr ⟨nofun, create_suppliedRuns, ?_⟩
              cases called_visible service settings request with
              | rejected refused _ _ _ =>
                  rw [allowed] at refused
                  cases refused
              | created _ effect runDetails _ =>
                  exact .created allowed effect runDetails (.inl rfl)
          · cases attempted

end RuntimeService

open RuntimeService

section

variable [PyRuntime]

/-- What an action may do to the runs of the service and to the store. -/
inductive CommandEffect (settings : RuntimeSettings)
    (service next : RuntimeService) (action : CommandAction) : Prop where
  | kept
      (host : service.host.KeepsRuns next.host fun runId =>
        ∃ hostAction, action = .served hostAction ∧
          service.host.Revives settings.toHostSettings hostAction runId)
      (runDetails : next.runDetails = service.runDetails)
      (calls : next.calls = service.calls)
  | called (request : ChargedRequest) (kind : CallKind)
      (call : service.call? action = some (request, kind))
      (called : Called settings service next request kind)
  | synced (runId : String) (run : StoredRun) (metrics : RunCharges)
      (stored : service.runDetails.get? runId = some run)
      (runDetails : next.runDetails =
        startRun service.runDetails runId { run with metrics := metrics })
      (host : next.host = service.host)
      (calls : next.calls = service.calls)

theorem createRun_commandEffect (service : RuntimeService)
    (settings : RuntimeSettings) (command : CreateRunCommand)
    (route : CommandRoute) :
    CommandEffect settings service
      ((service.createRun settings command route).noteKey settings command)
        (.createRun command route) := by
  cases route with
  | langgraph =>
      have called : Called settings service
          (service.createRun settings command .langgraph) command.request
            .command :=
        called_create .command (RunHost.createRun_effect _ _ _ _)
      exact .called command.request .command rfl
        (called.transfer rfl rfl rfl rfl rfl rfl)
  | temporal =>
      rw [createRun]
      split
      · next allowed =>
          split
          · next duplicate found =>
              have answer : service.answerFor settings command.request
                  .command = .activeDuplicate duplicate := by
                rw [answerFor, RunHost.commandAnswer, found]
              refine .called command.request .command rfl
                (.created allowed ?_ ?_ (.inr ?_))
              · rw [answer]
                exact service.host.keepsRuns_refl _
              · rw [answer]
                rfl
              · rw [answer]
                rfl
          · exact .kept (service.host.keepsRuns_refl _) rfl rfl
      · next refused =>
          exact .called command.request .command rfl
            (.rejected (Bool.eq_false_of_not_eq_true refused) rfl rfl rfl)

theorem commandStep_effect {settings : RuntimeSettings}
    {service next : RuntimeService} {action : CommandAction}
    (stepped : commandStep settings service action = some next) :
    CommandEffect settings service next action := by
  cases action with
  | served action =>
      simp only [commandStep] at stepped
      split at stepped
      · cases stepped
      next creates =>
      obtain ⟨host, hostStepped, rfl⟩ := Option.map_eq_some_iff.mp stepped
      have keeps := hostStep_keepsRuns
        (Bool.eq_false_of_not_eq_true creates) hostStepped
      refine .kept (keeps.weaken ?_) rfl rfl
      intro runId revived
      exact ⟨action, rfl, revived⟩
  | createRun command route =>
      cases stepped
      exact createRun_commandEffect service settings command route
  | workflowStarted index outcome =>
      simp only [commandStep] at stepped
      split at stepped
      · cases stepped
      next request found =>
      cases outcome with
      | none =>
          cases stepped
          exact .kept (service.host.keepsRuns_refl _) rfl rfl
      | some outcome =>
          have tried : ∃ tried,
              RuntimeService.tryVisibility
                { service with starting := service.starting.eraseIdx index }
                settings request outcome = some tried ∧
              tried.host = next.host ∧ tried.runDetails = next.runDetails ∧
              tried.calls = next.calls := by
            cases outcome with
            | answered => exact ⟨next, stepped, rfl, rfl, rfl⟩
            | raised registered =>
                obtain ⟨tried, attempted, rfl⟩ :=
                  Option.map_eq_some_iff.mp stepped
                exact ⟨tried, attempted, rfl, rfl, rfl⟩
          obtain ⟨tried, attempted, host, runDetails, calls⟩ := tried
          rcases tryVisibility_cases attempted with
            ⟨-, rfl⟩ | ⟨isCall, -, called⟩
          · refine .kept ?_ runDetails.symm calls.symm
            rw [← host]
            exact service.host.keepsRuns_refl _
          · refine .called request .visibility ?_
              (called.transfer rfl rfl rfl host runDetails calls)
            unfold call?
            split <;> simp_all
  | retryVisibility index outcome =>
      simp only [commandStep] at stepped
      split at stepped
      · cases stepped
      next request attempts found =>
      obtain ⟨tried, attempted, rfl⟩ := Option.map_eq_some_iff.mp stepped
      rcases tryVisibility_cases attempted with
        ⟨-, rfl⟩ | ⟨isCall, -, called⟩
      · exact .kept (tried.host.keepsRuns_refl _) rfl rfl
      · refine .called request .visibility ?_
          (called.transfer rfl rfl rfl rfl rfl rfl)
        unfold call?
        split <;> simp_all
  | createRunActivity request =>
      cases stepped
      exact .called request .activity rfl
        (called_create .activity (RunHost.registerRun_effect _ _ _ _ _))
  | scanProject request =>
      cases stepped
      exact .called request .activity rfl
        (called_create .activity (RunHost.scanProject_effect _ _ _ _))
  | syncProjection runId metrics =>
      simp only [commandStep] at stepped
      split at stepped
      · cases stepped
      next run stored =>
      cases stepped
      exact .synced runId run metrics stored rfl rfl rfl

/-- Supplied keys stay supplied. -/
theorem commandStep_suppliedRuns {settings : RuntimeSettings}
    {service next : RuntimeService} {action : CommandAction}
    (stepped : commandStep settings service action = some next) :
    ∀ runId ∈ service.suppliedRuns, runId ∈ next.suppliedRuns := by
  have attempted : ∀ (before tried : RuntimeService) request outcome,
      before.tryVisibility settings request outcome = some tried →
        tried.suppliedRuns = before.suppliedRuns := by
    intro before tried request outcome attempted
    rcases tryVisibility_cases attempted with ⟨-, rfl⟩ | ⟨-, same, -⟩
    · rfl
    · exact same
  intro runId supplied
  cases action with
  | served action =>
      simp only [commandStep] at stepped
      split at stepped
      · cases stepped
      obtain ⟨host, -, rfl⟩ := Option.map_eq_some_iff.mp stepped
      exact supplied
  | createRun command route =>
      cases stepped
      have same : (service.createRun settings command route).suppliedRuns =
          service.suppliedRuns := by
        cases route with
        | langgraph => exact create_suppliedRuns
        | temporal =>
            rw [createRun]
            split
            · split <;> rfl
            · rfl
      rw [noteKey, same]
      exact List.mem_append_left _ supplied
  | workflowStarted index outcome =>
      simp only [commandStep] at stepped
      split at stepped
      · cases stepped
      split at stepped
      · cases stepped
        exact supplied
      · rw [attempted _ _ _ _ stepped]
        exact supplied
      · obtain ⟨tried, isTried, rfl⟩ := Option.map_eq_some_iff.mp stepped
        rw [attempted _ _ _ _ isTried]
        exact supplied
  | retryVisibility index outcome =>
      simp only [commandStep] at stepped
      split at stepped
      · cases stepped
      obtain ⟨tried, isTried, rfl⟩ := Option.map_eq_some_iff.mp stepped
      rw [attempted _ _ _ _ isTried]
      exact supplied
  | createRunActivity request =>
      cases stepped
      rw [create_suppliedRuns]
      exact supplied
  | scanProject request =>
      cases stepped
      rw [create_suppliedRuns]
      exact supplied
  | syncProjection runId metrics =>
      simp only [commandStep] at stepped
      split at stepped
      · cases stepped
      cases stepped
      exact supplied

end

end CompetiScope
