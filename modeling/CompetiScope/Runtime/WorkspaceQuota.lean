import CompetiScope.Runtime.DuplicateSuppression

/-!
# Quotas under commands and activities

The quota is checked before the run of the idempotency key is looked up, and
a run is charged by whoever creates it first.  No order of the calls exceeds a
quota; but a call for a run that exists is refused once the quota is used up.
-/

namespace CompetiScope

open Foundation

namespace RuntimeService

/-- The store has exactly the runs of the service, and no blocking workspace
has more of them in a month than its quota. -/
structure Charged (settings : RuntimeSettings) (service : RuntimeService) :
    Prop where
  withinQuota : WithinRunQuota settings.month settings.workspaces
    service.runDetails
  counted : ∀ runId, (service.runDetails.get? runId).map (·.createdAt) =
    (service.host.runs.get? runId).map (·.createdAt)

/-- Quotas are kept, and every call for a run that existed returned it. -/
structure QuotaKept (settings : RuntimeSettings) (service : RuntimeService) :
    Prop where
  charged : Charged settings service
  returned : ∀ call ∈ service.calls, call.existed = true →
    call.answer = some call.runId

/-- A call for a run that exists comes while the quota has room, and a
command finds no other run as its active duplicate. -/
def HasRoom (settings : RuntimeSettings) (service : RuntimeService)
    (action : CommandAction) : Prop :=
  ∀ request kind, service.call? action = some (request, kind) →
    (service.host.runs.get? (runId settings request)).isSome = true →
      service.quotaAllows settings request.workspaceId = true ∧
      (kind = .command → ∀ duplicate,
        service.host.findActiveDuplicateRun request.fingerprint =
            some duplicate →
          duplicate = runId settings request)

theorem counted_of_keepsRuns {service next : RuntimeService}
    {revived : String → Prop}
    (keeps : service.host.KeepsRuns next.host revived) (runId : String) :
    (next.host.runs.get? runId).map (·.createdAt) =
      (service.host.runs.get? runId).map (·.createdAt) := by
  have creation := congrArg (Option.map Prod.snd) (keeps.creation runId)
  rwa [Option.map_map, Option.map_map] at creation

theorem Charged.keep {settings : RuntimeSettings}
    {service next : RuntimeService} {revived : String → Prop}
    (charged : Charged settings service)
    (keeps : service.host.KeepsRuns next.host revived)
    (runDetails : next.runDetails = service.runDetails) :
    Charged settings next where
  withinQuota := by
    rw [runDetails]
    exact charged.withinQuota
  counted := by
    intro runId
    rw [runDetails, charged.counted, counted_of_keepsRuns keeps]

/-- A new run is charged where the quota has room. -/
theorem Charged.register {settings : RuntimeSettings}
    {service next : RuntimeService} {runId : String}
    {request : ChargedRequest} {tasks : List RunTask}
    (charged : Charged settings service)
    (allowed : service.quotaAllows settings request.workspaceId = true)
    (unknown : service.host.runs.get? runId = none)
    (registered : next.host =
      service.host.register runId request.toRunCreateRequest tasks)
    (runDetails : next.runDetails = service.charge request (.newRun runId)) :
    Charged settings next where
  withinQuota := by
    have uncharged : service.runDetails.get? runId = none := by
      have counted := charged.counted runId
      rw [unknown] at counted
      exact Option.map_eq_none_iff.mp counted
    rw [runDetails]
    exact charged.withinQuota.startRun_new uncharged allowed
  counted := by
    intro other
    rw [runDetails, registered, charge, startRun, RunHost.register,
      Dict.get?_set, Dict.get?_set]
    split
    · rfl
    · exact charged.counted other

theorem Charged.sync {settings : RuntimeSettings}
    {service next : RuntimeService} {runId : String} {run : StoredRun}
    {metrics : RunCharges} (charged : Charged settings service)
    (stored : service.runDetails.get? runId = some run)
    (runDetails : next.runDetails =
      startRun service.runDetails runId { run with metrics := metrics })
    (host : next.host = service.host) : Charged settings next where
  withinQuota := by
    rw [runDetails]
    exact charged.withinQuota.startRun_again stored rfl rfl
  counted := by
    intro other
    rw [runDetails, host, ← charged.counted, startRun, Dict.get?_set]
    split
    · next same =>
        rw [same, stored]
        rfl
    · rfl

/-- Quotas are kept by every step. -/
theorem Charged.step [PyRuntime] {settings : RuntimeSettings}
    {service next : RuntimeService} {action : CommandAction}
    (charged : Charged settings service)
    (stepped : commandStep settings service action = some next) :
    Charged settings next := by
  have unchanged : next.host = service.host →
      next.runDetails = service.runDetails → Charged settings next := by
    intro host runDetails
    have keeps : service.host.KeepsRuns next.host fun _ => False := by
      rw [host]
      exact service.host.keepsRuns_refl _
    exact charged.keep keeps runDetails
  cases commandStep_effect stepped with
  | kept keeps runDetails _ => exact charged.keep keeps runDetails
  | called request kind call called =>
      cases called with
      | rejected _ host runDetails _ => exact unchanged host runDetails
      | created allowed effect runDetails _ =>
          cases answer : service.answerFor settings request kind with
          | sameKey runId hosted =>
              rw [answer] at effect runDetails
              exact charged.keep effect runDetails
          | activeDuplicate runId =>
              rw [answer] at effect runDetails
              exact charged.keep effect runDetails
          | newRun runId =>
              rw [answer] at effect runDetails
              obtain ⟨tasks, registered⟩ := effect
              exact charged.register allowed (answerFor_newRun answer).2.1
                registered runDetails
  | synced runId run metrics stored runDetails host _ =>
      exact charged.sync stored runDetails host

/-- Where there is room, a call for a run that exists answers that run. -/
theorem HasRoom.answer_runId {settings : RuntimeSettings}
    {service : RuntimeService} {action : CommandAction}
    {request : ChargedRequest} {kind : CallKind}
    (room : HasRoom settings service action)
    (call : service.call? action = some (request, kind))
    (existed :
      (service.host.runs.get? (runId settings request)).isSome = true) :
    (service.answerFor settings request kind).runId =
      runId settings request := by
  have found : ∀ skip, (service.host.answer settings.sha256Hex
      request.toRunCreateRequest skip).runId = runId settings request := by
    intro skip
    obtain ⟨hosted, isHosted⟩ := Option.isSome_iff_exists.mp existed
    unfold runId at isHosted
    rw [RunHost.answer, isHosted]
    rfl
  cases kind with
  | command =>
      rw [answerFor, RunHost.commandAnswer]
      cases search :
          service.host.findActiveDuplicateRun request.fingerprint with
      | none => exact found false
      | some duplicate =>
          exact (room request .command call existed).2 rfl duplicate search
  | visibility => exact found true
  | activity => exact found false

theorem returned_step [PyRuntime] {settings : RuntimeSettings}
    {service next : RuntimeService} {action : CommandAction}
    (returned : ∀ call ∈ service.calls, call.existed = true →
      call.answer = some call.runId)
    (room : HasRoom settings service action)
    (stepped : commandStep settings service action = some next) :
    ∀ call ∈ next.calls, call.existed = true →
      call.answer = some call.runId := by
  have grown : ∀ added : AnsweredCall,
      (added.existed = true → added.answer = some added.runId) →
        ∀ call ∈ service.calls ++ [added], call.existed = true →
          call.answer = some call.runId := by
    intro added addedReturned call member existed
    rcases List.mem_append.mp member with earlier | isAdded
    · exact returned call earlier existed
    · cases List.mem_singleton.mp isAdded
      exact addedReturned existed
  cases commandStep_effect stepped with
  | kept _ _ calls =>
      rw [calls]
      exact returned
  | called request kind call called =>
      cases called with
      | rejected refused _ _ calls =>
          rw [calls]
          apply grown
          intro existed
          have allowed := (room request kind call existed).1
          rw [refused] at allowed
          cases allowed
      | created _ _ _ calls =>
          rcases calls with unanswered | answered
          · rw [unanswered]
            exact returned
          · rw [answered]
            apply grown
            intro existed
            exact congrArg some (room.answer_runId call existed)
  | synced _ _ _ _ _ _ calls =>
      rw [calls]
      exact returned

end RuntimeService

/-- For every interleaving of commands over both routes, activities delivered
any number of times, scans and deferred retries no quota is exceeded; where
calls for runs that exist come while the quota has room, they return those
runs. -/
theorem quota_kept_along [PyRuntime] {settings : RuntimeSettings}
    {actions : List CommandAction} {final : RuntimeService}
    (reached : exec (commandStep settings) {} actions = some final) :
    final.Charged settings ∧
      (Along (commandStep settings) (RuntimeService.HasRoom settings) {}
        actions → final.QuotaKept settings) := by
  have start : ({} : RuntimeService).Charged settings :=
    { withinQuota := fun _ _ _ => Nat.zero_le _
      counted := fun _ => rfl }
  have charges : ∀ service action next,
      RuntimeService.Charged settings service →
        commandStep settings service action = some next →
          RuntimeService.Charged settings next := by
    intro service action next charged stepped
    exact charged.step stepped
  have charged := exec_invariant charges start reached
  refine ⟨charged, ?_⟩
  intro room
  have preserved : ∀ (service : RuntimeService) action
      (next : RuntimeService),
      (∀ call ∈ service.calls, call.existed = true →
        call.answer = some call.runId) →
      RuntimeService.HasRoom settings service action →
      commandStep settings service action = some next →
        ∀ call ∈ next.calls, call.existed = true →
          call.answer = some call.runId := by
    intro service action next returned hasRoom stepped
    exact RuntimeService.returned_step returned hasRoom stepped
  have noCalls : ∀ call ∈ ({} : RuntimeService).calls,
      call.existed = true → call.answer = some call.runId := by
    intro call member
    exact (List.not_mem_nil member).elim
  exact
    { charged := charged
      returned := exec_invariant_along preserved noCalls room reached }

/-! ## The last run within a quota -/

namespace CommandExample

local instance quotaExampleRuntime : PyRuntime := asciiRuntime

def quotaSettings (monthlyRunQuota : Nat) : RuntimeSettings :=
  { settings with
    workspaces := fun _ => { monthlyRunQuota := monthlyRunQuota } }

/-- The worker creates the run that the command made visible. -/
def workerAfterCommand : List CommandAction :=
  [.createRun (pricingCommand "a") .temporal,
    .workflowStarted 0 (some .answered),
    .createRunActivity (pricingCommand "a").request]

theorem quota_kept_twoSlots :
    ∃ final,
      exec (commandStep (quotaSettings 2)) {} workerAfterCommand =
          some final ∧
        final.QuotaKept (quotaSettings 2) := by
  have room : Along (commandStep (quotaSettings 2))
      (RuntimeService.HasRoom (quotaSettings 2)) {} workerAfterCommand := by
    refine ⟨?_, ?_, ?_, trivial⟩
    · rintro request kind ⟨⟩ existed
      cases existed
    · rintro request kind ⟨⟩ existed
      cases existed
    · rintro request kind ⟨⟩ existed
      exact ⟨rfl, nofun⟩
  exact ⟨_, rfl, (quota_kept_along rfl).2 room⟩

/-- The worker is refused the run the command made visible as the last one
within the quota. -/
theorem quota_lastSlot_refused :
    ∃ final,
      exec (commandStep (quotaSettings 1)) {} workerAfterCommand =
          some final ∧
        (final.host.runs.get? "run-a").isSome = true ∧
        { runId := "run-a"
          existed := true
          answer := none } ∈ final.calls ∧
        ¬ final.QuotaKept (quotaSettings 1) := by
  refine ⟨_, rfl, rfl, List.mem_cons_of_mem _ (List.mem_singleton_self _), ?_⟩
  intro kept
  have returned := kept.returned
    { runId := "run-a"
      existed := true
      answer := none }
    (List.mem_cons_of_mem _ (List.mem_singleton_self _)) rfl
  cases returned

end CommandExample

end CompetiScope
