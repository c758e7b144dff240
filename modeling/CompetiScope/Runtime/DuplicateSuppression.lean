import CompetiScope.Foundation.Transition
import CompetiScope.Runtime.CreateCommands
import CompetiScope.Runtime.SingleExecution

/-!
# Suppression of active duplicates

A command looks for an active duplicate before it awaits Temporal, and the run
it makes visible afterwards skips the search.  Where no active duplicate
appears in between and no finished run is started again, two active runs of
one fingerprint are created farther apart than the window of the duplicates.
-/

namespace CompetiScope

open Foundation

/-- Created within the window of each other. -/
def CreatedClose (first second : Nat) : Prop :=
  first - second ≤ activeRunDuplicateWindowSeconds ∧
    second - first ≤ activeRunDuplicateWindowSeconds

theorem CreatedClose.symm {first second : Nat}
    (close : CreatedClose first second) : CreatedClose second first :=
  ⟨close.2, close.1⟩

namespace RuntimeService

/-- Callers supplied the keys of both runs. -/
def BothSupplied (service : RuntimeService) (first second : String) : Prop :=
  first ∈ service.suppliedRuns ∧ second ∈ service.suppliedRuns

/-- Active runs of one fingerprint that are created close to each other have
keys that callers supplied. -/
def Suppressed (service : RuntimeService) : Prop :=
  ∀ first second firstRun secondRun, first ≠ second →
    service.host.runs.get? first = some firstRun →
    service.host.runs.get? second = some secondRun →
    firstRun.fingerprint = secondRun.fingerprint →
    firstRun.served.active = true → secondRun.served.active = true →
    CreatedClose firstRun.createdAt secondRun.createdAt →
      service.BothSupplied first second

/-- The run of an id would have no active duplicate, unless callers supplied
both keys. -/
def Unrivalled (service : RuntimeService) (runId fingerprint : String)
    (createdAt : Nat) : Prop :=
  ∀ other run, other ≠ runId → service.host.runs.get? other = some run →
    run.fingerprint = fingerprint → run.served.active = true →
    CreatedClose run.createdAt createdAt → service.BothSupplied runId other

/-- A run that is made visible has no active duplicate by then, and neither
has a run that is started again after it was over. -/
structure Admits [PyRuntime] (settings : RuntimeSettings)
    (service : RuntimeService) (action : CommandAction) : Prop where
  visible : ∀ request, service.call? action = some (request, .visibility) →
    service.quotaAllows settings request.workspaceId = true →
    service.host.runs.get? (runId settings request) = none →
      service.Unrivalled (runId settings request) request.fingerprint
        service.host.now
  revived : ∀ hostAction runId run, action = .served hostAction →
    service.host.Revives settings.toHostSettings hostAction runId →
    service.host.runs.get? runId = some run →
      service.Unrivalled runId run.fingerprint run.createdAt

/-- With the clock past every creation. -/
structure Spaced (service : RuntimeService) : Prop where
  suppressed : service.Suppressed
  created : ∀ runId run, service.host.runs.get? runId = some run →
    run.createdAt ≤ service.host.now

/-- What a service has of a run that was kept. -/
theorem keptRun {host next : RunHost} {revived : String → Prop}
    (keeps : host.KeepsRuns next revived) {runId : String} {after : HostedRun}
    (isAfter : next.runs.get? runId = some after) :
    ∃ before, host.runs.get? runId = some before ∧
      before.fingerprint = after.fingerprint ∧
      before.createdAt = after.createdAt ∧
      (after.served.active = true → ¬ revived runId →
        before.served.active = true) := by
  have creation := keeps.creation runId
  rw [isAfter] at creation
  obtain ⟨before, isBefore, same⟩ :=
    Option.map_eq_some_iff.mp creation.symm
  have fingerprint := congrArg Prod.fst same
  have createdAt := congrArg Prod.snd same
  exact ⟨before, isBefore, fingerprint, createdAt, fun active unrevived =>
    keeps.inactive runId before after unrevived isBefore isAfter active⟩

theorem Spaced.kept {service next : RuntimeService}
    {revived : String → Prop} (spaced : service.Spaced)
    (keeps : service.host.KeepsRuns next.host revived)
    (supplied : ∀ runId ∈ service.suppliedRuns, runId ∈ next.suppliedRuns)
    (single : ∀ first second, revived first → revived second →
      first = second)
    (unrivalled : ∀ runId run, revived runId →
      service.host.runs.get? runId = some run →
        service.Unrivalled runId run.fingerprint run.createdAt) :
    next.Spaced where
  suppressed := by
    intro first second firstRun secondRun different isFirst isSecond same
      firstActive secondActive close
    obtain ⟨firstBefore, wasFirst, firstPrint, firstAt, firstStill⟩ :=
      keptRun keeps isFirst
    obtain ⟨secondBefore, wasSecond, secondPrint, secondAt, secondStill⟩ :=
      keptRun keeps isSecond
    have samePrint : firstBefore.fingerprint = secondBefore.fingerprint := by
      rw [firstPrint, secondPrint, same]
    rw [← firstAt, ← secondAt] at close
    have both : service.BothSupplied first second := by
      by_cases firstRevived : revived first
      · have secondUnrevived : ¬ revived second := fun secondRevived =>
          different (single first second firstRevived secondRevived)
        exact unrivalled first firstBefore firstRevived wasFirst second
          secondBefore different.symm wasSecond samePrint.symm
          (secondStill secondActive secondUnrevived) close.symm
      · have firstWasActive := firstStill firstActive firstRevived
        by_cases secondRevived : revived second
        · exact (unrivalled second secondBefore secondRevived wasSecond first
            firstBefore different wasFirst samePrint firstWasActive
              close).symm
        · exact spaced.suppressed first second firstBefore secondBefore
            different wasFirst wasSecond samePrint firstWasActive
            (secondStill secondActive secondRevived) close
    exact ⟨supplied first both.1, supplied second both.2⟩
  created := by
    intro runId run isRun
    obtain ⟨before, wasRun, -, createdAt, -⟩ := keptRun keeps isRun
    rw [← createdAt]
    exact (spaced.created runId before wasRun).trans keeps.now

theorem Spaced.keptAll {service next : RuntimeService}
    (spaced : service.Spaced)
    (keeps : service.host.KeepsRuns next.host fun _ => False)
    (supplied : ∀ runId ∈ service.suppliedRuns,
      runId ∈ next.suppliedRuns) : next.Spaced := by
  apply spaced.kept keeps supplied
  · intro first second impossible
    exact impossible.elim
  · intro runId run impossible
    exact impossible.elim

/-- A new run without active duplicates. -/
theorem Spaced.register {service next : RuntimeService} {runId : String}
    {request : RunCreateRequest} {tasks : List RunTask}
    (spaced : service.Spaced)
    (registered : next.host = service.host.register runId request tasks)
    (supplied : ∀ runId ∈ service.suppliedRuns, runId ∈ next.suppliedRuns)
    (unrivalled : service.Unrivalled runId request.fingerprint
      service.host.now) : next.Spaced where
  suppressed := by
    intro first second firstRun secondRun different isFirst isSecond same
      firstActive secondActive close
    rw [registered, RunHost.register, Dict.get?_set] at isFirst isSecond
    have both : service.BothSupplied first second := by
      split at isFirst
      · next isNew =>
          rw [if_neg (isNew ▸ different.symm)] at isSecond
          cases isFirst
          subst isNew
          exact unrivalled second secondRun different.symm isSecond same.symm
            secondActive close.symm
      · split at isSecond
        · next isNew =>
            cases isSecond
            subst isNew
            exact (unrivalled first firstRun different isFirst same
              firstActive close).symm
        · exact spaced.suppressed first second firstRun secondRun different
            isFirst isSecond same firstActive secondActive close
    exact ⟨supplied first both.1, supplied second both.2⟩
  created := by
    intro other run isRun
    rw [registered, RunHost.register, Dict.get?_set] at isRun
    rw [registered]
    split at isRun
    · cases isRun
      exact Nat.le_refl _
    · exact spaced.created other run isRun

/-- A search that finds nothing leaves no rival. -/
theorem unrivalled_of_noDuplicate {service : RuntimeService}
    {runId fingerprint : String}
    (noDuplicate :
      service.host.findActiveDuplicateRun fingerprint = none) :
    service.Unrivalled runId fingerprint service.host.now := by
  intro other run _ found same active close
  have old := RunHost.outsideWindow noDuplicate found same active
  exact absurd close.2 (Nat.not_le_of_lt old)

section

variable [PyRuntime]

theorem revives_single {host : RunHost} {settings : HostSettings}
    {action : HostAction} {first second : String}
    (firstRevived : host.Revives settings action first)
    (secondRevived : host.Revives settings action second) :
    first = second := by
  obtain ⟨step, _, _, rfl, -⟩ := firstRevived
  obtain ⟨_, _, _, same, -⟩ := secondRevived
  cases same
  rfl

/-- The new runs of commands and activities have passed the search. -/
theorem Admits.unrivalled {settings : RuntimeSettings}
    {service : RuntimeService} {action : CommandAction}
    {request : ChargedRequest} {kind : CallKind} {created : String}
    (admits : Admits settings service action)
    (call : service.call? action = some (request, kind))
    (allowed : service.quotaAllows settings request.workspaceId = true)
    (isNew : service.answerFor settings request kind = .newRun created) :
    service.Unrivalled created request.fingerprint service.host.now := by
  obtain ⟨sameId, unknown, noDuplicate⟩ := answerFor_newRun isNew
  by_cases visible : kind = .visibility
  · subst visible sameId
    exact admits.visible request call allowed unknown
  · exact unrivalled_of_noDuplicate (noDuplicate visible)

theorem Spaced.step {settings : RuntimeSettings}
    {service next : RuntimeService} {action : CommandAction}
    (spaced : service.Spaced) (admits : Admits settings service action)
    (stepped : commandStep settings service action = some next) :
    next.Spaced := by
  have supplied := commandStep_suppliedRuns stepped
  have unchanged : next.host = service.host → next.Spaced := by
    intro host
    refine spaced.keptAll ?_ supplied
    rw [host]
    exact service.host.keepsRuns_refl _
  cases commandStep_effect stepped with
  | kept keeps _ _ =>
      refine spaced.kept keeps supplied ?_ ?_
      · rintro first second ⟨hostAction, rfl, firstRevived⟩
          ⟨_, same, secondRevived⟩
        cases same
        exact revives_single firstRevived secondRevived
      · rintro runId run ⟨hostAction, isServed, revived⟩ found
        exact admits.revived hostAction runId run isServed revived found
  | called request kind call called =>
      cases called with
      | rejected _ host _ _ => exact unchanged host
      | created allowed effect _ _ =>
          cases answer : service.answerFor settings request kind with
          | sameKey runId hosted =>
              rw [answer] at effect
              exact spaced.keptAll effect supplied
          | activeDuplicate runId =>
              rw [answer] at effect
              exact spaced.keptAll effect supplied
          | newRun runId =>
              rw [answer] at effect
              obtain ⟨tasks, registered⟩ := effect
              exact spaced.register registered supplied
                (admits.unrivalled call allowed answer)
  | synced _ _ _ _ _ host _ => exact unchanged host

/-- An action that neither makes a run visible nor goes on with one. -/
theorem admits_of_unseen {settings : RuntimeSettings}
    {service : RuntimeService} {action : CommandAction}
    (unseen : ∀ request, service.call? action ≠ some (request, .visibility))
    (noRun : ∀ runId step, action ≠ .served (.onRun runId step)) :
    Admits settings service action where
  visible := by
    intro request call
    exact (unseen request call).elim
  revived := by
    rintro hostAction runId run isServed ⟨step, _, _, rfl, -⟩
    exact (noRun runId step isServed).elim

end

end RuntimeService

/-- For every interleaving of commands over both routes, activities, deferred
retries and steps of runs: when no run that is made visible, and none that is
started again, has an active duplicate by then, any two active runs of one
fingerprint that were created within the window have keys of callers. -/
theorem activeDuplicates_suppressed_along [PyRuntime]
    {settings : RuntimeSettings} {actions : List CommandAction}
    {final : RuntimeService}
    (admits : Along (commandStep settings) (RuntimeService.Admits settings)
      {} actions)
    (reached : exec (commandStep settings) {} actions = some final) :
    final.Suppressed := by
  have start : ({} : RuntimeService).Spaced :=
    { suppressed := by
        intro first second firstRun secondRun _ isFirst
        cases isFirst
      created := by
        intro runId run isRun
        cases isRun }
  have preserved : ∀ service action next, RuntimeService.Spaced service →
      RuntimeService.Admits settings service action →
        commandStep settings service action = some next → next.Spaced := by
    intro service action next spaced admitted stepped
    exact spaced.step admitted stepped
  exact (exec_invariant_along preserved start admits reached).suppressed

/-! ## Two commands that await Temporal together -/

namespace CommandExample

local instance commandExampleRuntime : PyRuntime := asciiRuntime

def settings : RuntimeSettings :=
  { runSettings := reviewSettings
    sha256Hex := id
    journal := false
    month := fun now => now / 2592000
    workspaces := fun _ => { } }

/-- A command whose caller supplied no key. -/
def pricingCommand (newKey : String) : CreateRunCommand :=
  { newKey := newKey
    workspaceId := "default"
    fingerprint := "active-run-pricing"
    detail := unreviewedDetail }

/-- The second command comes when the run of the first is visible. -/
def oneAfterTheOther : List CommandAction :=
  [.createRun (pricingCommand "a") .temporal,
    .workflowStarted 0 (some .answered), .served (.tick 10),
    .createRun (pricingCommand "b") .temporal]

theorem activeDuplicates_suppressed_oneAfterTheOther :
    ∃ final, exec (commandStep settings) {} oneAfterTheOther = some final ∧
      final.Suppressed := by
  have admits : Along (commandStep settings)
      (RuntimeService.Admits settings) {} oneAfterTheOther := by
    refine ⟨?_, ?_, ?_, ?_, trivial⟩
    · exact RuntimeService.admits_of_unseen (by simp [RuntimeService.call?])
        (by simp)
    · refine ⟨?_, ?_⟩
      · intro request _ _ _ other run _ found
        cases found
      · intro hostAction runId run isServed
        cases isServed
    · exact RuntimeService.admits_of_unseen (by simp [RuntimeService.call?])
        (by simp)
    · exact RuntimeService.admits_of_unseen (by simp [RuntimeService.call?])
        (by simp)
  exact ⟨_, rfl, activeDuplicates_suppressed_along admits rfl⟩

/-- Two commands pass the search before either run is visible. -/
theorem activeDuplicates_race :
    ∃ final,
      exec (commandStep settings) {}
          [.createRun (pricingCommand "a") .temporal,
            .createRun (pricingCommand "b") .temporal,
            .workflowStarted 0 (some .answered),
            .workflowStarted 0 (some .answered)] = some final ∧
        ¬ final.Suppressed := by
  refine ⟨_, rfl, ?_⟩
  intro suppressed
  have both := suppressed "run-a" "run-b" _ _ (by decide) rfl rfl rfl rfl
    rfl ⟨Nat.zero_le _, Nat.zero_le _⟩
  exact absurd both.1 List.not_mem_nil

end CommandExample

end CompetiScope
