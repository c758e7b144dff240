import CompetiScope.Crawler.AwaitedFetch
import CompetiScope.Crawler.Politeness

/-!
# Permits that a crawl loses

A worker that is cancelled inside `acquire` keeps the permits it took.  They
are lost for the rest of the crawl, and once all permits are lost, `acquire`
never returns again.
-/

namespace CompetiScope

open Foundation

def CrawlPermit.limit : CrawlPermit → Nat
  | .overall => maxConcurrent
  | .domain _ => maxConcurrentPerDomain

def WorkerPhase.isCancelled : WorkerPhase → Bool
  | .cancelled _ _ => true
  | _ => false

def CrawlWorker.holdsPermit (permit : CrawlPermit) (worker : CrawlWorker) :
    Bool :=
  match permit with
  | .overall => worker.holdsOverall
  | .domain name => worker.holds name

namespace PolicyState

variable (state : PolicyState)

def free : CrawlPermit → Nat
  | .overall => state.overall
  | .domain name => state.permits name

/-- The permits with workers that never give them back. -/
def lost (permit : CrawlPermit) : Nat :=
  state.workers.countP fun worker =>
    worker.holdsPermit permit && worker.phase.isCancelled

/-- The permits with workers that may give them back. -/
def used (permit : CrawlPermit) : Nat :=
  state.workers.countP fun worker =>
    worker.holdsPermit permit && !worker.phase.isCancelled

/-- The grants that took such a permit. -/
def grantsOf : CrawlPermit → List DomainGrant
  | .overall => state.grants
  | .domain name => state.grants.filter (·.domain = name)

end PolicyState

/-! ## What a step does -/

section Steps

variable {policy : DomainPolicy} {state next : PolicyState}
  {action : PolicyAction}

/-- Permits are free, used or lost. -/
theorem permits_add (balanced : PermitsBalanced state)
    (permit : CrawlPermit) :
    state.free permit + state.lost permit + state.used permit =
      permit.limit := by
  have split : state.workers.countP (CrawlWorker.holdsPermit permit) =
      state.lost permit + state.used permit := by
    rw [List.countP_eq_countP_filter_add _ _ fun worker =>
      worker.phase.isCancelled, List.countP_filter, List.countP_filter]
    rfl
  have total : state.free permit +
      state.workers.countP (CrawlWorker.holdsPermit permit) =
        permit.limit := by
    cases permit with
    | overall => exact balanced.overall
    | domain name => exact balanced.domains name
  omega

theorem lost_le_set {index : Nat} {worker : CrawlWorker}
    {phase : WorkerPhase} (found : state.workers[index]? = some worker)
    (runs : worker.phase.isCancelled = false)
    (workers : next.workers =
      state.workers.set index { worker with phase := phase })
    (permit : CrawlPermit) : state.lost permit ≤ next.lost permit := by
  have counted := countP_set_of_found found { worker with phase := phase }
    fun worker => worker.holdsPermit permit && worker.phase.isCancelled
  rw [countP_singleton, runs, Bool.and_false, Bool.toNat_false,
    Nat.add_zero] at counted
  unfold PolicyState.lost
  rw [workers, counted]
  exact Nat.le_add_right _ _

/-- A cancelled worker stays where it is. -/
theorem Stepped.lost_le (stepped : Stepped policy state action next)
    (permit : CrawlPermit) : state.lost permit ≤ next.lost permit := by
  cases stepped with
  | ticks later => exact Nat.le_refl _
  | enters url =>
      unfold PolicyState.lost PolicyState.enter
      rw [List.countP_append]
      exact Nat.le_add_right _ _
  | takesOverall found isPhase free =>
      exact lost_le_set found (by rw [isPhase]; rfl) rfl permit
  | takesDomain found isPhase free =>
      obtain ⟨phase, moved⟩ :=
        @moved_limitRate policy _ _ _ found isPhase free
      exact lost_le_set found (by rw [isPhase]; rfl) moved.workers permit
  | wakes found isPhase passed =>
      exact lost_le_set found (by rw [isPhase]; rfl) rfl permit
  | releases found isPhase =>
      exact lost_le_set found (by rw [isPhase]; rfl) rfl permit
  | @cancels index worker found waits =>
      refine lost_le_set found ?_ rfl permit
      cases isPhase : worker.phase with
      | awaitsOverall | awaitsDomain | sleeps => rfl
      | granted | released | cancelled =>
          rw [isPhase] at waits
          cases waits

theorem used_pos {worker : CrawlWorker} (member : worker ∈ state.workers)
    (runs : worker.phase.isCancelled = false) {permit : CrawlPermit}
    (holds : worker.holdsPermit permit = true) : 0 < state.used permit := by
  refine List.countP_pos_iff.mpr ⟨worker, member, ?_⟩
  rw [runs, holds]
  rfl

/-- A grant is one of its domain. -/
theorem grantsOf_grant (index : Nat) (worker : CrawlWorker)
    (permit : CrawlPermit) :
    (state.grant index worker).grantsOf permit = state.grantsOf permit ∨
      permit = .overall ∨ permit = .domain worker.domain := by
  cases permit with
  | overall => exact .inr (.inl rfl)
  | domain name =>
      by_cases isOwn : worker.domain = name
      · exact .inr (.inr (by rw [isOwn]))
      · left
        simp [PolicyState.grantsOf, PolicyState.grant, isOwn]

/-- Grants need a permit that is free or used. -/
theorem grants_of_stepped (stepped : Stepped policy state action next)
    (permit : CrawlPermit) :
    next.grantsOf permit = state.grantsOf permit ∨
      0 < state.free permit + state.used permit := by
  have quiet : next.grants = state.grants →
      next.grantsOf permit = state.grantsOf permit := by
    intro same
    cases permit with
    | overall => exact same
    | domain name =>
        exact congrArg (List.filter fun grant => grant.domain = name) same
  cases stepped with
  | ticks | enters | takesOverall | releases | cancels => exact .inl (quiet rfl)
  | @takesDomain index worker found isPhase free =>
      rcases limitRate_cases policy (state.setPermits worker.domain
          (state.permits worker.domain - 1)) index worker with
        ⟨wakeAt, -, sleeps⟩ | ⟨-, granted⟩
      · rw [sleeps]
        exact .inl (by cases permit <;> rfl)
      · rw [granted]
        rcases @grantsOf_grant (state.setPermits worker.domain
            (state.permits worker.domain - 1)) index worker permit with
          same | rfl | rfl
        · left
          rw [same]
          cases permit <;> rfl
        · right
          have used := @used_pos state worker (List.mem_of_getElem? found)
            (by rw [isPhase]; rfl) .overall (by
              rw [CrawlWorker.holdsPermit, CrawlWorker.holdsOverall, isPhase]
              rfl)
          omega
        · right
          change 0 < state.permits worker.domain + _
          omega
  | @wakes index worker last wakeAt found isPhase passed =>
      rcases @grantsOf_grant state index worker permit with
        same | isOwn
      · exact .inl same
      · right
        have used := @used_pos state worker (List.mem_of_getElem? found)
          (by rw [isPhase]; rfl) permit (by
            rcases isOwn with rfl | rfl
            · rw [CrawlWorker.holdsPermit, CrawlWorker.holdsOverall, isPhase]
              rfl
            · rw [CrawlWorker.holdsPermit, CrawlWorker.holds, isPhase,
                decide_eq_true rfl]
              rfl)
        omega

end Steps

/-- What was lost up to some point of a run stays lost, and is missing from
what can be used at once; when all is lost, nothing is granted any more. -/
theorem crawl_loses {policy : DomainPolicy} {clock : ℚ}
    {past later : List PolicyAction} {state final : PolicyState}
    (before : exec policy.step { clock := clock } past = some state)
    (after : exec policy.step state later = some final)
    (permit : CrawlPermit) :
    state.lost permit + final.used permit ≤ permit.limit ∧
      (state.lost permit = permit.limit →
        final.grantsOf permit = state.grantsOf permit) := by
  have balanced : PermitsBalanced state :=
    exec_invariant (fun _ _ _ holds taken =>
      (stepped_of_step taken).balanced holds) (balanced_start clock) before
  have kept : PermitsBalanced final ∧ state.lost permit ≤ final.lost permit ∧
      (state.lost permit = permit.limit →
        final.grantsOf permit = state.grantsOf permit) := by
    refine @exec_invariant _ _ _ (fun middle => PermitsBalanced middle ∧
      state.lost permit ≤ middle.lost permit ∧
        (state.lost permit = permit.limit →
          middle.grantsOf permit = state.grantsOf permit)) ?_ _ _ _
      ⟨balanced, Nat.le_refl _, fun _ => rfl⟩ after
    rintro middle action next ⟨holds, less, quiet⟩ taken
    have stepped := stepped_of_step taken
    have grows := stepped.lost_le permit
    refine ⟨stepped.balanced holds, less.trans grows, ?_⟩
    intro allLost
    have total := permits_add holds permit
    rcases grants_of_stepped stepped permit with same | able
    · exact same.trans (quiet allLost)
    · omega
  obtain ⟨holds, less, quiet⟩ := kept
  have total := permits_add holds permit
  exact ⟨by omega, quiet⟩

namespace LostPermitsExample

/-- Two workers are cancelled while they sleep before a request. -/
def past : List PolicyAction :=
  [.acquire "example.com", .resume 0, .resume 0, .acquire "example.com",
    .resume 1, .resume 1, .cancel 1, .release 0, .acquire "example.com",
    .resume 2, .resume 2, .cancel 2]

/-- One more worker, however long it waits. -/
def later : List PolicyAction :=
  [.tick 110, .acquire "example.com", .resume 3]

theorem both_lost :
    ∃ ran : (exec PolitenessExample.policy.step { clock := 100 } past).isSome,
      (exec PolitenessExample.policy.step
        ((exec PolitenessExample.policy.step { clock := 100 } past).get ran)
        later).isSome ∧
      ((exec PolitenessExample.policy.step { clock := 100 } past).get
        ran).lost (.domain "example.com") = 2 := by
  decide +kernel

theorem crawl_loses_both :
    ∃ state final,
      exec PolitenessExample.policy.step { clock := 100 } past =
          some state ∧
        exec PolitenessExample.policy.step state later = some final ∧
          final.grantsOf (.domain "example.com") =
            state.grantsOf (.domain "example.com") := by
  obtain ⟨ran, ranLater, allLost⟩ := both_lost
  have before := (Option.some_get ran).symm
  have after := (Option.some_get ranLater).symm
  exact ⟨_, _, before, after,
    (crawl_loses before after (.domain "example.com")).2 allLost⟩

end LostPermitsExample

end CompetiScope
