import CompetiScope.Crawler.DomainPolicy
import Mathlib.Algebra.Order.Field.Rat
import Mathlib.Tactic.Linarith

/-!
# Politeness of a crawl

What holds in every run of any number of workers: how many hold a permit,
how far apart the grants of a domain are, and that no worker waits for ever.
-/

namespace CompetiScope

open Foundation

/-! ## What a step does -/

/-- A permit of all workers is with the worker. -/
def WorkerPhase.holdsOverall : WorkerPhase → Bool
  | .awaitsDomain | .sleeps _ _ | .granted => true
  | .cancelled overall _ => overall
  | .awaitsOverall | .released => false

/-- A permit of its domain is with the worker. -/
def WorkerPhase.holdsDomain : WorkerPhase → Bool
  | .sleeps _ _ | .granted => true
  | .cancelled _ domain => domain
  | .awaitsOverall | .awaitsDomain | .released => false

def CrawlWorker.holdsOverall (worker : CrawlWorker) : Bool :=
  worker.phase.holdsOverall

def CrawlWorker.holds (domain : String) (worker : CrawlWorker) : Bool :=
  worker.domain = domain && worker.phase.holdsDomain

/-- The worker is suspended inside `acquire`. -/
def WorkerPhase.waits : WorkerPhase → Bool
  | .awaitsOverall | .awaitsDomain | .sleeps _ _ => true
  | .granted | .released | .cancelled _ _ => false

/-- The steps of the workers and of the clock. -/
inductive Stepped (policy : DomainPolicy) (state : PolicyState) :
    PolicyAction → PolicyState → Prop where
  | ticks {now : ℚ} (later : state.clock ≤ now) :
      Stepped policy state (.tick now) { state with clock := now }
  | enters (url : String) :
      Stepped policy state (.acquire url) (state.enter (policy.domainOf url))
  | takesOverall {index : Nat} {worker : CrawlWorker}
      (found : state.workers[index]? = some worker)
      (isPhase : worker.phase = .awaitsOverall) (free : 0 < state.overall) :
      Stepped policy state (.resume index)
        { state.move index worker .awaitsDomain with
          overall := state.overall - 1 }
  | takesDomain {index : Nat} {worker : CrawlWorker}
      (found : state.workers[index]? = some worker)
      (isPhase : worker.phase = .awaitsDomain)
      (free : 0 < state.permits worker.domain) :
      Stepped policy state (.resume index)
        (policy.limitRate (state.setPermits worker.domain
          (state.permits worker.domain - 1)) index worker)
  | wakes {index : Nat} {worker : CrawlWorker} {last wakeAt : ℚ}
      (found : state.workers[index]? = some worker)
      (isPhase : worker.phase = .sleeps last wakeAt)
      (passed : wakeAt ≤ state.clock) :
      Stepped policy state (.resume index) (state.grant index worker)
  | releases {index : Nat} {worker : CrawlWorker}
      (found : state.workers[index]? = some worker)
      (isPhase : worker.phase = .granted) :
      Stepped policy state (.release index) (state.release index worker)
  | cancels {index : Nat} {worker : CrawlWorker}
      (found : state.workers[index]? = some worker)
      (waits : worker.phase.waits = true) :
      Stepped policy state (.cancel index)
        (state.move index worker
          (.cancelled worker.phase.holdsOverall worker.phase.holdsDomain))

/-- A cancelled worker keeps the permits it has. -/
theorem cancel_eq_some {state next : PolicyState} {index : Nat}
    {worker : CrawlWorker}
    (cancelled : state.cancel index worker = some next) :
    worker.phase.waits = true ∧ next = state.move index worker
      (.cancelled worker.phase.holdsOverall worker.phase.holdsDomain) := by
  unfold PolicyState.cancel at cancelled
  cases isPhase : worker.phase with
  | awaitsOverall | awaitsDomain | sleeps =>
      rw [isPhase] at cancelled
      cases cancelled
      exact ⟨rfl, rfl⟩
  | granted | released | cancelled =>
      rw [isPhase] at cancelled
      cases cancelled

theorem stepped_of_step {policy : DomainPolicy} {state next : PolicyState}
    {action : PolicyAction} (taken : policy.step state action = some next) :
    Stepped policy state action next := by
  cases action with
  | tick now =>
      rw [DomainPolicy.step] at taken
      split at taken
      · next later =>
          cases taken
          exact .ticks later
      · cases taken
  | acquire url =>
      cases taken
      exact .enters url
  | resume index =>
      obtain ⟨worker, found, resumed⟩ := Option.bind_eq_some_iff.mp taken
      unfold DomainPolicy.resume at resumed
      split at resumed
      · next isPhase =>
          split at resumed
          · next free =>
              cases resumed
              exact .takesOverall found isPhase free
          · cases resumed
      · next isPhase =>
          split at resumed
          · next free =>
              cases resumed
              exact .takesDomain found isPhase free
          · cases resumed
      · next last wakeAt isPhase =>
          split at resumed
          · next passed =>
              cases resumed
              exact .wakes found isPhase passed
          · cases resumed
      · cases resumed
  | release index =>
      obtain ⟨worker, found, released⟩ := Option.bind_eq_some_iff.mp taken
      split at released
      · next isPhase =>
          cases released
          exact .releases found isPhase
      · cases released
  | cancel index =>
      obtain ⟨worker, found, cancelled⟩ := Option.bind_eq_some_iff.mp taken
      obtain ⟨waits, rfl⟩ := cancel_eq_some cancelled
      exact .cancels found waits

/-- Where a worker is after `acquire` looked at the clock. -/
theorem limitRate_cases (policy : DomainPolicy) (state : PolicyState)
    (index : Nat) (worker : CrawlWorker) :
    (∃ wakeAt, state.last worker.domain + policy.rateLimit worker.domain ≤
        wakeAt ∧
      policy.limitRate state index worker =
        state.move index worker
          (.sleeps (state.last worker.domain) wakeAt)) ∨
      (state.last worker.domain + policy.rateLimit worker.domain ≤
          state.clock ∧
        policy.limitRate state index worker = state.grant index worker) := by
  unfold DomainPolicy.limitRate
  dsimp only
  split
  · exact .inl ⟨_, by linarith, rfl⟩
  · exact .inr ⟨by linarith, rfl⟩

/-! ## Permits -/

/-- The permits left and the permits taken are all permits. -/
structure PermitsBalanced (state : PolicyState) : Prop where
  overall : state.overall +
    state.workers.countP CrawlWorker.holdsOverall = maxConcurrent
  domains : ∀ domain, state.permits domain +
    state.workers.countP (CrawlWorker.holds domain) = maxConcurrentPerDomain
  known : ∀ worker ∈ state.workers, worker.domain ∈ state.semaphores.keys

theorem countP_set_of_found {Item : Type} {items : List Item} {index : Nat}
    {old : Item} (found : items[index]? = some old) (new : Item)
    (counts : Item → Bool) :
    (items.set index new).countP counts + [old].countP counts =
      items.countP counts + [new].countP counts := by
  induction items generalizing index with
  | nil => cases found
  | cons item items induction =>
      cases index with
      | zero =>
          cases found
          simp only [List.set_cons_zero, List.countP_cons, List.countP_nil]
          omega
      | succ index =>
          have later := induction found
          have after := @List.countP_cons _ counts item
            (items.set index new)
          have before := @List.countP_cons _ counts item items
          rw [List.set_cons_succ]
          omega

theorem permits_setPermits (state : PolicyState) (domain other : String)
    (count : Nat) :
    (state.setPermits domain count).permits other =
      if other = domain then count else state.permits other :=
  Dict.getD_set _ _ _ _ _

/-- A worker moves to another phase, and the permits with it. -/
structure Moved (state next : PolicyState) (index : Nat)
    (worker : CrawlWorker) (phase : WorkerPhase) : Prop where
  found : state.workers[index]? = some worker
  workers : next.workers =
    state.workers.set index { worker with phase := phase }
  overall : next.overall + phase.holdsOverall.toNat =
    state.overall + worker.phase.holdsOverall.toNat
  own : next.permits worker.domain + phase.holdsDomain.toNat =
    state.permits worker.domain + worker.phase.holdsDomain.toNat
  others : ∀ domain, domain ≠ worker.domain →
    next.permits domain = state.permits domain
  known : ∀ domain ∈ state.semaphores.keys, domain ∈ next.semaphores.keys

theorem countP_singleton (worker : CrawlWorker)
    (counts : CrawlWorker → Bool) :
    [worker].countP counts = (counts worker).toNat := by
  cases counted : counts worker with
  | true => simp [counted]
  | false => simp [counted]

theorem Moved.balanced {state next : PolicyState} {index : Nat}
    {worker : CrawlWorker} {phase : WorkerPhase}
    (moved : Moved state next index worker phase)
    (balanced : PermitsBalanced state) : PermitsBalanced next := by
  have inWorkers := List.mem_of_getElem? moved.found
  constructor
  case overall =>
    have counted := countP_set_of_found moved.found
      { worker with phase := phase } CrawlWorker.holdsOverall
    rw [countP_singleton, countP_singleton] at counted
    have before := balanced.overall
    have change := moved.overall
    unfold CrawlWorker.holdsOverall at counted before ⊢
    dsimp only at counted
    rw [moved.workers]
    omega
  case domains =>
    intro domain
    have counted := countP_set_of_found moved.found
      { worker with phase := phase } (CrawlWorker.holds domain)
    rw [countP_singleton, countP_singleton] at counted
    have before := balanced.domains domain
    rw [moved.workers]
    by_cases isOwn : domain = worker.domain
    · have change := moved.own
      rw [isOwn] at counted before ⊢
      unfold CrawlWorker.holds at counted before ⊢
      simp only [decide_true, Bool.true_and] at counted
      omega
    · have change := moved.others domain isOwn
      have isOther : ¬ worker.domain = domain := fun same => isOwn same.symm
      unfold CrawlWorker.holds at counted before ⊢
      simp only [isOther, decide_false, Bool.false_and, Bool.toNat_false]
        at counted
      omega
  case known =>
    intro other member
    apply moved.known
    rw [moved.workers] at member
    rcases List.mem_or_eq_of_mem_set member with inState | isNew
    · exact balanced.known other inState
    · rw [isNew]
      exact balanced.known worker inWorkers

theorem permits_of_semaphores {state next : PolicyState}
    (same : next.semaphores = state.semaphores) (domain : String) :
    next.permits domain = state.permits domain := by
  unfold PolicyState.permits
  rw [same]

theorem mem_keys_set {dict : Dict String Nat} {key other : String}
    {value : Nat} :
    other ∈ (dict.set key value).keys ↔ other = key ∨ other ∈ dict.keys := by
  rw [Dict.mem_keys, Dict.mem_keys, Dict.get?_set]
  by_cases same : other = key
  · simp [same]
  · simp [same]

section Moves

variable {policy : DomainPolicy} {state : PolicyState} {index : Nat}
  {worker : CrawlWorker}

/-- A worker that moves takes and gives no permit of its domain. -/
theorem moved_of_semaphores {next : PolicyState} {phase : WorkerPhase}
    (found : state.workers[index]? = some worker)
    (workers : next.workers =
      state.workers.set index { worker with phase := phase })
    (overall : next.overall + phase.holdsOverall.toNat =
      state.overall + worker.phase.holdsOverall.toNat)
    (semaphores : next.semaphores = state.semaphores)
    (same : phase.holdsDomain = worker.phase.holdsDomain) :
    Moved state next index worker phase :=
  { found := found
    workers := workers
    overall := overall
    own := by rw [permits_of_semaphores semaphores, same]
    others := fun domain _ => permits_of_semaphores semaphores domain
    known := fun domain member => by rwa [semaphores] }

/-- A worker that takes a permit of its domain. -/
theorem moved_of_taken {next : PolicyState} {phase : WorkerPhase}
    (found : state.workers[index]? = some worker)
    (isPhase : worker.phase = .awaitsDomain)
    (free : 0 < state.permits worker.domain)
    (workers : next.workers =
      state.workers.set index { worker with phase := phase })
    (overall : next.overall = state.overall)
    (semaphores : next.semaphores = (state.setPermits worker.domain
      (state.permits worker.domain - 1)).semaphores)
    (holdsOverall : phase.holdsOverall = true)
    (holdsDomain : phase.holdsDomain = true) :
    Moved state next index worker phase := by
  constructor
  case found => exact found
  case workers => exact workers
  case overall =>
    rw [overall, holdsOverall, isPhase]
    rfl
  case own =>
    rw [permits_of_semaphores semaphores, permits_setPermits, if_pos rfl,
      holdsDomain, isPhase]
    exact Nat.sub_add_cancel free
  case others =>
    intro domain isOther
    rw [permits_of_semaphores semaphores, permits_setPermits,
      if_neg isOther]
  case known =>
    intro domain member
    rw [semaphores]
    exact mem_keys_set.mpr (.inr member)

theorem moved_limitRate (found : state.workers[index]? = some worker)
    (isPhase : worker.phase = .awaitsDomain)
    (free : 0 < state.permits worker.domain) :
    ∃ phase, Moved state (policy.limitRate (state.setPermits worker.domain
      (state.permits worker.domain - 1)) index worker) index worker
        phase := by
  rcases limitRate_cases policy (state.setPermits worker.domain
      (state.permits worker.domain - 1)) index worker with
    ⟨wakeAt, -, sleeps⟩ | ⟨-, granted⟩
  · rw [sleeps]
    exact ⟨_, moved_of_taken found isPhase free rfl rfl rfl rfl rfl⟩
  · rw [granted]
    exact ⟨.granted, moved_of_taken found isPhase free rfl rfl rfl rfl rfl⟩

theorem moved_release (balanced : PermitsBalanced state)
    (found : state.workers[index]? = some worker)
    (isPhase : worker.phase = .granted) :
    Moved state (state.release index worker) index worker .released := by
  have isKnown := balanced.known worker (List.mem_of_getElem? found)
  have semaphores : (state.release index worker).semaphores =
      (state.setPermits worker.domain
        (state.permits worker.domain + 1)).semaphores :=
    if_pos isKnown
  constructor
  case found => exact found
  case workers => rfl
  case overall =>
    rw [isPhase]
    rfl
  case own =>
    rw [permits_of_semaphores semaphores, permits_setPermits, if_pos rfl,
      isPhase]
    rfl
  case others =>
    intro domain isOther
    rw [permits_of_semaphores semaphores, permits_setPermits,
      if_neg isOther]
  case known =>
    intro domain member
    rw [semaphores]
    exact mem_keys_set.mpr (.inr member)

theorem balanced_enter (balanced : PermitsBalanced state) (domain : String) :
    PermitsBalanced (state.enter domain) := by
  have same : ∀ other,
      (state.enter domain).permits other = state.permits other := by
    intro other
    unfold PolicyState.permits PolicyState.enter
    dsimp only
    split
    · rfl
    · next isNew =>
        rw [Dict.getD_set]
        split
        · next isOther =>
            have absent : state.semaphores.get? other = none := by
              rw [isOther]
              exact Dict.lookup_eq_none_of_not_mem isNew
            rw [Dict.getD, absent]
            rfl
        · rfl
  constructor
  case overall =>
    have before := balanced.overall
    unfold PolicyState.enter
    rw [List.countP_append, countP_singleton]
    exact before
  case domains =>
    intro other
    have before := balanced.domains other
    rw [same]
    unfold PolicyState.enter
    rw [List.countP_append, countP_singleton, CrawlWorker.holds]
    simpa [WorkerPhase.holdsDomain] using before
  case known =>
    intro worker member
    unfold PolicyState.enter at member ⊢
    dsimp only at member ⊢
    rcases List.mem_append.mp member with inState | isNew
    · have isKnown := balanced.known worker inState
      split
      · exact isKnown
      · exact mem_keys_set.mpr (.inr isKnown)
    · rw [List.mem_singleton.mp isNew]
      split
      · next isKnown => exact isKnown
      · exact mem_keys_set.mpr (.inl rfl)

theorem Stepped.balanced {action : PolicyAction} {next : PolicyState}
    (stepped : Stepped policy state action next)
    (balanced : PermitsBalanced state) : PermitsBalanced next := by
  cases stepped with
  | ticks later =>
      exact ⟨balanced.overall, balanced.domains, balanced.known⟩
  | enters url => exact balanced_enter balanced _
  | takesOverall found isPhase free =>
      refine Moved.balanced (moved_of_semaphores found rfl ?_ rfl ?_) balanced
      · rw [isPhase]
        exact Nat.sub_add_cancel free
      · rw [isPhase]
        rfl
  | takesDomain found isPhase free =>
      obtain ⟨phase, moved⟩ :=
        @moved_limitRate policy _ _ _ found isPhase free
      exact moved.balanced balanced
  | wakes found isPhase passed =>
      refine Moved.balanced (moved_of_semaphores found rfl ?_ rfl ?_) balanced
      · rw [isPhase]
        rfl
      · rw [isPhase]
        rfl
  | releases found isPhase =>
      exact (moved_release balanced found isPhase).balanced balanced
  | cancels found waits =>
      exact Moved.balanced
        (moved_of_semaphores found rfl rfl rfl rfl) balanced

end Moves

/-! ## Grants and releases -/

def PolicyState.phaseAt (state : PolicyState) (index : Nat) :
    Option WorkerPhase :=
  state.workers[index]?.map (·.phase)

/-- Every grant is released once, or its worker still has it. -/
structure Accounted (state : PolicyState) : Prop where
  grantedOnce : (state.grants.map (·.worker)).Nodup
  releasedOnce : state.releases.Nodup
  granted : ∀ index, index ∈ state.grants.map (·.worker) ↔
    state.phaseAt index = some .granted ∨
      state.phaseAt index = some .released
  released : ∀ index, index ∈ state.releases ↔
    state.phaseAt index = some .released

section Accounts

variable {policy : DomainPolicy} {state : PolicyState} {index : Nat}
  {worker : CrawlWorker}

theorem phaseAt_of_found (found : state.workers[index]? = some worker) :
    state.phaseAt index = some worker.phase := by
  rw [PolicyState.phaseAt, found]
  rfl

theorem phaseAt_of_set {next : PolicyState} {phase : WorkerPhase}
    (found : state.workers[index]? = some worker)
    (workers : next.workers =
      state.workers.set index { worker with phase := phase }) (other : Nat) :
    next.phaseAt other =
      if other = index then some phase else state.phaseAt other := by
  obtain ⟨inside, -⟩ := List.getElem?_eq_some_iff.mp found
  unfold PolicyState.phaseAt
  rw [workers]
  by_cases same : other = index
  · rw [same, List.getElem?_set_self inside, if_pos rfl]
    rfl
  · rw [List.getElem?_set_ne (Ne.symm same), if_neg same]

theorem phaseAt_enter (domain : String) (other : Nat) :
    (state.enter domain).phaseAt other =
      if other = state.workers.length then some .awaitsOverall
      else state.phaseAt other := by
  unfold PolicyState.phaseAt PolicyState.enter
  dsimp only
  split
  · next isNew =>
      rw [isNew, List.getElem?_concat_length]
      rfl
  · next isOld =>
      rcases Nat.lt_or_gt_of_ne isOld with inside | beyond
      · rw [List.getElem?_append_left inside]
      · have outside : (state.workers ++
            [CrawlWorker.mk domain .awaitsOverall]).length ≤ other := by
          rw [List.length_append]
          exact beyond
        rw [List.getElem?_eq_none outside,
          List.getElem?_eq_none (Nat.le_of_lt beyond)]

/-- Nothing is granted or released while phases inside `acquire` change. -/
theorem Accounted.of_phases {next : PolicyState}
    (accounted : Accounted state) (grants : next.grants = state.grants)
    (releases : next.releases = state.releases)
    (granted : ∀ index, next.phaseAt index = some .granted ↔
      state.phaseAt index = some .granted)
    (released : ∀ index, next.phaseAt index = some .released ↔
      state.phaseAt index = some .released) : Accounted next := by
  constructor
  case grantedOnce =>
    rw [grants]
    exact accounted.grantedOnce
  case releasedOnce =>
    rw [releases]
    exact accounted.releasedOnce
  case granted =>
    intro index
    rw [grants, granted, released]
    exact accounted.granted index
  case released =>
    intro index
    rw [releases, released]
    exact accounted.released index

theorem Accounted.waiting {next : PolicyState} {phase : WorkerPhase}
    (accounted : Accounted state)
    (found : state.workers[index]? = some worker)
    (waits : worker.phase.waits = true)
    (workers : next.workers =
      state.workers.set index { worker with phase := phase })
    (grants : next.grants = state.grants)
    (releases : next.releases = state.releases)
    (notGranted : phase ≠ .granted) (notReleased : phase ≠ .released) :
    Accounted next := by
  have before := phaseAt_of_found found
  have fresh : ∀ settled : WorkerPhase, settled.waits = false →
      worker.phase ≠ settled := by
    intro settled isSettled same
    rw [same, isSettled] at waits
    cases waits
  apply accounted.of_phases grants releases
  · intro other
    rw [phaseAt_of_set found workers]
    split
    · next same =>
        rw [same, before]
        simp [notGranted, fresh .granted rfl]
    · rfl
  · intro other
    rw [phaseAt_of_set found workers]
    split
    · next same =>
        rw [same, before]
        simp [notReleased, fresh .released rfl]
    · rfl

theorem Accounted.grant (accounted : Accounted state)
    (found : state.workers[index]? = some worker)
    (waits : worker.phase.waits = true) :
    Accounted (state.grant index worker) := by
  have before := phaseAt_of_found found
  have after : ∀ other, (state.grant index worker).phaseAt other =
      if other = index then some .granted else state.phaseAt other :=
    phaseAt_of_set found rfl
  have names : (state.grant index worker).grants.map (·.worker) =
      state.grants.map (·.worker) ++ [index] :=
    List.map_append
  have fresh : ∀ settled : WorkerPhase, settled.waits = false →
      worker.phase ≠ settled := by
    intro settled isSettled same
    rw [same, isSettled] at waits
    cases waits
  have isNew : index ∉ state.grants.map (·.worker) := by
    rw [accounted.granted, before]
    simp [fresh .granted rfl, fresh .released rfl]
  constructor
  case grantedOnce =>
    rw [names]
    exact List.nodup_append.mpr ⟨accounted.grantedOnce,
      List.nodup_singleton index, by
        intro first inGrants second isLast same
        rw [List.mem_singleton.mp isLast] at same
        exact isNew (same ▸ inGrants)⟩
  case releasedOnce => exact accounted.releasedOnce
  case granted =>
    intro other
    rw [names, List.mem_append, List.mem_singleton, accounted.granted, after]
    by_cases same : other = index
    · simp [same]
    · simp [same]
  case released =>
    intro other
    change other ∈ state.releases ↔ _
    rw [accounted.released, after]
    by_cases same : other = index
    · rw [same, before]
      simp [fresh .released rfl]
    · simp [same]

theorem Accounted.release (accounted : Accounted state)
    (found : state.workers[index]? = some worker)
    (isPhase : worker.phase = .granted) :
    Accounted (state.release index worker) := by
  have before := phaseAt_of_found found
  rw [isPhase] at before
  have after : ∀ other, (state.release index worker).phaseAt other =
      if other = index then some .released else state.phaseAt other :=
    phaseAt_of_set found rfl
  have isNew : index ∉ state.releases := by
    rw [accounted.released, before]
    simp
  constructor
  case grantedOnce => exact accounted.grantedOnce
  case releasedOnce =>
    exact List.nodup_append.mpr ⟨accounted.releasedOnce,
      List.nodup_singleton index, by
        intro first inReleases second isLast same
        rw [List.mem_singleton.mp isLast] at same
        exact isNew (same ▸ inReleases)⟩
  case granted =>
    intro other
    change other ∈ state.grants.map (·.worker) ↔ _
    rw [accounted.granted, after]
    by_cases same : other = index
    · rw [same, before]
      simp
    · simp [same]
  case released =>
    intro other
    change other ∈ state.releases ++ [index] ↔ _
    rw [List.mem_append, List.mem_singleton, accounted.released, after]
    by_cases same : other = index
    · simp [same]
    · simp [same]

theorem Stepped.accounted {action : PolicyAction} {next : PolicyState}
    (stepped : Stepped policy state action next)
    (accounted : Accounted state) : Accounted next := by
  cases stepped with
  | ticks later =>
      exact accounted.of_phases rfl rfl (fun _ => .rfl) fun _ => .rfl
  | enters url =>
      have fresh : state.phaseAt state.workers.length = none := by
        rw [PolicyState.phaseAt, List.getElem?_eq_none (Nat.le_refl _)]
        rfl
      refine accounted.of_phases rfl rfl ?_ ?_
      · intro index
        rw [phaseAt_enter]
        split
        · next isNew => simp [isNew, fresh]
        · rfl
      · intro index
        rw [phaseAt_enter]
        split
        · next isNew => simp [isNew, fresh]
        · rfl
  | takesOverall found isPhase free =>
      exact accounted.waiting found (by rw [isPhase]; rfl) rfl rfl rfl
        (by simp) (by simp)
  | @takesDomain index worker found isPhase free =>
      have waits : worker.phase.waits = true := by
        rw [isPhase]
        rfl
      have same : Accounted (state.setPermits worker.domain
          (state.permits worker.domain - 1)) :=
        accounted.of_phases rfl rfl (fun _ => .rfl) fun _ => .rfl
      rcases limitRate_cases policy (state.setPermits worker.domain
          (state.permits worker.domain - 1)) index worker with
        ⟨wakeAt, -, sleeps⟩ | ⟨-, granted⟩
      · rw [sleeps]
        exact same.waiting found waits rfl rfl rfl (by simp) (by simp)
      · rw [granted]
        exact same.grant found waits
  | wakes found isPhase passed =>
      exact accounted.grant found (by rw [isPhase]; rfl)
  | releases found isPhase => exact accounted.release found isPhase
  | cancels found waits =>
      exact accounted.waiting found waits rfl rfl rfl (by simp) (by simp)

end Accounts

/-! ## The rate limit -/

/-- The times at which a domain was granted. -/
def PolicyState.grantTimes (state : PolicyState) (domain : String) : List ℚ :=
  (state.grants.filter (·.domain = domain)).map (·.time)

/-- Grants of a domain that follow each other are the rate limit apart. -/
def Spaced (policy : DomainPolicy) (state : PolicyState) : Prop :=
  ∀ domain, (state.grantTimes domain).IsChain fun before after =>
    policy.rateLimit domain ≤ after - before

/-- No grant of the domain came while the worker that wakes up slept. -/
def undisturbed (state : PolicyState) : PolicyAction → Bool
  | .resume index =>
      state.workers[index]?.all fun worker =>
        match worker.phase with
        | .sleeps last _ => state.last worker.domain = last
        | _ => true
  | _ => true

/-- Sleepers wake up late enough, and the last access is the last grant. -/
structure Timed (policy : DomainPolicy) (state : PolicyState) : Prop where
  sleepers : ∀ worker ∈ state.workers, ∀ last wakeAt,
    worker.phase = .sleeps last wakeAt →
      last + policy.rateLimit worker.domain ≤ wakeAt
  lastGrant : ∀ domain, ∀ time ∈ (state.grantTimes domain).getLast?,
    state.last domain = time
  spaced : Spaced policy state

section Times

variable {policy : DomainPolicy} {state : PolicyState} {index : Nat}
  {worker : CrawlWorker}

/-- A step without a grant. -/
theorem Timed.of_workers {next : PolicyState} (timed : Timed policy state)
    (grants : next.grants = state.grants)
    (lastAccess : next.lastAccess = state.lastAccess)
    (sleepers : ∀ worker ∈ next.workers, worker ∈ state.workers ∨
      ∀ last wakeAt, worker.phase = .sleeps last wakeAt →
        last + policy.rateLimit worker.domain ≤ wakeAt) :
    Timed policy next := by
  have times : next.grantTimes = state.grantTimes := by
    funext domain
    rw [PolicyState.grantTimes, grants]
    rfl
  have last : next.last = state.last := by
    funext domain
    rw [PolicyState.last, lastAccess]
    rfl
  constructor
  case sleepers =>
    intro worker member
    rcases sleepers worker member with inState | late
    · exact timed.sleepers worker inState
    · exact late
  case lastGrant =>
    rw [times, last]
    exact timed.lastGrant
  case spaced =>
    unfold Spaced
    rw [times]
    exact timed.spaced

theorem Timed.move (timed : Timed policy state)
    {phase : WorkerPhase} (late : ∀ last wakeAt,
      phase = .sleeps last wakeAt →
        last + policy.rateLimit worker.domain ≤ wakeAt) :
    Timed policy (state.move index worker phase) := by
  refine timed.of_workers rfl rfl ?_
  intro other member
  rcases List.mem_or_eq_of_mem_set member with inState | isNew
  · exact .inl inState
  · rw [isNew]
    exact .inr late

theorem grantTimes_grant (domain : String) :
    (state.grant index worker).grantTimes domain =
      if worker.domain = domain then state.grantTimes domain ++ [state.clock]
      else state.grantTimes domain := by
  unfold PolicyState.grantTimes PolicyState.grant
  dsimp only
  rw [List.filter_append, List.map_append, List.filter_singleton]
  by_cases same : worker.domain = domain
  · simp [same]
  · simp [same]

theorem Timed.grant (timed : Timed policy state)
    (late : state.last worker.domain + policy.rateLimit worker.domain ≤
      state.clock) : Timed policy (state.grant index worker) := by
  have moved : Timed policy (state.move index worker .granted) :=
    timed.move fun _ _ isPhase => nomatch isPhase
  constructor
  case sleepers => exact moved.sleepers
  case lastGrant =>
    intro domain time isLast
    have last : (state.grant index worker).last domain =
        if domain = worker.domain then state.clock else state.last domain :=
      Dict.getD_set _ _ _ _ _
    rw [grantTimes_grant] at isLast
    rw [last]
    by_cases same : worker.domain = domain
    · rw [if_pos same, List.getLast?_concat] at isLast
      rw [if_pos same.symm]
      exact Option.mem_some.mp isLast
    · rw [if_neg same] at isLast
      rw [if_neg (Ne.symm same)]
      exact timed.lastGrant domain time isLast
  case spaced =>
    intro domain
    rw [grantTimes_grant]
    split
    · next same =>
        apply List.isChain_append.mpr
        refine ⟨timed.spaced domain, List.isChain_singleton _, ?_⟩
        intro before isLast after isHead
        have known := timed.lastGrant domain before isLast
        cases isHead
        rw [same, known] at late
        linarith
    · exact timed.spaced domain

theorem Stepped.timed {action : PolicyAction} {next : PolicyState}
    (stepped : Stepped policy state action next)
    (calm : undisturbed state action = true)
    (timed : Timed policy state) : Timed policy next := by
  cases stepped with
  | ticks later => exact timed.of_workers rfl rfl fun _ member => .inl member
  | enters url =>
      refine timed.of_workers rfl rfl ?_
      intro worker member
      rcases List.mem_append.mp member with inState | isNew
      · exact .inl inState
      · rw [List.mem_singleton.mp isNew]
        exact .inr fun _ _ isPhase => nomatch isPhase
  | @takesOverall index worker found isPhase free =>
      have moved : Timed policy (state.move index worker .awaitsDomain) :=
        timed.move fun _ _ isPhase => nomatch isPhase
      exact ⟨moved.sleepers, moved.lastGrant, moved.spaced⟩
  | @takesDomain index worker found isPhase free =>
      have same : Timed policy (state.setPermits worker.domain
          (state.permits worker.domain - 1)) :=
        ⟨timed.sleepers, timed.lastGrant, timed.spaced⟩
      rcases limitRate_cases policy (state.setPermits worker.domain
          (state.permits worker.domain - 1)) index worker with
        ⟨wakeAt, late, sleeps⟩ | ⟨late, granted⟩
      · rw [sleeps]
        apply same.move
        intro last wakes isPhase
        cases isPhase
        exact late
      · rw [granted]
        exact same.grant late
  | @wakes index worker last wakeAt found isPhase passed =>
      have late := timed.sleepers worker (List.mem_of_getElem? found) _ _
        isPhase
      have isLast : state.last worker.domain = last := by
        simpa [undisturbed, found, isPhase] using calm
      apply timed.grant
      rw [isLast]
      exact late.trans passed
  | @releases index worker found isPhase =>
      have moved : Timed policy (state.move index worker .released) :=
        timed.move fun _ _ isPhase => nomatch isPhase
      exact ⟨moved.sleepers, moved.lastGrant, moved.spaced⟩
  | cancels found waits =>
      exact timed.move fun _ _ isPhase => nomatch isPhase

end Times

/-! ## Workers that wait -/

/-- The worker gets to the end of `acquire` by its own steps while time
passes. -/
def CanBeGranted (policy : DomainPolicy) (state : PolicyState)
    (index : Nat) : Prop :=
  ∃ actions final, (∀ action ∈ actions, action = .resume index ∨
      ∃ now, action = PolicyAction.tick now) ∧
    exec policy.step state actions = some final ∧
      final.phaseAt index = some .granted

/-- While workers wait, one of them can be granted, or a grant is out. -/
def Progresses (policy : DomainPolicy) (state : PolicyState) : Prop :=
  (∃ worker ∈ state.workers, worker.phase.waits = true) →
    (∃ worker ∈ state.workers, worker.phase = .granted) ∨
      ∃ index, CanBeGranted policy state index

/-- Only a worker that has no permit is cancelled inside `acquire`. -/
def keepsPermits (state : PolicyState) : PolicyAction → Bool
  | .cancel index =>
      state.workers[index]?.all fun worker =>
        !worker.phase.waits || worker.phase = .awaitsOverall
  | _ => true

/-- No cancelled worker has a permit. -/
def NoneLost (state : PolicyState) : Prop :=
  ∀ worker ∈ state.workers, ∀ overall domain,
    worker.phase = .cancelled overall domain →
      overall = false ∧ domain = false

section Progress

variable {policy : DomainPolicy} {state : PolicyState} {index : Nat}
  {worker : CrawlWorker}

theorem NoneLost.of_workers {next : PolicyState} (noneLost : NoneLost state)
    {phase : WorkerPhase} (workers : next.workers =
      state.workers.set index { worker with phase := phase })
    (kept : ∀ overall domain, phase = .cancelled overall domain →
      overall = false ∧ domain = false) : NoneLost next := by
  intro other member
  rw [workers] at member
  rcases List.mem_or_eq_of_mem_set member with inState | isNew
  · exact noneLost other inState
  · rw [isNew]
    exact kept

theorem Stepped.noneLost {action : PolicyAction} {next : PolicyState}
    (stepped : Stepped policy state action next)
    (keeps : keepsPermits state action = true)
    (noneLost : NoneLost state) : NoneLost next := by
  cases stepped with
  | ticks later => exact noneLost
  | enters url =>
      intro worker member
      rcases List.mem_append.mp member with inState | isNew
      · exact noneLost worker inState
      · rw [List.mem_singleton.mp isNew]
        exact fun _ _ isPhase => nomatch isPhase
  | takesOverall found isPhase free =>
      exact noneLost.of_workers rfl fun _ _ isPhase => nomatch isPhase
  | @takesDomain index worker found isPhase free =>
      rcases limitRate_cases policy (state.setPermits worker.domain
          (state.permits worker.domain - 1)) index worker with
        ⟨wakeAt, -, sleeps⟩ | ⟨-, granted⟩
      · rw [sleeps]
        exact noneLost.of_workers rfl fun _ _ isPhase => nomatch isPhase
      · rw [granted]
        exact noneLost.of_workers rfl fun _ _ isPhase => nomatch isPhase
  | wakes found isPhase passed =>
      exact noneLost.of_workers rfl fun _ _ isPhase => nomatch isPhase
  | releases found isPhase =>
      exact noneLost.of_workers rfl fun _ _ isPhase => nomatch isPhase
  | @cancels index worker found waits =>
      have isPhase : worker.phase = .awaitsOverall := by
        simpa [keepsPermits, found, waits] using keeps
      apply noneLost.of_workers rfl
      rw [isPhase]
      intro overall domain isCancelled
      cases isCancelled
      exact ⟨rfl, rfl⟩

theorem CanBeGranted.of_step {action : PolicyAction} {next : PolicyState}
    (taken : policy.step state action = some next)
    (isOwn : action = .resume index ∨ ∃ now, action = .tick now)
    (later : CanBeGranted policy next index) :
    CanBeGranted policy state index := by
  obtain ⟨actions, final, own, run, granted⟩ := later
  refine ⟨action :: actions, final, ?_, ?_, granted⟩
  · exact List.forall_mem_cons.mpr ⟨isOwn, own⟩
  · exact exec_cons_eq_some.mpr ⟨next, taken, run⟩

theorem resume_of_found (found : state.workers[index]? = some worker) :
    policy.step state (.resume index) =
      policy.resume state index worker := by
  rw [DomainPolicy.step, found]
  rfl

theorem canBeGranted_granted (found : state.workers[index]? = some worker) :
    CanBeGranted policy (state.grant index worker) index := by
  refine ⟨[], _, List.forall_mem_nil _, rfl, ?_⟩
  have after := phaseAt_of_set found
    (rfl : (state.grant index worker).workers = _) index
  rw [after, if_pos rfl]

/-- A sleeping worker wakes up when it is time. -/
theorem canBeGranted_sleeping {last wakeAt : ℚ}
    (found : state.workers[index]? = some worker)
    (isPhase : worker.phase = .sleeps last wakeAt) :
    CanBeGranted policy state index := by
  let awake : PolicyState :=
    { state with clock := max state.clock wakeAt }
  have ticks : policy.step state (.tick (max state.clock wakeAt)) =
      some awake := by
    rw [DomainPolicy.step, if_pos (le_max_left _ _)]
  have same : awake.workers[index]? = some worker := found
  have wakes : policy.step awake (.resume index) =
      some (awake.grant index worker) := by
    rw [resume_of_found same, DomainPolicy.resume, isPhase]
    exact if_pos (le_max_right _ _)
  apply CanBeGranted.of_step ticks (.inr ⟨_, rfl⟩)
  apply CanBeGranted.of_step wakes (.inl rfl)
  exact canBeGranted_granted same

theorem found_of_set {next : PolicyState} {phase : WorkerPhase}
    (found : state.workers[index]? = some worker)
    (workers : next.workers =
      state.workers.set index { worker with phase := phase }) :
    next.workers[index]? = some { worker with phase := phase } := by
  obtain ⟨inside, -⟩ := List.getElem?_eq_some_iff.mp found
  rw [workers]
  exact List.getElem?_set_self inside

/-- A worker that waits for its domain gets the permit that is left. -/
theorem canBeGranted_domain
    (found : state.workers[index]? = some worker)
    (isPhase : worker.phase = .awaitsDomain)
    (free : 0 < state.permits worker.domain) :
    CanBeGranted policy state index := by
  have taken : policy.step state (.resume index) =
      some (policy.limitRate (state.setPermits worker.domain
        (state.permits worker.domain - 1)) index worker) := by
    rw [resume_of_found found, DomainPolicy.resume, isPhase]
    exact if_pos free
  apply CanBeGranted.of_step taken (.inl rfl)
  rcases limitRate_cases policy (state.setPermits worker.domain
      (state.permits worker.domain - 1)) index worker with
    ⟨wakeAt, -, sleeps⟩ | ⟨-, granted⟩
  · rw [sleeps]
    exact canBeGranted_sleeping (found_of_set found rfl) rfl
  · rw [granted]
    have same : (state.setPermits worker.domain
        (state.permits worker.domain - 1)).workers[index]? =
          some worker := found
    exact canBeGranted_granted same

theorem canBeGranted_overall
    (found : state.workers[index]? = some worker)
    (isPhase : worker.phase = .awaitsOverall) (free : 0 < state.overall)
    (freeDomain : 0 < state.permits worker.domain) :
    CanBeGranted policy state index := by
  let moved : PolicyState :=
    { state.move index worker .awaitsDomain with
      overall := state.overall - 1 }
  have taken : policy.step state (.resume index) = some moved := by
    rw [resume_of_found found, DomainPolicy.resume, isPhase]
    exact if_pos free
  have same : moved.workers[index]? =
      some { worker with phase := .awaitsDomain } :=
    found_of_set found rfl
  apply CanBeGranted.of_step taken (.inl rfl)
  exact canBeGranted_domain same rfl freeDomain

/-- A domain that nobody sleeps in or was granted has all its permits. -/
theorem permits_of_unheld (balanced : PermitsBalanced state)
    (unheld : ∀ worker ∈ state.workers, worker.phase.holdsDomain = false)
    (domain : String) : 0 < state.permits domain := by
  have none : state.workers.countP (CrawlWorker.holds domain) = 0 := by
    apply List.countP_eq_zero.mpr
    intro worker member holds
    rw [CrawlWorker.holds, unheld worker member, Bool.and_false] at holds
    cases holds
  have before := balanced.domains domain
  have some : maxConcurrentPerDomain = 2 := rfl
  omega

theorem progresses (balanced : PermitsBalanced state)
    (noneLost : NoneLost state) :
    Progresses policy state := by
  rintro ⟨worker, member, waits⟩
  by_cases out : ∃ worker ∈ state.workers, worker.phase = .granted
  · exact .inl out
  right
  -- without grants, permits are with sleepers or with those behind them
  by_cases asleep : ∃ sleeper ∈ state.workers, ∃ last wakeAt,
      sleeper.phase = .sleeps last wakeAt
  · obtain ⟨sleeper, inWorkers, last, wakeAt, isPhase⟩ := asleep
    obtain ⟨index, found⟩ := List.mem_iff_getElem?.mp inWorkers
    exact ⟨index, canBeGranted_sleeping found isPhase⟩
  have unheld : ∀ other ∈ state.workers, other.phase.holdsDomain = false := by
    intro other inWorkers
    cases isPhase : other.phase with
    | awaitsOverall | awaitsDomain | released => rfl
    | sleeps last wakeAt =>
        exact absurd ⟨other, inWorkers, last, wakeAt, isPhase⟩ asleep
    | granted => exact absurd ⟨other, inWorkers, isPhase⟩ out
    | cancelled overall domain =>
        exact (noneLost other inWorkers _ _ isPhase).2
  have free := permits_of_unheld balanced unheld
  by_cases ahead : ∃ other ∈ state.workers, other.phase = .awaitsDomain
  · obtain ⟨other, inWorkers, isPhase⟩ := ahead
    obtain ⟨index, found⟩ := List.mem_iff_getElem?.mp inWorkers
    exact ⟨index, canBeGranted_domain found isPhase (free _)⟩
  have unheldOverall :
      state.workers.countP CrawlWorker.holdsOverall = 0 := by
    apply List.countP_eq_zero.mpr
    intro other inWorkers holds
    have notHeld := unheld other inWorkers
    unfold CrawlWorker.holdsOverall at holds
    cases isPhase : other.phase with
    | awaitsDomain => exact ahead ⟨other, inWorkers, isPhase⟩
    | cancelled overall domain =>
        rw [isPhase] at holds
        have kept := (noneLost other inWorkers _ _ isPhase).1
        rw [WorkerPhase.holdsOverall, kept] at holds
        cases holds
    | awaitsOverall | released =>
        rw [isPhase] at holds
        cases holds
    | sleeps | granted =>
        rw [isPhase] at notHeld
        cases notHeld
  have isPhase : worker.phase = .awaitsOverall := by
    cases isPhase : worker.phase with
    | awaitsOverall => rfl
    | awaitsDomain => exact absurd ⟨worker, member, isPhase⟩ ahead
    | sleeps last wakeAt =>
        exact absurd ⟨worker, member, last, wakeAt, isPhase⟩ asleep
    | granted | released | cancelled =>
        rw [isPhase] at waits
        cases waits
  obtain ⟨index, found⟩ := List.mem_iff_getElem?.mp member
  have total := balanced.overall
  have all : maxConcurrent = 10 := rfl
  exact ⟨index, canBeGranted_overall found isPhase (by omega) (free _)⟩

end Progress

/-! ## Every run -/

theorem balanced_start (clock : ℚ) : PermitsBalanced { clock := clock } :=
  { overall := rfl
    domains := fun _ => rfl
    known := List.forall_mem_nil _ }

theorem accounted_start (clock : ℚ) : Accounted { clock := clock } :=
  { grantedOnce := List.nodup_nil
    releasedOnce := List.nodup_nil
    granted := fun index => by simp [PolicyState.phaseAt]
    released := fun index => by simp [PolicyState.phaseAt] }

theorem timed_start (policy : DomainPolicy) (clock : ℚ) :
    Timed policy { clock := clock } :=
  { sleepers := List.forall_mem_nil _
    lastGrant := fun _ _ isLast => nomatch isLast
    spaced := fun _ => .nil }

theorem noneLost_start (clock : ℚ) : NoneLost { clock := clock } :=
  List.forall_mem_nil _

/-- In every run two workers at most have a domain and ten at most have any,
and every grant is released once; grants are the rate limit apart where no
sleeper is overtaken, and nobody waits for ever where no permit is lost. -/
theorem crawl_polite {policy : DomainPolicy} {clock : ℚ}
    {actions : List PolicyAction} {final : PolicyState}
    (run : exec policy.step { clock := clock } actions = some final) :
    final.workers.countP CrawlWorker.holdsOverall ≤ maxConcurrent ∧
    (∀ domain, final.workers.countP (CrawlWorker.holds domain) ≤
      maxConcurrentPerDomain) ∧
    Accounted final ∧
    (Along policy.step (fun state action => undisturbed state action = true)
      { clock := clock } actions → Spaced policy final) ∧
    (Along policy.step (fun state action => keepsPermits state action = true)
      { clock := clock } actions → Progresses policy final) := by
  have balanced : PermitsBalanced final :=
    exec_invariant (fun _ _ _ holds taken =>
      (stepped_of_step taken).balanced holds) (balanced_start clock) run
  have accounted : Accounted final :=
    exec_invariant (fun _ _ _ holds taken =>
      (stepped_of_step taken).accounted holds) (accounted_start clock) run
  refine ⟨?_, ?_, accounted, ?_, ?_⟩
  · have total := balanced.overall
    omega
  · intro domain
    have total := balanced.domains domain
    omega
  · intro calm
    have timed : Timed policy final :=
      exec_invariant_along (fun _ _ _ holds guarded taken =>
        (stepped_of_step taken).timed guarded holds)
        (timed_start policy clock) calm run
    exact timed.spaced
  · intro keeps
    have noneLost : NoneLost final :=
      exec_invariant_along (fun _ _ _ holds guarded taken =>
        (stepped_of_step taken).noneLost guarded holds)
        (noneLost_start clock) keeps run
    exact progresses balanced noneLost

namespace PolitenessExample

def policy : DomainPolicy :=
  { hostname := fun url => some url }

/-- The second and the third worker read the access of the first one. -/
def overtaken : List PolicyAction :=
  [.acquire "example.com", .resume 0, .resume 0, .acquire "example.com",
    .resume 1, .resume 1, .release 0, .acquire "example.com", .resume 2,
    .resume 2, .tick 102, .resume 1, .resume 2]

theorem overtaken_runs :
    (exec policy.step { clock := 100 } overtaken).isSome := by
  decide +kernel

/-- The domain is granted twice at one time. -/
theorem grants_together :
    ¬ Spaced policy ((exec policy.step { clock := 100 } overtaken).get
      overtaken_runs) :=
  fun spaced => absurd (spaced "example.com") (by decide +kernel)

/-- Without the third worker. -/
def paced : List PolicyAction :=
  [.acquire "example.com", .resume 0, .resume 0, .acquire "example.com",
    .resume 1, .resume 1, .release 0, .tick 102, .resume 1]

theorem paced_runs : (exec policy.step { clock := 100 } paced).isSome := by
  decide +kernel

theorem crawl_polite_paced :
    Spaced policy ((exec policy.step { clock := 100 } paced).get
      paced_runs) :=
  (crawl_polite (Option.some_get paced_runs).symm).2.2.2.1
    (by decide +kernel)

end PolitenessExample

end CompetiScope
