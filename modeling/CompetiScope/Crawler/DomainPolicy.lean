import CompetiScope.Foundation.Dict
import CompetiScope.Foundation.Transition
import Mathlib.Data.Rat.Floor

/-!
# Workers that acquire domains

A worker takes a permit of all workers, then one of its domain, and may sleep
until the last access to the domain is long enough ago.  An action lets one
worker run on from the place where it waits, or lets time pass.
-/

namespace CompetiScope

open Foundation

/-- `DEFAULT_MAX_CONCURRENT_PER_DOMAIN`. -/
def maxConcurrentPerDomain : Nat := 2

/-- The permits of the global semaphore. -/
def maxConcurrent : Nat := 10

/-- A `DomainPolicy`; `hostname` is `urlparse(url).hostname`. -/
structure DomainPolicy where
  hostname : String → Option String
  defaultRateLimitSeconds : ℚ := 2
  domainRateLimits : Dict String ℚ := ∅

/-- Where a worker waits in `acquire`, or what became of it. -/
inductive WorkerPhase where
  | awaitsOverall
  | awaitsDomain
  /-- In `asyncio.sleep`, with the last access it read. -/
  | sleeps (last wakeAt : ℚ)
  | granted
  | released
  /-- It ended inside `acquire`, with the permits it had. -/
  | cancelled (overall domain : Bool)
  deriving DecidableEq

structure CrawlWorker where
  domain : String
  phase : WorkerPhase
  deriving DecidableEq

/-- `acquire` returned to a worker. -/
structure DomainGrant where
  worker : Nat
  domain : String
  time : ℚ
  deriving DecidableEq

/-- The semaphores and the last accesses, the workers in the order in which
they came, and what was granted and released so far. -/
structure PolicyState where
  clock : ℚ
  overall : Nat := maxConcurrent
  semaphores : Dict String Nat := ∅
  lastAccess : Dict String ℚ := ∅
  workers : List CrawlWorker := []
  grants : List DomainGrant := []
  releases : List Nat := []

inductive PolicyAction where
  | tick (now : ℚ)
  | acquire (url : String)
  | resume (index : Nat)
  | release (index : Nat)
  | cancel (index : Nat)

namespace PolicyState

variable (state : PolicyState)

/-- The permits left of a domain; its semaphore is made when first used. -/
def permits (domain : String) : Nat :=
  state.semaphores.getD domain maxConcurrentPerDomain

def last (domain : String) : ℚ :=
  state.lastAccess.getD domain 0

def move (index : Nat) (worker : CrawlWorker) (phase : WorkerPhase) :
    PolicyState :=
  { state with
    workers := state.workers.set index { worker with phase := phase } }

def setPermits (domain : String) (count : Nat) : PolicyState :=
  { state with semaphores := state.semaphores.set domain count }

/-- A worker calls `acquire`. -/
def enter (domain : String) : PolicyState :=
  { state with
    semaphores :=
      if domain ∈ state.semaphores.keys then state.semaphores
      else state.semaphores.set domain maxConcurrentPerDomain
    workers := state.workers ++
      [{ domain := domain
         phase := .awaitsOverall }] }

/-- The end of `acquire`. -/
def grant (index : Nat) (worker : CrawlWorker) : PolicyState :=
  { state.move index worker .granted with
    lastAccess := state.lastAccess.set worker.domain state.clock
    grants := state.grants ++
      [{ worker := index
         domain := worker.domain
         time := state.clock }] }

/-- `release`. -/
def release (index : Nat) (worker : CrawlWorker) : PolicyState :=
  let moved := state.move index worker .released
  { moved with
    overall := state.overall + 1
    semaphores :=
      if worker.domain ∈ state.semaphores.keys then
        state.semaphores.set worker.domain (state.permits worker.domain + 1)
      else state.semaphores
    releases := state.releases ++ [index] }

/-- A worker is cancelled where it waits; nothing gives its permits back. -/
def cancel (index : Nat) (worker : CrawlWorker) : Option PolicyState :=
  match worker.phase with
  | .awaitsOverall =>
      some (state.move index worker (.cancelled false false))
  | .awaitsDomain => some (state.move index worker (.cancelled true false))
  | .sleeps _ _ => some (state.move index worker (.cancelled true true))
  | _ => none

end PolicyState

namespace DomainPolicy

variable (policy : DomainPolicy)

/-- `urlparse(url).hostname or "unknown"`. -/
def domainOf (url : String) : String :=
  match policy.hostname url with
  | none => "unknown"
  | some name => if name = "" then "unknown" else name

def rateLimit (domain : String) : ℚ :=
  policy.domainRateLimits.getD domain policy.defaultRateLimitSeconds

/-- What a worker does with both permits: it waits if it is too soon since
the last access to the domain. -/
def limitRate (state : PolicyState) (index : Nat) (worker : CrawlWorker) :
    PolicyState :=
  let last := state.last worker.domain
  let wait := policy.rateLimit worker.domain - (state.clock - last)
  if 0 < wait then
    state.move index worker (.sleeps last (state.clock + wait))
  else state.grant index worker

/-- A worker runs on in `acquire` from where it waits to where it waits
next. -/
def resume (state : PolicyState) (index : Nat) (worker : CrawlWorker) :
    Option PolicyState :=
  match worker.phase with
  | .awaitsOverall =>
      if 0 < state.overall then
        some
          { state.move index worker .awaitsDomain with
            overall := state.overall - 1 }
      else none
  | .awaitsDomain =>
      if 0 < state.permits worker.domain then
        some (policy.limitRate
          (state.setPermits worker.domain (state.permits worker.domain - 1))
          index worker)
      else none
  | .sleeps _ wakeAt =>
      if wakeAt ≤ state.clock then some (state.grant index worker) else none
  | _ => none

def step (state : PolicyState) : PolicyAction → Option PolicyState
  | .tick now =>
      if state.clock ≤ now then some { state with clock := now } else none
  | .acquire url => some (state.enter (policy.domainOf url))
  | .resume index =>
      state.workers[index]?.bind fun worker =>
        policy.resume state index worker
  | .release index =>
      state.workers[index]?.bind fun worker =>
        if worker.phase = .granted then some (state.release index worker)
        else none
  | .cancel index =>
      state.workers[index]?.bind fun worker => state.cancel index worker

end DomainPolicy

end CompetiScope
