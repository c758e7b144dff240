import Mathlib.Data.Prod.Lex
import CompetiScope.Foundation.Json
import CompetiScope.Foundation.Rows
import CompetiScope.Foundation.StableSort
import CompetiScope.Foundation.Transition

/-!
# The crawl frontier

URLs wait in a table until a scheduler claims them.  A handler fetches the
page of its item, marks the item and adds the links of the page; it may raise
at any call, and sources are deleted while it runs.
-/

namespace CompetiScope

open Foundation

/-! ## Rows -/

/-- The `status` of an item. -/
inductive FrontierStatus where
  | pending
  | running
  | done
  | failed
  | cancelled
  deriving DecidableEq

/-- A row of `crawl_frontier`. -/
structure FrontierItem where
  id : String
  sourceId : Option String := none
  sourceType : String
  url : String
  canonicalUrl : String
  competitor : Option String := none
  dimension : Option String := none
  priority : Int := 100
  depth : Nat := 0
  status : FrontierStatus := .pending
  attempts : Nat := 0
  nextRunAt : Nat
  lastError : Option String := none
  parentId : Option String := none
  discoveredAt : Nat
  runId : Option String := none
  deriving DecidableEq

/-- The table with its primary key and its unique index. -/
structure Frontier where
  items : List FrontierItem
  ids : (items.map (·.id)).Nodup
  urls : (items.map (·.canonicalUrl)).Nodup

namespace Frontier

def empty : Frontier :=
  { items := []
    ids := List.nodup_nil
    urls := List.nodup_nil }

/-- `INSERT OR IGNORE` of a row. -/
def insertOrIgnore (frontier : Frontier) (item : FrontierItem) : Frontier :=
  if fresh : item.id ∉ frontier.items.map (·.id) ∧
      item.canonicalUrl ∉ frontier.items.map (·.canonicalUrl) then
    { items := frontier.items ++ [item]
      ids := by
        rw [List.map_append, List.map_singleton, ← List.concat_eq_append]
        exact frontier.ids.concat fresh.1
      urls := by
        rw [List.map_append, List.map_singleton, ← List.concat_eq_append]
        exact frontier.urls.concat fresh.2 }
  else frontier

/-- An `UPDATE` that leaves the keys alone. -/
def update (frontier : Frontier) (selects : FrontierItem → Bool)
    (write : FrontierItem → FrontierItem)
    (ids : ∀ item, (write item).id = item.id)
    (urls : ∀ item, (write item).canonicalUrl = item.canonicalUrl) :
    Frontier :=
  { items := updateRows selects write frontier.items
    ids := by
      rw [map_updateRows ids]
      exact frontier.ids
    urls := by
      rw [map_updateRows urls]
      exact frontier.urls }

end Frontier

/-! ## Adding items -/

/-- What is read of a parsed URL; reading the port may raise. -/
structure FrontierUrl where
  scheme : String
  netloc : String
  hostname : Option String
  port : Except String (Option Nat) := .ok none
  username : Option String := none
  password : Option String := none
  path : String := ""
  query : String := ""

/-- Library calls of the crawler: parts of URLs, `str.lower` and `int`, which
is `none` where it raises. -/
structure FrontierLibrary where
  urldefrag : String → Except String String
  urlparse : String → Except String FrontierUrl
  urlunparse : String → String → String → String → String
  lower : String → String
  int : Json → Option Int
  truthy : Json → Bool

section Repository

variable (library : FrontierLibrary)

/-- The part of a network location behind the last `@`. -/
def hostPart (netloc : String) : String :=
  String.ofList ((netloc.toList.reverse.takeWhile (· ≠ '@')).reverse)

/-- `canonicalize_url`. -/
def canonicalizeUrl (url : String) : Except String String := do
  let defragged ← library.urldefrag url
  let parsed ← library.urlparse (strip defragged)
  if parsed.scheme ∉ ["http", "https"] ∨ parsed.netloc = "" then
    return ""
  else
    let port ← parsed.port
    let host := library.lower (parsed.hostname.getD "") ++
      if port.getD 0 = 0 then "" else ":" ++ toString (port.getD 0)
    let netloc :=
      if parsed.username.getD "" ≠ "" ∨ parsed.password.getD "" ≠ "" then
        library.lower (hostPart parsed.netloc)
      else host
    return library.urlunparse (library.lower parsed.scheme) netloc
      (if parsed.path = "" then "/" else parsed.path) parsed.query

/-- The arguments of `add_frontier_items`; `newId` draws the ids. -/
structure FrontierBatch where
  urls : List String
  newId : Nat → String
  sourceType : String
  sourceId : Option String := none
  competitor : Option String := none
  dimension : Option String := none
  priority : Int := 100
  depth : Nat := 0
  parentId : Option String := none
  runId : Option String := none
  nextRunAt : Option Nat := none
  maxUrls : Option Nat := none
  now : Nat

def FrontierBatch.row (batch : FrontierBatch) (index : Nat)
    (url canonicalUrl : String) : FrontierItem :=
  { id := batch.newId index
    sourceId := batch.sourceId
    sourceType := batch.sourceType
    url := url
    canonicalUrl := canonicalUrl
    competitor := batch.competitor
    dimension := batch.dimension
    priority := batch.priority
    depth := batch.depth
    status := .pending
    attempts := 0
    nextRunAt := batch.nextRunAt.getD batch.now
    lastError := none
    parentId := batch.parentId
    discoveredAt := batch.now
    runId := batch.runId }

/-- The rows of the URLs that have a canonical form. -/
def frontierRowsFrom (batch : FrontierBatch) (index : Nat) :
    List String → Except String (List FrontierItem)
  | [] => .ok []
  | url :: urls =>
      match canonicalizeUrl library url with
      | .error message => .error message
      | .ok canonicalUrl =>
          match frontierRowsFrom batch (index + 1) urls with
          | .error message => .error message
          | .ok rows =>
              .ok (if canonicalUrl = "" then rows
                else batch.row index url canonicalUrl :: rows)

def frontierRows (batch : FrontierBatch) :
    Except String (List FrontierItem) :=
  frontierRowsFrom library batch 0
    (match batch.maxUrls with
    | none => batch.urls
    | some maxUrls => batch.urls.take maxUrls)

/-- `add_frontier_items`. -/
def addFrontierItems (frontier : Frontier) (batch : FrontierBatch) :
    Except String Frontier :=
  match frontierRows library batch with
  | .error message => .error message
  | .ok rows => .ok (rows.foldl Frontier.insertOrIgnore frontier)

end Repository

/-! ## Status changes -/

/-- `status = 'running', attempts = attempts + 1`. -/
def FrontierItem.run (item : FrontierItem) : FrontierItem :=
  { item with
    status := .running
    attempts := item.attempts + 1
    lastError := none }

def FrontierItem.finish (item : FrontierItem) : FrontierItem :=
  { item with
    status := .done
    lastError := none }

def FrontierItem.fail (error : String) (item : FrontierItem) :
    FrontierItem :=
  { item with
    status := .failed
    lastError := some error }

/-- `status = 'pending'` at a time and with an error. -/
def FrontierItem.requeue (nextRunAt : Nat) (error : Option String)
    (item : FrontierItem) : FrontierItem :=
  { item with
    status := .pending
    nextRunAt := nextRunAt
    lastError := error }

def FrontierItem.cancel (item : FrontierItem) : FrontierItem :=
  { item with status := .cancelled }

/-- `source_id = ? OR run_id = ?`. -/
def FrontierItem.belongsTo (sourceId : String) (item : FrontierItem) : Bool :=
  item.sourceId = some sourceId || item.runId = some sourceId

namespace Frontier

variable (frontier : Frontier)

/-- The items `claim_pending` selects. -/
def claimable (limit now : Nat) : List String :=
  (((frontier.items.filter fun item =>
      item.status = .pending && decide (item.nextRunAt ≤ now)).insertionSort
        fun first second =>
          toLex (first.priority, first.discoveredAt) ≤
            toLex (second.priority, second.discoveredAt)).take limit).map
    (·.id)

/-- `claim_pending`. -/
def claimPending (limit now : Nat) : Frontier :=
  frontier.update (fun item => item.id ∈ frontier.claimable limit now)
    FrontierItem.run (fun _ => rfl) fun _ => rfl

/-- `mark_done`. -/
def markDone (itemId : String) : Frontier :=
  frontier.update (·.id = itemId) FrontierItem.finish (fun _ => rfl)
    fun _ => rfl

/-- `mark_failed`; a retry comes with the time of the next run. -/
def markFailed (itemId error : String) (retry : Option Nat) : Frontier :=
  match retry with
  | some nextRunAt =>
      frontier.update (·.id = itemId)
        (FrontierItem.requeue nextRunAt (some error)) (fun _ => rfl)
        fun _ => rfl
  | none =>
      frontier.update (·.id = itemId) (FrontierItem.fail error)
        (fun _ => rfl) fun _ => rfl

/-- `retry_failed`. -/
def retryFailed (sourceId : Option String) (now : Nat) : Frontier :=
  frontier.update
    (fun item => item.status = .failed &&
      (sourceId.getD "" = "" || item.belongsTo (sourceId.getD "")))
    (FrontierItem.requeue now none) (fun _ => rfl) fun _ => rfl

/-- The rows `delete_source` cancels. -/
def cancelSource (sourceId : String) : Frontier :=
  frontier.update (·.belongsTo sourceId) FrontierItem.cancel (fun _ => rfl)
    fun _ => rfl

end Frontier

/-! ## Handlers -/

/-- The limits of the crawl request of an item. -/
structure FrontierRequest where
  maxDepth : Nat
  maxUrls : Nat
  maxTotalBytes : Nat
  deriving DecidableEq

/-- What a fetch came to; a page has links. -/
structure FrontierResult where
  success : Bool
  links : Option (List String) := none
  error : Option String := none
  deriving DecidableEq

/-- How far a handler has come. -/
inductive HandlerPhase where
  | claimed
  | fetching (request : FrontierRequest)
  | fetched (request : FrontierRequest) (result : FrontierResult)
  | linking (request : FrontierRequest) (links : List String)
  | reporting
  deriving DecidableEq

/-- A handler and its item as it was claimed. -/
structure FrontierHandler where
  worker : Nat
  item : FrontierItem
  phase : HandlerPhase := .claimed
  deriving DecidableEq

/-- The handler has not marked its item. -/
def FrontierHandler.holds (handler : FrontierHandler) : Bool :=
  match handler.phase with
  | .claimed => true
  | .fetching _ => true
  | .fetched _ _ => true
  | .linking _ _ => false
  | .reporting => false

/-- The tables, the handlers of all schedulers and the ids `delete_source` was
called with. -/
structure FrontierState where
  sources : Dict String (Dict String Json) := ∅
  frontier : Frontier := .empty
  handlers : List FrontierHandler := []
  nextWorker : Nat := 0
  deleted : List String := []

/-- The mark of a result. -/
def Frontier.markResult (frontier : Frontier) (itemId : String)
    (result : FrontierResult) (retry : Option Nat) : Frontier :=
  if result.success then frontier.markDone itemId
  else
    frontier.markFailed itemId
      (if result.error.getD "" = "" then "crawl failed"
        else result.error.getD "") retry

section Handlers

variable (library : FrontierLibrary)

/-- `_int_config`. -/
def intConfig (config : Dict String Json) (key : String) (default : Int) :
    Int :=
  match config.get? key with
  | some value =>
      if library.truthy value then (library.int value).getD default
      else default
  | none => default

/-- The crawl request of an item, unless its validation raises. -/
def requestFor (sources : Dict String (Dict String Json))
    (item : FrontierItem) : Option FrontierRequest :=
  let config :=
    if item.runId.getD "" = "" then ∅
    else (sources.get? (item.runId.getD "")).getD ∅
  let maxDepth := intConfig library config "max_depth" 2
  let maxUrls := intConfig library config "max_urls" 1000
  let maxTotalBytes := intConfig library config "max_total_bytes" 50000000
  if 1 ≤ item.url.length ∧ item.url.length ≤ 2048 ∧
      0 ≤ maxDepth ∧ maxDepth ≤ 5 ∧ 1 ≤ maxUrls ∧ maxUrls ≤ 5000 ∧
      1024 ≤ maxTotalBytes ∧ maxTotalBytes ≤ 100000000 then
    some
      { maxDepth := maxDepth.toNat
        maxUrls := maxUrls.toNat
        maxTotalBytes := maxTotalBytes.toNat }
  else none

/-- The children of a page. -/
def childBatch (item : FrontierItem) (request : FrontierRequest)
    (links : List String) (newId : Nat → String) (now : Nat) :
    FrontierBatch :=
  { urls := links
    newId := newId
    sourceType := item.sourceType
    competitor := item.competitor
    dimension := item.dimension
    priority := item.priority + 10
    depth := item.depth + 1
    parentId := some item.id
    runId := item.runId
    maxUrls := some request.maxUrls
    now := now }

/-- What a handler does when its item is marked. -/
def phaseAfter (item : FrontierItem) (request : FrontierRequest)
    (result : FrontierResult) : HandlerPhase :=
  match result.success, result.links with
  | true, some links =>
      if item.depth < request.maxDepth then .linking request links
      else .reporting
  | _, _ => .reporting

end Handlers

namespace FrontierState

variable (state : FrontierState)

def handler? (worker : Nat) : Option FrontierHandler :=
  state.handlers.find? (·.worker = worker)

/-- The handler goes on in another phase. -/
def advance (worker : Nat) (phase : HandlerPhase) : FrontierState :=
  { state with
    handlers := state.handlers.map fun handler =>
      if handler.worker = worker then { handler with phase := phase }
      else handler }

/-- The handler ends. -/
def dismiss (worker : Nat) : FrontierState :=
  { state with
    handlers := state.handlers.filter (·.worker ≠ worker) }

/-- The handlers of some items, one worker for each. -/
def handlersFrom (worker : Nat) : List FrontierItem → List FrontierHandler
  | [] => []
  | item :: items =>
      { worker := worker
        item := item } :: handlersFrom (worker + 1) items

/-- A scheduler claims items and starts their handlers. -/
def claim (limit now : Nat) : FrontierState :=
  let claimed := (state.frontier.items.filter fun item =>
    item.id ∈ state.frontier.claimable limit now).map FrontierItem.run
  { state with
    frontier := state.frontier.claimPending limit now
    handlers := state.handlers ++ handlersFrom state.nextWorker claimed
    nextWorker := state.nextWorker + claimed.length }

/-- `delete_source`. -/
def deleteSource (sourceId : String) : FrontierState :=
  { state with
    sources := state.sources.erase sourceId
    frontier := state.frontier.cancelSource sourceId
    deleted := state.deleted ++ [sourceId] }

end FrontierState

/-! ## Steps -/

/-- What happens to the frontier: calls from outside and the calls of the
handlers, any of which may raise. -/
inductive FrontierAction where
  | createSource (sourceId : String) (config : Dict String Json)
  | enqueue (urls : List String) (newId : Nat → String)
      (sourceType : String) (sourceId runId : Option String)
      (priority : Int) (maxUrls : Option Nat) (now : Nat)
  | claim (limit now : Nat)
  | prepare (worker : Nat)
  | fetch (worker : Nat) (result : FrontierResult)
  | mark (worker : Nat) (retry : Option Nat)
  | addChildren (worker : Nat) (newId : Nat → String) (now : Nat)
  | report (worker : Nat)
  | raise (worker : Nat)
  | retryFailed (sourceId : Option String) (now : Nat)
  | deleteSource (sourceId : String)

section Step

variable (library : FrontierLibrary) (state : FrontierState)

/-- A handler builds its request or raises. -/
def prepareStep (handler : FrontierHandler) : Option FrontierState :=
  match handler.phase with
  | .claimed =>
      match requestFor library state.sources handler.item with
      | some request => some (state.advance handler.worker (.fetching request))
      | none => some (state.dismiss handler.worker)
  | _ => none

def fetchStep (handler : FrontierHandler) (result : FrontierResult) :
    Option FrontierState :=
  match handler.phase with
  | .fetching request =>
      some (state.advance handler.worker (.fetched request result))
  | _ => none

/-- A handler marks its item as its result says. -/
def markStep (handler : FrontierHandler) (retry : Option Nat) :
    Option FrontierState :=
  match handler.phase with
  | .fetched request result =>
      some (({ state with
        frontier := state.frontier.markResult handler.item.id result
          retry }).advance handler.worker
            (phaseAfter handler.item request result))
  | _ => none

/-- A handler adds the links of its page or raises. -/
def addChildrenStep (handler : FrontierHandler) (newId : Nat → String)
    (now : Nat) : Option FrontierState :=
  match handler.phase with
  | .linking request links =>
      match addFrontierItems library state.frontier
          (childBatch handler.item request links newId now) with
      | .ok frontier =>
          some (({ state with frontier := frontier }).advance handler.worker
            .reporting)
      | .error _ => some (state.dismiss handler.worker)
  | _ => none

def reportResultStep (handler : FrontierHandler) : Option FrontierState :=
  match handler.phase with
  | .reporting => some (state.dismiss handler.worker)
  | _ => none

def frontierStep : FrontierAction → Option FrontierState
  | .createSource sourceId config =>
      some { state with sources := state.sources.set sourceId config }
  | .enqueue urls newId sourceType sourceId runId priority maxUrls now =>
      match addFrontierItems library state.frontier
          { urls := urls
            newId := newId
            sourceType := sourceType
            sourceId := sourceId
            runId := runId
            priority := priority
            maxUrls := maxUrls
            now := now } with
      | .ok frontier => some { state with frontier := frontier }
      | .error _ => some state
  | .claim limit now => some (state.claim limit now)
  | .prepare worker => state.handler? worker >>= prepareStep library state
  | .fetch worker result =>
      state.handler? worker >>= fun handler => fetchStep state handler result
  | .mark worker retry =>
      state.handler? worker >>= fun handler => markStep state handler retry
  | .addChildren worker newId now =>
      state.handler? worker >>= fun handler =>
        addChildrenStep library state handler newId now
  | .report worker => state.handler? worker >>= reportResultStep state
  | .raise worker =>
      state.handler? worker >>= fun handler =>
        some (state.dismiss handler.worker)
  | .retryFailed sourceId now =>
      some { state with frontier := state.frontier.retryFailed sourceId now }
  | .deleteSource sourceId => some (state.deleteSource sourceId)

end Step

end CompetiScope
