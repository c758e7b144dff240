import CompetiScope.Crawler.Frontier

/-!
# Runs of the crawl frontier

An item that is held is running or cancelled, so no second worker can claim
it.  Marks look neither at the status of their row nor at its source, and
nothing marks the item of a handler that raises.
-/

namespace CompetiScope

open Foundation

/-! ## What a step promises -/

/-- The request of a handler that has one. -/
def FrontierHandler.request (handler : FrontierHandler) :
    Option FrontierRequest :=
  match handler.phase with
  | .fetching request => some request
  | .fetched request _ => some request
  | .linking request _ => some request
  | .claimed => none
  | .reporting => none

/-- The claim of a handler is still running. -/
def FrontierHandler.isRunning (handler : FrontierHandler)
    (frontier : Frontier) : Prop :=
  ∃ item ∈ frontier.items, item.id = handler.item.id ∧
    item.status = .running ∧ item.attempts = handler.item.attempts

instance FrontierHandler.decidableIsRunning (handler : FrontierHandler)
    (frontier : Frontier) : Decidable (handler.isRunning frontier) :=
  inferInstanceAs (Decidable (∃ item ∈ frontier.items, _))

/-- The item was not there before. -/
def IsNew (before : Frontier) (item : FrontierItem) : Prop :=
  item.id ∉ before.items.map (·.id)

/-- A step keeps URLs apart, children one level below their parents and
within the depth of the request, and items with one worker; cancelled items
and deleted sources stay as they are, and the claim of a handler that ends is
not running. -/
structure FrontierKept (before after : FrontierState) : Prop where
  urls : ∀ first ∈ after.frontier.items, ∀ second ∈ after.frontier.items,
    first.canonicalUrl = second.canonicalUrl → first = second
  children : ∀ item ∈ after.frontier.items, ∀ parentId,
    item.parentId = some parentId →
      ∃ parent ∈ after.frontier.items, parent.id = parentId ∧
        item.depth = parent.depth + 1
  depths : ∀ item ∈ after.frontier.items, IsNew before.frontier item →
    ∀ parentId, item.parentId = some parentId →
      ∃ handler ∈ before.handlers, handler.item.id = parentId ∧
        ∃ request ∈ handler.request, item.depth ≤ request.maxDepth
  holders : ∀ first ∈ after.handlers, ∀ second ∈ after.handlers,
    first.holds = true → second.holds = true →
      first.item.id = second.item.id → first = second
  cancelled : ∀ item ∈ before.frontier.items, item.status = .cancelled →
    ∀ later ∈ after.frontier.items, later.id = item.id →
      later.status = .cancelled
  undeleted : ∀ item ∈ after.frontier.items, IsNew before.frontier item →
    item.parentId.isSome = true → ∀ runId ∈ item.runId,
      runId ∉ before.deleted
  left : ∀ handler ∈ before.handlers,
    handler.worker ∉ after.handlers.map (·.worker) →
      ¬ handler.isRunning after.frontier

/-- What a step of the frontier keeps, where it takes one. -/
def StepKept (library : FrontierLibrary) (state : FrontierState)
    (action : FrontierAction) : Prop :=
  ∀ next, frontierStep library state action = some next →
    FrontierKept state next

/-- The item of the handler is not cancelled. -/
def FrontierHandler.isLive (handler : FrontierHandler)
    (frontier : Frontier) : Prop :=
  ∀ item ∈ frontier.items, item.id = handler.item.id →
    item.status ≠ .cancelled

instance FrontierHandler.decidableIsLive (handler : FrontierHandler)
    (frontier : Frontier) : Decidable (handler.isLive frontier) :=
  inferInstanceAs (Decidable (∀ item ∈ frontier.items, _))

/-- The rows a handler would add are there already, if it gets to add any. -/
def NothingNew (library : FrontierLibrary) (frontier : Frontier)
    (batch : FrontierBatch) : Prop :=
  match frontierRows library batch with
  | .ok rows => ∀ row ∈ rows, row.id ∈ frontier.items.map (·.id) ∨
      row.canonicalUrl ∈ frontier.items.map (·.canonicalUrl)
  | .error _ => True

instance (library : FrontierLibrary) (frontier : Frontier)
    (batch : FrontierBatch) : Decidable (NothingNew library frontier batch) :=
  match made : frontierRows library batch with
  | .ok rows => decidable_of_iff
      (∀ row ∈ rows, row.id ∈ frontier.items.map (·.id) ∨
        row.canonicalUrl ∈ frontier.items.map (·.canonicalUrl))
      (by rw [NothingNew, made])
  | .error _ => isTrue (by rw [NothingNew, made]; trivial)

section Guards

variable (library : FrontierLibrary) (state : FrontierState)
  (handler : FrontierHandler)

/-- A handler whose request is not valid raises, and then its claim is not
running. -/
def PrepareGuard : Prop :=
  match handler.phase with
  | .claimed =>
      requestFor library state.sources handler.item = none →
        ¬ handler.isRunning state.frontier
  | _ => True

/-- A handler marks an item that is not cancelled. -/
def MarkGuard : Prop :=
  match handler.phase with
  | .fetched _ _ => handler.isLive state.frontier
  | _ => True

/-- A handler adds children where its source is not deleted. -/
def ChildrenGuard (newId : Nat → String) (now : Nat) : Prop :=
  match handler.phase with
  | .linking request links =>
      (∀ runId ∈ handler.item.runId, runId ∉ state.deleted) ∨
        NothingNew library state.frontier
          (childBatch handler.item request links newId now)
  | _ => True

instance : Decidable (PrepareGuard library state handler) := by
  unfold PrepareGuard
  split <;> infer_instance

instance : Decidable (MarkGuard state handler) := by
  unfold MarkGuard
  split <;> infer_instance

instance (newId : Nat → String) (now : Nat) :
    Decidable (ChildrenGuard library state handler newId now) := by
  unfold ChildrenGuard
  split <;> infer_instance

/-- What a handler's call asks of the state. -/
def FrontierGuard : FrontierAction → Prop
  | .prepare worker => ∀ handler ∈ state.handler? worker,
      PrepareGuard library state handler
  | .mark worker _ => ∀ handler ∈ state.handler? worker,
      MarkGuard state handler
  | .addChildren worker newId now => ∀ handler ∈ state.handler? worker,
      ChildrenGuard library state handler newId now
  | .raise worker => ∀ handler ∈ state.handler? worker,
      ¬ handler.isRunning state.frontier
  | _ => True

instance (action : FrontierAction) :
    Decidable (FrontierGuard library state action) := by
  cases action <;> unfold FrontierGuard <;> infer_instance

end Guards

/-! ## Rewritten tables -/

/-- The same items, each at its depth and under its parent. -/
structure Rewritten (before after : Frontier) : Prop where
  back : ∀ later ∈ after.items, ∃ item ∈ before.items,
    item.id = later.id ∧ item.depth = later.depth ∧
      item.parentId = later.parentId
  forth : ∀ item ∈ before.items, ∃ later ∈ after.items,
    later.id = item.id ∧ later.depth = item.depth

/-- A child is one level below its parent. -/
def ChildrenPlaced (frontier : Frontier) : Prop :=
  ∀ item ∈ frontier.items, ∀ parentId, item.parentId = some parentId →
    ∃ parent ∈ frontier.items, parent.id = parentId ∧
      item.depth = parent.depth + 1

section Rewriting

variable {before after : Frontier}

theorem eq_of_itemId {frontier : Frontier} {first second : FrontierItem}
    (firstMember : first ∈ frontier.items)
    (secondMember : second ∈ frontier.items) (same : first.id = second.id) :
    first = second :=
  List.inj_on_of_nodup_map frontier.ids firstMember secondMember same

theorem eq_of_canonicalUrl {frontier : Frontier}
    {first second : FrontierItem} (firstMember : first ∈ frontier.items)
    (secondMember : second ∈ frontier.items)
    (same : first.canonicalUrl = second.canonicalUrl) : first = second :=
  List.inj_on_of_nodup_map frontier.urls firstMember secondMember same

theorem Rewritten.refl (frontier : Frontier) : Rewritten frontier frontier :=
  ⟨fun later member => ⟨later, member, rfl, rfl, rfl⟩,
    fun item member => ⟨item, member, rfl, rfl⟩⟩

theorem Rewritten.update {selects : FrontierItem → Bool}
    {write : FrontierItem → FrontierItem}
    {ids : ∀ item, (write item).id = item.id}
    {urls : ∀ item, (write item).canonicalUrl = item.canonicalUrl}
    (depths : ∀ item, (write item).depth = item.depth)
    (parents : ∀ item, (write item).parentId = item.parentId) :
    Rewritten before (before.update selects write ids urls) := by
  constructor
  case back =>
    intro later member
    rcases mem_updateRows.mp member with ⟨item, inBefore, -, rfl⟩ |
      ⟨inBefore, -⟩
    · exact ⟨item, inBefore, (ids item).symm, (depths item).symm,
        (parents item).symm⟩
    · exact ⟨later, inBefore, rfl, rfl, rfl⟩
  case forth =>
    intro item member
    by_cases selected : selects item = true
    · exact ⟨write item, mem_updateRows.mpr (.inl ⟨item, member, selected,
        rfl⟩), ids item, depths item⟩
    · exact ⟨item, mem_updateRows.mpr (.inr ⟨member,
        Bool.eq_false_iff.mpr selected⟩), rfl, rfl⟩

theorem rewritten_claimPending (limit now : Nat) :
    Rewritten before (before.claimPending limit now) := by
  unfold Frontier.claimPending
  exact Rewritten.update (fun _ => rfl) fun _ => rfl

theorem rewritten_retryFailed (sourceId : Option String) (now : Nat) :
    Rewritten before (before.retryFailed sourceId now) := by
  unfold Frontier.retryFailed
  exact Rewritten.update (fun _ => rfl) fun _ => rfl

theorem rewritten_cancelSource (sourceId : String) :
    Rewritten before (before.cancelSource sourceId) := by
  unfold Frontier.cancelSource
  exact Rewritten.update (fun _ => rfl) fun _ => rfl

theorem ChildrenPlaced.rewritten (placed : ChildrenPlaced before)
    (rewritten : Rewritten before after) : ChildrenPlaced after := by
  intro later member parentId isParent
  obtain ⟨item, inBefore, -, depth, parent⟩ := rewritten.back later member
  obtain ⟨above, aboveMember, aboveId, below⟩ := placed item inBefore parentId
    (parent.trans isParent)
  obtain ⟨laterAbove, laterMember, sameId, sameDepth⟩ :=
    rewritten.forth above aboveMember
  refine ⟨laterAbove, laterMember, sameId.trans aboveId, ?_⟩
  rw [← depth, below, sameDepth]

theorem Rewritten.not_isNew (rewritten : Rewritten before after)
    {later : FrontierItem} (member : later ∈ after.items) :
    ¬ IsNew before later := by
  obtain ⟨item, inBefore, sameId, -⟩ := rewritten.back later member
  intro isNew
  apply isNew
  rw [← sameId]
  exact List.mem_map_of_mem inBefore

end Rewriting

/-! ## What holds in every state -/

/-- The row of a handler's item: a claim that is held is running or cancelled,
and one that is released does not run. -/
structure HandlerFits (item : FrontierItem) (handler : FrontierHandler) :
    Prop where
  id : item.id = handler.item.id
  depth : item.depth = handler.item.depth
  attempts : handler.item.attempts ≤ item.attempts
  held : handler.holds = true →
    item.attempts = handler.item.attempts ∧
      (item.status = .running ∨ item.status = .cancelled)
  released : handler.holds = false →
    item.attempts = handler.item.attempts → item.status ≠ .running

def HandlersFit (frontier : Frontier) (handlers : List FrontierHandler) :
    Prop :=
  ∀ handler ∈ handlers, ∃ item ∈ frontier.items, HandlerFits item handler

/-- An item is held by one handler at most. -/
def HoldersApart (handlers : List FrontierHandler) : Prop :=
  ∀ first ∈ handlers, ∀ second ∈ handlers,
    first.holds = true → second.holds = true →
      first.item.id = second.item.id → first = second

structure FrontierInvariant (state : FrontierState) : Prop where
  workers : (state.handlers.map (·.worker)).Nodup
  fresh : ∀ handler ∈ state.handlers, handler.worker < state.nextWorker
  fits : HandlersFit state.frontier state.handlers
  holders : HoldersApart state.handlers
  placed : ChildrenPlaced state.frontier
  linking : ∀ handler ∈ state.handlers, ∀ request links,
    handler.phase = .linking request links →
      handler.item.depth < request.maxDepth

section Fits

variable {frontier : Frontier} {handlers : List FrontierHandler}
  {item : FrontierItem} {handler : FrontierHandler}

/-- The row of a handler is the one it fits. -/
theorem HandlersFit.fits (fit : HandlersFit frontier handlers)
    (member : handler ∈ handlers) (inItems : item ∈ frontier.items)
    (same : item.id = handler.item.id) : HandlerFits item handler := by
  obtain ⟨row, rowMember, fits⟩ := fit handler member
  rw [eq_of_itemId inItems rowMember (same.trans fits.id.symm)]
  exact fits

theorem HandlersFit.subset {fewer : List FrontierHandler}
    (fit : HandlersFit frontier handlers) (subset : fewer ⊆ handlers) :
    HandlersFit frontier fewer :=
  fun handler member => fit handler (subset member)

theorem HoldersApart.subset {fewer : List FrontierHandler}
    (apart : HoldersApart handlers) (subset : fewer ⊆ handlers) :
    HoldersApart fewer :=
  fun first firstMember second secondMember =>
    apart first (subset firstMember) second (subset secondMember)

/-- An update that keeps the fit of the rows it writes keeps all fits. -/
theorem HandlersFit.update (fit : HandlersFit frontier handlers)
    {selects : FrontierItem → Bool} {write : FrontierItem → FrontierItem}
    {ids : ∀ item, (write item).id = item.id}
    {urls : ∀ item, (write item).canonicalUrl = item.canonicalUrl}
    (kept : ∀ item ∈ frontier.items, ∀ handler ∈ handlers,
      selects item = true → HandlerFits item handler →
        HandlerFits (write item) handler) :
    HandlersFit (frontier.update selects write ids urls) handlers := by
  intro handler member
  obtain ⟨item, inItems, fits⟩ := fit handler member
  by_cases selected : selects item = true
  · exact ⟨write item, mem_updateRows.mpr (.inl ⟨item, inItems, selected,
      rfl⟩), kept item inItems handler member selected fits⟩
  · exact ⟨item, mem_updateRows.mpr (.inr ⟨inItems,
      Bool.eq_false_iff.mpr selected⟩), fits⟩

/-- Who fits a row that is neither running nor cancelled has released it. -/
theorem HandlerFits.released_of_status (fits : HandlerFits item handler)
    (notRunning : item.status ≠ .running)
    (notCancelled : item.status ≠ .cancelled) : handler.holds = false := by
  by_contra holds
  rcases (fits.held (Bool.not_eq_false _ |>.mp holds)).2 with running |
    cancelled
  · exact notRunning running
  · exact notCancelled cancelled

/-- A released row may be written to anything that does not run. -/
theorem HandlerFits.of_released (fits : HandlerFits item handler)
    (released : handler.holds = false) {written : FrontierItem}
    (id : written.id = item.id) (depth : written.depth = item.depth)
    (attempts : written.attempts = item.attempts)
    (status : written.status ≠ .running) : HandlerFits written handler where
  id := id.trans fits.id
  depth := depth.trans fits.depth
  attempts := by
    rw [attempts]
    exact fits.attempts
  held := fun holds => by
    rw [released] at holds
    cases holds
  released := fun _ _ => status

theorem HandlerFits.cancel (fits : HandlerFits item handler) :
    HandlerFits item.cancel handler where
  id := fits.id
  depth := fits.depth
  attempts := fits.attempts
  held := fun holds => ⟨(fits.held holds).1, .inr rfl⟩
  released := fun _ _ running => nomatch running

/-- A claim of a pending row leaves those who released it alone. -/
theorem HandlerFits.run (fits : HandlerFits item handler)
    (pending : item.status = .pending) : HandlerFits item.run handler := by
  have released : handler.holds = false := by
    apply fits.released_of_status
    · rw [pending]
      exact fun same => nomatch same
    · rw [pending]
      exact fun same => nomatch same
  constructor
  case id => exact fits.id
  case depth => exact fits.depth
  case attempts => exact Nat.le_succ_of_le fits.attempts
  case held =>
    intro holds
    rw [released] at holds
    cases holds
  case released =>
    intro _ same
    have before := fits.attempts
    dsimp only [FrontierItem.run] at same
    omega

end Fits

/-! ## Added items -/

section Added

variable {library : FrontierLibrary} {frontier next : Frontier}
  {batch : FrontierBatch}

theorem mem_insertOrIgnore {item row : FrontierItem}
    (member : item ∈ (frontier.insertOrIgnore row).items) :
    item ∈ frontier.items ∨ item = row ∧ IsNew frontier item := by
  unfold Frontier.insertOrIgnore at member
  split at member
  · next fresh =>
    rcases List.mem_append.mp member with old | new
    · exact .inl old
    · cases List.mem_singleton.mp new
      exact .inr ⟨rfl, fresh.1⟩
  · exact .inl member

theorem subset_insertOrIgnore (row : FrontierItem) :
    frontier.items ⊆ (frontier.insertOrIgnore row).items := by
  unfold Frontier.insertOrIgnore
  split
  · exact List.subset_append_left _ _
  · exact List.Subset.refl _

theorem subset_insertAll (rows : List FrontierItem) :
    frontier.items ⊆ (rows.foldl Frontier.insertOrIgnore frontier).items := by
  induction rows generalizing frontier with
  | nil => exact List.Subset.refl _
  | cons row rows induction =>
      exact List.Subset.trans (subset_insertOrIgnore row) induction

/-- What is inserted is one of the rows and has an id of its own. -/
theorem mem_insertAll {rows : List FrontierItem} {item : FrontierItem}
    (member : item ∈ (rows.foldl Frontier.insertOrIgnore frontier).items) :
    item ∈ frontier.items ∨ item ∈ rows ∧ IsNew frontier item := by
  induction rows generalizing frontier with
  | nil => exact .inl member
  | cons row rows induction =>
      rcases induction member with inFirst | ⟨later, isNew⟩
      · rcases mem_insertOrIgnore inFirst with old | ⟨rfl, isNew⟩
        · exact .inl old
        · exact .inr ⟨List.mem_cons_self, isNew⟩
      · refine .inr ⟨List.mem_cons_of_mem _ later, fun isOld => isNew ?_⟩
        exact List.map_subset _ (subset_insertOrIgnore row) isOld

/-- A row with a new id and a new URL leads to an insertion. -/
theorem exists_inserted {rows : List FrontierItem} {row : FrontierItem}
    (member : row ∈ rows) (isNew : IsNew frontier row)
    (newUrl : row.canonicalUrl ∉ frontier.items.map (·.canonicalUrl)) :
    ∃ item ∈ (rows.foldl Frontier.insertOrIgnore frontier).items,
      item ∈ rows ∧ IsNew frontier item := by
  induction rows generalizing frontier with
  | nil => cases member
  | cons first rows induction =>
      by_cases fresh : first.id ∉ frontier.items.map (·.id) ∧
          first.canonicalUrl ∉ frontier.items.map (·.canonicalUrl)
      · refine ⟨first, subset_insertAll rows ?_, List.mem_cons_self, fresh.1⟩
        rw [Frontier.insertOrIgnore, dif_pos fresh]
        exact List.mem_append_right _ (List.mem_singleton_self _)
      · rcases List.mem_cons.mp member with rfl | later
        · exact (fresh ⟨isNew, newUrl⟩).elim
        · rw [List.foldl_cons, Frontier.insertOrIgnore, dif_neg fresh]
          obtain ⟨item, inAll, inRows, itemNew⟩ := induction later isNew newUrl
          exact ⟨item, inAll, List.mem_cons_of_mem _ inRows, itemNew⟩

theorem mem_frontierRowsFrom {urls : List String} {index : Nat}
    {rows : List FrontierItem} {row : FrontierItem}
    (made : frontierRowsFrom library batch index urls = .ok rows)
    (member : row ∈ rows) :
    ∃ index url canonicalUrl, row = batch.row index url canonicalUrl := by
  induction urls generalizing index rows with
  | nil =>
      cases made
      cases member
  | cons url urls induction =>
      unfold frontierRowsFrom at made
      split at made
      · cases made
      · next canonicalUrl _ =>
        split at made
        · cases made
        · next rest madeRest =>
          cases made
          split at member
          · exact induction madeRest member
          · rcases List.mem_cons.mp member with rfl | later
            · exact ⟨index, url, canonicalUrl, rfl⟩
            · exact induction madeRest later

theorem mem_frontierRows {rows : List FrontierItem} {row : FrontierItem}
    (made : frontierRows library batch = .ok rows) (member : row ∈ rows) :
    ∃ index url canonicalUrl, row = batch.row index url canonicalUrl :=
  mem_frontierRowsFrom made member

/-- The items that are there and the new rows of the batch. -/
structure Added (batch : FrontierBatch) (before after : Frontier) :
    Prop where
  subset : before.items ⊆ after.items
  rows : ∀ item ∈ after.items, item ∈ before.items ∨
    IsNew before item ∧
      ∃ index url canonicalUrl, item = batch.row index url canonicalUrl

theorem addFrontierItems_eq_ok
    (added : addFrontierItems library frontier batch = .ok next) :
    ∃ rows, frontierRows library batch = .ok rows ∧
      next = rows.foldl Frontier.insertOrIgnore frontier ∧
      Added batch frontier next := by
  unfold addFrontierItems at added
  split at added
  · cases added
  · next rows made =>
    cases added
    refine ⟨rows, made, rfl, subset_insertAll rows, ?_⟩
    intro item member
    rcases mem_insertAll member with old | ⟨inRows, isNew⟩
    · exact .inl old
    · exact .inr ⟨isNew, mem_frontierRows made inRows⟩

/-- No row is new where a URL cannot be parsed. -/
theorem nothingNew_of_error {message : String}
    (failed : addFrontierItems library frontier batch = .error message) :
    NothingNew library frontier batch := by
  unfold addFrontierItems at failed
  unfold NothingNew
  cases made : frontierRows library batch with
  | error _ => trivial
  | ok rows =>
      rw [made] at failed
      cases failed

theorem HandlersFit.added {handlers : List FrontierHandler}
    (fit : HandlersFit frontier handlers) (added : Added batch frontier next) :
    HandlersFit next handlers := by
  intro handler member
  obtain ⟨item, inItems, fits⟩ := fit handler member
  exact ⟨item, added.subset inItems, fits⟩

/-- New items are placed below a parent that is there, if they have one. -/
theorem ChildrenPlaced.added (placed : ChildrenPlaced frontier)
    (added : Added batch frontier next)
    (parents : ∀ parentId, batch.parentId = some parentId →
      ∃ parent ∈ frontier.items, parent.id = parentId ∧
        batch.depth = parent.depth + 1) : ChildrenPlaced next := by
  intro item member parentId isParent
  rcases added.rows item member with old | ⟨-, index, url, canonicalUrl, rfl⟩
  · obtain ⟨parent, inItems, below⟩ := placed item old parentId isParent
    exact ⟨parent, added.subset inItems, below⟩
  · obtain ⟨parent, inItems, below⟩ := parents parentId isParent
    exact ⟨parent, added.subset inItems, below⟩

end Added

/-! ## What a step keeps -/

section Keeps

variable {before after : FrontierState}

/-- A step that rewrites the table keeps what it leaves cancelled. -/
theorem kept_of_rewritten
    (rewritten : Rewritten before.frontier after.frontier)
    (placed : ChildrenPlaced after.frontier)
    (apart : HoldersApart after.handlers)
    (cancelled : ∀ item ∈ before.frontier.items, item.status = .cancelled →
      ∀ later ∈ after.frontier.items, later.id = item.id →
        later.status = .cancelled)
    (left : ∀ handler ∈ before.handlers,
      handler.worker ∉ after.handlers.map (·.worker) →
        ¬ handler.isRunning after.frontier) : FrontierKept before after where
  urls := fun _ firstMember _ => eq_of_canonicalUrl firstMember
  children := placed
  depths := fun _ member isNew => (rewritten.not_isNew member isNew).elim
  holders := apart
  cancelled := cancelled
  undeleted := fun _ member isNew => (rewritten.not_isNew member isNew).elim
  left := left

/-- A step that leaves the table alone keeps it. -/
theorem kept_of_sameFrontier (same : after.frontier = before.frontier)
    (placed : ChildrenPlaced before.frontier)
    (apart : HoldersApart after.handlers)
    (left : ∀ handler ∈ before.handlers,
      handler.worker ∉ after.handlers.map (·.worker) →
        ¬ handler.isRunning before.frontier) : FrontierKept before after := by
  apply kept_of_rewritten
  · rw [same]
    exact Rewritten.refl _
  · rw [same]
    exact placed
  · exact apart
  · intro item member isCancelled later laterMember sameId
    rw [same] at laterMember
    rw [eq_of_itemId laterMember member sameId]
    exact isCancelled
  · rw [same]
    exact left

/-- An update keeps what is cancelled if its writes do. -/
theorem cancelled_update {frontier next : Frontier}
    {selects : FrontierItem → Bool} {write : FrontierItem → FrontierItem}
    (rows : next.items = updateRows selects write frontier.items)
    (ids : ∀ item, (write item).id = item.id)
    (kept : ∀ item ∈ frontier.items, item.status = .cancelled →
      selects item = true → (write item).status = .cancelled) :
    ∀ item ∈ frontier.items, item.status = .cancelled →
      ∀ later ∈ next.items, later.id = item.id →
        later.status = .cancelled := by
  intro item member isCancelled later laterMember sameId
  rw [rows] at laterMember
  rcases mem_updateRows.mp laterMember with ⟨old, oldMember, selected, rfl⟩ |
    ⟨oldMember, -⟩
  · rw [ids] at sameId
    rw [eq_of_itemId oldMember member sameId] at selected ⊢
    exact kept item member isCancelled selected
  · rw [eq_of_itemId oldMember member sameId]
    exact isCancelled

end Keeps

section Handlers

variable {state : FrontierState} {handler : FrontierHandler}

theorem handler?_eq_some {worker : Nat}
    (found : state.handler? worker = some handler) :
    handler ∈ state.handlers ∧ handler.worker = worker := by
  refine ⟨List.mem_of_find?_eq_some found, ?_⟩
  simpa using List.find?_some found

theorem FrontierInvariant.eq_of_worker (invariant : FrontierInvariant state)
    {first second : FrontierHandler} (firstMember : first ∈ state.handlers)
    (secondMember : second ∈ state.handlers)
    (same : first.worker = second.worker) : first = second :=
  List.inj_on_of_nodup_map invariant.workers firstMember secondMember same

theorem workers_advance (worker : Nat) (phase : HandlerPhase) :
    (state.advance worker phase).handlers.map (·.worker) =
      state.handlers.map (·.worker) := by
  rw [FrontierState.advance, List.map_map]
  apply List.map_congr_left
  intro other _
  rw [Function.comp_apply]
  split
  · rfl
  · rfl

/-- The handlers after one of them went on. -/
theorem FrontierInvariant.mem_advance (invariant : FrontierInvariant state)
    (member : handler ∈ state.handlers) {phase : HandlerPhase}
    {later : FrontierHandler}
    (laterMember : later ∈ (state.advance handler.worker phase).handlers) :
    later = { handler with phase := phase } ∨
      later ∈ state.handlers ∧ later ≠ handler := by
  obtain ⟨old, oldMember, rfl⟩ := List.mem_map.mp laterMember
  by_cases same : old.worker = handler.worker
  · rw [if_pos same, invariant.eq_of_worker oldMember member same]
    exact .inl rfl
  · rw [if_neg same]
    refine .inr ⟨oldMember, fun isHandler => same ?_⟩
    rw [isHandler]

/-- No handler ends where one goes on. -/
theorem left_advance {frontier : Frontier} (worker : Nat)
    (phase : HandlerPhase) :
    ∀ other ∈ state.handlers,
      other.worker ∉ (state.advance worker phase).handlers.map (·.worker) →
        ¬ other.isRunning frontier := by
  intro other member ended
  rw [workers_advance] at ended
  exact (ended (List.mem_map_of_mem member)).elim

theorem subset_dismiss (worker : Nat) :
    (state.dismiss worker).handlers ⊆ state.handlers :=
  fun _ member => List.mem_of_mem_filter member

/-- Holders stay apart when one of them goes on or releases its item. -/
theorem FrontierInvariant.holders_advance
    (invariant : FrontierInvariant state)
    (member : handler ∈ state.handlers) {phase : HandlerPhase}
    (holds : ({ handler with phase := phase } : FrontierHandler).holds =
      true → handler.holds = true) :
    HoldersApart (state.advance handler.worker phase).handlers := by
  intro first firstMember second secondMember firstHolds secondHolds same
  rcases invariant.mem_advance member firstMember with rfl |
    ⟨firstOld, firstOther⟩
  · rcases invariant.mem_advance member secondMember with rfl |
      ⟨secondOld, secondOther⟩
    · rfl
    · exact (secondOther (invariant.holders second secondOld handler member
        secondHolds (holds firstHolds) same.symm)).elim
  · rcases invariant.mem_advance member secondMember with rfl |
      ⟨secondOld, secondOther⟩
    · exact (firstOther (invariant.holders first firstOld handler member
        firstHolds (holds secondHolds) same)).elim
    · exact invariant.holders first firstOld second secondOld firstHolds
        secondHolds same

/-- A handler that goes on fits its row as it did, whether or not it holds the
item still. -/
theorem FrontierInvariant.advance (invariant : FrontierInvariant state)
    (member : handler ∈ state.handlers) {phase : HandlerPhase}
    (holds : ({ handler with phase := phase } : FrontierHandler).holds =
      handler.holds)
    (linking : ∀ request links, phase = .linking request links →
      handler.item.depth < request.maxDepth) :
    FrontierInvariant (state.advance handler.worker phase) := by
  constructor
  case workers =>
    rw [workers_advance]
    exact invariant.workers
  case fresh =>
    intro later laterMember
    rcases invariant.mem_advance member laterMember with rfl | ⟨old, -⟩
    · exact invariant.fresh handler member
    · exact invariant.fresh later old
  case fits =>
    intro later laterMember
    rcases invariant.mem_advance member laterMember with rfl | ⟨old, -⟩
    · obtain ⟨item, inItems, fits⟩ := invariant.fits handler member
      refine ⟨item, inItems, fits.id, fits.depth, fits.attempts, ?_, ?_⟩
      · rw [holds]
        exact fits.held
      · rw [holds]
        exact fits.released
    · exact invariant.fits later old
  case holders =>
    apply invariant.holders_advance member
    rw [holds]
    exact id
  case placed => exact invariant.placed
  case linking =>
    intro later laterMember request links isLinking
    rcases invariant.mem_advance member laterMember with rfl | ⟨old, -⟩
    · exact linking request links isLinking
    · exact invariant.linking later old request links isLinking

theorem FrontierInvariant.dismiss (invariant : FrontierInvariant state)
    (worker : Nat) : FrontierInvariant (state.dismiss worker) where
  workers := invariant.workers.sublist
    (List.Sublist.map _ List.filter_sublist)
  fresh := fun handler member =>
    invariant.fresh handler (subset_dismiss worker member)
  fits := invariant.fits.subset (subset_dismiss worker)
  holders := invariant.holders.subset (subset_dismiss worker)
  placed := invariant.placed
  linking := fun handler member =>
    invariant.linking handler (subset_dismiss worker member)

/-- A handler may end when its claim is not running, and only then. -/
theorem FrontierInvariant.kept_dismiss_iff
    (invariant : FrontierInvariant state)
    (member : handler ∈ state.handlers) :
    FrontierKept state (state.dismiss handler.worker) ↔
      ¬ handler.isRunning state.frontier := by
  constructor
  · intro kept
    apply kept.left handler member
    intro present
    obtain ⟨other, otherMember, same⟩ := List.mem_map.mp present
    exact of_decide_eq_true (List.mem_filter.mp otherMember).2 same
  · intro stopped
    have same : (state.dismiss handler.worker).frontier = state.frontier :=
      rfl
    apply kept_of_sameFrontier same invariant.placed
      (invariant.dismiss handler.worker).holders
    intro other otherMember ended
    by_cases same : other.worker = handler.worker
    · rw [invariant.eq_of_worker otherMember member same]
      exact stopped
    · have present : other ∈ (state.dismiss handler.worker).handlers :=
        List.mem_filter.mpr ⟨otherMember, decide_eq_true same⟩
      exact (ended (List.mem_map_of_mem present)).elim

/-- A claim that was released is not running. -/
theorem FrontierInvariant.not_isRunning (invariant : FrontierInvariant state)
    (member : handler ∈ state.handlers) (released : handler.holds = false) :
    ¬ handler.isRunning state.frontier := by
  rintro ⟨item, inItems, same, running, attempts⟩
  have fits := invariant.fits.fits member inItems same
  exact fits.released released attempts running

end Handlers

/-! ## Claims -/

section Claims

variable {state : FrontierState}

theorem mem_handlersFrom {handler : FrontierHandler} :
    ∀ {items : List FrontierItem} {worker : Nat},
      handler ∈ FrontierState.handlersFrom worker items →
        worker ≤ handler.worker ∧ handler.worker < worker + items.length ∧
          handler.item ∈ items ∧ handler.phase = .claimed := by
  intro items
  induction items with
  | nil => exact fun member => nomatch member
  | cons item items induction =>
      intro worker member
      rcases List.mem_cons.mp member with rfl | later
      · refine ⟨Nat.le_refl _, ?_, List.mem_cons_self, rfl⟩
        exact Nat.lt_add_of_pos_right (Nat.succ_pos items.length)
      · obtain ⟨above, below, inItems, claimed⟩ := induction later
        refine ⟨by omega, ?_, List.mem_cons_of_mem _ inItems, claimed⟩
        rw [List.length_cons]
        omega

theorem workers_handlersFrom : ∀ (items : List FrontierItem) (worker : Nat),
    ((FrontierState.handlersFrom worker items).map (·.worker)).Nodup := by
  intro items
  induction items with
  | nil => exact fun _ => List.nodup_nil
  | cons item items induction =>
      intro worker
      refine List.nodup_cons.mpr ⟨?_, induction (worker + 1)⟩
      intro member
      obtain ⟨handler, isHandler, same⟩ := List.mem_map.mp member
      have above := (mem_handlersFrom isHandler).1
      dsimp only at same
      omega

/-- Items with different ids get handlers with different ids. -/
theorem eq_of_handlersFrom {items : List FrontierItem} :
    ∀ {worker : Nat}, (items.map (·.id)).Nodup →
      ∀ first ∈ FrontierState.handlersFrom worker items,
        ∀ second ∈ FrontierState.handlersFrom worker items,
          first.item.id = second.item.id → first = second := by
  induction items with
  | nil => exact fun _ _ member => nomatch member
  | cons item items induction =>
      intro worker nodup first firstMember second secondMember same
      obtain ⟨notLater, later⟩ := List.nodup_cons.mp nodup
      rcases List.mem_cons.mp firstMember with rfl | firstLater
      · rcases List.mem_cons.mp secondMember with rfl | secondLater
        · rfl
        · have inIds := List.mem_map_of_mem (f := (·.id))
            (mem_handlersFrom secondLater).2.2.1
          rw [← same] at inIds
          exact (notLater inIds).elim
      · rcases List.mem_cons.mp secondMember with rfl | secondLater
        · have inIds := List.mem_map_of_mem (f := (·.id))
            (mem_handlersFrom firstLater).2.2.1
          rw [same] at inIds
          exact (notLater inIds).elim
        · exact induction later first firstLater second secondLater same

/-- Only pending items are claimed. -/
theorem pending_of_claimable {frontier : Frontier} {limit now : Nat}
    {item : FrontierItem} (member : item ∈ frontier.items)
    (claimable : item.id ∈ frontier.claimable limit now) :
    item.status = .pending := by
  obtain ⟨other, taken, same⟩ := List.mem_map.mp claimable
  have selected := List.mem_insertionSort _ |>.mp (List.mem_of_mem_take taken)
  obtain ⟨otherMember, isPending⟩ := List.mem_filter.mp selected
  rw [eq_of_itemId otherMember member same, Bool.and_eq_true] at isPending
  exact of_decide_eq_true isPending.1

/-- The items a claim returns. -/
def claimedItems (frontier : Frontier) (limit now : Nat) :
    List FrontierItem :=
  (frontier.items.filter fun item =>
    item.id ∈ frontier.claimable limit now).map FrontierItem.run

theorem mem_claimedItems {frontier : Frontier} {limit now : Nat}
    {claimed : FrontierItem}
    (member : claimed ∈ claimedItems frontier limit now) :
    ∃ item ∈ frontier.items, item.id ∈ frontier.claimable limit now ∧
      item.status = .pending ∧ claimed = item.run ∧
      claimed ∈ (frontier.claimPending limit now).items := by
  obtain ⟨item, selected, rfl⟩ := List.mem_map.mp member
  obtain ⟨inItems, isClaimable⟩ := List.mem_filter.mp selected
  have claimable := of_decide_eq_true isClaimable
  exact ⟨item, inItems, claimable, pending_of_claimable inItems claimable,
    rfl, mem_updateRows.mpr (.inl ⟨item, inItems, isClaimable, rfl⟩)⟩

theorem ids_claimedItems (frontier : Frontier) (limit now : Nat) :
    ((claimedItems frontier limit now).map (·.id)).Nodup := by
  rw [claimedItems, List.map_map]
  exact frontier.ids.sublist (List.Sublist.map _ List.filter_sublist)

/-- A claim starts handlers that hold items no other handler holds. -/
theorem FrontierInvariant.claim (invariant : FrontierInvariant state)
    (limit now : Nat) : FrontierInvariant (state.claim limit now) := by
  have claimed : state.claim limit now =
      { state with
        frontier := state.frontier.claimPending limit now
        handlers := state.handlers ++ FrontierState.handlersFrom
          state.nextWorker (claimedItems state.frontier limit now)
        nextWorker := state.nextWorker +
          (claimedItems state.frontier limit now).length } := rfl
  have fits : HandlersFit (state.frontier.claimPending limit now)
      state.handlers := by
    apply invariant.fits.update
    intro item inItems handler _ selected itemFits
    exact itemFits.run (pending_of_claimable inItems
      (of_decide_eq_true selected))
  have notHeld : ∀ old ∈ state.handlers, old.holds = true →
      ∀ handler ∈ FrontierState.handlersFrom state.nextWorker
        (claimedItems state.frontier limit now),
        old.item.id ≠ handler.item.id := by
    intro old member holds handler isNew same
    obtain ⟨item, inItems, -, pending, isRun, -⟩ :=
      mem_claimedItems (mem_handlersFrom isNew).2.2.1
    have oldFits := invariant.fits.fits member inItems
      (by rw [same, isRun]; rfl)
    have released := oldFits.released_of_status
      (by rw [pending]; exact fun isStatus => nomatch isStatus)
      (by rw [pending]; exact fun isStatus => nomatch isStatus)
    rw [released] at holds
    cases holds
  rw [claimed]
  constructor
  case workers =>
    dsimp only
    rw [List.map_append]
    refine invariant.workers.append (workers_handlersFrom _ _) ?_
    intro worker inOld inNew
    obtain ⟨old, oldMember, rfl⟩ := List.mem_map.mp inOld
    obtain ⟨handler, isNew, same⟩ := List.mem_map.mp inNew
    have below := invariant.fresh old oldMember
    have above := (mem_handlersFrom isNew).1
    omega
  case fresh =>
    intro handler member
    rcases List.mem_append.mp member with old | isNew
    · exact Nat.lt_add_right _ (invariant.fresh handler old)
    · exact (mem_handlersFrom isNew).2.1
  case fits =>
    intro handler member
    rcases List.mem_append.mp member with old | isNew
    · exact fits handler old
    · obtain ⟨-, -, inClaimed, isClaimed⟩ := mem_handlersFrom isNew
      obtain ⟨item, -, -, -, isRun, inTable⟩ := mem_claimedItems inClaimed
      refine ⟨handler.item, inTable, rfl, rfl, Nat.le_refl _, ?_, ?_⟩
      · intro _
        refine ⟨rfl, .inl ?_⟩
        rw [isRun]
        rfl
      · intro released
        rw [FrontierHandler.holds, isClaimed] at released
        cases released
  case holders =>
    intro first firstMember second secondMember firstHolds secondHolds same
    rcases List.mem_append.mp firstMember with firstOld | firstNew
    · rcases List.mem_append.mp secondMember with secondOld | secondNew
      · exact invariant.holders first firstOld second secondOld firstHolds
          secondHolds same
      · exact (notHeld first firstOld firstHolds second secondNew same).elim
    · rcases List.mem_append.mp secondMember with secondOld | secondNew
      · exact (notHeld second secondOld secondHolds first firstNew
          same.symm).elim
      · exact eq_of_handlersFrom (ids_claimedItems _ _ _) first firstNew
          second secondNew same
  case placed =>
    exact invariant.placed.rewritten (rewritten_claimPending limit now)
  case linking =>
    intro handler member request links isLinking
    rcases List.mem_append.mp member with old | isNew
    · exact invariant.linking handler old request links isLinking
    · rw [(mem_handlersFrom isNew).2.2.2] at isLinking
      cases isLinking

theorem FrontierInvariant.kept_claim (invariant : FrontierInvariant state)
    (limit now : Nat) : FrontierKept state (state.claim limit now) := by
  apply kept_of_rewritten
  · exact rewritten_claimPending limit now
  · exact (invariant.claim limit now).placed
  · exact (invariant.claim limit now).holders
  · have rows : (state.claim limit now).frontier.items = updateRows
        (fun item => item.id ∈ state.frontier.claimable limit now)
        FrontierItem.run state.frontier.items := rfl
    apply cancelled_update rows fun _ => rfl
    intro item inItems isCancelled selected
    have pending := pending_of_claimable inItems (of_decide_eq_true selected)
    rw [isCancelled] at pending
    cases pending
  · intro handler member ended
    refine (ended ?_).elim
    exact List.mem_map_of_mem (List.mem_append_left _ member)

end Claims

/-! ## Marks -/

/-- A write that ends a claim. -/
structure Marks (write : FrontierItem → FrontierItem) : Prop where
  id : ∀ item, (write item).id = item.id
  depth : ∀ item, (write item).depth = item.depth
  parent : ∀ item, (write item).parentId = item.parentId
  attempts : ∀ item, (write item).attempts = item.attempts
  stopped : ∀ item, (write item).status ≠ .running
  live : ∀ item, (write item).status ≠ .cancelled

/-- A mark is such a write on the row of the item. -/
theorem markResult_items (frontier : Frontier) (itemId : String)
    (result : FrontierResult) (retry : Option Nat) :
    ∃ write, Marks write ∧
      (frontier.markResult itemId result retry).items =
        updateRows (fun item => item.id = itemId) write frontier.items := by
  unfold Frontier.markResult
  split
  · refine ⟨FrontierItem.finish, ?_, rfl⟩
    constructor
    case stopped => exact fun _ same => nomatch same
    case live => exact fun _ same => nomatch same
    all_goals exact fun _ => rfl
  · unfold Frontier.markFailed
    split
    · next nextRunAt =>
      refine ⟨FrontierItem.requeue nextRunAt (some _), ?_, rfl⟩
      constructor
      case stopped => exact fun _ same => nomatch same
      case live => exact fun _ same => nomatch same
      all_goals exact fun _ => rfl
    · refine ⟨FrontierItem.fail _, ?_, rfl⟩
      constructor
      case stopped => exact fun _ same => nomatch same
      case live => exact fun _ same => nomatch same
      all_goals exact fun _ => rfl

section MarkSteps

variable {state : FrontierState} {handler : FrontierHandler}
  {marked : Frontier} {write : FrontierItem → FrontierItem}
  {phase : HandlerPhase}

theorem Marks.rewritten (marks : Marks write)
    (rows : marked.items = updateRows
      (fun item => item.id = handler.item.id) write state.frontier.items) :
    Rewritten state.frontier marked := by
  constructor
  case back =>
    intro later member
    rw [rows] at member
    rcases mem_updateRows.mp member with ⟨item, inBefore, -, rfl⟩ |
      ⟨inBefore, -⟩
    · exact ⟨item, inBefore, (marks.id item).symm, (marks.depth item).symm,
        (marks.parent item).symm⟩
    · exact ⟨later, inBefore, rfl, rfl, rfl⟩
  case forth =>
    intro item member
    rw [rows]
    by_cases selected : item.id = handler.item.id
    · exact ⟨write item, mem_updateRows.mpr (.inl ⟨item, member,
        decide_eq_true selected, rfl⟩), marks.id item, marks.depth item⟩
    · exact ⟨item, mem_updateRows.mpr (.inr ⟨member,
        decide_eq_false selected⟩), rfl, rfl⟩

/-- Marking the item of a holder releases it and leaves the others alone. -/
theorem FrontierInvariant.mark (invariant : FrontierInvariant state)
    (member : handler ∈ state.handlers) (holds : handler.holds = true)
    (marks : Marks write)
    (rows : marked.items = updateRows
      (fun item => item.id = handler.item.id) write state.frontier.items)
    (released :
      ({ handler with phase := phase } : FrontierHandler).holds = false)
    (linking : ∀ request links, phase = .linking request links →
      handler.item.depth < request.maxDepth) :
    FrontierInvariant (({ state with frontier := marked }).advance
      handler.worker phase) := by
  have stays : ∀ later ∈ ((({ state with
      frontier := marked }) : FrontierState).advance handler.worker
        phase).handlers,
      later = { handler with phase := phase } ∨
        later ∈ state.handlers ∧ later ≠ handler :=
    fun later laterMember => invariant.mem_advance member laterMember
  constructor
  case workers =>
    rw [workers_advance]
    exact invariant.workers
  case fresh =>
    intro later laterMember
    rcases stays later laterMember with rfl | ⟨old, -⟩
    · exact invariant.fresh handler member
    · exact invariant.fresh later old
  case fits =>
    intro later laterMember
    obtain ⟨item, inItems, fits⟩ := invariant.fits handler member
    have written : write item ∈ marked.items := by
      rw [rows]
      exact mem_updateRows.mpr (.inl ⟨item, inItems, decide_eq_true fits.id,
        rfl⟩)
    rcases stays later laterMember with rfl | ⟨old, other⟩
    · refine ⟨write item, written, (marks.id item).trans fits.id,
        (marks.depth item).trans fits.depth, ?_, ?_, ?_⟩
      · rw [marks.attempts]
        exact fits.attempts
      · intro stillHolds
        rw [released] at stillHolds
        cases stillHolds
      · exact fun _ _ => marks.stopped item
    · obtain ⟨row, rowMember, rowFits⟩ := invariant.fits later old
      by_cases same : row.id = handler.item.id
      · have laterReleased : later.holds = false := by
          by_contra laterHolds
          apply other
          apply invariant.holders later old handler member
            (Bool.not_eq_false _ |>.mp laterHolds) holds
          rw [← rowFits.id, same]
        refine ⟨write row, ?_, ?_⟩
        · show write row ∈ marked.items
          rw [rows]
          exact mem_updateRows.mpr (.inl ⟨row, rowMember,
            decide_eq_true same, rfl⟩)
        · exact rowFits.of_released laterReleased (marks.id row)
            (marks.depth row) (marks.attempts row) (marks.stopped row)
      · refine ⟨row, ?_, rowFits⟩
        show row ∈ marked.items
        rw [rows]
        exact mem_updateRows.mpr (.inr ⟨rowMember, decide_eq_false same⟩)
  case holders =>
    apply invariant.holders_advance member
    rw [released]
    exact fun holds => nomatch holds
  case placed => exact invariant.placed.rewritten (marks.rewritten rows)
  case linking =>
    intro later laterMember request links isLinking
    rcases stays later laterMember with rfl | ⟨old, -⟩
    · exact linking request links isLinking
    · exact invariant.linking later old request links isLinking

/-- A mark keeps what is cancelled just when its own item is not. -/
theorem FrontierInvariant.kept_mark_iff
    (invariant : FrontierInvariant state)
    (member : handler ∈ state.handlers) (holds : handler.holds = true)
    (marks : Marks write)
    (rows : marked.items = updateRows
      (fun item => item.id = handler.item.id) write state.frontier.items)
    (released :
      ({ handler with phase := phase } : FrontierHandler).holds = false)
    (linking : ∀ request links, phase = .linking request links →
      handler.item.depth < request.maxDepth) :
    FrontierKept state (({ state with frontier := marked }).advance
        handler.worker phase) ↔ handler.isLive state.frontier := by
  have after := invariant.mark member holds marks rows released linking
  constructor
  · intro kept item inItems same isCancelled
    have written : write item ∈ marked.items := by
      rw [rows]
      exact mem_updateRows.mpr (.inl ⟨item, inItems, decide_eq_true same,
        rfl⟩)
    exact marks.live item (kept.cancelled item inItems isCancelled
      (write item) written (marks.id item))
  · intro live
    apply kept_of_rewritten
    · exact marks.rewritten rows
    · exact after.placed
    · exact after.holders
    · apply cancelled_update rows marks.id
      intro item inItems isCancelled selected
      exact (live item inItems (of_decide_eq_true selected)
        isCancelled).elim
    · exact @left_advance { state with frontier := marked } _
        handler.worker phase

end MarkSteps

/-! ## Children -/

section Children

variable {library : FrontierLibrary} {state : FrontierState}
  {handler : FrontierHandler} {batch : FrontierBatch} {next : Frontier}

/-- Adding items keeps the invariant if they are placed. -/
theorem FrontierInvariant.added (invariant : FrontierInvariant state)
    (added : Added batch state.frontier next)
    (parents : ∀ parentId, batch.parentId = some parentId →
      ∃ parent ∈ state.frontier.items, parent.id = parentId ∧
        batch.depth = parent.depth + 1) :
    FrontierInvariant { state with frontier := next } :=
  { invariant with
    fits := invariant.fits.added added
    placed := invariant.placed.added added parents }

/-- What is kept when items are added. -/
theorem kept_of_added {after : FrontierState}
    (added : Added batch state.frontier after.frontier)
    (placed : ChildrenPlaced after.frontier)
    (apart : HoldersApart after.handlers)
    (depths : ∀ parentId, batch.parentId = some parentId →
      ∃ handler ∈ state.handlers, handler.item.id = parentId ∧
        ∃ request ∈ handler.request, batch.depth ≤ request.maxDepth)
    (undeleted : ∀ item ∈ after.frontier.items, IsNew state.frontier item →
      item.parentId.isSome = true → ∀ runId ∈ item.runId,
        runId ∉ state.deleted)
    (workers : ∀ handler ∈ state.handlers,
      handler.worker ∈ after.handlers.map (·.worker)) :
    FrontierKept state after where
  urls := fun _ firstMember _ => eq_of_canonicalUrl firstMember
  children := placed
  depths := by
    intro item member isNew parentId isParent
    rcases added.rows item member with old | ⟨-, index, url, canonicalUrl,
      rfl⟩
    · exact (isNew (List.mem_map_of_mem old)).elim
    · exact depths parentId isParent
  holders := apart
  cancelled := by
    intro item inItems isCancelled later laterMember same
    rw [eq_of_itemId laterMember (added.subset inItems) same]
    exact isCancelled
  undeleted := undeleted
  left := fun handler member ended => (ended (workers handler member)).elim

/-- Children are added to sources that are not deleted, and only then. -/
theorem FrontierInvariant.kept_children_iff
    (invariant : FrontierInvariant state)
    (member : handler ∈ state.handlers) {request : FrontierRequest}
    {links : List String} (isLinking : handler.phase =
      .linking request links)
    {newId : Nat → String} {now : Nat}
    (made : addFrontierItems library state.frontier
      (childBatch handler.item request links newId now) = .ok next) :
    FrontierInvariant (({ state with frontier := next }).advance
        handler.worker .reporting) ∧
      (FrontierKept state (({ state with frontier := next }).advance
          handler.worker .reporting) ↔
        (∀ runId ∈ handler.item.runId, runId ∉ state.deleted) ∨
          NothingNew library state.frontier
            (childBatch handler.item request links newId now)) := by
  obtain ⟨rows, madeRows, isNext, added⟩ := addFrontierItems_eq_ok made
  have deeper := invariant.linking handler member request links isLinking
  have parents : ∀ parentId, some handler.item.id = some parentId →
      ∃ parent ∈ state.frontier.items, parent.id = parentId ∧
        handler.item.depth + 1 = parent.depth + 1 := by
    intro parentId isParent
    obtain ⟨item, inItems, fits⟩ := invariant.fits handler member
    cases isParent
    exact ⟨item, inItems, fits.id, by rw [fits.depth]⟩
  have released : handler.holds = false := by
    rw [FrontierHandler.holds, isLinking]
  have after : FrontierInvariant (({ state with
      frontier := next }).advance handler.worker .reporting) := by
    apply (invariant.added added parents).advance member
    · rw [released]
      rfl
    · exact fun _ _ same => nomatch same
  have newRows : ∀ item ∈ next.items, IsNew state.frontier item →
      item ∈ rows := by
    intro item inNext isNew
    rw [isNext] at inNext
    rcases mem_insertAll inNext with old | ⟨inRows, -⟩
    · exact (isNew (List.mem_map_of_mem old)).elim
    · exact inRows
  have runIds : ∀ item ∈ rows, item.runId = handler.item.runId ∧
      item.parentId = some handler.item.id := by
    intro item inRows
    obtain ⟨index, url, canonicalUrl, rfl⟩ := mem_frontierRows madeRows inRows
    exact ⟨rfl, rfl⟩
  refine ⟨after, ?_⟩
  constructor
  · intro kept
    by_cases undeleted : ∀ runId ∈ handler.item.runId, runId ∉ state.deleted
    · exact .inl undeleted
    · right
      unfold NothingNew
      rw [madeRows]
      intro row inRows
      by_contra fresh
      rw [not_or] at fresh
      obtain ⟨item, inAll, itemRow, isNew⟩ := exists_inserted inRows fresh.1
        fresh.2
      rw [← isNext] at inAll
      obtain ⟨sameRun, isChild⟩ := runIds item itemRow
      apply undeleted
      rw [← sameRun]
      exact kept.undeleted item inAll isNew (by rw [isChild]; rfl)
  · intro permitted
    apply kept_of_added added after.placed after.holders
    · intro parentId isParent
      cases isParent
      refine ⟨handler, member, rfl, request, ?_, deeper⟩
      rw [FrontierHandler.request, isLinking]
      rfl
    · intro item inNext isNew _ runId isRun
      have inRows := newRows item inNext isNew
      rcases permitted with undeleted | nothing
      · rw [(runIds item inRows).1] at isRun
        exact undeleted runId isRun
      · unfold NothingNew at nothing
        rw [madeRows] at nothing
        rcases nothing item inRows with oldId | oldUrl
        · exact (isNew oldId).elim
        · obtain ⟨old, oldMember, sameUrl⟩ := List.mem_map.mp oldUrl
          have same := eq_of_canonicalUrl (added.subset oldMember) inNext
            sameUrl
          rw [same] at oldMember
          exact (isNew (List.mem_map_of_mem oldMember)).elim
    · intro other otherMember
      rw [workers_advance]
      exact List.mem_map_of_mem otherMember

end Children

/-! ## Every step -/

/-- An outcome keeps the invariant, and it is kept just where the guard
holds. -/
structure Settles (state : FrontierState) (outcome : Option FrontierState)
    (guard : Prop) : Prop where
  invariant : ∀ next, outcome = some next → FrontierInvariant next
  kept : guard ↔ ∀ next, outcome = some next → FrontierKept state next

section Steps

variable {library : FrontierLibrary} {state : FrontierState}
  {handler : FrontierHandler}

theorem settles_some {next : FrontierState} {guard : Prop}
    (after : FrontierInvariant next) (kept : guard ↔ FrontierKept state next) :
    Settles state (some next) guard where
  invariant := by
    intro other isNext
    cases isNext
    exact after
  kept := by
    rw [kept]
    constructor
    · intro here other isNext
      cases isNext
      exact here
    · exact fun all => all next rfl

theorem settles_none : Settles state none True where
  invariant := fun _ isNext => nomatch isNext
  kept := ⟨fun _ _ isNext => (nomatch isNext), fun _ => trivial⟩

theorem settles_kept {next : FrontierState} (after : FrontierInvariant next)
    (kept : FrontierKept state next) : Settles state (some next) True :=
  settles_some after ⟨fun _ => kept, fun _ => trivial⟩

/-- The step of a handler settles if it does for the handler there is. -/
theorem settles_handler {worker : Nat}
    {take : FrontierHandler → Option FrontierState}
    {guard : FrontierHandler → Prop}
    (settles : ∀ handler ∈ state.handlers, handler.worker = worker →
      Settles state (take handler) (guard handler)) :
    Settles state (state.handler? worker >>= take)
      (∀ handler ∈ state.handler? worker, guard handler) := by
  cases found : state.handler? worker with
  | none =>
      constructor
      case invariant => exact fun _ isNext => nomatch isNext
      case kept =>
        exact ⟨fun _ _ isNext => (nomatch isNext),
          fun _ _ isHandler => (nomatch isHandler)⟩
  | some handler =>
      obtain ⟨member, isWorker⟩ := handler?_eq_some found
      have here := settles handler member isWorker
      constructor
      case invariant => exact here.invariant
      case kept =>
        rw [Option.bind_eq_bind, Option.bind_some, ← here.kept]
        constructor
        · exact fun all => all handler rfl
        · intro guarded other isOther
          cases isOther
          exact guarded

/-- A handler that goes on without the table is kept. -/
theorem FrontierInvariant.settles_advance
    (invariant : FrontierInvariant state)
    (member : handler ∈ state.handlers) (phase : HandlerPhase)
    (holds : ({ handler with phase := phase } : FrontierHandler).holds =
      handler.holds)
    (linking : ∀ request links, phase = .linking request links →
      handler.item.depth < request.maxDepth) :
    FrontierInvariant (state.advance handler.worker phase) ∧
      FrontierKept state (state.advance handler.worker phase) := by
  have after := invariant.advance member holds linking
  have same : (state.advance handler.worker phase).frontier =
      state.frontier := rfl
  exact ⟨after, kept_of_sameFrontier same invariant.placed after.holders
    (left_advance handler.worker phase)⟩

theorem FrontierInvariant.settles_prepare
    (invariant : FrontierInvariant state)
    (member : handler ∈ state.handlers) :
    Settles state (prepareStep library state handler)
      (PrepareGuard library state handler) := by
  unfold prepareStep PrepareGuard
  cases isPhase : handler.phase with
  | claimed =>
      cases isRequest :
          requestFor library state.sources handler.item with
      | some request =>
          obtain ⟨after, kept⟩ :=
            invariant.settles_advance member (.fetching request)
              (by rw [FrontierHandler.holds, FrontierHandler.holds, isPhase])
              fun _ _ same => nomatch same
          exact settles_some after ⟨fun _ => kept,
            fun _ isNone => nomatch isNone⟩
      | none =>
          refine settles_some (invariant.dismiss handler.worker) ?_
          rw [invariant.kept_dismiss_iff member]
          exact ⟨fun guarded => guarded rfl, fun stopped _ => stopped⟩
  | fetching request => exact settles_none
  | fetched request result => exact settles_none
  | linking request links => exact settles_none
  | reporting => exact settles_none

theorem FrontierInvariant.settles_fetch
    (invariant : FrontierInvariant state)
    (member : handler ∈ state.handlers) (result : FrontierResult) :
    Settles state (fetchStep state handler result) True := by
  unfold fetchStep
  split
  · next request isFetching =>
    obtain ⟨after, kept⟩ := invariant.settles_advance member
      (.fetched request result)
      (by rw [FrontierHandler.holds, FrontierHandler.holds, isFetching])
      fun _ _ same => nomatch same
    exact settles_kept after kept
  · exact settles_none

/-- A handler that marked its item reports or adds the links of its page. -/
theorem phaseAfter_cases (item : FrontierItem) (request : FrontierRequest)
    (result : FrontierResult) :
    phaseAfter item request result = .reporting ∨
      item.depth < request.maxDepth ∧ ∃ links,
        phaseAfter item request result = .linking request links := by
  unfold phaseAfter
  split
  · next links _ _ =>
    split
    · next deeper => exact .inr ⟨deeper, links, rfl⟩
    · exact .inl rfl
  · exact .inl rfl

theorem FrontierInvariant.settles_mark (invariant : FrontierInvariant state)
    (member : handler ∈ state.handlers) (retry : Option Nat) :
    Settles state (markStep state handler retry)
      (MarkGuard state handler) := by
  unfold markStep MarkGuard
  cases isPhase : handler.phase with
  | claimed => exact settles_none
  | fetching request => exact settles_none
  | fetched request result =>
      obtain ⟨write, marks, rows⟩ := markResult_items state.frontier
        handler.item.id result retry
      have holds : handler.holds = true := by
        rw [FrontierHandler.holds, isPhase]
      have released : ({ handler with
          phase := phaseAfter handler.item request result } :
            FrontierHandler).holds = false := by
        rw [FrontierHandler.holds]
        rcases phaseAfter_cases handler.item request result with reports |
          ⟨-, links, isLinking⟩
        · rw [reports]
        · rw [isLinking]
      have linking : ∀ other links,
          phaseAfter handler.item request result = .linking other links →
            handler.item.depth < other.maxDepth := by
        intro other links isLinking
        rcases phaseAfter_cases handler.item request result with reports |
          ⟨deeper, more, isMore⟩
        · rw [reports] at isLinking
          cases isLinking
        · rw [isMore] at isLinking
          cases isLinking
          exact deeper
      exact settles_some
        (invariant.mark member holds marks rows released linking)
        (invariant.kept_mark_iff member holds marks rows released
          linking).symm
  | linking request links => exact settles_none
  | reporting => exact settles_none

theorem FrontierInvariant.settles_addChildren
    (invariant : FrontierInvariant state)
    (member : handler ∈ state.handlers) (newId : Nat → String)
    (now : Nat) :
    Settles state (addChildrenStep library state handler newId now)
      (ChildrenGuard library state handler newId now) := by
  unfold addChildrenStep ChildrenGuard
  cases isPhase : handler.phase with
  | claimed => exact settles_none
  | fetching request => exact settles_none
  | fetched request result => exact settles_none
  | linking request links =>
      dsimp only
      cases made : addFrontierItems library state.frontier
          (childBatch handler.item request links newId now) with
      | ok next =>
          obtain ⟨after, kept⟩ := invariant.kept_children_iff member isPhase
            made
          exact settles_some after kept.symm
      | error message =>
          refine settles_some (invariant.dismiss handler.worker) ?_
          have released : handler.holds = false := by
            rw [FrontierHandler.holds, isPhase]
          have stopped := invariant.not_isRunning member released
          exact ⟨fun _ => (invariant.kept_dismiss_iff member).mpr stopped,
            fun _ => .inr (nothingNew_of_error made)⟩
  | reporting => exact settles_none

theorem FrontierInvariant.settles_report
    (invariant : FrontierInvariant state)
    (member : handler ∈ state.handlers) :
    Settles state (reportResultStep state handler) True := by
  unfold reportResultStep
  split
  · next isReporting =>
    have released : handler.holds = false := by
      rw [FrontierHandler.holds, isReporting]
    exact settles_kept (invariant.dismiss handler.worker)
      ((invariant.kept_dismiss_iff member).mpr
        (invariant.not_isRunning member released))
  · exact settles_none

/-- Items without a parent may be added at any time. -/
theorem FrontierInvariant.settles_enqueue
    (invariant : FrontierInvariant state) {batch : FrontierBatch}
    (topLevel : batch.parentId = none) :
    Settles state
      (match addFrontierItems library state.frontier batch with
        | .ok frontier => some { state with frontier := frontier }
        | .error _ => some state) True := by
  have noParent : ∀ parentId, batch.parentId ≠ some parentId := by
    intro parentId isParent
    rw [topLevel] at isParent
    cases isParent
  cases made : addFrontierItems library state.frontier batch with
  | error message =>
      refine settles_kept invariant ?_
      exact kept_of_sameFrontier rfl invariant.placed invariant.holders
        fun handler member ended => (ended (List.mem_map_of_mem member)).elim
  | ok next =>
      obtain ⟨rows, -, -, added⟩ := addFrontierItems_eq_ok made
      have after := invariant.added added fun parentId isParent =>
        (noParent parentId isParent).elim
      refine settles_kept after ?_
      apply kept_of_added added after.placed after.holders
      · exact fun parentId isParent => (noParent parentId isParent).elim
      · intro item inNext isNew isChild
        rcases added.rows item inNext with old | ⟨-, index, url,
          canonicalUrl, rfl⟩
        · exact (isNew (List.mem_map_of_mem old)).elim
        · dsimp only [FrontierBatch.row] at isChild
          rw [topLevel] at isChild
          cases isChild
      · exact fun handler member => List.mem_map_of_mem member

/-- A table may be rewritten under the handlers that fit it still. -/
theorem FrontierInvariant.settles_rewrite
    (invariant : FrontierInvariant state) {next : FrontierState}
    (handlers : next.handlers = state.handlers)
    (nextWorker : next.nextWorker = state.nextWorker)
    (rewritten : Rewritten state.frontier next.frontier)
    (fits : HandlersFit next.frontier state.handlers)
    (cancelled : ∀ item ∈ state.frontier.items, item.status = .cancelled →
      ∀ later ∈ next.frontier.items, later.id = item.id →
        later.status = .cancelled) :
    Settles state (some next) True := by
  have after : FrontierInvariant next := by
    constructor
    case workers =>
      rw [handlers]
      exact invariant.workers
    case fresh =>
      rw [handlers, nextWorker]
      exact invariant.fresh
    case fits =>
      rw [handlers]
      exact fits
    case holders =>
      rw [handlers]
      exact invariant.holders
    case placed => exact invariant.placed.rewritten rewritten
    case linking =>
      rw [handlers]
      exact invariant.linking
  refine settles_kept after ?_
  apply kept_of_rewritten rewritten after.placed after.holders cancelled
  intro handler member ended
  rw [handlers] at ended
  exact (ended (List.mem_map_of_mem member)).elim

/-- Failed items are free, so they may go back to the queue. -/
theorem FrontierInvariant.settles_retryFailed
    (invariant : FrontierInvariant state) (sourceId : Option String)
    (now : Nat) :
    Settles state
      (some { state with
        frontier := state.frontier.retryFailed sourceId now }) True := by
  apply invariant.settles_rewrite
  case handlers => rfl
  case nextWorker => rfl
  case rewritten => exact rewritten_retryFailed sourceId now
  case fits =>
    show HandlersFit (state.frontier.retryFailed sourceId now) _
    apply invariant.fits.update
    intro item inItems handler _ selected fits
    have failed := of_decide_eq_true (Bool.and_eq_true _ _ ▸ selected).1
    have released : handler.holds = false := by
      apply fits.released_of_status
      · rw [failed]
        exact fun same => nomatch same
      · rw [failed]
        exact fun same => nomatch same
    exact fits.of_released released rfl rfl rfl fun same => nomatch same
  case cancelled =>
    refine cancelled_update rfl (fun _ => rfl) ?_
    intro item inItems isCancelled selected
    have failed := of_decide_eq_true (Bool.and_eq_true _ _ ▸ selected).1
    rw [isCancelled] at failed
    cases failed

theorem FrontierInvariant.settles_deleteSource
    (invariant : FrontierInvariant state) (sourceId : String) :
    Settles state (some (state.deleteSource sourceId)) True := by
  apply invariant.settles_rewrite
  case handlers => rfl
  case nextWorker => rfl
  case rewritten => exact rewritten_cancelSource sourceId
  case fits =>
    show HandlersFit (state.frontier.cancelSource sourceId) _
    apply invariant.fits.update
    exact fun item inItems handler _ _ fits => fits.cancel
  case cancelled =>
    exact cancelled_update rfl (fun _ => rfl) fun _ _ _ _ => rfl

/-- Every step settles under its guard. -/
theorem FrontierInvariant.settles (invariant : FrontierInvariant state)
    (action : FrontierAction) :
    Settles state (frontierStep library state action)
      (FrontierGuard library state action) := by
  cases action with
  | createSource sourceId config =>
      exact invariant.settles_rewrite rfl rfl (Rewritten.refl _)
        invariant.fits fun item inItems isCancelled later laterMember same =>
          (eq_of_itemId laterMember inItems same) ▸ isCancelled
  | enqueue urls newId sourceType sourceId runId priority maxUrls now =>
      exact invariant.settles_enqueue rfl
  | claim limit now =>
      exact settles_kept (invariant.claim limit now)
        (invariant.kept_claim limit now)
  | prepare worker =>
      exact settles_handler fun handler member _ =>
        invariant.settles_prepare member
  | fetch worker result =>
      have settled := @settles_handler _ worker _ (fun _ => True) fun handler
        member _ =>
          invariant.settles_fetch member result
      exact ⟨settled.invariant, settled.kept.symm.trans
        ⟨fun _ => trivial, fun _ _ _ => trivial⟩ |>.symm⟩
  | mark worker retry =>
      exact settles_handler fun handler member _ =>
        invariant.settles_mark member retry
  | addChildren worker newId now =>
      exact settles_handler fun handler member _ =>
        invariant.settles_addChildren member newId now
  | report worker =>
      have settled := @settles_handler _ worker _ (fun _ => True) fun handler
        member _ =>
          invariant.settles_report member
      exact ⟨settled.invariant, settled.kept.symm.trans
        ⟨fun _ => trivial, fun _ _ _ => trivial⟩ |>.symm⟩
  | raise worker =>
      exact settles_handler fun handler member _ =>
        settles_some (invariant.dismiss handler.worker)
          (invariant.kept_dismiss_iff member).symm
  | retryFailed sourceId now =>
      exact invariant.settles_retryFailed sourceId now
  | deleteSource sourceId => exact invariant.settles_deleteSource sourceId

end Steps

theorem frontierInvariant_empty : FrontierInvariant {} where
  workers := List.nodup_nil
  fresh := fun _ member => nomatch member
  fits := fun _ member => nomatch member
  holders := fun _ member => nomatch member
  placed := fun _ member => nomatch member
  linking := fun _ member => nomatch member

/-- Runs from a state that keeps the invariant keep what their guards ask. -/
theorem FrontierInvariant.along_iff {library : FrontierLibrary}
    {state : FrontierState} (invariant : FrontierInvariant state)
    (actions : List FrontierAction) :
    Along (frontierStep library) (StepKept library) state actions ↔
      Along (frontierStep library) (FrontierGuard library) state actions := by
  apply along_congr
  case same =>
    exact fun state action _ invariant =>
      (FrontierInvariant.settles invariant action).kept.symm
  case preserved =>
    exact fun state action _ next invariant stepped =>
      (FrontierInvariant.settles invariant action).invariant next stepped
  case start => exact invariant

/-- A run of the frontier keeps its promises in all its steps just when its
handlers meet their guards. -/
theorem frontier_kept_iff (library : FrontierLibrary)
    (actions : List FrontierAction) :
    Along (frontierStep library) (StepKept library) {} actions ↔
      Along (frontierStep library) (FrontierGuard library) {} actions :=
  frontierInvariant_empty.along_iff actions

namespace FrontierExample

def library : FrontierLibrary :=
  { urldefrag := .ok
    urlparse := fun url =>
      .ok
        { scheme := "https"
          netloc := "acme.io"
          hostname := some "acme.io"
          path := String.ofList (url.toList.drop 15) }
    urlunparse := fun scheme netloc path _ =>
      scheme ++ "://" ++ netloc ++ path
    lower := id
    int := fun _ => none
    truthy := fun _ => false }

/-- A source with one URL, claimed by a worker. -/
def claimed : List FrontierAction :=
  [.createSource "source-1" ∅,
    .enqueue ["https://acme.io/"] (fun _ => "item-1") "website" none
      (some "source-1") 100 none 0,
    .claim 1 0]

def fetched : List FrontierAction :=
  [.prepare 0,
    .fetch 0
      { success := true
        links := some ["https://acme.io/pricing"] }]

/-- The handler raises, the source is deleted before its item is marked, and
the source is deleted before the links are added. -/
theorem frontier_broken :
    ¬ Along (frontierStep library) (StepKept library) {}
        (claimed ++ [.raise 0]) ∧
      ¬ Along (frontierStep library) (StepKept library) {}
        (claimed ++ [.deleteSource "source-1"] ++ fetched ++
          [.mark 0 none]) ∧
      ¬ Along (frontierStep library) (StepKept library) {}
        (claimed ++ fetched ++ [.mark 0 none, .deleteSource "source-1",
          .addChildren 0 (fun _ => "item-2") 1]) := by
  simp only [frontierInvariant_empty.along_iff]
  decide +kernel

end FrontierExample

end CompetiScope
