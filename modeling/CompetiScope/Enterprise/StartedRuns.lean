import CompetiScope.Runtime.TenantIsolation

/-!
# The competitors a run links to its project

`start_run` drops the links of the project whose competitors have left the
plan and goes through the names of the plan: it creates or rewrites the
competitor of each name and links it unless it is linked.  A homepage that is
no URL stops the loop.
-/

namespace CompetiScope

open Foundation

/-! ## The store and its operation -/

/-- `ProjectCompetitorLink.role`. -/
inductive LinkRole where
  | target
  | baseline
  | adjacent
  deriving DecidableEq

/-- A `ProjectCompetitorLink` with its creation data. -/
structure StampedLink extends ProjectCompetitorLink where
  role : LinkRole := .target
  createdAt : Nat
  deriving DecidableEq

/-- `project_competitors`. -/
abbrev StampedLinks :=
  Table (String × String) StampedLink
    (fun link => (link.projectId, link.competitorId))

/-- What `start_run` reads and writes of projects and competitors. -/
structure PlanStore where
  projects : Table String ProjectRecord (·.id) := ∅
  competitors : Table String CompetitorRecord (·.id) := ∅
  projectCompetitors : StampedLinks := ∅

/-- The arguments of `start_run` and its clock; `linkedAt` is the time at
which the link of a name is made. -/
structure StartCall where
  detail : TenantRun
  workspaceId : Option String := none
  projectId : Option String := none
  actorId : Option String := none
  now : Nat
  linkedAt : String → Nat

section Start

variable (settings : TenantSettings) (httpUrl : String → Option String)

namespace StartCall

variable (call : StartCall)

/-- `workspace_id or detail.workspace_id or DEFAULT_WORKSPACE_ID`. -/
def workspace : String :=
  (call.workspaceId.filter (· ≠ "")).getD
    (if call.detail.workspaceId ≠ "" then call.detail.workspaceId
      else "default-workspace")

/-- `actor_id or DEFAULT_USER_ID`. -/
def actor : String :=
  (call.actorId.filter (· ≠ "")).getD "system-user"

/-- `_competitor_id`. -/
def competitorId (name : String) : String :=
  computeCompetitorId settings call.workspace name

/-- `competitor_ids`. -/
def competitorIds : List String :=
  call.detail.plan.competitors.map (call.competitorId settings)

/-- `project_id or detail.project_id or _project_id`. -/
def project : String :=
  (call.projectId.filter (· ≠ "")).getD
    (resolvedProjectId settings call.workspace call.detail)

/-- The project of the run, which is new or the one that is found. -/
def projectRecord (found : Option ProjectRecord) : ProjectRecord :=
  rewrittenProject settings call.now call.detail
    (call.competitorIds settings)
    (found.getD
      { id := call.project settings
        workspaceId := call.workspace
        name := call.detail.topic
        createdBy := some call.actor
        createdAt := call.detail.createdAt })

/-- A competitor the store does not know; `httpUrl` is the URL a homepage is
read as, and there is no record when it is none. -/
def newCompetitor (name : String) : Option CompetitorRecord :=
  let planned := plannedCompetitor settings call.now call.workspace
    call.detail name
  match call.detail.plan.homepageHints.get? name with
  | none => some { planned with homepageUrl := none }
  | some hint =>
      (httpUrl hint).map fun url => { planned with homepageUrl := some url }

/-- The competitor of a name, created or written over. -/
def competitorRecord (found : Option CompetitorRecord) (name : String) :
    Option CompetitorRecord :=
  match found with
  | none => call.newCompetitor settings httpUrl name
  | some known =>
      some
        (mergeCompetitor call.detail.plan known
          (plannedCompetitor settings call.now call.workspace call.detail
            name))

/-- `project_competitors.setdefault`. -/
def link (links : StampedLinks) (name : String) : StampedLinks :=
  match links.get? (call.project settings, call.competitorId settings name)
  with
  | some _ => links
  | none =>
      links.upsert
        { projectId := call.project settings
          competitorId := call.competitorId settings name
          createdAt := call.linkedAt name }

end StartCall

namespace PlanStore

variable (call : StartCall)

/-- The store with the competitor of a name and its link. -/
def withCompetitor (store : PlanStore) (name : String)
    (record : CompetitorRecord) : PlanStore :=
  { store with
    competitors := store.competitors.upsert record
    projectCompetitors :=
      call.link settings store.projectCompetitors name }

/-- The loop over the names of the plan: the store it leaves, and whether it
came to its end. -/
def linkPlan : PlanStore → List String → PlanStore × Bool
  | store, [] => (store, true)
  | store, name :: names =>
      match call.competitorRecord settings httpUrl
        (store.competitors.get? (call.competitorId settings name)) name with
      | none => (store, false)
      | some record =>
          linkPlan (store.withCompetitor settings call name record) names

/-- The store when the loop starts. -/
def pruned (store : PlanStore) : PlanStore :=
  { store with
    projects :=
      store.projects.upsert
        (call.projectRecord settings
          (store.projects.get? (call.project settings)))
    projectCompetitors :=
      store.projectCompetitors.filter fun link =>
        link.projectId ≠ call.project settings ||
          link.competitorId ∈ call.competitorIds settings }

/-- `start_run`: the store it leaves, and whether it returns. -/
def startRun (store : PlanStore) : PlanStore × Bool :=
  linkPlan settings httpUrl call (store.pruned settings call)
    call.detail.plan.competitors

end PlanStore

/-! ## What a run promises -/

/-- A competitor of `after` that `before` does not know. -/
def Created (before after : PlanStore) (record : CompetitorRecord) : Prop :=
  record ∈ after.competitors.values ∧
    before.competitors.get? record.id = none

/-- The id of a competitor is the one of its normalised name. -/
def CompetitorRecord.HasNamedId (record : CompetitorRecord) : Prop :=
  record.id =
    stablePrefixedId settings.sha256Hex "competitor"
      [.text record.workspaceId, .text record.normalizedName] 16

/-- A competitor is created for a name of the plan, under the id of its
normalised name, and one that is known keeps its creation data. -/
structure KeepsCompetitors (call : StartCall) (before after : PlanStore) :
    Prop where
  created : ∀ record, Created before after record →
    record.workspaceId = call.workspace ∧
      record.HasNamedId settings ∧
      ∃ name ∈ call.detail.plan.competitors,
        record.normalizedName = settings.normalizeKey name
  known : ∀ id record, before.competitors.get? id = some record →
    ∃ rewritten, after.competitors.get? id = some rewritten ∧
      rewritten.workspaceId = record.workspaceId ∧
      rewritten.normalizedName = record.normalizedName ∧
      rewritten.createdAt = record.createdAt

/-- The links of the project are the competitors of the plan, those that were
there with their creation data, other links are untouched, and a normalised
name gets one competitor at most. -/
structure LinksPlan (call : StartCall) (before after : PlanStore) : Prop
    extends KeepsCompetitors settings call before after where
  linked : ∀ competitorId,
    (after.projectCompetitors.get?
        (call.project settings, competitorId)).isSome ↔
      competitorId ∈ call.competitorIds settings
  kept : ∀ competitorId ∈ call.competitorIds settings, ∀ link,
    before.projectCompetitors.get? (call.project settings, competitorId) =
        some link →
      after.projectCompetitors.get? (call.project settings, competitorId) =
        some link
  others : ∀ key, key.1 ≠ call.project settings →
    after.projectCompetitors.get? key = before.projectCompetitors.get? key
  once : ∀ first second, Created before after first →
    Created before after second →
      first.normalizedName = second.normalizedName → first = second

/-- The stores that runs leave, returned or not, from the empty one. -/
inductive StartedStore : PlanStore → Prop where
  | empty : StartedStore { }
  | start {store : PlanStore} (started : StartedStore store)
      (call : StartCall) :
      StartedStore (store.startRun settings httpUrl call).1

/-! ## One turn of the loop -/

section Turns

variable {settings httpUrl} {call : StartCall}

theorem get?_link (links : StampedLinks) (name : String)
    (key : String × String) :
    (call.link settings links name).get? key =
      if key = (call.project settings, call.competitorId settings name) then
        some
          ((links.get? key).getD
            { projectId := call.project settings
              competitorId := call.competitorId settings name
              createdAt := call.linkedAt name })
      else links.get? key := by
  rw [StartCall.link]
  split
  · next link found =>
      split
      · next same =>
          rw [same, found]
          rfl
      · rfl
  · next missing =>
      rw [Table.get?_upsert]
      dsimp only
      split
      · next same =>
          rw [same, missing]
          rfl
      · rfl

theorem competitorRecord_id {found : Option CompetitorRecord}
    {name : String} {record : CompetitorRecord}
    (written : call.competitorRecord settings httpUrl found name =
      some record) :
    record.id = call.competitorId settings name := by
  unfold StartCall.competitorRecord StartCall.newCompetitor at written
  split at written
  · dsimp only at written
    split at written
    · cases written
      rfl
    · rw [Option.map_eq_some_iff] at written
      obtain ⟨url, -, rfl⟩ := written
      rfl
  · cases written
    rfl

/-- A competitor that is new is named by the workspace and its name. -/
theorem newCompetitor_spec {name : String} {record : CompetitorRecord}
    (written : call.newCompetitor settings httpUrl name = some record) :
    record.workspaceId = call.workspace ∧
      record.normalizedName = settings.normalizeKey name ∧
      record.HasNamedId settings := by
  unfold StartCall.newCompetitor at written
  dsimp only at written
  split at written
  · cases written
    exact ⟨rfl, rfl, rfl⟩
  · rw [Option.map_eq_some_iff] at written
    obtain ⟨url, -, rfl⟩ := written
    exact ⟨rfl, rfl, rfl⟩

theorem get?_withCompetitor {store : PlanStore} {name : String}
    {record : CompetitorRecord}
    (written : call.competitorRecord settings httpUrl
      (store.competitors.get? (call.competitorId settings name)) name =
        some record) (id : String) :
    (store.withCompetitor settings call name record).competitors.get? id =
      if id = call.competitorId settings name then some record
      else store.competitors.get? id := by
  rw [← competitorRecord_id written]
  exact Table.get?_upsert store.competitors record id

/-- A turn creates the competitor of its name or keeps the creation data of
the one that is there. -/
theorem KeepsCompetitors.withCompetitor {before store : PlanStore}
    (keeps : KeepsCompetitors settings call before store) {name : String}
    (listed : name ∈ call.detail.plan.competitors)
    {record : CompetitorRecord}
    (written : call.competitorRecord settings httpUrl
      (store.competitors.get? (call.competitorId settings name)) name =
        some record) :
    KeepsCompetitors settings call before
      (store.withCompetitor settings call name record) := by
  constructor
  case created =>
    rintro made ⟨member, fresh⟩
    rw [Table.mem_values, get?_withCompetitor written] at member
    split at member
    · next isName =>
        cases member
        cases found : store.competitors.get?
            (call.competitorId settings name) with
        | none =>
            rw [found] at written
            obtain ⟨workspace, normalized, named⟩ :=
              newCompetitor_spec written
            exact ⟨workspace, named, name, listed, normalized⟩
        | some known =>
            rw [found] at written
            cases written
            have sameId : known.id = call.competitorId settings name :=
              Table.key_of_get? found
            have isCreated : Created before store known := by
              constructor
              · rw [Table.mem_values, sameId]
                exact found
              · rw [sameId, ← isName]
                exact fresh
            obtain ⟨workspace, named, origin⟩ :=
              keeps.created known isCreated
            refine ⟨workspace, ?_, origin⟩
            exact sameId.symm.trans named
    · exact keeps.created made ⟨Table.mem_values.mpr member, fresh⟩
  case known =>
    intro id original found
    obtain ⟨rewritten, isThere, workspace, normalized, created⟩ :=
      keeps.known id original found
    rw [get?_withCompetitor written]
    split
    · next isName =>
        rw [← isName, isThere] at written
        cases written
        exact ⟨_, rfl, workspace, normalized, created⟩
    · exact ⟨rewritten, isThere, workspace, normalized, created⟩

end Turns

/-! ## The loop -/

section Loop

variable {settings httpUrl} {call : StartCall}

/-- What the start of the loop has and every turn keeps holds at its end,
early or not. -/
theorem linkPlan_invariant (Holds : PlanStore → Prop) {names : List String}
    (turn : ∀ store name record, name ∈ names →
      call.competitorRecord settings httpUrl
          (store.competitors.get? (call.competitorId settings name)) name =
        some record →
      Holds store →
        Holds (store.withCompetitor settings call name record))
    {store : PlanStore} (start : Holds store) :
    Holds (store.linkPlan settings httpUrl call names).1 := by
  induction names generalizing store with
  | nil => exact start
  | cons name names induction =>
      rw [PlanStore.linkPlan]
      split
      · exact start
      · next record written =>
          apply induction
          · intro store name record listed
            exact turn store name record (List.mem_cons_of_mem _ listed)
          · exact turn store name record List.mem_cons_self written start

theorem keepsCompetitors_startRun (store : PlanStore) :
    KeepsCompetitors settings call store
      (store.startRun settings httpUrl call).1 := by
  apply linkPlan_invariant (KeepsCompetitors settings call store)
  · intro store name record listed written keeps
    exact keeps.withCompetitor listed written
  · constructor
    case created =>
      rintro record ⟨member, fresh⟩
      rw [Table.mem_values] at member
      have known : store.competitors.get? record.id = some record := member
      rw [fresh] at known
      cases known
    case known =>
      intro id record found
      exact ⟨record, found, rfl, rfl, rfl⟩

/-- A link stays as it is. -/
theorem linkPlan_kept {store : PlanStore} {names : List String}
    {key : String × String} {link : StampedLink}
    (found : store.projectCompetitors.get? key = some link) :
    (store.linkPlan settings httpUrl call
      names).1.projectCompetitors.get? key = some link := by
  apply linkPlan_invariant fun store =>
    store.projectCompetitors.get? key = some link
  · intro store name record _ _ known
    have linked : (store.withCompetitor settings call name
        record).projectCompetitors.get? key =
          (call.link settings store.projectCompetitors name).get? key := rfl
    rw [linked, get?_link, known]
    split
    · rfl
    · rfl
  · exact found

/-- The names a loop went through are linked. -/
theorem linkPlan_linked {store : PlanStore} {names : List String}
    (returned : (store.linkPlan settings httpUrl call names).2 = true)
    {name : String} (listed : name ∈ names) :
    ∃ link,
      (store.linkPlan settings httpUrl call
        names).1.projectCompetitors.get?
          (call.project settings, call.competitorId settings name) =
        some link := by
  induction names generalizing store with
  | nil => cases listed
  | cons head names induction =>
      rw [PlanStore.linkPlan] at returned ⊢
      split at returned
      · cases returned
      · next record written =>
          rcases List.mem_cons.mp listed with rfl | later
          · have linked := @get?_link settings call
              store.projectCompetitors name
              (call.project settings, call.competitorId settings name)
            rw [if_pos rfl] at linked
            exact ⟨_, linkPlan_kept linked⟩
          · exact induction returned later

/-- The links of a run are those of other projects and those of its plan. -/
theorem startRun_links (store : PlanStore) :
    (∀ key, key.1 ≠ call.project settings →
        (store.startRun settings httpUrl call).1.projectCompetitors.get?
            key =
          store.projectCompetitors.get? key) ∧
      ∀ competitorId,
        ((store.startRun settings httpUrl call).1.projectCompetitors.get?
            (call.project settings, competitorId)).isSome →
          competitorId ∈ call.competitorIds settings := by
  apply linkPlan_invariant fun after =>
    (∀ key, key.1 ≠ call.project settings →
        after.projectCompetitors.get? key =
          store.projectCompetitors.get? key) ∧
      ∀ competitorId,
        (after.projectCompetitors.get?
            (call.project settings, competitorId)).isSome →
          competitorId ∈ call.competitorIds settings
  · rintro after name record listed written ⟨others, own⟩
    constructor
    · intro key other
      refine Eq.trans ?_ (others key other)
      have linked := @get?_link settings call after.projectCompetitors name
        key
      rw [if_neg fun same => other (congrArg Prod.fst same)] at linked
      exact linked
    · intro competitorId found
      by_cases isName : competitorId = call.competitorId settings name
      · rw [isName]
        exact List.mem_map_of_mem listed
      · have linked := @get?_link settings call after.projectCompetitors
          name (call.project settings, competitorId)
        rw [if_neg fun same => isName (congrArg Prod.snd same)] at linked
        apply own
        rw [← linked]
        exact found
  · constructor
    · intro key other
      apply Table.get?_filter_of_kept
      intro link found
      have sameKey := congrArg Prod.fst (Table.key_of_get? found)
      have isOther : link.projectId ≠ call.project settings := by
        intro own
        exact other (sameKey.symm.trans own)
      simp [isOther]
    · intro competitorId found
      obtain ⟨link, isLink⟩ := Option.isSome_iff_exists.mp found
      have unfiltered : (store.projectCompetitors.get?
          (call.project settings, competitorId)).filter (fun link =>
            link.projectId ≠ call.project settings ||
              link.competitorId ∈ call.competitorIds settings) =
            some link :=
        (Table.get?_filter _ _ _).symm.trans isLink
      rw [Option.filter_eq_some_iff] at unfiltered
      obtain ⟨isThere, kept⟩ := unfiltered
      have key := Table.key_of_get? isThere
      have sameProject := congrArg Prod.fst key
      have sameCompetitor := congrArg Prod.snd key
      dsimp only at sameProject sameCompetitor
      simpa [sameProject, sameCompetitor] using kept

/-- The loop comes to its end when every homepage is a URL. -/
theorem linkPlan_returns {names : List String}
    (urls : ∀ name ∈ names, ∀ hint,
      call.detail.plan.homepageHints.get? name = some hint →
        (httpUrl hint).isSome) (store : PlanStore) :
    (store.linkPlan settings httpUrl call names).2 = true := by
  induction names generalizing store with
  | nil => rfl
  | cons name names induction =>
      rw [PlanStore.linkPlan]
      split
      · next unwritten =>
          unfold StartCall.competitorRecord StartCall.newCompetitor
            at unwritten
          split at unwritten
          · dsimp only at unwritten
            split at unwritten
            · cases unwritten
            · next hint found =>
                have isUrl := urls name List.mem_cons_self hint found
                rw [Option.map_eq_none_iff] at unwritten
                rw [unwritten] at isUrl
                cases isUrl
          · cases unwritten
      · apply induction
        intro other listed
        exact urls other (List.mem_cons_of_mem _ listed)

end Loop

/-! ## Links without creation data -/

section Refinement

variable {settings httpUrl} {call : StartCall}

/-- The links are those of the other, apart from their creation data. -/
def SameLinks (stamped : StampedLinks)
    (plain : Table (String × String) ProjectCompetitorLink
      (fun link => (link.projectId, link.competitorId))) : Prop :=
  ∀ key, plain.get? key =
    (stamped.get? key).map (·.toProjectCompetitorLink)

/-- The store of the workspaces, read off a store with creation data. -/
structure PlanStore.Refines (store : PlanStore) (tenant : TenantStore) :
    Prop where
  projects : tenant.projects = store.projects
  competitors : tenant.competitors = store.competitors
  links : SameLinks store.projectCompetitors tenant.projectCompetitors

theorem SameLinks.filter {stamped : StampedLinks}
    {plain : Table (String × String) ProjectCompetitorLink
      (fun link => (link.projectId, link.competitorId))}
    (same : SameLinks stamped plain)
    (keep : ProjectCompetitorLink → Bool) :
    SameLinks (stamped.filter fun link => keep link.toProjectCompetitorLink)
      (plain.filter keep) := by
  intro key
  rw [Table.get?_filter, Table.get?_filter, same key]
  cases stamped.get? key with
  | none => rfl
  | some link =>
      rw [Option.map_some, Option.filter_some, Option.filter_some]
      cases keep link.toProjectCompetitorLink with
      | true => rfl
      | false => rfl

theorem SameLinks.link {stamped : StampedLinks}
    {plain : Table (String × String) ProjectCompetitorLink
      (fun link => (link.projectId, link.competitorId))}
    (same : SameLinks stamped plain) (name : String) :
    SameLinks (call.link settings stamped name)
      (plain.upsert
        { projectId := call.project settings
          competitorId := call.competitorId settings name }) := by
  intro key
  rw [Table.get?_upsert, get?_link, same key]
  dsimp only
  split
  · next isKey =>
      cases found : stamped.get? key with
      | none => rfl
      | some link =>
          have ids := (Table.key_of_get? found).trans isKey
          obtain ⟨⟨projectId, competitorId⟩, role, createdAt⟩ := link
          cases ids
          rfl
  · rfl

/-- A homepage that is read as it is written makes the planned record. -/
theorem competitorRecord_eq {name : String}
    (written : ∀ hint,
      call.detail.plan.homepageHints.get? name = some hint →
        httpUrl hint = some hint) (found : Option CompetitorRecord) :
    call.competitorRecord settings httpUrl found name =
      some
        (mergeCompetitor call.detail.plan found
          (plannedCompetitor settings call.now call.workspace call.detail
            name)) := by
  cases found with
  | some known => rfl
  | none =>
      unfold StartCall.competitorRecord StartCall.newCompetitor
      dsimp only
      cases hinted : call.detail.plan.homepageHints.get? name with
      | none => simp [mergeCompetitor, plannedCompetitor, hinted]
      | some hint =>
          simp [mergeCompetitor, plannedCompetitor, hinted, written hint hinted]

theorem linkPlan_refines {names : List String}
    (written : ∀ name ∈ names, ∀ hint,
      call.detail.plan.homepageHints.get? name = some hint →
        httpUrl hint = some hint) {store : PlanStore}
    {plain : Table (String × String) ProjectCompetitorLink
      (fun link => (link.projectId, link.competitorId))}
    (same : SameLinks store.projectCompetitors plain) :
    let after := (store.linkPlan settings httpUrl call names).1
    after.projects = store.projects ∧
      after.competitors =
        (names.map (plannedCompetitor settings call.now call.workspace
          call.detail)).foldl
            (Table.mergeRow (mergeCompetitor call.detail.plan))
            store.competitors ∧
      SameLinks after.projectCompetitors
        ((names.map (call.competitorId settings)).foldl
          (fun links competitorId =>
            links.upsert
              { projectId := call.project settings
                competitorId := competitorId }) plain) := by
  induction names generalizing store plain with
  | nil => exact ⟨rfl, rfl, same⟩
  | cons name names induction =>
      dsimp only
      rw [PlanStore.linkPlan,
        competitorRecord_eq (written name List.mem_cons_self)]
      have later := @induction
        (fun other listed =>
          written other (List.mem_cons_of_mem _ listed))
        (store.withCompetitor settings call name
          (mergeCompetitor call.detail.plan
            (store.competitors.get? (call.competitorId settings name))
            (plannedCompetitor settings call.now call.workspace call.detail
              name))) _ (same.link name)
      exact later

/-- A run in the store of the workspaces is the run with creation data. -/
theorem startRun_refines {store : PlanStore} {tenant : TenantStore}
    (refines : store.Refines tenant)
    (named : call.project settings =
      resolvedProjectId settings call.workspace call.detail)
    (actor : call.actor = "system-user")
    (written : ∀ name ∈ call.detail.plan.competitors, ∀ hint,
      call.detail.plan.homepageHints.get? name = some hint →
        httpUrl hint = some hint) :
    ((store.startRun settings httpUrl call).1).Refines
      (tenant.startRun settings call.now call.workspace call.detail) := by
  have pruned := refines.links.filter fun link =>
    link.projectId ≠ call.project settings ||
      link.competitorId ∈ call.competitorIds settings
  obtain ⟨projects, competitors, links⟩ :=
    @linkPlan_refines settings httpUrl call _ written
      (store.pruned settings call) _ pruned
  constructor
  case projects =>
    refine Eq.trans ?_ projects.symm
    rw [TenantStore.startRun, PlanStore.pruned, StartCall.projectRecord,
      upsertProject, writtenProject, refines.projects, named, actor]
    rfl
  case competitors =>
    refine Eq.trans ?_ competitors.symm
    rw [TenantStore.startRun, refines.competitors]
    rfl
  case links =>
    rw [TenantStore.startRun, relinked, ← named]
    exact links

end Refinement

/-! ## Runs -/

section Runs

variable {settings httpUrl}

theorem linksPlan_startRun {store : PlanStore} {call : StartCall}
    (returned : (store.startRun settings httpUrl call).2 = true) :
    LinksPlan settings call store
      (store.startRun settings httpUrl call).1 := by
  have keeps := @keepsCompetitors_startRun settings httpUrl call store
  obtain ⟨others, own⟩ := @startRun_links settings httpUrl call store
  constructor
  case toKeepsCompetitors => exact keeps
  case linked =>
    intro competitorId
    constructor
    · exact own competitorId
    · intro listed
      obtain ⟨name, member, rfl⟩ := List.mem_map.mp listed
      obtain ⟨link, linked⟩ := linkPlan_linked returned member
      exact Option.isSome_iff_exists.mpr ⟨link, linked⟩
  case kept =>
    intro competitorId listed link found
    apply linkPlan_kept
    have sameCompetitor :=
      congrArg Prod.snd (Table.key_of_get? found)
    dsimp only at sameCompetitor
    have unfiltered : (store.pruned settings
        call).projectCompetitors.get?
          (call.project settings, competitorId) =
        store.projectCompetitors.get?
          (call.project settings, competitorId) := by
      apply Table.get?_filter_of_kept
      intro row isRow
      rw [found] at isRow
      cases isRow
      simp [sameCompetitor, listed]
    rw [unfiltered]
    exact found
  case others => exact others
  case once =>
    intro first second isFirst isSecond same
    obtain ⟨firstWorkspace, firstNamed, -⟩ := keeps.created first isFirst
    obtain ⟨secondWorkspace, secondNamed, -⟩ :=
      keeps.created second isSecond
    apply Table.eq_of_key_eq isFirst.1 isSecond.1
    rw [firstNamed, secondNamed, firstWorkspace, secondWorkspace, same]

/-- The competitors of the stores that runs leave have the ids of their
names. -/
theorem StartedStore.hasNamedId {store : PlanStore}
    (started : StartedStore settings httpUrl store) :
    ∀ record ∈ store.competitors.values, record.HasNamedId settings := by
  induction started with
  | empty =>
      intro record member
      cases member
  | @start before started call induction =>
      intro record member
      have keeps := @keepsCompetitors_startRun settings httpUrl call before
      cases found : before.competitors.get? record.id with
      | none => exact (keeps.created record ⟨member, found⟩).2.1
      | some original =>
          obtain ⟨rewritten, isThere, workspace, normalized, -⟩ :=
            keeps.known record.id original found
          rw [Table.mem_values] at member
          have sameRecord : record = rewritten :=
            Option.some.inj (member.symm.trans isThere)
          have sameId : original.id = record.id := Table.key_of_get? found
          have named := induction original
            (Table.mem_values.mpr (sameId ▸ found))
          rw [CompetitorRecord.HasNamedId] at named ⊢
          rw [← sameId, sameRecord, workspace, normalized]
          exact named

/-- A run that returns links exactly its plan, it returns when the homepages
of the plan are URLs, and in no run of runs a workspace gets two competitors
of one normalised name. -/
theorem startRun_linksPlan (settings : TenantSettings)
    (httpUrl : String → Option String) (call : StartCall)
    (store : PlanStore) :
    ((store.startRun settings httpUrl call).2 = true →
        LinksPlan settings call store
          (store.startRun settings httpUrl call).1) ∧
      ((∀ name ∈ call.detail.plan.competitors, ∀ hint,
          call.detail.plan.homepageHints.get? name = some hint →
            (httpUrl hint).isSome) →
        (store.startRun settings httpUrl call).2 = true) ∧
      (StartedStore settings httpUrl store →
        ∀ first ∈ store.competitors.values,
          ∀ second ∈ store.competitors.values,
            first.workspaceId = second.workspaceId →
              first.normalizedName = second.normalizedName →
                first = second) := by
  refine ⟨linksPlan_startRun, fun urls => linkPlan_returns urls _, ?_⟩
  intro started first isFirst second isSecond workspace normalized
  have firstNamed := started.hasNamedId first isFirst
  have secondNamed := started.hasNamedId second isSecond
  apply Table.eq_of_key_eq isFirst isSecond
  rw [firstNamed, secondNamed, workspace, normalized]

end Runs

end Start

namespace StartExample

def settings : TenantSettings :=
  { sha256Hex := fun text => text
    normalizeKey := fun text => text.toLower
    topicNormalized := fun text => text
    month := fun _ => 0
    workspaces := fun _ => { } }

/-- A plan of two spellings of one competitor. -/
def call : StartCall :=
  { detail :=
      { id := "run"
        idempotencyKey := "key"
        workspaceId := "team"
        topic := "editors"
        activeRunFingerprint := ""
        createdAt := 1
        plan := { competitors := ["Cursor", "cursor"] } }
    now := 2
    linkedAt := fun _ => 3 }

theorem startRun_linksPlan_cursor :
    LinksPlan settings call { }
      (PlanStore.startRun settings some call { }).1 := by
  obtain ⟨linksPlan, returns, -⟩ :=
    startRun_linksPlan settings some call { }
  apply linksPlan
  apply returns
  intro name listed hint found
  cases found

end StartExample

end CompetiScope
