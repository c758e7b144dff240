import CompetiScope.Knowledge.LiveDocuments

/-!
# The versions of a canonical URL

The next version number, the version a rollback restores and the marks of an
archive are all read off the rows.  A trace remembers what the rows forget:
the numbers given out, what a rollback archived and what was deleted softly.
-/

namespace CompetiScope

open Foundation

/-! ## Traces -/

/-- The knowledge base with the versions created so far, the documents
rollbacks archived and those that are softly deleted. -/
structure LineageTrace (Vector : Type) where
  base : KnowledgeBase Vector
  created : List (String × Nat) := []
  polluted : List String := []
  deleted : List String := []

/-- The document is a live row. -/
def IsLive (database : KnowledgeDatabase) (id : String) : Prop :=
  ∃ document ∈ database.documents,
    document.id = id ∧ document.isActive = true

instance (database : KnowledgeDatabase) (id : String) :
    Decidable (IsLive database id) :=
  inferInstanceAs (Decidable (∃ document ∈ database.documents, _))

/-- The document is a row that is not live. -/
def IsDown (database : KnowledgeDatabase) (id : String) : Prop :=
  ∃ document ∈ database.documents,
    document.id = id ∧ document.isActive = false

instance (database : KnowledgeDatabase) (id : String) :
    Decidable (IsDown database id) :=
  inferInstanceAs (Decidable (∃ document ∈ database.documents, _))

/-- The rows that were not there before. -/
def newDocuments (before after : KnowledgeDatabase) :
    List KnowledgeDocument :=
  after.documents.filter fun document =>
    document.id ∉ before.documents.map (·.id)

/-- The URL and the version number of a row that has a URL. -/
def versionOf (document : KnowledgeDocument) : Option (String × Nat) :=
  document.canonicalUrl.map fun url => (url, document.version)

namespace KnowledgeAction

variable {Vector : Type}

def isRollback : KnowledgeAction Vector → Bool
  | .operate (.rollback _ _ _) _ => true
  | _ => false

/-- The document a soft deletion names. -/
def softDeletes : KnowledgeAction Vector → Option String
  | .operate (.softDelete documentId _) _ => some documentId
  | _ => none

/-- The document a merge names as the one to make live. -/
def mergesInto : KnowledgeAction Vector → Option String
  | .operate (.merge _ targetDocumentId _) _ => some targetDocumentId
  | _ => none

end KnowledgeAction

/-- What an action adds to the trace. -/
def LineageTrace.after {Vector : Type} (trace : LineageTrace Vector)
    (action : KnowledgeAction Vector)
    (outcome : Except KnowledgeError Unit × KnowledgeBase Vector) :
    LineageTrace Vector :=
  let before := trace.base.database
  let after := outcome.2.database
  let archived := if action.isRollback then
      (before.documents.map (·.id)).filter fun id =>
        IsLive before id ∧ IsDown after id
    else []
  let discarded := match outcome.1 with
    | .ok _ => action.softDeletes.toList
    | .error _ => []
  { base := outcome.2
    created := trace.created ++ (newDocuments before after).filterMap versionOf
    polluted := (trace.polluted ++ archived).filter fun id =>
      id ∈ after.documents.map (·.id)
    deleted := (trace.deleted ++ discarded).filter fun id =>
      IsDown after id }

def lineageStep {Vector : Type} (pipeline : IngestionPipeline)
    (trace : LineageTrace Vector) (action : KnowledgeAction Vector) :
    Option (LineageTrace Vector) :=
  some (trace.after action (performKnowledge pipeline trace.base action))

/-! ## What a step promises -/

/-- Versions of a URL have different numbers and a new one has a number above
all before it, a rollback brings nothing back that a rollback archived, and a
deleted document comes back by a merge that names it. -/
structure LineageKept {Vector : Type} (pipeline : IngestionPipeline)
    (trace : LineageTrace Vector) (action : KnowledgeAction Vector) :
    Prop where
  distinct : ∀ first ∈
      (performKnowledge pipeline trace.base action).2.database.documents,
    ∀ second ∈
        (performKnowledge pipeline trace.base action).2.database.documents,
      ∀ version, versionOf first = some version →
        versionOf second = some version → first = second
  newest : ∀ document ∈ newDocuments trace.base.database
      (performKnowledge pipeline trace.base action).2.database,
    ∀ url, document.canonicalUrl = some url →
      ∀ number, (url, number) ∈ trace.created → number < document.version
  restored : action.isRollback = true → ∀ id,
    IsLive (performKnowledge pipeline trace.base action).2.database id →
      ¬ IsLive trace.base.database id → id ∉ trace.polluted
  undeleted : ∀ id ∈ trace.deleted,
    IsLive (performKnowledge pipeline trace.base action).2.database id →
      action.mergesInto = some id

/-- The live version of the URL has the highest number so far. -/
def Extends {Vector : Type} (trace : LineageTrace Vector)
    (canonicalUrl : Option String) : Prop :=
  ∀ url, canonicalUrl = some url → ∀ number, (url, number) ∈ trace.created →
    url ≠ "" ∧ ∃ document ∈ trace.base.database.documents,
      document.canonicalUrl = some url ∧ document.isActive = true ∧
        number ≤ document.version

instance {Vector : Type} (trace : LineageTrace Vector)
    (canonicalUrl : Option String) :
    Decidable (Extends trace canonicalUrl) :=
  decidable_of_iff
    (∀ entry ∈ trace.created, canonicalUrl = some entry.1 →
      entry.1 ≠ "" ∧ ∃ document ∈ trace.base.database.documents,
        document.canonicalUrl = some entry.1 ∧ document.isActive = true ∧
          entry.2 ≤ document.version)
    ⟨fun highest url isUrl number given => highest (url, number) given isUrl,
      fun highest entry given isUrl => highest entry.1 isUrl entry.2 given⟩

/-- The document was archived by a rollback or deleted softly. -/
def Marked {Vector : Type} (trace : LineageTrace Vector) (id : String) :
    Prop :=
  id ∈ trace.polluted ∨ id ∈ trace.deleted

instance {Vector : Type} (trace : LineageTrace Vector) (id : String) :
    Decidable (Marked trace id) :=
  inferInstanceAs (Decidable (_ ∨ _))

/-- Of the archived versions of a URL that is rolled back, one that is not
marked has a higher number than the marked ones. -/
def RestoresClean {Vector : Type} (trace : LineageTrace Vector)
    (selectors : RollbackSelectors) : Prop :=
  ∀ marked ∈ trace.base.database.documents, Marked trace marked.id →
    marked.status = .archived →
      (∃ document ∈ trace.base.database.documents,
        rollbackSelects trace.base.database selectors document = true ∧
          document.canonicalUrl = marked.canonicalUrl) →
        ∃ better ∈ trace.base.database.documents,
          ¬ Marked trace better.id ∧ better.status = .archived ∧
            better.canonicalUrl = marked.canonicalUrl ∧
            marked.version < better.version

instance {Vector : Type} (trace : LineageTrace Vector)
    (selectors : RollbackSelectors) :
    Decidable (RestoresClean trace selectors) :=
  inferInstanceAs (Decidable (∀ marked ∈ trace.base.database.documents, _))

/-- An upsert extends the lineage of its URL and a rollback restores clean
versions. -/
def LineageGuard {Vector : Type} (pipeline : IngestionPipeline)
    (trace : LineageTrace Vector) : KnowledgeAction Vector → Prop
  | .operate (.upsert doc _ _ _) _ => Extends trace doc.lineage
  | .operate (.rollback selectors restore _) _ =>
      restore = true → RestoresClean trace selectors
  | .ingest call =>
      getDocumentByContentHash trace.base.database
          (pipeline.contentHash call.doc.text) = none →
        Extends trace call.doc.lineage
  | _ => True

instance {Vector : Type} (pipeline : IngestionPipeline)
    (trace : LineageTrace Vector) (action : KnowledgeAction Vector) :
    Decidable (LineageGuard pipeline trace action) := by
  cases action with
  | ingest call => exact inferInstanceAs (Decidable (_ → _))
  | operate operation commitError =>
      cases operation with
      | upsert doc contentHash docId now =>
          exact inferInstanceAs (Decidable (Extends _ _))
      | rollback selectors restore now =>
          exact inferInstanceAs (Decidable (_ → _))
      | merge documentId targetDocumentId now => exact isTrue trivial
      | archive before now => exact isTrue trivial
      | markStale cutoff now => exact isTrue trivial
      | softDelete documentId now => exact isTrue trivial
      | delete documentId => exact isTrue trivial

/-! ## The numbers of a lineage -/

/-- The rows have different numbers, all of them given out before. -/
structure NumbersKept (created : List (String × Nat))
    (documents : List KnowledgeDocument) : Prop where
  distinct : ∀ first ∈ documents, ∀ second ∈ documents, ∀ version,
    versionOf first = some version → versionOf second = some version →
      first = second
  given : ∀ document ∈ documents, ∀ version,
    versionOf document = some version → version ∈ created

section Numbers

variable {created : List (String × Nat)}
  {first second : List KnowledgeDocument}

theorem versionOf_inserted (document : KnowledgeDocument) :
    versionOf document.inserted = versionOf document := rfl

/-- Rows with one id are one row. -/
theorem eq_of_id {database : KnowledgeDatabase}
    {first second : KnowledgeDocument}
    (firstMember : first ∈ database.documents)
    (secondMember : second ∈ database.documents)
    (same : first.id = second.id) : first = second :=
  List.inj_on_of_nodup_map database.valid.ids firstMember secondMember same

theorem SameVersions.ids (same : SameVersions first second) :
    second.map (·.id) = first.map (·.id) := by
  have mapped := congrArg (List.map (·.id)) same
  rw [List.map_map, List.map_map] at mapped
  exact mapped

/-- Writes on a live flag keep the numbers. -/
theorem NumbersKept.sameVersions {database next : KnowledgeDatabase}
    (numbers : NumbersKept created database.documents)
    (same : SameVersions database.documents next.documents) :
    NumbersKept created next.documents := by
  constructor
  case distinct =>
    intro left leftMember right rightMember version leftVersion rightVersion
    obtain ⟨oldLeft, oldLeftMember, leftEqual⟩ := same.exists_mem leftMember
    obtain ⟨oldRight, oldRightMember, rightEqual⟩ :=
      same.exists_mem rightMember
    rw [← versionOf_inserted, leftEqual, versionOf_inserted] at leftVersion
    rw [← versionOf_inserted, rightEqual, versionOf_inserted] at rightVersion
    have sameOld := numbers.distinct oldLeft oldLeftMember oldRight
      oldRightMember version leftVersion rightVersion
    apply eq_of_id leftMember rightMember
    rw [← id_inserted left, leftEqual, sameOld, ← rightEqual, id_inserted]
  case given =>
    intro document member version isVersion
    obtain ⟨old, oldMember, equal⟩ := same.exists_mem member
    rw [← versionOf_inserted, equal, versionOf_inserted] at isVersion
    exact numbers.given old oldMember version isVersion

theorem NumbersKept.append (numbers : NumbersKept created first)
    (more : List (String × Nat)) : NumbersKept (created ++ more) first where
  distinct := numbers.distinct
  given := fun document member version isVersion =>
    List.mem_append_left _ (numbers.given document member version isVersion)

theorem NumbersKept.subset (numbers : NumbersKept created first)
    (subset : second ⊆ first) : NumbersKept created second where
  distinct := fun left leftMember right rightMember =>
    numbers.distinct left (subset leftMember) right (subset rightMember)
  given := fun document member => numbers.given document (subset member)

/-- No row is new where the rows are the same versions. -/
theorem newDocuments_of_sameIds {before after : KnowledgeDatabase}
    (sameIds : ∀ document ∈ after.documents,
      document.id ∈ before.documents.map (·.id)) :
    newDocuments before after = [] := by
  rw [newDocuments, List.filter_eq_nil_iff]
  intro document member
  simpa using sameIds document member

end Numbers

/-- The numbers after a step, and that a new one is above those before. -/
structure NumbersStep (created : List (String × Nat))
    (before after : KnowledgeDatabase) : Prop where
  kept : NumbersKept
    (created ++ (newDocuments before after).filterMap versionOf)
    after.documents
  newest : ∀ document ∈ newDocuments before after,
    ∀ url, document.canonicalUrl = some url →
      ∀ number, (url, number) ∈ created → number < document.version

section NumbersSteps

variable {created : List (String × Nat)}
  {database next : KnowledgeDatabase}

theorem NumbersStep.ofSameIds
    (kept : NumbersKept created next.documents)
    (sameIds : ∀ document ∈ next.documents,
      document.id ∈ database.documents.map (·.id)) :
    NumbersStep created database next := by
  have none := newDocuments_of_sameIds sameIds
  constructor
  case kept =>
    rw [none]
    exact kept.append _
  case newest =>
    rw [none]
    exact fun _ member => nomatch member

theorem NumbersStep.sameVersions
    (numbers : NumbersKept created database.documents)
    (same : SameVersions database.documents next.documents) :
    NumbersStep created database next := by
  apply NumbersStep.ofSameIds (numbers.sameVersions same)
  intro document member
  rw [← same.ids]
  exact List.mem_map_of_mem member

theorem NumbersStep.subset
    (numbers : NumbersKept created database.documents)
    (subset : next.documents ⊆ database.documents) :
    NumbersStep created database next := by
  apply NumbersStep.ofSameIds (numbers.subset subset)
  intro document member
  exact List.mem_map_of_mem (subset member)

/-- The version an upsert replaces has the highest number of the live ones. -/
theorem previousVersion_ge {document : KnowledgeDocument} {url : String}
    (member : document ∈ database.documents)
    (sameUrl : document.canonicalUrl = some url)
    (live : document.isActive = true) (filled : url ≠ "") :
    ∃ previous, previousVersion database (some url) = some previous ∧
      document.version ≤ previous.version := by
  have candidate : document ∈ (database.documents.filter fun document =>
      document.canonicalUrl = some url && document.isActive).reverse := by
    rw [List.mem_reverse, List.mem_filter]
    refine ⟨member, ?_⟩
    rw [sameUrl, live]
    simp
  have given : (some url).getD "" ≠ "" := filled
  rw [previousVersion, if_pos given, latestFirst]
  cases first : (sortDescending
      (fun document : KnowledgeDocument =>
        toLex (document.version, document.fetchedAt))
      (database.documents.filter fun document =>
        document.canonicalUrl = some url &&
          document.isActive).reverse).head? with
  | none =>
      rw [head?_sortDescending_eq_none] at first
      rw [first] at candidate
      cases candidate
  | some previous =>
      refine ⟨previous, rfl, ?_⟩
      have leads := head?_sortDescending_eq_some.mp first
      have below := leads.le document candidate
      rw [Prod.Lex.toLex_le_toLex] at below
      rcases below with lower | ⟨same, -⟩
      · exact lower.le
      · exact same.le

/-- The rows an upsert leaves but the one it inserted are those before. -/
theorem upsert_sameVersions {doc : DocumentCreate}
    {contentHash docId : String} {now : Nat} {stored : KnowledgeDocument}
    (upserted : upsertDocument database doc contentHash docId now =
      .ok (stored, next)) :
    ∃ rows, next.documents = rows ++ [stored] ∧
      SameVersions database.documents rows ∧
      stored.id ∉ database.documents.map (·.id) := by
  obtain ⟨-, rows, -⟩ := upsertDocument_eq_ok upserted
  have archived : SameVersions database.documents (updateRows
      (fun document =>
        ((previousVersion database doc.lineage).map (·.id)) =
          some document.id)
      (·.archive now) database.documents) := by
    apply SameVersions.updateRows
    exact fun _ => rfl
  refine ⟨_, rows, archived, ?_⟩
  have distinct := next.valid.ids
  rw [rows, List.map_append, archived.ids, List.map_singleton,
    List.nodup_append] at distinct
  intro known
  exact distinct.2.2 stored.id known stored.id (List.mem_singleton_self _) rfl

theorem newDocuments_upsert {rows : List KnowledgeDocument}
    {stored : KnowledgeDocument}
    (isNext : next.documents = rows ++ [stored])
    (same : SameVersions database.documents rows)
    (fresh : stored.id ∉ database.documents.map (·.id)) :
    newDocuments database next = [stored] := by
  have old : rows.filter
      (fun document => document.id ∉ database.documents.map (·.id)) = [] := by
    rw [List.filter_eq_nil_iff]
    intro document member
    have known : document.id ∈ database.documents.map (·.id) := by
      rw [← same.ids]
      exact List.mem_map_of_mem member
    rw [decide_eq_true_iff]
    exact not_not.mpr known
  rw [newDocuments, isNext, List.filter_append, old, List.nil_append]
  exact List.filter_cons_of_pos (decide_eq_true fresh)

variable {Vector : Type} {trace : LineageTrace Vector}

/-- An upsert that extends its lineage gives out a new highest number. -/
theorem Extends.numbersStep {doc : DocumentCreate}
    {contentHash docId : String} {now : Nat} {stored : KnowledgeDocument}
    (highest : Extends trace doc.lineage)
    (numbers : NumbersKept trace.created trace.base.database.documents)
    (upserted : upsertDocument trace.base.database doc contentHash docId
      now = .ok (stored, next)) :
    NumbersStep trace.created trace.base.database next := by
  obtain ⟨rows, isNext, same, fresh⟩ := upsert_sameVersions upserted
  have new := newDocuments_upsert isNext same fresh
  have isStored := (upsertDocument_eq_ok upserted).1
  have higher : ∀ url, stored.canonicalUrl = some url →
      ∀ number, (url, number) ∈ trace.created → number < stored.version := by
    intro url isUrl number given
    have lineage : doc.lineage = some url := by
      rw [← isUrl, isStored]
      rfl
    obtain ⟨filled, document, member, sameUrl, live, below⟩ :=
      highest url lineage number given
    obtain ⟨previous, isPrevious, lower⟩ :=
      previousVersion_ge member sameUrl live filled
    have next : stored.version = previous.version + 1 := by
      rw [isStored, lineage, isPrevious]
      rfl
    omega
  have sameRows : ∀ document ∈ rows, ∃ old ∈ trace.base.database.documents,
      document.inserted = old.inserted :=
    fun document member => same.exists_mem member
  constructor
  case newest =>
    rw [new]
    intro document member
    rw [List.mem_singleton.mp member]
    exact higher
  case kept =>
    rw [new, isNext]
    have given : ∀ document ∈ rows, ∀ version,
        versionOf document = some version → version ∈ trace.created := by
      intro document member version isVersion
      obtain ⟨old, oldMember, equal⟩ := sameRows document member
      rw [← versionOf_inserted, equal, versionOf_inserted] at isVersion
      exact numbers.given old oldMember version isVersion
    have unlike : ∀ document ∈ rows, ∀ version,
        versionOf document = some version →
          versionOf stored ≠ some version := by
      intro document member version isVersion storedVersion
      have known := given document member version isVersion
      obtain ⟨url, isUrl, rfl⟩ := Option.map_eq_some_iff.mp storedVersion
      exact Nat.lt_irrefl _ (higher url isUrl stored.version known)
    constructor
    case given =>
      intro document member version isVersion
      rcases List.mem_append.mp member with old | isStored
      · exact List.mem_append_left _
          (given document old version isVersion)
      · rw [List.mem_singleton.mp isStored] at isVersion
        apply List.mem_append_right
        exact List.mem_filterMap.mpr
          ⟨stored, List.mem_singleton_self stored, isVersion⟩
    case distinct =>
      intro left leftMember right rightMember version leftVersion
        rightVersion
      rcases List.mem_append.mp leftMember with leftOld | leftNew
      · rcases List.mem_append.mp rightMember with rightOld | rightNew
        · obtain ⟨oldLeft, oldLeftMember, leftEqual⟩ :=
            sameRows left leftOld
          obtain ⟨oldRight, oldRightMember, rightEqual⟩ :=
            sameRows right rightOld
          rw [← versionOf_inserted, leftEqual,
            versionOf_inserted] at leftVersion
          rw [← versionOf_inserted, rightEqual,
            versionOf_inserted] at rightVersion
          have sameOld := numbers.distinct oldLeft oldLeftMember oldRight
            oldRightMember version leftVersion rightVersion
          rw [← isNext] at leftMember rightMember
          apply eq_of_id leftMember rightMember
          rw [← id_inserted left, leftEqual, sameOld, ← rightEqual,
            id_inserted]
        · rw [List.mem_singleton.mp rightNew] at rightVersion
          exact (unlike left leftOld version leftVersion rightVersion).elim
      · rcases List.mem_append.mp rightMember with rightOld | rightNew
        · rw [List.mem_singleton.mp leftNew] at leftVersion
          exact (unlike right rightOld version rightVersion
            leftVersion).elim
        · rw [List.mem_singleton.mp leftNew, List.mem_singleton.mp rightNew]

end NumbersSteps

/-! ## Which rows become live -/

section Lives

variable {database next : KnowledgeDatabase} {id : String}

/-- An update that makes no row live. -/
theorem live_updateRows {documents : List KnowledgeDocument}
    {selects : KnowledgeDocument → Bool}
    {write : KnowledgeDocument → KnowledgeDocument}
    (sameId : ∀ document, (write document).id = document.id)
    (lowers : ∀ document, (write document).isActive = true →
      document.isActive = true)
    (live : ∃ document ∈ updateRows selects write documents,
      document.id = id ∧ document.isActive = true) :
    ∃ document ∈ documents, document.id = id ∧ document.isActive = true := by
  obtain ⟨document, member, isId, isActive⟩ := live
  rcases mem_updateRows.mp member with ⟨old, oldMember, -, rfl⟩ |
    ⟨unchanged, -⟩
  · exact ⟨old, oldMember, (sameId old).symm.trans isId,
      lowers old isActive⟩
  · exact ⟨document, unchanged, isId, isActive⟩

theorem live_archive {documents : List KnowledgeDocument}
    {selects : KnowledgeDocument → Bool} {now : Nat}
    (live : ∃ document ∈ updateRows selects (·.archive now) documents,
      document.id = id ∧ document.isActive = true) :
    ∃ document ∈ documents, document.id = id ∧ document.isActive = true := by
  apply live_updateRows _ _ live
  · exact fun _ => rfl
  · intro document isActive
    cases isActive

/-- Activating one row makes no other live. -/
theorem live_activate {documents : List KnowledgeDocument}
    {target : String} {now : Nat}
    (live : ∃ document ∈
        updateRows (·.id = target) (·.activate now) documents,
      document.id = id ∧ document.isActive = true) :
    id = target ∨
      ∃ document ∈ documents,
        document.id = id ∧ document.isActive = true := by
  obtain ⟨document, member, isId, isActive⟩ := live
  rcases mem_updateRows.mp member with ⟨old, oldMember, selected, rfl⟩ |
    ⟨unchanged, -⟩
  · left
    rw [← isId]
    exact of_decide_eq_true selected
  · exact .inr ⟨document, unchanged, isId, isActive⟩

theorem isLive_upsert {doc : DocumentCreate} {contentHash docId : String}
    {now : Nat} {stored : KnowledgeDocument}
    (upserted : upsertDocument database doc contentHash docId now =
      .ok (stored, next)) (live : IsLive next id) :
    IsLive database id ∨ id ∉ database.documents.map (·.id) := by
  obtain ⟨-, rows, -⟩ := upsertDocument_eq_ok upserted
  obtain ⟨-, -, -, fresh⟩ := upsert_sameVersions upserted
  obtain ⟨document, member, isId, isActive⟩ := live
  rw [rows] at member
  rcases List.mem_append.mp member with old | new
  · exact .inl (live_archive ⟨document, old, isId, isActive⟩)
  · rw [List.mem_singleton.mp new] at isId
    rw [← isId]
    exact .inr fresh

end Lives

/-! ## What a rollback restores -/

section Rollback

variable {Vector : Type} {trace : LineageTrace Vector}
  {selectors : RollbackSelectors} {next : KnowledgeDatabase}

theorem rollbackSelects_status {database : KnowledgeDatabase}
    {document : KnowledgeDocument}
    (selected : rollbackSelects database selectors document = true) :
    document.status ≠ .archived := by
  intro archived
  unfold rollbackSelects at selected
  rw [archived] at selected
  simp at selected

/-- A row a rollback archives is not archived yet. -/
theorem not_mem_rollbackIds {database : KnowledgeDatabase}
    {document : KnowledgeDocument} (member : document ∈ database.documents)
    (archived : document.status = .archived) :
    document.id ∉ rollbackIds database selectors := by
  intro selected
  obtain ⟨other, inRows, isSelected, sameId⟩ := mem_rollbackIds.mp selected
  rw [eq_of_id inRows member sameId] at isSelected
  exact rollbackSelects_status isSelected archived

theorem hasLiveVersion_iff {database : KnowledgeDatabase} {url : String} :
    hasLiveVersion database url = true ↔
      ∃ document ∈ database.documents, document.canonicalUrl = some url ∧
        document.isActive = true ∧ document.status ∈ [.active, .stale] := by
  simp [hasLiveVersion, and_assoc]

/-- Activating a row leaves every live version live. -/
theorem hasLiveVersion_activate {database : KnowledgeDatabase}
    {target url : String} {now : Nat}
    (rows : next.documents =
      updateRows (·.id = target) (·.activate now) database.documents)
    (live : hasLiveVersion database url = true) :
    hasLiveVersion next url = true := by
  obtain ⟨document, member, isUrl, isActive, status⟩ :=
    hasLiveVersion_iff.mp live
  rw [hasLiveVersion_iff, rows]
  by_cases selected : document.id = target
  · refine ⟨document.activate now, ?_, isUrl, rfl, by
      simp [KnowledgeDocument.activate]⟩
    exact mem_updateRows.mpr
      (.inl ⟨document, member, decide_eq_true selected, rfl⟩)
  · exact ⟨document, mem_updateRows.mpr
      (.inr ⟨member, decide_eq_false selected⟩), isUrl, isActive, status⟩

/-- The tables between two restores: what is archived was archived before or
by this rollback, and what was archived before is so still or its URL has a
live version again. -/
structure BetweenRestores (trace : LineageTrace Vector)
    (selectors : RollbackSelectors) (database : KnowledgeDatabase) :
    Prop where
  archived : ∀ document ∈ database.documents, document.status = .archived →
    document.id ∉ rollbackIds trace.base.database selectors →
      document ∈ trace.base.database.documents
  kept : ∀ document ∈ trace.base.database.documents,
    document.status = .archived → ∀ url, document.canonicalUrl = some url →
      document ∈ database.documents ∨ hasLiveVersion database url = true
  lives : ∀ id, IsLive database id →
    IsLive trace.base.database id ∨ ¬ Marked trace id

theorem betweenRestores_archive {now : Nat}
    (rows : next.documents = updateRows
      (fun document => decide
        (document.id ∈ rollbackIds trace.base.database selectors))
      (·.archive now) trace.base.database.documents) :
    BetweenRestores trace selectors next := by
  constructor
  case archived =>
    intro document member _ other
    rw [rows] at member
    rcases mem_updateRows.mp member with ⟨old, -, selected, rfl⟩ |
      ⟨unchanged, -⟩
    · exact (other (of_decide_eq_true selected)).elim
    · exact unchanged
  case kept =>
    intro document member archived url _
    left
    rw [rows]
    exact mem_updateRows.mpr (.inr ⟨member,
      decide_eq_false (not_mem_rollbackIds member archived)⟩)
  case lives =>
    intro id live
    unfold IsLive at live
    rw [rows] at live
    exact .inl (live_archive live)

/-- A version that is restored is not marked. -/
theorem BetweenRestores.restored_unmarked {database : KnowledgeDatabase}
    (between : BetweenRestores trace selectors database)
    (clean : RestoresClean trace selectors) {url : String}
    (rolledBack : ∃ document ∈ trace.base.database.documents,
      rollbackSelects trace.base.database selectors document = true ∧
        document.canonicalUrl = some url)
    (vacant : hasLiveVersion database url = false)
    {previous : KnowledgeDocument}
    (restorable : restorableVersion database
      (rollbackIds trace.base.database selectors) url = some previous) :
    previous.canonicalUrl = some url ∧ previous ∈ database.documents ∧
      ¬ Marked trace previous.id := by
  have leads := head?_sortDescending_eq_some.mp restorable
  have candidate := leads.mem
  rw [List.mem_reverse, List.mem_filter] at candidate
  obtain ⟨member, selected⟩ := candidate
  simp only [Bool.and_eq_true, decide_eq_true_eq] at selected
  obtain ⟨⟨isUrl, other⟩, archived⟩ := selected
  refine ⟨isUrl, member, ?_⟩
  intro marked
  have inTrace := between.archived previous member archived other
  rw [← isUrl] at rolledBack
  obtain ⟨better, betterMember, unmarked, betterArchived, sameUrl, higher⟩ :=
    clean previous inTrace marked archived rolledBack
  rw [isUrl] at sameUrl
  rcases between.kept better betterMember betterArchived url sameUrl with
    still | live
  · have inCandidates : better ∈ (database.documents.filter fun document =>
        document.canonicalUrl = some url &&
          document.id ∉ rollbackIds trace.base.database selectors &&
          document.status = .archived).reverse := by
      rw [List.mem_reverse, List.mem_filter]
      refine ⟨still, ?_⟩
      simp only [Bool.and_eq_true, decide_eq_true_eq]
      exact ⟨⟨sameUrl, not_mem_rollbackIds betterMember betterArchived⟩,
        betterArchived⟩
    have below := leads.le better inCandidates
    rw [Prod.Lex.toLex_le_toLex] at below
    rcases below with lower | ⟨same, -⟩
    · exact Nat.lt_asymm higher lower
    · exact Nat.ne_of_gt higher same
  · rw [vacant] at live
    cases live

/-- The rows a rollback makes live are not marked. -/
theorem rollback_lives {restore : Bool} {now : Nat}
    {result : KnowledgeRollbackResult}
    (clean : restore = true → RestoresClean trace selectors)
    (ran : rollbackDocuments trace.base.database selectors restore now =
      .ok (result, next)) {id : String} (live : IsLive next id) :
    IsLive trace.base.database id ∨ ¬ Marked trace id := by
  rcases rollbackDocuments_eq_ok ran with same | ⟨archived, urls, restored,
    skipped, written, isRestored, fromRows⟩
  · rw [← same]
    exact .inl live
  · have between : BetweenRestores trace selectors next := by
      apply @restorePrevious_invariant _ _
        (BetweenRestores trace selectors) _ _ _ _ _ _ _ isRestored
      · intro database url isUrl previous activated before vacant restorable
          isWritten
        obtain ⟨restores, rolledBack⟩ := fromRows url isUrl
        obtain ⟨sameUrl, member, unmarked⟩ := before.restored_unmarked
          (clean restores) rolledBack vacant restorable
        have rows := (KnowledgeDatabase.write_eq_ok isWritten).1
        constructor
        case archived =>
          intro document inRows isArchived other
          rw [rows] at inRows
          rcases mem_updateRows.mp inRows with ⟨old, -, -, rfl⟩ |
            ⟨unchanged, -⟩
          · cases isArchived
          · exact before.archived document unchanged isArchived other
        case kept =>
          intro document inTrace isArchived otherUrl isOther
          rcases before.kept document inTrace isArchived otherUrl isOther with
            still | live
          · by_cases selected : document.id = previous.id
            · right
              have isPrevious := eq_of_id still member selected
              rw [isPrevious, sameUrl, Option.some.injEq] at isOther
              rw [← isOther, hasLiveVersion_iff, rows]
              refine ⟨previous.activate now, ?_, sameUrl, rfl, by
                simp [KnowledgeDocument.activate]⟩
              exact mem_updateRows.mpr
                (.inl ⟨previous, member, decide_eq_true rfl, rfl⟩)
            · left
              rw [rows]
              exact mem_updateRows.mpr
                (.inr ⟨still, decide_eq_false selected⟩)
          · exact .inr (hasLiveVersion_activate rows live)
        case lives =>
          intro other otherLive
          unfold IsLive at otherLive
          rw [rows] at otherLive
          rcases live_activate otherLive with isPrevious | liveBefore
          · right
            rw [isPrevious]
            exact unmarked
          · exact before.lives other liveBefore
      · exact betweenRestores_archive
          (KnowledgeDatabase.write_eq_ok written).1
    exact between.lives id live

end Rollback

/-! ## Every action -/

section Steps

variable {Vector : Type} {pipeline : IngestionPipeline}
  {trace : LineageTrace Vector} {action : KnowledgeAction Vector}

/-- What an action does to the numbers and which rows it makes live. -/
structure LineageEffect (trace : LineageTrace Vector)
    (action : KnowledgeAction Vector) (after : KnowledgeDatabase) :
    Prop where
  numbers : NumbersStep trace.created trace.base.database after
  lives : ∀ id, IsLive after id → IsLive trace.base.database id ∨
    id ∉ trace.base.database.documents.map (·.id) ∨
      action.mergesInto = some id ∨
        action.isRollback = true ∧ ¬ Marked trace id
  rollbackKeeps : action.isRollback = true →
    after.documents.map (·.id) =
      trace.base.database.documents.map (·.id)

theorem lineageEffect_of_same
    (numbers : NumbersKept trace.created trace.base.database.documents)
    {after : KnowledgeDatabase} (same : after = trace.base.database) :
    LineageEffect trace action after := by
  rw [same]
  constructor
  case numbers => exact .sameVersions numbers rfl
  case lives => exact fun _ live => .inl live
  case rollbackKeeps => exact fun _ => rfl

/-- An upsert by whatever action. -/
theorem Extends.lineageEffect {doc : DocumentCreate}
    {contentHash docId : String} {now : Nat} {stored : KnowledgeDocument}
    {upserted after : KnowledgeDatabase}
    (highest : Extends trace doc.lineage)
    (numbers : NumbersKept trace.created trace.base.database.documents)
    (isUpsert : upsertDocument trace.base.database doc contentHash docId
      now = .ok (stored, upserted))
    (sameRows : after.documents = upserted.documents)
    (noRollback : action.isRollback = false) :
    LineageEffect trace action after := by
  have step := highest.numbersStep numbers isUpsert
  have sameNew : newDocuments trace.base.database after =
      newDocuments trace.base.database upserted := by
    unfold newDocuments
    rw [sameRows]
  constructor
  case numbers =>
    constructor
    case kept =>
      rw [sameNew, sameRows]
      exact step.kept
    case newest =>
      rw [sameNew]
      exact step.newest
  case lives =>
    intro id live
    unfold IsLive at live
    rw [sameRows] at live
    rcases isLive_upsert isUpsert live with before | fresh
    · exact .inl before
    · exact .inr (.inl fresh)
  case rollbackKeeps =>
    intro isRollback
    rw [noRollback] at isRollback
    cases isRollback

theorem lineageEffect_operate {operation : KnowledgeOperation}
    {commitError : Option KnowledgeError} {after : KnowledgeDatabase}
    (numbers : NumbersKept trace.created trace.base.database.documents)
    (guarded : LineageGuard pipeline trace (.operate operation commitError))
    (ran : operation.run trace.base.database = .ok ((), after)) :
    LineageEffect trace (.operate operation commitError) after := by
  have keepsRows : operation.keepsRows = true →
      (∀ id, IsLive after id → IsLive trace.base.database id ∨
        (KnowledgeAction.operate operation
          commitError : KnowledgeAction Vector).mergesInto = some id ∨
        (KnowledgeAction.operate operation
            commitError : KnowledgeAction Vector).isRollback = true ∧
          ¬ Marked trace id) →
        LineageEffect trace (.operate operation commitError) after := by
    intro keeps lives
    have same := (sameVersions_of_run keeps ran).1
    constructor
    case numbers => exact .sameVersions numbers same
    case lives =>
      intro id live
      rcases lives id live with before | merged | restored
      · exact .inl before
      · exact .inr (.inr (.inl merged))
      · exact .inr (.inr (.inr restored))
    case rollbackKeeps => exact fun _ => same.ids
  have written : ∀ documents, after.documents = documents →
      ∀ id, IsLive after id →
        ∃ document ∈ documents,
          document.id = id ∧ document.isActive = true := by
    rintro documents rfl id live
    exact live
  cases operation with
  | upsert doc contentHash docId now =>
      obtain ⟨stored, upserted⟩ := dropResult_eq_ok ran
      exact Extends.lineageEffect guarded numbers upserted rfl rfl
  | delete documentId =>
      obtain ⟨result, deleted⟩ := dropResult_eq_ok ran
      rcases deleteDocument_eq_ok deleted with same | ⟨rows, -⟩
      · exact lineageEffect_of_same numbers same
      · have subset : after.documents ⊆ trace.base.database.documents := by
          rw [rows]
          exact fun _ member => List.mem_of_mem_filter member
        constructor
        case numbers => exact .subset numbers subset
        case lives =>
          rintro id ⟨document, member, isId, isActive⟩
          exact .inl ⟨document, subset member, isId, isActive⟩
        case rollbackKeeps => exact fun isRollback => nomatch isRollback
  | merge documentId targetDocumentId now =>
      obtain ⟨result, merged⟩ := dropResult_eq_ok ran
      apply keepsRows rfl
      intro id live
      rcases mergeDocumentVersion_eq_ok merged with same | ⟨rootId, rows, -⟩
      · rw [← same]
        exact .inl live
      · rcases live_activate (written _ rows id live) with isTarget |
          liveBefore
        · rw [isTarget]
          exact .inr (.inl rfl)
        · exact .inl (live_archive liveBefore)
  | archive before now =>
      obtain ⟨result, archived⟩ := dropResult_eq_ok ran
      have rows := (write_map_eq_ok (fun _ => rfl) archived).1
      apply keepsRows rfl
      intro id live
      exact .inl (live_archive (written _ rows id live))
  | markStale cutoff now =>
      obtain ⟨result, marked⟩ := dropResult_eq_ok ran
      have rows := (write_map_eq_ok (fun _ => rfl) marked).1
      apply keepsRows rfl
      intro id live
      refine .inl (live_updateRows ?_ ?_ (written _ rows id live))
      · exact fun _ => rfl
      · exact fun _ isActive => isActive
  | softDelete documentId now =>
      obtain ⟨result, removed⟩ := dropResult_eq_ok ran
      have rows := (write_map_eq_ok (fun _ => rfl) removed).1
      apply keepsRows rfl
      intro id live
      refine .inl (live_updateRows ?_ ?_ (written _ rows id live))
      · exact fun _ => rfl
      · intro document isActive
        cases isActive
  | rollback selectors restore now =>
      obtain ⟨result, rolledBack⟩ := dropResult_eq_ok ran
      apply keepsRows rfl
      intro id live
      rcases rollback_lives guarded rolledBack live with before | unmarked
      · exact .inl before
      · exact .inr (.inr ⟨rfl, unmarked⟩)

theorem lineageEffect
    (numbers : NumbersKept trace.created trace.base.database.documents)
    (guarded : LineageGuard pipeline trace action) :
    LineageEffect trace action
      (performKnowledge pipeline trace.base action).2.database := by
  cases action with
  | operate operation commitError =>
      unfold performKnowledge
      dsimp only
      rcases @transaction_cases _ _ _ commitError operation.run
          trace.base.database with
        ⟨error, failed⟩ | ⟨result, next, ran, made⟩
      · rw [failed]
        exact lineageEffect_of_same numbers rfl
      · rw [made]
        exact lineageEffect_operate numbers guarded ran
  | ingest call =>
      have stored : ∀ {doc : KnowledgeDocument}
          {upserted after : KnowledgeDatabase},
          getDocumentByContentHash trace.base.database
              (pipeline.contentHash call.doc.text) = none →
            upsertDocument trace.base.database call.doc
                (pipeline.contentHash call.doc.text) call.docId call.now =
              .ok (doc, upserted) →
            after.documents = upserted.documents →
              LineageEffect trace (.ingest call) after :=
        fun missing isUpsert sameRows =>
          Extends.lineageEffect (guarded missing) numbers isUpsert sameRows rfl
      have chunksKeepRows : ∀ {chunks : List KnowledgeChunk}
          {database next : KnowledgeDatabase},
          ChunksStored chunks database next →
            next.documents = database.documents := by
        rintro chunks database next (⟨-, same⟩ | inserted)
        · rw [same]
        · exact (insertChunks_eq_ok inserted).1
      unfold performKnowledge
      dsimp only
      have outcome := ingests pipeline call trace.base
      generalize pipeline.ingest call trace.base = made at outcome ⊢
      cases outcome with
      | unstored error => exact lineageEffect_of_same numbers rfl
      | known existing found => exact lineageEffect_of_same numbers rfl
      | uncut row database error missing isUpsert =>
          exact stored missing isUpsert rfl
      | unindexed row database next error missing isUpsert cut =>
          exact stored missing isUpsert (chunksKeepRows cut)
      | completed row database next final missing isUpsert cut indexed =>
          have sameTables := congrArg (·.2.database) indexed
          rw [indexChunks_database] at sameTables
          dsimp only at sameTables
          rw [← sameTables]
          exact stored missing isUpsert (chunksKeepRows cut)

/-- The numbers of the rows are kept and the deleted documents are down. -/
structure LineageInvariant (trace : LineageTrace Vector) : Prop where
  numbers : NumbersKept trace.created trace.base.database.documents
  down : ∀ id ∈ trace.deleted, IsDown trace.base.database id

theorem IsDown.not_isLive {database : KnowledgeDatabase} {id : String}
    (down : IsDown database id) : ¬ IsLive database id := by
  obtain ⟨first, firstMember, firstId, isDown⟩ := down
  rintro ⟨second, secondMember, secondId, isLive⟩
  rw [eq_of_id firstMember secondMember (firstId.trans secondId.symm),
    isLive] at isDown
  cases isDown

theorem IsDown.mem_ids {database : KnowledgeDatabase} {id : String}
    (down : IsDown database id) :
    id ∈ database.documents.map (·.id) := by
  obtain ⟨document, member, isId, -⟩ := down
  exact List.mem_map.mpr ⟨document, member, isId⟩

/-- A guarded step keeps the lineage. -/
theorem lineageKept (invariant : LineageInvariant trace)
    (guarded : LineageGuard pipeline trace action) :
    LineageKept pipeline trace action := by
  have effect := lineageEffect invariant.numbers guarded
  constructor
  case distinct => exact effect.numbers.kept.distinct
  case newest => exact effect.numbers.newest
  case restored =>
    intro isRollback id live wasDown polluted
    rcases effect.lives id live with before | fresh | merged | ⟨-, unmarked⟩
    · exact wasDown before
    · obtain ⟨document, member, isId, -⟩ := live
      apply fresh
      rw [← effect.rollbackKeeps isRollback]
      exact List.mem_map.mpr ⟨document, member, isId⟩
    · cases action with
      | ingest call => cases merged
      | operate operation commitError =>
          cases operation <;> cases isRollback
          cases merged
    · exact unmarked (.inl polluted)
  case undeleted =>
    intro id deleted live
    have down := invariant.down id deleted
    rcases effect.lives id live with before | fresh | merged | ⟨-, unmarked⟩
    · exact (down.not_isLive before).elim
    · exact (fresh down.mem_ids).elim
    · exact merged
    · exact (unmarked (.inr deleted)).elim

theorem lineageInvariant_step {next : LineageTrace Vector}
    (invariant : LineageInvariant trace)
    (guarded : LineageGuard pipeline trace action)
    (stepped : lineageStep pipeline trace action = some next) :
    LineageInvariant next := by
  cases stepped
  constructor
  case numbers =>
    exact (lineageEffect invariant.numbers guarded).numbers.kept
  case down =>
    intro id member
    exact of_decide_eq_true (List.mem_filter.mp member).2

end Steps

/-- Where every upsert extends its lineage and every rollback restores clean
versions, every step keeps the lineages. -/
theorem lineages_kept_along {Vector : Type} {pipeline : IngestionPipeline}
    {actions : List (KnowledgeAction Vector)}
    (guarded : Along (lineageStep pipeline) (LineageGuard pipeline)
      { base := .empty Vector } actions) :
    Along (lineageStep pipeline) (LineageKept pipeline)
      { base := .empty Vector } actions := by
  apply @along_of_invariant _ _ _ _ _ LineageInvariant _ _ _ _ _ guarded
  · intro trace action invariant guardHere
    exact lineageKept invariant guardHere
  · intro trace action next invariant guardHere stepped
    exact lineageInvariant_step invariant guardHere stepped
  · constructor
    case numbers =>
      constructor
      case distinct => exact fun _ member => nomatch member
      case given => exact fun _ member => nomatch member
    case down => exact fun _ member => nomatch member

namespace LineageExample

open KnowledgeExample (pipeline page)

/-- A version of the page, told by its text. -/
def upsertPage (text docId : String) (now : Nat) : KnowledgeAction Unit :=
  .operate (.upsert (page text) text docId now) none

def rollbackOf (documentId : String) (now : Nat) : KnowledgeAction Unit :=
  .operate (.rollback { documentIds := [documentId] } true now) none

/-- A polluted version is rolled back. -/
def rolledBack : List (KnowledgeAction Unit) :=
  [upsertPage "good" "d1" 1, upsertPage "bad" "d2" 2, rollbackOf "d2" 3]

/-- The page is crawled again. -/
def recrawled : List (KnowledgeAction Unit) :=
  rolledBack ++ [upsertPage "worse" "d3" 4]

/-- The new version is rolled back too. -/
def rolledBackTwice : List (KnowledgeAction Unit) :=
  recrawled ++ [rollbackOf "d3" 5]

/-- A deleted version is archived by a merge, then the other one is rolled
back. -/
def deletedThenMerged : List (KnowledgeAction Unit) :=
  [upsertPage "good" "d1" 1, upsertPage "wrong" "d2" 2,
    .operate (.softDelete "d2" 3) none,
    .operate (.merge "d1" "d1" 4) none, rollbackOf "d1" 5]

/-- What some actions leave of the empty trace. -/
def traceAfter (actions : List (KnowledgeAction Unit)) :
    LineageTrace Unit :=
  actions.foldl
    (fun trace action =>
      trace.after action (performKnowledge pipeline trace.base action))
    { base := .empty Unit }

theorem lineages_kept_along_rolledBack :
    (traceAfter rolledBack).base.database.documents.map
        (fun document => (document.id, document.isActive)) =
      [("d1", true), ("d2", false)] ∧
      Along (lineageStep pipeline) (LineageKept pipeline)
        { base := .empty Unit } rolledBack := by
  constructor
  · decide +kernel
  · apply lineages_kept_along
    decide +kernel

/-- A number is given out twice, a polluted version comes back and so does a
deleted one. -/
theorem lineages_lost :
    ¬ Along (lineageStep pipeline) (LineageKept pipeline)
        { base := .empty Unit } recrawled ∧
      ¬ Along (lineageStep pipeline) (LineageKept pipeline)
        { base := .empty Unit } rolledBackTwice ∧
      ¬ Along (lineageStep pipeline) (LineageKept pipeline)
        { base := .empty Unit } deletedThenMerged := by
  refine ⟨?_, ?_, ?_⟩
  · rintro ⟨-, -, -, kept, -⟩
    have again : ∃ document ∈ newDocuments
        (traceAfter rolledBack).base.database
        (traceAfter recrawled).base.database,
        document.canonicalUrl = some "https://example.com/plans" ∧
          document.version = 2 := by
      decide +kernel
    obtain ⟨document, member, isUrl, version⟩ := again
    have higher := kept.newest document member _ isUrl 2 (by decide +kernel)
    omega
  · rintro ⟨-, -, -, -, kept, -⟩
    have polluted := kept.restored rfl "d2" (by decide +kernel)
      (by decide +kernel)
    revert polluted
    decide +kernel
  · rintro ⟨-, -, -, -, kept, -⟩
    have undeleted := kept.undeleted "d2" (by decide +kernel)
      (by decide +kernel)
    revert undeleted
    decide +kernel

end LineageExample

end CompetiScope
