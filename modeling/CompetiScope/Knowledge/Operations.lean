import CompetiScope.Foundation.Transition
import CompetiScope.Knowledge.Ingestion

/-!
# Operations on the knowledge base

Every operation but an ingest is one transaction.  An operation other than an
upsert or a deletion writes three columns only: whether a row is live, its
status and when that was written.
-/

namespace CompetiScope

open Foundation

inductive KnowledgeOperation where
  | upsert (doc : DocumentCreate) (contentHash docId : String) (now : Nat)
  | merge (documentId targetDocumentId : String) (now : Nat)
  | archive (before now : Nat)
  | markStale (cutoff now : Nat)
  | rollback (selectors : RollbackSelectors) (restore : Bool) (now : Nat)
  | softDelete (documentId : String) (now : Nat)
  | delete (documentId : String)

/-- Forget what an operation returns. -/
def dropResult {Result : Type}
    (outcome : Except KnowledgeError (Result × KnowledgeDatabase)) :
    Except KnowledgeError (Unit × KnowledgeDatabase) :=
  outcome.map fun made => ((), made.2)

theorem dropResult_eq_ok {Result : Type}
    {outcome : Except KnowledgeError (Result × KnowledgeDatabase)}
    {next : KnowledgeDatabase} (isOk : dropResult outcome = .ok ((), next)) :
    ∃ result, outcome = .ok (result, next) := by
  cases outcome with
  | error error => cases isOk
  | ok made =>
      cases isOk
      exact ⟨made.1, rfl⟩

namespace KnowledgeOperation

/-- The transaction of an operation. -/
def run (operation : KnowledgeOperation) (database : KnowledgeDatabase) :
    Except KnowledgeError (Unit × KnowledgeDatabase) :=
  match operation with
  | .upsert doc contentHash docId now =>
      dropResult (upsertDocument database doc contentHash docId now)
  | .merge documentId targetDocumentId now =>
      dropResult (mergeDocumentVersion database documentId
        targetDocumentId now)
  | .archive before now => dropResult (archiveOldDocuments database before now)
  | .markStale cutoff now => dropResult (markStaleDocuments database cutoff now)
  | .rollback selectors restore now =>
      dropResult (rollbackDocuments database selectors restore now)
  | .softDelete documentId now =>
      dropResult (CompetiScope.softDelete database documentId now)
  | .delete documentId => dropResult (deleteDocument database documentId)

end KnowledgeOperation

/-- An operation, and whether its commit fails, or an ingest. -/
inductive KnowledgeAction (Vector : Type) where
  | operate (operation : KnowledgeOperation)
      (commitError : Option KnowledgeError)
  | ingest (call : IngestCall Vector)

/-- What an action raises, if anything, and what it leaves. -/
def performKnowledge {Vector : Type} (pipeline : IngestionPipeline)
    (base : KnowledgeBase Vector) (action : KnowledgeAction Vector) :
    Except KnowledgeError Unit × KnowledgeBase Vector :=
  match action with
  | .operate operation commitError =>
      let outcome := transaction commitError operation.run base.database
      (outcome.1, { base with database := outcome.2 })
  | .ingest call =>
      let outcome := pipeline.ingest call base
      (outcome.1.map fun _ => (), outcome.2)

/-- A step of the knowledge base. -/
def knowledgeStep {Vector : Type} (pipeline : IngestionPipeline)
    (base : KnowledgeBase Vector) (action : KnowledgeAction Vector) :
    Option (KnowledgeBase Vector) :=
  some (performKnowledge pipeline base action).2

def KnowledgeBase.empty (Vector : Type) : KnowledgeBase Vector :=
  { database := .empty
    points := ∅ }

/-! ## The columns of an insert -/

/-- A row as its insert wrote it. -/
def KnowledgeDocument.inserted (document : KnowledgeDocument) :
    KnowledgeDocument :=
  { document with
    isActive := true
    status := .active
    indexedAt := none }

@[simp] theorem inserted_archive (now : Nat) (document : KnowledgeDocument) :
    (document.archive now).inserted = document.inserted := rfl

@[simp] theorem inserted_activate (now : Nat)
    (document : KnowledgeDocument) :
    (document.activate now).inserted = document.inserted := rfl

theorem id_inserted (document : KnowledgeDocument) :
    document.inserted.id = document.id := rfl

theorem text_inserted (document : KnowledgeDocument) :
    document.inserted.text = document.text := rfl

/-- Live, superseded or deleted: the rows are those that were inserted. -/
def SameVersions (first second : List KnowledgeDocument) : Prop :=
  second.map (·.inserted) = first.map (·.inserted)

theorem SameVersions.updateRows {selects : KnowledgeDocument → Bool}
    {write : KnowledgeDocument → KnowledgeDocument}
    (kept : ∀ document, (write document).inserted = document.inserted)
    (documents : List KnowledgeDocument) :
    SameVersions documents (updateRows selects write documents) :=
  map_updateRows kept documents

theorem SameVersions.trans {first second third : List KnowledgeDocument}
    (left : SameVersions first second) (right : SameVersions second third) :
    SameVersions first third :=
  Eq.trans right left

/-- Every row is a version of the row that was there. -/
theorem SameVersions.exists_mem {first second : List KnowledgeDocument}
    (same : SameVersions first second) {document : KnowledgeDocument}
    (member : document ∈ second) :
    ∃ old ∈ first, document.inserted = old.inserted := by
  have image : document.inserted ∈ first.map (·.inserted) := by
    rw [← same]
    exact List.mem_map_of_mem member
  obtain ⟨old, oldMember, equal⟩ := List.mem_map.mp image
  exact ⟨old, oldMember, equal.symm⟩

theorem SameVersions.symm {first second : List KnowledgeDocument}
    (same : SameVersions first second) : SameVersions second first :=
  Eq.symm same

/-! ## Restoring -/

/-- A canonical URL has a live version. -/
def hasLiveVersion (database : KnowledgeDatabase) (canonicalUrl : String) :
    Bool :=
  database.documents.any fun document =>
    document.canonicalUrl = some canonicalUrl && document.isActive &&
      document.status ∈ [.active, .stale]

/-- What every restore preserves a rollback preserves. -/
theorem restorePrevious_invariant {archivedIds : List String} {now : Nat}
    {holds : KnowledgeDatabase → Prop} {urls : List String}
    (preserved : ∀ database, ∀ canonicalUrl ∈ urls, ∀ previous next,
      holds database → hasLiveVersion database canonicalUrl = false →
        restorableVersion database archivedIds canonicalUrl =
            some previous →
          KnowledgeDatabase.write
              (updateRows (·.id = previous.id) (·.activate now)
                database.documents) database.chunks = .ok next →
            holds next)
    {database next : KnowledgeDatabase}
    {restored skipped : List String} (start : holds database)
    (ran : restorePrevious archivedIds now urls database =
      .ok (restored, skipped, next)) : holds next := by
  induction urls generalizing database restored skipped with
  | nil =>
      cases ran
      exact start
  | cons canonicalUrl urls induction =>
      replace induction := @induction fun database url member =>
        preserved database url (List.mem_cons_of_mem _ member)
      rw [restorePrevious] at ran
      split at ran
      · exact induction start ran
      · next vacant =>
          split at ran
          · cases rest : restorePrevious archivedIds now urls database with
            | error error =>
                rw [rest] at ran
                cases ran
            | ok made =>
                rw [rest] at ran
                cases ran
                exact induction start rest
          · next previous restorable =>
              split at ran
              · cases ran
              · next activated written =>
                  have here := preserved database canonicalUrl
                    List.mem_cons_self previous activated start
                    (Bool.eq_false_iff.mpr vacant) restorable written
                  cases rest : restorePrevious archivedIds now urls
                      activated with
                  | error error =>
                      rw [rest] at ran
                      cases ran
                  | ok made =>
                      rw [rest] at ran
                      cases ran
                      exact induction here rest

theorem except_map_eq_ok {Value Result : Type}
    {outcome : Except KnowledgeError Value} {function : Value → Result}
    {result : Result} (isOk : outcome.map function = .ok result) :
    ∃ value, outcome = .ok value ∧ function value = result := by
  cases outcome with
  | error error => cases isOk
  | ok value =>
      cases isOk
      exact ⟨value, rfl, rfl⟩

/-- The ids of the rows a rollback archives. -/
def rollbackIds (database : KnowledgeDatabase)
    (selectors : RollbackSelectors) : List String :=
  (latestFirst (database.documents.filter
    (rollbackSelects database selectors))).map (·.id)

theorem mem_latestFirst {documents : List KnowledgeDocument}
    {document : KnowledgeDocument} :
    document ∈ latestFirst documents ↔ document ∈ documents := by
  rw [latestFirst, sortDescending, List.mem_insertionSort,
    List.mem_reverse]

theorem mem_rollbackIds {database : KnowledgeDatabase}
    {selectors : RollbackSelectors} {id : String} :
    id ∈ rollbackIds database selectors ↔
      ∃ document ∈ database.documents,
        rollbackSelects database selectors document = true ∧
          document.id = id := by
  rw [rollbackIds, List.mem_map]
  constructor
  · rintro ⟨document, member, isId⟩
    obtain ⟨inRows, selected⟩ :=
      List.mem_filter.mp (mem_latestFirst.mp member)
    exact ⟨document, inRows, selected, isId⟩
  · rintro ⟨document, inRows, selected, isId⟩
    exact ⟨document,
      mem_latestFirst.mpr (List.mem_filter.mpr ⟨inRows, selected⟩), isId⟩

/-- What a rollback that matches a row does: archive, then restore. -/
theorem rollbackDocuments_eq_ok {database next : KnowledgeDatabase}
    {selectors : RollbackSelectors} {restore : Bool} {now : Nat}
    {result : KnowledgeRollbackResult}
    (ran : rollbackDocuments database selectors restore now =
      .ok (result, next)) :
    next = database ∨
      ∃ archived urls restored skipped,
        KnowledgeDatabase.write
            (updateRows
              (fun document =>
                decide (document.id ∈ rollbackIds database selectors))
              (·.archive now) database.documents)
            database.chunks = .ok archived ∧
          restorePrevious (rollbackIds database selectors) now urls
              archived = .ok (restored, skipped, next) ∧
          ∀ url ∈ urls, restore = true ∧
            ∃ document ∈ database.documents,
              rollbackSelects database selectors document = true ∧
                document.canonicalUrl = some url := by
  unfold rollbackDocuments at ran
  dsimp only at ran
  split at ran
  · cases ran
  · split at ran
    · cases ran
      exact .inl rfl
    · split at ran
      · cases ran
      · next archived written =>
          obtain ⟨⟨restored, skipped, made⟩, isMade, same⟩ :=
            except_map_eq_ok ran
          rw [Prod.mk.injEq] at same
          obtain ⟨-, rfl⟩ := same
          refine .inr ⟨archived, _, restored, skipped, written, isMade, ?_⟩
          intro url member
          split at member
          · next restores =>
              obtain ⟨listed, -⟩ :=
                List.mem_filter.mp (mem_sortedSet.mp member)
              obtain ⟨document, inRows, isUrl⟩ :=
                List.mem_filterMap.mp listed
              obtain ⟨inTable, selected⟩ :=
                List.mem_filter.mp (mem_latestFirst.mp inRows)
              exact ⟨restores, document, inTable, selected, isUrl⟩
          · cases member

/-! ## What an operation does to the rows -/

section Effects

variable {database next : KnowledgeDatabase}

/-- What a write leaves, as the rows it was given. -/
theorem write_map_eq_ok {Result : Type}
    {documents : List KnowledgeDocument} {chunks : List KnowledgeChunk}
    {function : KnowledgeDatabase → Result × KnowledgeDatabase}
    (second : ∀ written, (function written).2 = written) {result : Result}
    (isOk : (KnowledgeDatabase.write documents chunks).map function =
      .ok (result, next)) :
    next.documents = documents ∧ next.chunks = chunks := by
  obtain ⟨written, isWritten, same⟩ := except_map_eq_ok isOk
  have isNext : written = next := by
    rw [← second written, same]
  rw [← isNext]
  exact KnowledgeDatabase.write_eq_ok isWritten

/-- The rows an upsert leaves: the version it replaces archived, its own row
behind all others. -/
theorem upsertDocument_eq_ok {doc : DocumentCreate}
    {contentHash docId : String} {now : Nat} {stored : KnowledgeDocument}
    (isOk : upsertDocument database doc contentHash docId now =
      .ok (stored, next)) :
    stored = insertedDocument (previousVersion database doc.lineage) doc
        contentHash docId now ∧
      next.documents =
        updateRows
          (fun document =>
            ((previousVersion database doc.lineage).map (·.id)) =
              some document.id)
          (·.archive now) database.documents ++ [stored] ∧
      next.chunks = database.chunks := by
  have rows := write_map_eq_ok (fun _ => rfl) isOk
  obtain ⟨written, -, same⟩ := except_map_eq_ok isOk
  rw [Prod.mk.injEq] at same
  obtain ⟨rfl, -⟩ := same
  exact ⟨rfl, rows⟩

theorem deleteDocument_eq_ok {documentId : String} {result : Bool}
    (isOk : deleteDocument database documentId = .ok (result, next)) :
    next = database ∨
      next.documents = database.documents.filter (·.id ≠ documentId) ∧
        next.chunks = database.chunks.filter (·.documentId ≠ documentId) := by
  unfold deleteDocument at isOk
  split at isOk
  · exact .inr (write_map_eq_ok (fun _ => rfl) isOk)
  · cases isOk
    exact .inl rfl

theorem mergeDocumentVersion_eq_ok {documentId targetDocumentId : String}
    {now : Nat} {result : Option KnowledgeDocument}
    (isOk : mergeDocumentVersion database documentId targetDocumentId now =
      .ok (result, next)) :
    next = database ∨
      ∃ rootId,
        next.documents = updateRows (·.id = targetDocumentId) (·.activate now)
            (updateRows (inLineage rootId) (·.archive now)
              database.documents) ∧
          next.chunks = database.chunks := by
  unfold mergeDocumentVersion at isOk
  dsimp only at isOk
  split at isOk
  · cases isOk
    exact .inl rfl
  · split at isOk
    · exact .inr ⟨_, write_map_eq_ok (fun _ => rfl) isOk⟩
    · cases isOk
      exact .inl rfl

/-- An operation that neither adds nor removes a row. -/
def KnowledgeOperation.keepsRows : KnowledgeOperation → Bool
  | .upsert _ _ _ _ => false
  | .delete _ => false
  | _ => true

/-- Such an operation keeps the versions and the chunks. -/
theorem sameVersions_of_run {operation : KnowledgeOperation}
    (keeps : operation.keepsRows = true)
    (ran : operation.run database = .ok ((), next)) :
    SameVersions database.documents next.documents ∧
      next.chunks = database.chunks := by
  have unchanged : ∀ other : KnowledgeDatabase, other = database →
      SameVersions database.documents other.documents ∧
        other.chunks = database.chunks := by
    rintro other rfl
    exact ⟨rfl, rfl⟩
  cases operation with
  | upsert doc contentHash docId now => cases keeps
  | delete documentId => cases keeps
  | merge documentId targetDocumentId now =>
      obtain ⟨result, isOk⟩ := dropResult_eq_ok ran
      rcases mergeDocumentVersion_eq_ok isOk with same | ⟨rootId, rows,
        chunks⟩
      · exact unchanged next same
      · rw [rows]
        refine ⟨(SameVersions.updateRows ?_ _).trans
          (SameVersions.updateRows ?_ _), chunks⟩
        · exact fun _ => rfl
        · exact fun _ => rfl
  | archive before now =>
      obtain ⟨result, isOk⟩ := dropResult_eq_ok ran
      obtain ⟨rows, chunks⟩ := write_map_eq_ok (fun _ => rfl) isOk
      rw [rows]
      refine ⟨SameVersions.updateRows ?_ _, chunks⟩
      exact fun _ => rfl
  | markStale cutoff now =>
      obtain ⟨result, isOk⟩ := dropResult_eq_ok ran
      obtain ⟨rows, chunks⟩ := write_map_eq_ok (fun _ => rfl) isOk
      rw [rows]
      refine ⟨SameVersions.updateRows ?_ _, chunks⟩
      exact fun _ => rfl
  | softDelete documentId now =>
      obtain ⟨result, isOk⟩ := dropResult_eq_ok ran
      obtain ⟨rows, chunks⟩ := write_map_eq_ok (fun _ => rfl) isOk
      rw [rows]
      refine ⟨SameVersions.updateRows ?_ _, chunks⟩
      exact fun _ => rfl
  | rollback selectors restore now =>
      obtain ⟨result, isOk⟩ := dropResult_eq_ok ran
      rcases rollbackDocuments_eq_ok isOk with same | ⟨archived, urls,
        restored, skipped, written, isRestored, -⟩
      · exact unchanged next same
      · obtain ⟨rows, chunks⟩ := KnowledgeDatabase.write_eq_ok written
        apply @restorePrevious_invariant _ _ (fun other =>
          SameVersions database.documents other.documents ∧
            other.chunks = database.chunks) _ _ _ _ _ _ _ isRestored
        · rintro other _ _ previous activated ⟨same, sameChunks⟩ _ _ isWritten
          obtain ⟨activatedRows, activatedChunks⟩ :=
            KnowledgeDatabase.write_eq_ok isWritten
          rw [activatedRows, activatedChunks]
          refine ⟨same.trans (SameVersions.updateRows ?_ _), sameChunks⟩
          exact fun _ => rfl
        · rw [rows]
          refine ⟨SameVersions.updateRows ?_ _, chunks⟩
          exact fun _ => rfl

end Effects

/-! ## What an ingest does -/

/-- The chunks are stored, or there are none. -/
def ChunksStored (chunks : List KnowledgeChunk)
    (database next : KnowledgeDatabase) : Prop :=
  chunks = [] ∧ next = database ∨
    insertChunks database chunks = .ok ((), next)

section Ingests

variable {Vector : Type} (pipeline : IngestionPipeline)
  (call : IngestCall Vector) (base : KnowledgeBase Vector)

/-- What an ingest may come to, by the step it stops at. -/
inductive Ingests :
    Except KnowledgeError String × KnowledgeBase Vector → Prop where
  | unstored (error : KnowledgeError) : Ingests (.error error, base)
  | known (existing : KnowledgeDocument)
      (found : getDocumentByContentHash base.database
        (pipeline.contentHash call.doc.text) = some existing) :
      Ingests (.ok existing.id, base)
  | uncut (stored : KnowledgeDocument) (database : KnowledgeDatabase)
      (error : KnowledgeError)
      (missing : getDocumentByContentHash base.database
        (pipeline.contentHash call.doc.text) = none)
      (upserted : upsertDocument base.database call.doc
        (pipeline.contentHash call.doc.text) call.docId call.now =
          .ok (stored, database)) :
      Ingests (.error error, { base with database := database })
  | unindexed (stored : KnowledgeDocument)
      (database next : KnowledgeDatabase) (error : KnowledgeError)
      (missing : getDocumentByContentHash base.database
        (pipeline.contentHash call.doc.text) = none)
      (upserted : upsertDocument base.database call.doc
        (pipeline.contentHash call.doc.text) call.docId call.now =
          .ok (stored, database))
      (cut : ChunksStored (pipeline.chunksOf call stored) database next) :
      Ingests (.error error, { base with database := next })
  | completed (stored : KnowledgeDocument)
      (database next : KnowledgeDatabase) (final : KnowledgeBase Vector)
      (missing : getDocumentByContentHash base.database
        (pipeline.contentHash call.doc.text) = none)
      (upserted : upsertDocument base.database call.doc
        (pipeline.contentHash call.doc.text) call.docId call.now =
          .ok (stored, database))
      (cut : ChunksStored (pipeline.chunksOf call stored) database next)
      (indexed : IngestionPipeline.indexChunks call
        (pipeline.chunksOf call stored) { base with database := next } =
          (.ok (), final)) :
      Ingests (.ok stored.id, final)

theorem indexChunks_error {chunks : List KnowledgeChunk}
    {start final : KnowledgeBase Vector} {error : KnowledgeError}
    (failed : IngestionPipeline.indexChunks call chunks start =
      (.error error, final)) : final = start := by
  unfold IngestionPipeline.indexChunks at failed
  split at failed
  · cases failed
  · split at failed
    · cases failed
    · split at failed
      · cases failed
        rfl
      · split at failed
        · cases failed
          rfl
        · cases failed

/-- The vector store is all an index writes. -/
theorem indexChunks_database {chunks : List KnowledgeChunk}
    {start : KnowledgeBase Vector} :
    (IngestionPipeline.indexChunks call chunks start).2.database =
      start.database := by
  unfold IngestionPipeline.indexChunks
  split
  · rfl
  · split
    · rfl
    · split
      · rfl
      · split
        · rfl
        · rfl

theorem storeChunks_cases (chunks : List KnowledgeChunk)
    (database : KnowledgeDatabase) :
    (∃ error, IngestionPipeline.storeChunks call chunks database =
        (.error error, database)) ∨
      ∃ next, IngestionPipeline.storeChunks call chunks database =
          (.ok (), next) ∧ ChunksStored chunks database next := by
  unfold IngestionPipeline.storeChunks
  split
  · next noChunks => exact .inr ⟨database, rfl, .inl ⟨noChunks, rfl⟩⟩
  · rcases @transaction_cases _ _ _ _ (fun database =>
      insertChunks database chunks) database with ⟨error, failed⟩ |
        ⟨result, next, isOk, made⟩
    · exact .inl ⟨error, failed⟩
    · exact .inr ⟨next, made, .inr isOk⟩

theorem ingests : Ingests pipeline call base (pipeline.ingest call base) := by
  unfold IngestionPipeline.ingest
  dsimp only
  split
  · exact .unstored _
  · split
    · next existing found => exact .known existing found
    · next missing =>
      rcases @transaction_cases _ _ _
          (IngestionPipeline.failure call .document)
          (fun database => upsertDocument database call.doc
            (pipeline.contentHash call.doc.text) call.docId call.now)
          base.database with ⟨error, failed⟩ | ⟨stored, database, upserted,
          made⟩
      · rw [failed]
        exact .unstored error
      · rw [made]
        dsimp only
        rcases storeChunks_cases call (pipeline.chunksOf call stored)
          database with ⟨error, failed⟩ | ⟨next, isStored, cut⟩
        · rw [failed]
          exact .uncut stored database error missing upserted
        · rw [isStored]
          dsimp only
          cases made : IngestionPipeline.indexChunks call
              (pipeline.chunksOf call stored)
              { base with database := next } with
          | mk outcome final =>
              cases outcome with
              | error error =>
                  rw [indexChunks_error call made]
                  exact .unindexed stored database next error missing upserted cut
              | ok _ =>
                  exact .completed stored database next final missing upserted cut
                    made

end Ingests

end CompetiScope
