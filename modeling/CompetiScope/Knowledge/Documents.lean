import Mathlib.Data.Prod.Lex
import Mathlib.Data.String.Basic
import CompetiScope.Foundation.Collections
import CompetiScope.Foundation.Json
import CompetiScope.Foundation.Rows
import CompetiScope.Foundation.StableSort
import CompetiScope.Schema.Enterprise

/-!
# Documents of the knowledge base

Every version of a document is a row of its own; the chunks of a version name
its row.  The schema keeps one live row for a canonical URL and for a content
hash: a write that breaks a constraint raises and its transaction is rolled
back.
-/

namespace CompetiScope

open Foundation

/-! ## Rows -/

/-- The `status` of a document. -/
inductive DocumentStatus where
  | active
  | stale
  | archived
  | deleted
  deriving DecidableEq

/-- A row of `documents`. -/
structure KnowledgeDocument where
  id : String
  url : Option String := none
  canonicalUrl : Option String := none
  title : String
  sourceType : String
  competitor : Option String := none
  dimension : Option String := none
  contentHash : String
  text : String
  markdown : String := ""
  status : DocumentStatus := .active
  isActive : Bool := true
  version : Nat := 1
  parentDocumentId : Option String := none
  fetchedAt : Nat
  indexedAt : Option Nat := none
  lastSeenAt : Option Nat := none
  metadata : Dict String MetadataValue := ∅
  deriving DecidableEq

/-- A row of `chunks`. -/
structure KnowledgeChunk where
  id : String
  documentId : String
  chunkIndex : Nat
  text : String
  embeddingModel : String
  contentHash : String
  crawlRunId : Option String := none
  deriving DecidableEq

/-- `DocumentCreate`. -/
structure DocumentCreate where
  url : Option String := none
  canonicalUrl : Option String := none
  title : String
  sourceType : String
  competitor : Option String := none
  dimension : Option String := none
  text : String
  markdown : String := ""
  metadata : Dict String MetadataValue := ∅

/-- The key of `ux_documents_active_canonical_url`. -/
def activeUrl (document : KnowledgeDocument) : Option String :=
  if document.isActive then document.canonicalUrl else none

/-- The key of `ux_documents_active_content_hash`. -/
def activeHash (document : KnowledgeDocument) : Option String :=
  if document.isActive then some document.contentHash else none

/-- The constraints of the schema. -/
structure KnowledgeConstraints (documents : List KnowledgeDocument)
    (chunks : List KnowledgeChunk) : Prop where
  ids : (documents.map (·.id)).Nodup
  parents : ∀ document ∈ documents, ∀ parent ∈ document.parentDocumentId,
    parent ∈ documents.map (·.id)
  activeUrls : UniqueOn activeUrl documents
  activeHashes : UniqueOn activeHash documents
  chunkIds : (chunks.map (·.id)).Nodup
  chunkIndexes :
    (chunks.map fun chunk => (chunk.documentId, chunk.chunkIndex)).Nodup
  owners : ∀ chunk ∈ chunks, chunk.documentId ∈ documents.map (·.id)

instance (documents : List KnowledgeDocument)
    (chunks : List KnowledgeChunk) :
    Decidable (KnowledgeConstraints documents chunks) :=
  decidable_of_iff
    ((documents.map (·.id)).Nodup ∧
      (∀ document ∈ documents, ∀ parent ∈ document.parentDocumentId,
        parent ∈ documents.map (·.id)) ∧
      UniqueOn activeUrl documents ∧ UniqueOn activeHash documents ∧
      (chunks.map (·.id)).Nodup ∧
      (chunks.map fun chunk => (chunk.documentId, chunk.chunkIndex)).Nodup ∧
      ∀ chunk ∈ chunks, chunk.documentId ∈ documents.map (·.id))
    ⟨fun ⟨ids, parents, urls, hashes, chunkIds, indexes, owners⟩ =>
        ⟨ids, parents, urls, hashes, chunkIds, indexes, owners⟩,
      fun ⟨ids, parents, urls, hashes, chunkIds, indexes, owners⟩ =>
        ⟨ids, parents, urls, hashes, chunkIds, indexes, owners⟩⟩

/-- The tables `documents` and `chunks`, rows in the order of their row ids. -/
@[ext] structure KnowledgeDatabase where
  documents : List KnowledgeDocument
  chunks : List KnowledgeChunk
  valid : KnowledgeConstraints documents chunks

inductive KnowledgeError where
  | integrity
  | selector
  | operational
  deriving DecidableEq

namespace KnowledgeDatabase

def empty : KnowledgeDatabase :=
  { documents := []
    chunks := []
    valid := by decide }

/-- A statement that leaves the given rows; a broken constraint raises. -/
def write (documents : List KnowledgeDocument)
    (chunks : List KnowledgeChunk) :
    Except KnowledgeError KnowledgeDatabase :=
  if valid : KnowledgeConstraints documents chunks then
    .ok { documents := documents, chunks := chunks, valid := valid }
  else .error .integrity

theorem write_eq_ok {documents : List KnowledgeDocument}
    {chunks : List KnowledgeChunk} {database : KnowledgeDatabase}
    (written : write documents chunks = .ok database) :
    database.documents = documents ∧ database.chunks = chunks := by
  unfold write at written
  split at written
  · cases written
    exact ⟨rfl, rfl⟩
  · cases written

end KnowledgeDatabase

/-! ## Writes on a row -/

/-- `SET is_active = 0, status = 'archived'`. -/
def KnowledgeDocument.archive (now : Nat) (document : KnowledgeDocument) :
    KnowledgeDocument :=
  { document with
    isActive := false
    status := .archived
    indexedAt := some now }

/-- `SET is_active = 1, status = 'active'`. -/
def KnowledgeDocument.activate (now : Nat) (document : KnowledgeDocument) :
    KnowledgeDocument :=
  { document with
    isActive := true
    status := .active
    indexedAt := some now }

/-- `SET status = 'stale'`. -/
def KnowledgeDocument.markStale (now : Nat) (document : KnowledgeDocument) :
    KnowledgeDocument :=
  { document with
    status := .stale
    indexedAt := some now }

/-- `SET is_active = 0, status = 'deleted'`. -/
def KnowledgeDocument.discard (now : Nat) (document : KnowledgeDocument) :
    KnowledgeDocument :=
  { document with
    isActive := false
    status := .deleted
    indexedAt := some now }

/-- `first or second`. -/
def textOr (first second : Option String) : Option String :=
  if first.getD "" ≠ "" then first else second

/-- `parent_document_id or id`. -/
def KnowledgeDocument.rootId (document : KnowledgeDocument) : String :=
  (textOr document.parentDocumentId (some document.id)).getD ""

/-- `ORDER BY version DESC, fetched_at DESC, rowid DESC`. -/
def latestFirst (documents : List KnowledgeDocument) :
    List KnowledgeDocument :=
  sortDescending
    (fun document => toLex (document.version, document.fetchedAt))
    documents.reverse

/-- `ORDER BY version ASC, fetched_at ASC`. -/
def oldestFirst (documents : List KnowledgeDocument) :
    List KnowledgeDocument :=
  documents.insertionSort fun first second =>
    toLex (first.version, first.fetchedAt) ≤
      toLex (second.version, second.fetchedAt)

section Operations

variable (database : KnowledgeDatabase)

/-! ## Reads -/

/-- `get_document`. -/
def getDocument (documentId : String) : Option KnowledgeDocument :=
  database.documents.find? (·.id = documentId)

/-- `get_document_by_content_hash`. -/
def getDocumentByContentHash (contentHash : String) :
    Option KnowledgeDocument :=
  database.documents.find? fun document =>
    document.contentHash = contentHash && document.status = .active &&
      document.isActive

/-- `get_document_versions`. -/
def getDocumentVersions (documentId : String) : List KnowledgeDocument :=
  match getDocument database documentId with
  | none => []
  | some document =>
      oldestFirst (database.documents.filter fun other =>
        other.id = document.rootId ||
          other.parentDocumentId = some document.rootId)

/-- `get_chunks_for_document`. -/
def getChunksForDocument (documentId : String) : List KnowledgeChunk :=
  (database.chunks.filter (·.documentId = documentId)).insertionSort
    fun first second => first.chunkIndex ≤ second.chunkIndex

/-! ## Upsert -/

/-- The canonical URL an upsert stores. -/
def DocumentCreate.lineage (doc : DocumentCreate) : Option String :=
  textOr doc.canonicalUrl doc.url

/-- The live version an upsert replaces. -/
def previousVersion (canonicalUrl : Option String) :
    Option KnowledgeDocument :=
  if canonicalUrl.getD "" ≠ "" then
    (latestFirst (database.documents.filter fun document =>
      document.canonicalUrl = canonicalUrl && document.isActive)).head?
  else none

/-- The row an upsert inserts. -/
def insertedDocument (previous : Option KnowledgeDocument)
    (doc : DocumentCreate) (contentHash docId : String) (now : Nat) :
    KnowledgeDocument :=
  { id := docId
    url := doc.url
    canonicalUrl := doc.lineage
    title := doc.title
    sourceType := doc.sourceType
    competitor := doc.competitor
    dimension := doc.dimension
    contentHash := contentHash
    text := doc.text
    markdown := doc.markdown
    status := .active
    isActive := true
    version := (previous.map (·.version + 1)).getD 1
    parentDocumentId := previous.map (·.rootId)
    fetchedAt := now
    indexedAt := some now
    lastSeenAt := some now
    metadata := doc.metadata }

/-- The transaction of `upsert_document`. -/
def upsertDocument (doc : DocumentCreate) (contentHash docId : String)
    (now : Nat) :
    Except KnowledgeError (KnowledgeDocument × KnowledgeDatabase) :=
  let previous := previousVersion database doc.lineage
  let archived := updateRows
    (fun document => (previous.map (·.id)) = some document.id)
    (·.archive now) database.documents
  let inserted := insertedDocument previous doc contentHash docId now
  (KnowledgeDatabase.write (archived ++ [inserted]) database.chunks).map
    fun next => (inserted, next)

/-! ## Deletion and archive -/

/-- The transaction of `soft_delete`. -/
def softDelete (documentId : String) (now : Nat) :
    Except KnowledgeError (Bool × KnowledgeDatabase) :=
  let documents := updateRows (·.id = documentId) (·.discard now)
    database.documents
  (KnowledgeDatabase.write documents database.chunks).map fun next =>
    (database.documents.any (·.id = documentId), next)

/-- The transaction of `delete_document`; the chunks go with the row. -/
def deleteDocument (documentId : String) :
    Except KnowledgeError (Bool × KnowledgeDatabase) :=
  if database.documents.any (·.id = documentId) then
    (KnowledgeDatabase.write
      (database.documents.filter (·.id ≠ documentId))
      (database.chunks.filter (·.documentId ≠ documentId))).map
        fun next => (true, next)
  else .ok (false, database)

/-- The transaction of `archive_old_documents`. -/
def archiveOldDocuments (before now : Nat) :
    Except KnowledgeError (Nat × KnowledgeDatabase) :=
  let old := fun document : KnowledgeDocument =>
    decide (document.fetchedAt < before) && document.isActive
  (KnowledgeDatabase.write
    (updateRows old (·.archive now) database.documents)
    database.chunks).map fun next => (database.documents.countP old, next)

/-- The transaction of `mark_stale_documents`. -/
def markStaleDocuments (cutoff now : Nat) :
    Except KnowledgeError (Nat × KnowledgeDatabase) :=
  let unseen := fun document : KnowledgeDocument =>
    document.isActive && document.status = .active &&
      decide (document.lastSeenAt.getD document.fetchedAt < cutoff)
  (KnowledgeDatabase.write
    (updateRows unseen (·.markStale now) database.documents)
    database.chunks).map fun next => (database.documents.countP unseen, next)

/-! ## Merge -/

/-- The rows of a lineage that is told by its root. -/
def inLineage (rootId : String) (document : KnowledgeDocument) : Bool :=
  document.id = rootId || document.parentDocumentId = some rootId

/-- `merge_document_version`. -/
def mergeDocumentVersion (documentId targetDocumentId : String) (now : Nat) :
    Except KnowledgeError (Option KnowledgeDocument × KnowledgeDatabase) :=
  let versions := getDocumentVersions database documentId
  match versions with
  | [] => .ok (none, database)
  | first :: _ =>
      if targetDocumentId ∈ versions.map (·.id) then
        let documents := updateRows (·.id = targetDocumentId)
          (·.activate now)
          (updateRows (inLineage first.rootId) (·.archive now)
            database.documents)
        (KnowledgeDatabase.write documents database.chunks).map fun next =>
          (getDocument next targetDocumentId, next)
      else .ok (none, database)

/-! ## Rollback -/

/-- The selectors of `rollback_documents`. -/
structure RollbackSelectors where
  documentIds : List String := []
  runId : Option String := none
  rawSourceId : Option String := none
  crawlRunId : Option String := none

/-- At least one selector is true. -/
def RollbackSelectors.present (selectors : RollbackSelectors) : Bool :=
  selectors.documentIds ≠ [] || selectors.runId.getD "" ≠ "" ||
    selectors.rawSourceId.getD "" ≠ "" || selectors.crawlRunId.getD "" ≠ ""

/-- `json_extract` of a metadata entry, where it is a text. -/
def jsonExtract (metadata : Dict String MetadataValue) (key : String) :
    Option String :=
  match metadata.get? key with
  | some (.text value) => some value
  | some (.texts values) =>
      some (String.ofList ('[' ::
        (List.intercalate [','] (values.map Json.quote) ++ [']'])))
  | _ => none

/-- A selector that is given asks for one of two metadata entries. -/
def selectsMetadata (selector : Option String) (first second : String)
    (document : KnowledgeDocument) : Bool :=
  selector.getD "" = "" ||
    jsonExtract document.metadata first = selector ||
      jsonExtract document.metadata second = selector

/-- The rows a rollback archives. -/
def rollbackSelects (selectors : RollbackSelectors)
    (document : KnowledgeDocument) : Bool :=
  document.isActive && document.status ∈ [.active, .stale] &&
    (selectors.documentIds = [] ||
      document.id ∈ selectors.documentIds.filter (· ≠ "")) &&
    selectsMetadata selectors.runId "run_id" "collector_run_id" document &&
    selectsMetadata selectors.rawSourceId "raw_source_id" "kb_raw_source_id"
      document &&
    (selectors.crawlRunId.getD "" = "" ||
      database.chunks.any fun chunk =>
        chunk.documentId = document.id &&
          chunk.crawlRunId = selectors.crawlRunId)

/-- The version a rollback restores for a URL without a live one. -/
def restorableVersion (archivedIds : List String) (canonicalUrl : String) :
    Option KnowledgeDocument :=
  (latestFirst (database.documents.filter fun document =>
    document.canonicalUrl = some canonicalUrl &&
      document.id ∉ archivedIds && document.status = .archived)).head?

/-- The restored ids, the URLs without a version to restore and the tables
after the restores. -/
def restorePrevious (archivedIds : List String) (now : Nat) :
    List String → KnowledgeDatabase →
      Except KnowledgeError (List String × List String × KnowledgeDatabase)
  | [], database => .ok ([], [], database)
  | canonicalUrl :: urls, database =>
      if database.documents.any fun document =>
          document.canonicalUrl = some canonicalUrl && document.isActive &&
            document.status ∈ [.active, .stale] then
        restorePrevious archivedIds now urls database
      else
        match restorableVersion database archivedIds canonicalUrl with
        | none =>
            (restorePrevious archivedIds now urls database).map
              fun (restored, skipped, next) =>
                (restored, canonicalUrl :: skipped, next)
        | some previous =>
            match KnowledgeDatabase.write
                (updateRows (·.id = previous.id) (·.activate now)
                  database.documents)
                database.chunks with
            | .error error => .error error
            | .ok activated =>
                (restorePrevious archivedIds now urls activated).map
                  fun (restored, skipped, next) =>
                    (previous.id :: restored, skipped, next)

/-- `KnowledgeRollbackResult`. -/
structure KnowledgeRollbackResult where
  matchedCount : Nat := 0
  rolledBackCount : Nat := 0
  restoredCount : Nat := 0
  archivedDocumentIds : List String := []
  restoredDocumentIds : List String := []
  skippedDocumentIds : List String := []
  deriving DecidableEq

/-- The transaction of `rollback_documents`. -/
def rollbackDocuments (selectors : RollbackSelectors)
    (restore : Bool) (now : Nat) :
    Except KnowledgeError (KnowledgeRollbackResult × KnowledgeDatabase) :=
  let rows := latestFirst
    (database.documents.filter (rollbackSelects database selectors))
  let archiveIds := rows.map (·.id)
  if ¬ selectors.present then .error .selector
  else if archiveIds = [] then .ok ({ }, database)
  else
    match KnowledgeDatabase.write
        (updateRows (fun document => decide (document.id ∈ archiveIds))
          (·.archive now) database.documents)
        database.chunks with
    | .error error => .error error
    | .ok archived =>
        let urls := if restore then
            sortedSet ((rows.filterMap (·.canonicalUrl)).filter (· ≠ ""))
          else []
        (restorePrevious archiveIds now urls archived).map
          fun (restored, skipped, next) =>
            ({ matchedCount := archiveIds.length
               rolledBackCount := archiveIds.length
               restoredCount := restored.length
               archivedDocumentIds := archiveIds
               restoredDocumentIds := restored
               skippedDocumentIds := skipped.flatMap fun canonicalUrl =>
                 (rows.filter
                   (·.canonicalUrl = some canonicalUrl)).map (·.id) },
              next)

/-! ## Chunks -/

/-- `INSERT OR REPLACE` of a chunk. -/
def replaceChunk (chunks : List KnowledgeChunk) (chunk : KnowledgeChunk) :
    List KnowledgeChunk :=
  (chunks.filter fun other => other.id ≠ chunk.id &&
    (other.documentId, other.chunkIndex) ≠
      (chunk.documentId, chunk.chunkIndex)) ++ [chunk]

/-- The transaction of `insert_chunks`. -/
def insertChunks (chunks : List KnowledgeChunk) :
    Except KnowledgeError (Unit × KnowledgeDatabase) :=
  (KnowledgeDatabase.write database.documents
    (chunks.foldl replaceChunk database.chunks)).map fun next => ((), next)

end Operations

end CompetiScope
