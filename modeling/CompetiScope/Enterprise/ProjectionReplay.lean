import CompetiScope.Enterprise.MemoryStore
import CompetiScope.Foundation.Replay
import CompetiScope.Identity.SourceResolver

/-!
# Saving a projection again

A projection writes six collections by rules of their own.  The records of one
run, each under its own id, leave every collection as it is when they are
saved again: a merge absorbs what it has merged and overwrites the rest with
the same values.
-/

namespace CompetiScope

open Foundation

/-! ## Entries of the source registry -/

/-- `_merge_source_registry` of entries with one id. -/
def mergeSameSource (known incoming : SourceRegistryRecord) :
    SourceRegistryRecord :=
  { mergeSourceRegistry known incoming with id := incoming.id }

def mergeFoundSource (existing : Option SourceRegistryRecord)
    (incoming : SourceRegistryRecord) : SourceRegistryRecord :=
  match existing with
  | none => incoming
  | some known => mergeSameSource known incoming

@[simp] theorem mergeFoundSource_id (existing : Option SourceRegistryRecord)
    (incoming : SourceRegistryRecord) :
    (mergeFoundSource existing incoming).id = incoming.id := by
  cases existing with
  | none => rfl
  | some known => rfl

theorem mergeSameSource_self (record : SourceRegistryRecord) :
    mergeSameSource record record = record := by
  have stronger : strongerTrustLevel record.trustLevel record.trustLevel =
      record.trustLevel := by
    rw [strongerTrustLevel, if_pos (Nat.le_refl _)]
  unfold mergeSameSource mergeSourceRegistry
  simp [stronger]

/-- The entries a run brings: last seen by it and first seen by some run. -/
def OfRun (runId : String) (rows : List SourceRegistryRecord) : Prop :=
  ∀ row ∈ rows, row.lastSeenRunId = some runId ∧
    ∃ first, row.firstSeenRunId = some first ∧ first ≠ ""

section Fields

variable {runId : String} {rows : List SourceRegistryRecord}

private theorem strongerTrustLevel_replays
    (rows : List SourceRegistryRecord) :
    Replays (fun trust (row : SourceRegistryRecord) =>
      strongerTrustLevel trust row.trustLevel) rows := by
  have absorbed : ∀ trust other : SourceTrustLevel,
      strongerTrustLevel trust other = trust ↔ other.rank ≤ trust.rank := by
    intro trust other
    cases trust <;> cases other <;> decide
  have rises : ∀ trust other : SourceTrustLevel,
      trust.rank ≤ (strongerTrustLevel trust other).rank ∧
        other.rank ≤ (strongerTrustLevel trust other).rank := by
    intro trust other
    cases trust <;> cases other <;> decide
  apply replays_of_absorbs
  · intro trust row _
    exact (absorbed _ _).mpr (rises trust row.trustLevel).2
  · intro trust row _ other _ known
    exact (absorbed _ _).mpr
      (((absorbed _ _).mp known).trans (rises trust other.trustLevel).1)

private theorem firstSeenRunId_replays (ofRun : OfRun runId rows) :
    Replays (fun first (row : SourceRegistryRecord) =>
      orText first row.firstSeenRunId) rows := by
  have kept : ∀ first other : Option String,
      (first.filter (· ≠ "")).isSome → orText first other = first := by
    intro first other present
    obtain ⟨text, found⟩ := Option.isSome_iff_exists.mp present
    rw [orText, found, (Option.filter_eq_some_iff.mp found).1,
      Option.some_or]
  have present : ∀ first, ∀ row ∈ rows,
      ((orText first row.firstSeenRunId).filter (· ≠ "")).isSome := by
    intro first row member
    obtain ⟨-, text, isFirst, filled⟩ := ofRun row member
    cases found : first.filter (· ≠ "") with
    | none =>
        rw [orText, found, Option.none_or, isFirst]
        simp [filled]
    | some known =>
        rw [kept first _ (by rw [found]; rfl), found]
        rfl
  apply replays_of_absorbs
  · intro first row member
    exact kept _ _ (present first row member)
  · intro first row member other isOther absorbed
    exact kept _ _ (present first other isOther)

private theorem seen_replays (ofRun : OfRun runId rows) :
    Replays (fun (seen : Option String × Nat) (row : SourceRegistryRecord) =>
      (row.lastSeenRunId,
        max (seen.2 +
          if row.lastSeenRunId.filter (· ≠ "") ≠ none ∧
              row.lastSeenRunId ≠ seen.1 then 1
          else 0) row.seenCount)) rows := by
  have lastRun : ∀ row ∈ rows, row.lastSeenRunId = some runId :=
    fun row member => (ofRun row member).1
  have absorbed : ∀ (seen : Option String × Nat), ∀ row ∈ rows,
      seen.1 = some runId → row.seenCount ≤ seen.2 →
        (row.lastSeenRunId,
          max (seen.2 +
            if row.lastSeenRunId.filter (· ≠ "") ≠ none ∧
                row.lastSeenRunId ≠ seen.1 then 1
            else 0) row.seenCount) = seen := by
    rintro ⟨last, count⟩ row member isRun bound
    simp only at isRun bound
    simp [lastRun row member, isRun, bound]
  apply replays_of_absorbs
  · intro seen row member
    exact absorbed _ row member (lastRun row member) (Nat.le_max_right _ _)
  · intro seen row member other isOther known
    refine absorbed _ row member (lastRun other isOther) ?_
    have bound : row.seenCount ≤ seen.2 := by
      rw [← known]
      exact Nat.le_max_right _ _
    omega

end Fields

/-- A field that is overwritten by some entries is the same again. -/
private theorem overwritten_field {Part : Type*}
    {part : SourceRegistryRecord → Part}
    (chosen : SourceRegistryRecord → Option Part)
    (overwrites : ∀ known row,
      part (mergeSameSource known row) = (chosen row).getD (part known))
    (rows : List SourceRegistryRecord) (start : SourceRegistryRecord) :
    part (rows.foldl mergeSameSource (rows.foldl mergeSameSource start)) =
      part (rows.foldl mergeSameSource start) :=
  foldl_part part _ overwrites
    (replays_of_overwrites chosen (fun _ _ => rfl) rows) start

/-- The entries of a run may be merged again. -/
theorem mergeSameSource_replays {runId : String}
    {rows : List SourceRegistryRecord} (ofRun : OfRun runId rows) :
    Replays mergeSameSource rows := by
  intro start
  let seenOf (entry : SourceRegistryRecord) : Option String × Nat :=
    (entry.lastSeenRunId, entry.seenCount)
  have seen : seenOf (rows.foldl mergeSameSource
      (rows.foldl mergeSameSource start)) = _ :=
    foldl_part seenOf _ (fun _ _ => rfl) (seen_replays ofRun) start
  ext1
  case id =>
    exact overwritten_field (fun row => some row.id) (fun _ _ => rfl) rows
      start
  case workspaceId =>
    exact overwritten_field (fun row => some row.workspaceId)
      (fun _ _ => rfl) rows start
  case domain =>
    exact overwritten_field (fun row => some row.domain)
      (fun _ _ => rfl) rows start
  case sourceType =>
    exact overwritten_field (fun row => some row.sourceType)
      (fun _ _ => rfl) rows start
  case displayName =>
    exact overwritten_field (fun row => some row.displayName)
      (fun _ _ => rfl) rows start
  case homepageUrl =>
    exact overwritten_field (fun row => some row.homepageUrl)
      (fun _ _ => rfl) rows start
  case trustLevel =>
    exact foldl_part SourceRegistryRecord.trustLevel _ (fun _ _ => rfl)
      (strongerTrustLevel_replays rows) start
  case robotsStatus =>
    refine overwritten_field (fun row =>
      if row.robotsStatus ≠ .unknown then some row.robotsStatus else none)
      ?_ rows start
    intro known row
    by_cases given : row.robotsStatus ≠ .unknown
    · simp only [mergeSameSource, mergeSourceRegistry, if_pos given,
        Option.getD_some]
    · simp only [mergeSameSource, mergeSourceRegistry, if_neg given,
        Option.getD_none]
  case policyReviewStatus =>
    refine overwritten_field (fun row =>
      if row.policyReviewStatus ≠ .notRequired then
        some row.policyReviewStatus
      else none) ?_ rows start
    intro known row
    by_cases given : row.policyReviewStatus ≠ .notRequired
    · simp only [mergeSameSource, mergeSourceRegistry, if_pos given,
        Option.getD_some]
    · simp only [mergeSameSource, mergeSourceRegistry, if_neg given,
        Option.getD_none]
  case policyReviewReason =>
    refine overwritten_field (fun row =>
      if row.policyReviewReason ≠ "" then some row.policyReviewReason
      else none) ?_ rows start
    intro known row
    by_cases given : row.policyReviewReason ≠ ""
    · simp only [mergeSameSource, mergeSourceRegistry, if_pos given,
        Option.getD_some]
    · simp only [mergeSameSource, mergeSourceRegistry, if_neg given,
        Option.getD_none]
  case isActive =>
    exact overwritten_field (fun _ => none) (fun _ _ => rfl) rows start
  case firstSeenRunId =>
    exact foldl_part SourceRegistryRecord.firstSeenRunId _ (fun _ _ => rfl)
      (firstSeenRunId_replays ofRun) start
  case lastSeenRunId => exact congrArg Prod.fst seen
  case firstSeenAt =>
    refine foldl_part SourceRegistryRecord.firstSeenAt
      (fun first row => min first row.firstSeenAt) (fun _ _ => rfl) ?_ start
    apply replays_of_absorbs
    · intro first row _
      omega
    · intro first row _ other _ absorbed
      omega
  case lastSeenAt =>
    refine foldl_part SourceRegistryRecord.lastSeenAt
      (fun last row => max last row.lastSeenAt) (fun _ _ => rfl) ?_ start
    apply replays_of_absorbs
    · intro last row _
      omega
    · intro last row _ other _ absorbed
      omega
  case seenCount => exact congrArg Prod.snd seen
  case metadata =>
    exact foldl_part SourceRegistryRecord.metadata _ (fun _ _ => rfl)
      (Dict.update_replays (fun row => row.metadata) rows) start

theorem mergeFoundSource_replays {runId : String}
    {rows : List SourceRegistryRecord} (ofRun : OfRun runId rows) :
    Replays (fun (registry : Table String SourceRegistryRecord (·.id)) row =>
      registry.mergeRow mergeFoundSource row) rows := by
  apply Table.mergeRow_replays mergeFoundSource_id
  intro id
  have ofId : OfRun runId (rows.filter (·.id = id)) :=
    fun row member => ofRun row (List.mem_of_mem_filter member)
  exact Table.mergeFound_replays (fun _ _ => rfl)
    (fun row => (mergeSameSource_self row).symm)
    (mergeSameSource_replays ofId)

/-! ## Entries filed under their sources -/

section Registry

variable (parsing : EvidenceParsing)

/-- `compute_source_registry_id`. -/
def sourceRegistryId (record : SourceRegistryRecord) : String :=
  stablePrefixedId parsing.sha256Hex "source-registry"
    [.text record.workspaceId, .text (parsing.normalizeKey record.domain),
      .text (parsing.normalizeKey record.sourceType)] 16

/-- Every entry is filed under the id of its source. -/
def RegistryKeyed (registry : Table String SourceRegistryRecord (·.id)) :
    Prop :=
  ∀ row ∈ registry.values, row.id = sourceRegistryId parsing row

variable {parsing}

theorem sourceRegistryFromEvidence_id [PyRuntime]
    (evidence : EvidenceRecord) :
    (sourceRegistryFromEvidence parsing evidence).id =
      sourceRegistryId parsing
        (sourceRegistryFromEvidence parsing evidence) := by
  unfold sourceRegistryFromEvidence queueRobotsPolicyReview
  simp only
  split
  · rfl
  · rfl

/-- An entry meets the one stored under its id. -/
theorem registerSource_of_keyed (store : EvidenceStore)
    (keyed : RegistryKeyed parsing store.registry)
    {incoming : SourceRegistryRecord}
    (named : incoming.id = sourceRegistryId parsing incoming) :
    store.registerSource incoming =
      { store with
        registry := store.registry.mergeRow mergeFoundSource incoming } := by
  have target : store.registryTarget .memory incoming =
      store.registry.get? incoming.id := by
    unfold EvidenceStore.registryTarget
    simp only
    generalize found : List.find? _ store.registry.values = byNaturalKey
    cases byNaturalKey with
    | none => exact Option.none_or
    | some item =>
        have stored := List.mem_of_find?_eq_some found
        have sameSource := List.find?_some found
        simp only [Bool.and_eq_true, decide_eq_true_eq] at sameSource
        have sameId : item.id = incoming.id := by
          rw [keyed item stored, named, sourceRegistryId, sourceRegistryId,
            sameSource.1.1, sameSource.1.2, sameSource.2]
        rw [Option.some_or, ← sameId]
        exact (Table.mem_values.mp stored).symm
  unfold EvidenceStore.registerSource EvidenceStore.registeredSource
    Table.mergeRow
  rw [target]
  cases found : store.registry.get? incoming.id with
  | none => rfl
  | some existing =>
      have sameId : existing.id = incoming.id := Table.key_of_get? found
      have sameSource : mergeSameSource existing incoming =
          mergeSourceRegistry existing incoming := by
        rw [mergeSameSource, ← sameId]
        rfl
      simp only [mergeFoundSource, sameSource]

theorem registryKeyed_mergeRow
    {registry : Table String SourceRegistryRecord (·.id)}
    (keyed : RegistryKeyed parsing registry)
    {incoming : SourceRegistryRecord}
    (named : incoming.id = sourceRegistryId parsing incoming) :
    RegistryKeyed parsing (registry.mergeRow mergeFoundSource incoming) := by
  intro row stored
  have found := Table.mem_values.mp stored
  rw [Table.get?_mergeRow mergeFoundSource_id] at found
  split at found
  · rw [← Option.some.inj found, mergeFoundSource_id, named]
    cases registry.get? row.id with
    | none => rfl
    | some known => rfl
  · exact keyed row (Table.mem_values.mpr found)

end Registry

/-! ## Records of a run -/

theorem orText_eq_self {first : Option String}
    (filled : first.filter (· ≠ "") ≠ none) (second : Option String) :
    orText first second = first := by
  obtain ⟨text, found⟩ := Option.ne_none_iff_exists'.mp filled
  rw [orText, found, (Option.filter_eq_some_iff.mp found).1, Option.some_or]

theorem orText_filled {second : Option String}
    (filled : second.filter (· ≠ "") ≠ none) (first : Option String) :
    (orText first second).filter (· ≠ "") ≠ none := by
  cases found : first.filter (· ≠ "") with
  | none => rwa [orText, found, Option.none_or]
  | some text =>
      have present : first.filter (· ≠ "") ≠ none := by
        rw [found]
        exact nofun
      rwa [orText_eq_self present]

section Evidence

variable {runId : String}

/-- The aliases of a record hold those that are merged into it again. -/
theorem mergeEvidenceSourceMetadata_again (existing : Option EvidenceRecord)
    (incoming : EvidenceRecord) :
    mergeEvidenceSourceMetadata
        (some (mergeEvidenceLifecycle existing incoming)) incoming =
      mergeEvidenceSourceMetadata existing incoming := by
  let brought := stringList (incoming.metadata.get? "raw_source_aliases") ++
    [incoming.rawSourceId]
  obtain ⟨stored, known, merged⟩ : ∃ stored, ∃ known : List String,
      mergeEvidenceSourceMetadata existing incoming =
        (Dict.update stored incoming.metadata).set "raw_source_aliases"
          (.texts (dedupeStrings (known ++ brought))) := by
    cases existing with
    | none => exact ⟨∅, [], rfl⟩
    | some record =>
        refine ⟨record.metadata,
          stringList (record.metadata.get? "raw_source_aliases") ++
            [record.rawSourceId], ?_⟩
        rw [← List.append_assoc]
        rfl
  have isMetadata : (mergeEvidenceLifecycle existing incoming).metadata =
      mergeEvidenceSourceMetadata existing incoming := by
    cases existing with
    | none => rfl
    | some record => rfl
  have sameSource : (mergeEvidenceLifecycle existing incoming).rawSourceId =
      incoming.rawSourceId := by
    cases existing with
    | none => rfl
    | some record => rfl
  have clean : ∀ value ∈ dedupeStrings (known ++ brought),
      strip value = value ∧ value ≠ "" := by
    intro value member
    obtain ⟨filled, given, -, rfl⟩ := mem_dedupeStrings.mp member
    exact ⟨strip_strip given, filled⟩
  have again : dedupeStrings (dedupeStrings (known ++ brought) ++
      [incoming.rawSourceId] ++ brought) =
      dedupeStrings (known ++ brought) := by
    rw [List.append_assoc]
    apply dedupeStrings_append_eq_left (orderedUnique_nodup _) clean
    intro value listed filled
    have among : value ∈ brought := by
      rcases List.mem_append.mp listed with here | later
      · exact List.mem_append_right _ here
      · exact later
    exact mem_dedupeStrings.mpr
      ⟨filled, value, List.mem_append_right _ among, rfl⟩
  have read : stringList (((Dict.update stored incoming.metadata).set
      "raw_source_aliases"
      (.texts (dedupeStrings (known ++ brought)))).get?
        "raw_source_aliases") = dedupeStrings (known ++ brought) := by
    rw [Dict.get?_set_self]
    exact map_strip_filter_eq_self clean
  calc mergeEvidenceSourceMetadata
        (some (mergeEvidenceLifecycle existing incoming)) incoming
      = ((mergeEvidenceLifecycle existing incoming).metadata.update
          incoming.metadata).set "raw_source_aliases"
            (.texts (dedupeStrings
              (stringList ((mergeEvidenceLifecycle existing
                  incoming).metadata.get? "raw_source_aliases") ++
                [(mergeEvidenceLifecycle existing incoming).rawSourceId] ++
                brought))) := by
        rw [← List.append_assoc]
        rfl
    _ = mergeEvidenceSourceMetadata existing incoming := by
        rw [sameSource, isMetadata, merged, read, again, Dict.set_update,
          Dict.set_update]
        exact Dict.update_replays (fun _ : Unit => _) [()] stored

/-- The lifecycle of a record that has been merged. -/
theorem mergeEvidenceLifecycle_ofRun {record : EvidenceRecord}
    (ofRun : record.runId = some runId)
    (lastSeen : record.lastSeenRunId = some runId) (named : runId ≠ "")
    (existing : Option EvidenceRecord) :
    ∃ run first count, run.filter (· ≠ "") ≠ none ∧
      first.filter (· ≠ "") ≠ none ∧
      mergeEvidenceLifecycle existing record =
        { record with
          runId := run
          firstSeenRunId := first
          lastSeenRunId := some runId
          seenCount := max 1 count
          metadata := mergeEvidenceSourceMetadata existing record } := by
  have filled : record.runId.filter (· ≠ "") ≠ none := by
    simp [ofRun, named]
  have current : orText record.lastSeenRunId record.runId = some runId := by
    rw [lastSeen, ofRun, orText_self]
  cases existing with
  | none =>
      refine ⟨record.runId, orText record.firstSeenRunId record.runId,
        record.seenCount, filled, orText_filled filled _, ?_⟩
      rw [mergeEvidenceLifecycle, current]
  | some known =>
      refine ⟨orText known.runId record.runId,
        orText known.firstSeenRunId (orText known.runId
          (orText record.firstSeenRunId record.runId)),
        known.seenCount + if some runId ≠ known.lastSeenRunId then 1 else 0,
        orText_filled filled _,
        orText_filled (orText_filled (orText_filled filled _) _) _, ?_⟩
      have present : (some runId).filter (· ≠ "") ≠ none := ofRun ▸ filled
      rw [mergeEvidenceLifecycle, current, orText_eq_self present]
      simp only [present, true_and, ne_eq, not_false_eq_true]

theorem mergeEvidenceLifecycle_again {record : EvidenceRecord}
    (ofRun : record.runId = some runId)
    (lastSeen : record.lastSeenRunId = some runId) (named : runId ≠ "")
    (existing : Option EvidenceRecord) :
    mergeEvidenceLifecycle (some (mergeEvidenceLifecycle existing record))
        record =
      mergeEvidenceLifecycle existing record := by
  have metadata := mergeEvidenceSourceMetadata_again existing record
  obtain ⟨run, first, count, isRun, isFirst, merged⟩ :=
    mergeEvidenceLifecycle_ofRun ofRun lastSeen named existing
  have filled : (some runId).filter (· ≠ "") ≠ none := by
    simp [named]
  rw [merged] at metadata ⊢
  rw [mergeEvidenceLifecycle, metadata, lastSeen, ofRun, orText_self,
    orText_eq_self filled, orText_eq_self isRun, orText_eq_self isFirst]
  simp

/-- The registry entries of merged records are those of a run. -/
theorem ofRun_sourceRegistry [PyRuntime] {parsing : EvidenceParsing}
    {record : EvidenceRecord} (ofRun : record.runId = some runId)
    (lastSeen : record.lastSeenRunId = some runId) (named : runId ≠ "")
    (existing : Option EvidenceRecord) :
    let entry := sourceRegistryFromEvidence parsing
      (mergeEvidenceLifecycle existing record)
    entry.lastSeenRunId = some runId ∧
      ∃ first, entry.firstSeenRunId = some first ∧ first ≠ "" := by
  obtain ⟨run, first, count, -, isFirst, merged⟩ :=
    mergeEvidenceLifecycle_ofRun ofRun lastSeen named existing
  have filled : (some runId).filter (· ≠ "") ≠ none := by
    simp [named]
  have seen : ∀ evidence : EvidenceRecord,
      (sourceRegistryFromEvidence parsing evidence).lastSeenRunId =
          orText evidence.lastSeenRunId evidence.runId ∧
        (sourceRegistryFromEvidence parsing evidence).firstSeenRunId =
          orText evidence.firstSeenRunId evidence.runId := by
    intro evidence
    unfold sourceRegistryFromEvidence queueRobotsPolicyReview
    simp only
    split
    · exact ⟨rfl, rfl⟩
    · exact ⟨rfl, rfl⟩
  intro entry
  obtain ⟨last, firstSeen⟩ := seen (mergeEvidenceLifecycle existing record)
  rw [merged, orText_eq_self filled] at last
  rw [merged, orText_eq_self isFirst] at firstSeen
  refine ⟨by rw [← merged] at last; exact last, ?_⟩
  obtain ⟨text, found⟩ := Option.ne_none_iff_exists'.mp isFirst
  rw [Option.filter_eq_some_iff] at found
  refine ⟨text, ?_, of_decide_eq_true found.2⟩
  rw [← merged] at firstSeen
  exact firstSeen.trans found.1

end Evidence

/-! ## Entries of the embedding index -/

/-- A new entry in the place of one with its id. -/
def keptKnown (known incoming : EvidenceEmbeddingRecord) :
    EvidenceEmbeddingRecord :=
  { incoming with createdAt := known.createdAt }

theorem keptKnown_replays (rows : List EvidenceEmbeddingRecord) :
    Replays keptKnown rows := by
  have last : ∀ (rows : List EvidenceEmbeddingRecord)
      (start : EvidenceEmbeddingRecord),
      rows.foldl keptKnown start =
        (rows.getLast?.map (keptKnown start)).getD start := by
    intro rows
    induction rows with
    | nil => exact fun start => rfl
    | cons row rows induction =>
        intro start
        rw [List.foldl_cons, induction, List.getLast?_cons]
        cases rows.getLast? with
        | none => rfl
        | some final => rfl
  intro start
  rw [last, last]
  cases rows.getLast? with
  | none => rfl
  | some final => rfl

@[simp] theorem keptCreation_id (existing : Option EvidenceEmbeddingRecord)
    (incoming : EvidenceEmbeddingRecord) :
    (keptCreation existing incoming).id = incoming.id := by
  cases existing with
  | none => rfl
  | some known => rfl

theorem keptCreation_replays (rows : List EvidenceEmbeddingRecord) :
    Replays (fun (embeddings : Table String EvidenceEmbeddingRecord (·.id))
      row => embeddings.mergeRow keptCreation row) rows := by
  apply Table.mergeRow_replays keptCreation_id
  intro id
  exact Table.mergeFound_replays (fun _ _ => rfl) (fun _ => rfl)
    (keptKnown_replays _)

section Embeddings

variable [PyRuntime] {parsing : EvidenceParsing} {now later : Nat}

/-- Entries that exist are not created again. -/
theorem foldl_upsertEvidenceEmbedding_later {records : List EvidenceRecord}
    {embeddings : Table String EvidenceEmbeddingRecord (·.id)}
    (present : ∀ record ∈ records,
      embeddings.get? (embeddingId parsing record.id) ≠ none) :
    records.foldl (upsertEvidenceEmbedding parsing later) embeddings =
      records.foldl (upsertEvidenceEmbedding parsing now) embeddings := by
  induction records generalizing embeddings with
  | nil => rfl
  | cons record records induction =>
      obtain ⟨known, found⟩ := Option.ne_none_iff_exists'.mp
        (present record List.mem_cons_self)
      have same : upsertEvidenceEmbedding parsing later embeddings record =
          upsertEvidenceEmbedding parsing now embeddings record := by
        unfold upsertEvidenceEmbedding Table.mergeRow
        simp only [buildEvidenceEmbeddingRecord, found, keptCreation]
      rw [List.foldl_cons, List.foldl_cons, same]
      apply induction
      intro other member
      unfold upsertEvidenceEmbedding
      rw [Table.get?_mergeRow keptCreation_id]
      split
      · exact nofun
      · exact present other (List.mem_cons_of_mem record member)

theorem upsertEvidenceEmbedding_present {records : List EvidenceRecord}
    {embeddings : Table String EvidenceEmbeddingRecord (·.id)} :
    ∀ record ∈ records,
      (records.foldl (upsertEvidenceEmbedding parsing now) embeddings).get?
        (embeddingId parsing record.id) ≠ none := by
  have kept : ∀ (records : List EvidenceRecord)
      (embeddings : Table String EvidenceEmbeddingRecord (·.id)) (id : String),
      embeddings.get? id ≠ none ∨
          (∃ record ∈ records, embeddingId parsing record.id = id) →
        (records.foldl (upsertEvidenceEmbedding parsing now)
          embeddings).get? id ≠ none := by
    intro records
    induction records with
    | nil =>
        rintro embeddings id (present | ⟨record, member, -⟩)
        · exact present
        · cases member
    | cons head tail induction =>
        intro embeddings id known
        apply induction
        unfold upsertEvidenceEmbedding
        rw [Table.get?_mergeRow keptCreation_id]
        rcases known with present | ⟨record, member, rfl⟩
        · left
          split
          · exact nofun
          · exact present
        · rcases List.mem_cons.mp member with rfl | later
          · left
            split
            · exact nofun
            · next differs => exact (differs rfl).elim
          · exact .inr ⟨record, later, rfl⟩
  intro record member
  exact kept records embeddings _ (.inr ⟨record, member, rfl⟩)

end Embeddings

/-! ## The projection saved again -/

namespace EnterpriseMemoryStore

/-- The records of a projection as a store merges them. -/
def mergedRecords (evidence : Table String EvidenceRecord (·.id))
    (records : List EvidenceRecord) : List EvidenceRecord :=
  records.map fun record =>
    mergeEvidenceLifecycle (evidence.get? record.id) record

/-- What a run merged is merged into itself. -/
theorem mergedRecords_again {evidence : Table String EvidenceRecord (·.id)}
    (run : ProjectedRun) (named : run.runId ≠ "") :
    mergedRecords (run.evidenceRecords.foldl
        (Table.mergeRow mergeEvidenceLifecycle) evidence)
        run.evidenceRecords =
      mergedRecords evidence run.evidenceRecords := by
  apply List.map_congr_left
  intro record member
  rw [Table.get?_foldl_mergeRow mergeEvidenceLifecycle_id
    run.evidenceDistinct]
  have first : run.evidenceRecords.find? (·.id = record.id) =
      some record := by
    cases found : run.evidenceRecords.find? (·.id = record.id) with
    | none =>
        have missing := List.find?_eq_none.mp found record member
        simp at missing
    | some other =>
        have sameId : other.id = record.id := by
          simpa using List.find?_some found
        rw [List.inj_on_of_nodup_map run.evidenceDistinct
          (List.mem_of_find?_eq_some found) member sameId]
  rw [first]
  exact mergeEvidenceLifecycle_again (run.evidenceRun record member)
    (run.lastSeen record member) named _

theorem mergeEvidence_replays (run : ProjectedRun) (named : run.runId ≠ "") :
    Replays (fun (evidence : Table String EvidenceRecord (·.id)) record =>
      evidence.mergeRow mergeEvidenceLifecycle record)
      run.evidenceRecords := by
  apply Table.mergeRow_replays mergeEvidenceLifecycle_id
  intro id
  have absorbs : ∀ found, ∀ record ∈ run.evidenceRecords.filter (·.id = id),
      Table.mergeFound mergeEvidenceLifecycle
          (Table.mergeFound mergeEvidenceLifecycle found record) record =
        Table.mergeFound mergeEvidenceLifecycle found record := by
    intro found record member
    have brought := List.mem_of_mem_filter member
    exact congrArg some
      (mergeEvidenceLifecycle_again (run.evidenceRun record brought)
        (run.lastSeen record brought) named found)
  apply replays_of_absorbs absorbs
  intro found record member other isOther _
  -- Only one record of the run has this id.
  have same : other = record := by
    rw [List.mem_filter] at member isOther
    exact List.inj_on_of_nodup_map run.evidenceDistinct isOther.1 member.1
      ((of_decide_eq_true isOther.2).trans
        (of_decide_eq_true member.2).symm)
  rw [same]
  exact absorbs found record member

section Replay

variable [PyRuntime] {parsing : EvidenceParsing}
  {store : EnterpriseMemoryStore}

/-- The evidence, registry and index a projection leaves. -/
def observedRecords (parsing : EvidenceParsing) (now : Nat)
    (store : EnterpriseMemoryStore) (records : List EvidenceRecord) :
    EnterpriseMemoryStore :=
  let merged := mergedRecords store.sources.evidence records
  { store with
    sources :=
      { evidence := records.foldl (Table.mergeRow mergeEvidenceLifecycle)
          store.sources.evidence
        registry := (merged.map (sourceRegistryFromEvidence parsing)).foldl
          (Table.mergeRow mergeFoundSource) store.sources.registry }
    embeddings :=
      merged.foldl (upsertEvidenceEmbedding parsing now) store.embeddings }

/-- Distinct records are merged independently. -/
theorem foldl_saveEvidence_eq {now : Nat} {records : List EvidenceRecord}
    (distinct : (records.map (·.id)).Nodup)
    (keyed : RegistryKeyed parsing store.sources.registry) :
    records.foldl (saveEvidence parsing now) store =
      observedRecords parsing now store records := by
  induction records generalizing store with
  | nil => rfl
  | cons record records induction =>
      rw [List.map_cons, List.nodup_cons] at distinct
      let merged := mergeEvidenceLifecycle
        (store.sources.evidence.get? record.id) record
      let entry := sourceRegistryFromEvidence parsing merged
      have saved : saveEvidence parsing now store record =
          observedRecords parsing now store [record] := by
        let observed : EvidenceStore :=
          { store.sources with
            evidence := store.sources.evidence.upsert merged }
        have registered : observed.registerSource entry = _ :=
          registerSource_of_keyed observed keyed
            (sourceRegistryFromEvidence_id merged)
        change
          { store with
            sources := observed.registerSource entry
            embeddings := upsertEvidenceEmbedding parsing now
              store.embeddings merged } = _
        rw [registered]
        rfl
      have alone : mergedRecords
          (saveEvidence parsing now store record).sources.evidence records =
          mergedRecords store.sources.evidence records := by
        apply List.map_congr_left
        intro other member
        have differs : other.id ≠ record.id := by
          intro same
          exact distinct.1 (same ▸ List.mem_map_of_mem member)
        rw [saved]
        change mergeEvidenceLifecycle
          ((store.sources.evidence.mergeRow mergeEvidenceLifecycle
            record).get? other.id) other = _
        rw [Table.get?_mergeRow mergeEvidenceLifecycle_id, if_neg differs]
      rw [List.foldl_cons, induction distinct.2]
      · unfold observedRecords
        rw [alone, saved]
        rfl
      · rw [saved]
        exact registryKeyed_mergeRow keyed
          (sourceRegistryFromEvidence_id merged)

theorem registryKeyed_observedRecords (now : Nat)
    (keyed : RegistryKeyed parsing store.sources.registry)
    (records : List EvidenceRecord) :
    RegistryKeyed parsing
      (observedRecords parsing now store records).sources.registry := by
  have kept : ∀ (merged : List EvidenceRecord)
      (registry : Table String SourceRegistryRecord (·.id)),
      RegistryKeyed parsing registry →
        RegistryKeyed parsing
          ((merged.map (sourceRegistryFromEvidence parsing)).foldl
            (Table.mergeRow mergeFoundSource) registry) := by
    intro merged
    induction merged with
    | nil => exact fun registry known => known
    | cons record merged induction =>
        intro registry known
        exact induction _ (registryKeyed_mergeRow known
          (sourceRegistryFromEvidence_id record))
  exact kept _ store.sources.registry keyed

theorem saveProjection_eq (now : Nat)
    (keyed : RegistryKeyed parsing store.sources.registry)
    (run : ProjectedRun) :
    saveProjection parsing now store run.toEnterpriseRunProjection =
      { observedRecords parsing now store run.evidenceRecords with
        claims := run.claimRecords.foldl
          (fun claims claim => claims.upsert claim) store.claims
        versions := store.versions.upsert run.reportVersion } := by
  rw [saveProjection, foldl_saveEvidence_eq run.evidenceDistinct keyed]
  rfl

end Replay

/-! ## Projections that are not replayed -/

namespace ReplayExample

local instance replayExampleRuntime : PyRuntime := asciiRuntime

def parsing : EvidenceParsing :=
  { sha256Hex := fun text => String.ofList text.toList.reverse
    hostname := id
    normalizeKey := id
    dedupeKeys := fun _ => []
    duplicateRows := fun _ _ => [] }

def page (runId evidenceId site : String) : EvidenceRecord :=
  { id := evidenceId
    projectId := "project"
    runId := some runId
    lastSeenRunId := some runId
    rawSourceId := "raw-" ++ evidenceId
    sourceType := "webpage"
    canonicalUrl := site }

def report (runId : String) (evidenceIds : List String) :
    ReportVersionRecord :=
  { id := "report-" ++ runId
    runId := some runId
    scope :=
      { projectId := "project"
        topicNormalized := "plans"
        competitorLayer := "L1"
        competitorSetHash := "hash" }
    versionNumber := 1
    reportMd := ""
    createdAt := 1
    evidenceIds := evidenceIds }

/-- A run that sees two pages. -/
def run (runId first second : String) (differ : first ≠ second)
    (firstSite secondSite : String) : ProjectedRun :=
  { projectId := "project"
    runId := runId
    evidenceRecords :=
      [page runId first firstSite, page runId second secondSite]
    reportVersion := report runId [first, second]
    evidenceRun := by
      intro record member
      rcases List.mem_pair.mp member with rfl | rfl
      · rfl
      · rfl
    lastSeen := by
      intro record member
      rcases List.mem_pair.mp member with rfl | rfl
      · rfl
      · rfl
    evidenceDistinct := by
      simpa [page] using differ
    claimRecords := []
    claimRun := by
      intro claim member
      cases member
    claimsDistinct := List.nodup_nil
    reportRun := rfl }

def save (store : EnterpriseMemoryStore)
    (projection : EnterpriseRunProjection) : EnterpriseMemoryStore :=
  saveProjection parsing 1 store projection

def secondRun : ProjectedRun :=
  run "run-2" "page-2" "page-3" (by decide) "acme.io" "acme.io"

/-- Two runs see a site and share a page of it. -/
def sharedSite : EnterpriseMemoryStore :=
  save
    (save { }
      (run "run-1" "page-1" "page-2" (by decide) "acme.io"
        "acme.io").toEnterpriseRunProjection)
    secondRun.toEnterpriseRunProjection

/-- The entry of one source under the id of another. -/
def misfiled : SourceRegistryRecord :=
  { id := sourceRegistryId parsing
      { id := ""
        workspaceId := "default-workspace"
        domain := "beta.io"
        sourceType := "webpage" }
    workspaceId := "default-workspace"
    domain := "acme.io"
    sourceType := "webpage" }

def misfiledStore : EnterpriseMemoryStore :=
  { sources := { registry := Table.upsert ∅ misfiled } }

/-- A run that sees the source whose entry is misfiled and the other one. -/
def misfiledRun : EnterpriseRunProjection :=
  (run "run-1" "page-1" "page-2" (by decide) "acme.io"
    "beta.io").toEnterpriseRunProjection

def timesSeen (store : EnterpriseMemoryStore) : List Nat :=
  store.sources.registry.values.map (·.seenCount)

end ReplayExample

end EnterpriseMemoryStore

end CompetiScope
