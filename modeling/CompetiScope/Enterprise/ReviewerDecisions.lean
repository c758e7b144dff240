import CompetiScope.Enterprise.EvidenceLifecycle
import CompetiScope.Foundation.Transition

/-!
# What collection does to the decisions of reviewers

A reviewer labels an evidence record or decides on the policy of a source.
Collected records are merged into both: the label always comes from the
collected record, the policy status whenever the collected one asks for a
review.  Both stores do the same here.
-/

namespace CompetiScope

open Foundation

/-- What `update_evidence_quality` writes. -/
structure QualityReview where
  qualityLabel : EvidenceQualityLabel
  qualityNote : Option MetadataValue
  qualityReviewedAt : Option MetadataValue
  deriving DecidableEq

def EvidenceRecord.review (evidence : EvidenceRecord) : QualityReview :=
  { qualityLabel := evidence.qualityLabel
    qualityNote := evidence.metadata.get? "quality_note"
    qualityReviewedAt := evidence.metadata.get? "quality_reviewed_at" }

/-- What a policy review decides. -/
structure PolicyReview where
  status : SourcePolicyReviewStatus
  reason : String
  deriving DecidableEq

def SourceRegistryRecord.review (record : SourceRegistryRecord) :
    PolicyReview :=
  { status := record.policyReviewStatus
    reason := record.policyReviewReason }

def SourceRegistryRecord.Decided (record : SourceRegistryRecord) : Prop :=
  record.policyReviewStatus = .approved ∨
    record.policyReviewStatus = .rejected

instance (record : SourceRegistryRecord) : Decidable record.Decided :=
  inferInstanceAs (Decidable (_ ∨ _))

/-! ## Reviews under a merge -/

/-- The review of a stored record after a collected one is merged in. -/
def mergedQualityReview (existing incoming : EvidenceRecord) : QualityReview :=
  { qualityLabel := incoming.qualityLabel
    qualityNote := (incoming.metadata.get? "quality_note").or
      (existing.metadata.get? "quality_note")
    qualityReviewedAt := (incoming.metadata.get? "quality_reviewed_at").or
      (existing.metadata.get? "quality_reviewed_at") }

theorem mergeEvidenceLifecycle_review (existing incoming : EvidenceRecord) :
    (mergeEvidenceLifecycle (some existing) incoming).review =
      mergedQualityReview existing incoming := by
  have other : ∀ key, key ≠ "raw_source_aliases" →
      (mergeEvidenceLifecycle (some existing) incoming).metadata.get? key =
        (incoming.metadata.get? key).or (existing.metadata.get? key) := by
    intro key different
    rw [← Dict.get?_update]
    exact Dict.get?_set_ne _ _ different
  rw [EvidenceRecord.review, other _ (by decide), other _ (by decide)]
  rfl

theorem postgresEvidence_review (existing incoming : EvidenceRecord) :
    (postgresEvidence (some existing) incoming).review =
      mergedQualityReview existing incoming := by
  have other : ∀ key, key ≠ "raw_source_aliases" →
      (postgresEvidence (some existing) incoming).metadata.get? key =
        (incoming.metadata.get? key).or (existing.metadata.get? key) := by
    intro key different
    rw [← Dict.get?_update]
    exact Dict.get?_set_ne _ _ different
  rw [EvidenceRecord.review, other _ (by decide), other _ (by decide)]
  rfl

/-- The search for duplicates writes entries of its own. -/
theorem dedupedMetadata_get? {metadata : Dict String MetadataValue}
    {duplicate : Option (EvidenceRecord × String)} {key : String}
    (other : key ∉ ["embedding_duplicate_of", "embedding_dedupe_key",
      "embedding_dedupe_strategy", "embedding_indexed"]) :
    (EvidenceStore.dedupedMetadata metadata duplicate).get? key =
      metadata.get? key := by
  simp only [List.mem_cons, List.not_mem_nil, or_false, not_or] at other
  obtain ⟨duplicateOf, dedupeKey, strategy, indexed⟩ := other
  cases duplicate with
  | none =>
      simp only [EvidenceStore.dedupedMetadata, Dict.get?_set,
        Dict.get?_erase, if_neg duplicateOf, if_neg dedupeKey,
        if_neg strategy, if_neg indexed]
  | some found =>
      simp only [EvidenceStore.dedupedMetadata, Dict.get?_set,
        if_neg duplicateOf, if_neg dedupeKey, if_neg strategy,
        if_neg indexed]

theorem deduped_review (evidence : EvidenceRecord)
    (duplicate : Option (EvidenceRecord × String)) :
    ({ evidence with
      metadata := EvidenceStore.dedupedMetadata evidence.metadata duplicate } :
        EvidenceRecord).review = evidence.review := by
  rw [EvidenceRecord.review, EvidenceRecord.review,
    dedupedMetadata_get? (by decide), dedupedMetadata_get? (by decide)]

theorem withEmbeddingDuplicate_review (canonical : EvidenceRecord)
    (duplicateId : String) :
    (EvidenceStore.withEmbeddingDuplicate canonical duplicateId).review =
      canonical.review := by
  have other : ∀ key, key ≠ "embedding_duplicate_count" →
      key ≠ "embedding_duplicate_ids" →
      (EvidenceStore.withEmbeddingDuplicate canonical
        duplicateId).metadata.get? key = canonical.metadata.get? key := by
    intro key notCount notIds
    simp only [EvidenceStore.withEmbeddingDuplicate, Dict.get?_set,
      if_neg notCount, if_neg notIds]
  rw [EvidenceRecord.review, EvidenceRecord.review,
    other _ (by decide) (by decide), other _ (by decide) (by decide)]
  rfl

/-- Marking a canonical record keeps every review. -/
theorem markCanonical_review {store : EvidenceStore}
    {duplicate : Option (EvidenceRecord × String)} {duplicateId id : String}
    {record : EvidenceRecord}
    (found : store.evidence.get? id = some record) :
    ∃ later, (store.markCanonical duplicate duplicateId).get? id =
        some later ∧ later.review = record.review := by
  unfold EvidenceStore.markCanonical
  cases isStored : duplicate.bind
      fun pair => store.evidence.get? pair.1.id with
  | none => exact ⟨record, found, rfl⟩
  | some canonical =>
      have stored : store.evidence.get? canonical.id = some canonical := by
        obtain ⟨pair, -, read⟩ := Option.bind_eq_some_iff.mp isStored
        rwa [Table.key_of_get? read]
      by_cases same : id = canonical.id
      · subst same
        rw [stored] at found
        cases found
        exact ⟨_, Table.get?_upsert_self _ _,
          withEmbeddingDuplicate_review _ duplicateId⟩
      · refine ⟨record, ?_, rfl⟩
        rw [Table.get?_upsert]
        exact (if_neg same).trans found

theorem postgresEvidence_id {store : EvidenceStore} {id : String}
    {incoming : EvidenceRecord} (sameId : incoming.id = id) :
    (postgresEvidence (store.evidence.get? id) incoming).id = id := by
  cases found : store.evidence.get? id with
  | none => exact sameId
  | some record =>
      have stored : record.id = id := Table.key_of_get? found
      exact stored

/-! ## One write -/

/-- A write merges the collected record into the stored one of its id and
keeps every other review. -/
structure MergesReviews (store : EvidenceStore)
    (evidence : Table String EvidenceRecord (·.id))
    (incoming : EvidenceRecord) : Prop where
  same : ∀ record, store.evidence.get? incoming.id = some record →
    ∃ later, evidence.get? incoming.id = some later ∧
      later.review = mergedQualityReview record incoming
  other : ∀ id record, id ≠ incoming.id →
    store.evidence.get? id = some record →
      ∃ later, evidence.get? id = some later ∧ later.review = record.review

/-- A table of the same reviews, with a record of the merged review. -/
theorem mergesReviews_upsert {store : EvidenceStore}
    {evidence : Table String EvidenceRecord (·.id)}
    {incoming written : EvidenceRecord}
    (sameId : written.id = incoming.id)
    (merged : ∀ record, store.evidence.get? incoming.id = some record →
      written.review = mergedQualityReview record incoming)
    (kept : ∀ id record, store.evidence.get? id = some record →
      ∃ later, evidence.get? id = some later ∧
        later.review = record.review) :
    MergesReviews store (evidence.upsert written) incoming := by
  constructor
  · intro record found
    refine ⟨written, ?_, merged record found⟩
    rw [← sameId]
    exact Table.get?_upsert_self evidence written
  · intro id record different found
    rw [← sameId] at different
    obtain ⟨later, stored, review⟩ := kept id record found
    refine ⟨later, ?_, review⟩
    rw [Table.get?_upsert, if_neg different]
    exact stored

theorem observeEvidence_merges (store : EvidenceStore)
    (backend : StoreBackend) (incoming : EvidenceRecord) :
    MergesReviews store (store.observeEvidence backend incoming).evidence
      incoming := by
  cases backend with
  | memory =>
      apply mergesReviews_upsert (mergeEvidenceLifecycle_id _ _)
      · intro record found
        rw [found]
        exact mergeEvidenceLifecycle_review record incoming
      · intro id record found
        exact ⟨record, found, rfl⟩
  | postgres =>
      apply mergesReviews_upsert (postgresEvidence_id rfl)
      · intro record found
        rw [found]
        exact postgresEvidence_review record incoming
      · intro id record found
        exact ⟨record, found, rfl⟩

theorem upsertEvidence_merges (store : EvidenceStore)
    (parsing : EvidenceParsing) (backend : StoreBackend)
    (incoming : EvidenceRecord) :
    MergesReviews store
      (store.upsertEvidence parsing backend incoming).evidence incoming := by
  cases backend with
  | memory =>
      apply mergesReviews_upsert
      · exact mergeEvidenceLifecycle_id _ _
      · intro record found
        rw [deduped_review, found]
        exact mergeEvidenceLifecycle_review record incoming
      · intro id record found
        exact markCanonical_review found
  | postgres =>
      apply mergesReviews_upsert
      · exact postgresEvidence_id rfl
      · intro record found
        rw [found, postgresEvidence_review]
        have same := deduped_review incoming
          (EvidenceStore.findEmbeddingDuplicate parsing
            (store.duplicateCandidates parsing .postgres incoming) incoming)
        rw [EvidenceRecord.review, EvidenceRecord.review,
          QualityReview.mk.injEq] at same
        rw [mergedQualityReview, same.2.1, same.2.2]
        rfl
      · intro id record found
        exact ⟨record, found, rfl⟩

/-- The policy of a stored entry after a collected one is merged in. -/
def mergedPolicy (existing incoming : SourceRegistryRecord) : PolicyReview :=
  { status :=
      if incoming.policyReviewStatus ≠ .notRequired then
        incoming.policyReviewStatus
      else existing.policyReviewStatus
    reason :=
      if incoming.policyReviewReason ≠ "" then incoming.policyReviewReason
      else existing.policyReviewReason }

theorem registryTarget_get? {store : EvidenceStore} {backend : StoreBackend}
    {incoming existing : SourceRegistryRecord}
    (target : store.registryTarget backend incoming = some existing) :
    store.registry.get? existing.id = some existing := by
  have byNaturalKey : ∀ condition : SourceRegistryRecord → Bool,
      store.registry.values.find? condition = some existing →
        store.registry.get? existing.id = some existing := by
    intro condition found
    exact Table.mem_values.mp (List.mem_of_find?_eq_some found)
  cases backend with
  | memory =>
      rcases Option.or_eq_some_iff.mp target with natural | ⟨-, byId⟩
      · exact byNaturalKey _ natural
      · rwa [Table.key_of_get? byId]
  | postgres => exact byNaturalKey _ target

/-- A registry write merges into its target and keeps every other entry. -/
theorem upsertSourceRegistry_review {store next : EvidenceStore}
    {backend : StoreBackend} {incoming record : SourceRegistryRecord}
    {id : String}
    (written : store.upsertSourceRegistry backend incoming = some next)
    (found : store.registry.get? id = some record) :
    ∃ later, next.registry.get? id = some later ∧
      later.review =
        if store.registryTarget backend incoming = some record then
          mergedPolicy record incoming
        else record.review := by
  have merged : ∀ existing entry : SourceRegistryRecord,
      store.registryTarget backend incoming = some existing →
      entry.id = existing.id →
      entry.review = mergedPolicy existing incoming →
      ∃ later, (store.registry.upsert entry).get? id = some later ∧
        later.review =
          if store.registryTarget backend incoming = some record then
            mergedPolicy record incoming
          else record.review := by
    intro existing entry target sameId review
    have stored := registryTarget_get? target
    by_cases same : id = existing.id
    · subst same
      rw [stored] at found
      cases found
      refine ⟨entry, ?_, ?_⟩
      · rw [← sameId]
        exact Table.get?_upsert_self _ entry
      · rw [if_pos target, review]
    · refine ⟨record, ?_, ?_⟩
      · rw [Table.get?_upsert, if_neg (sameId ▸ same)]
        exact found
      · rw [if_neg]
        intro isRecord
        rw [target] at isRecord
        cases isRecord
        exact same (Table.key_of_get? found).symm
  have inserted : store.registryTarget backend incoming = none →
      id ≠ incoming.id →
      ∃ later, (store.registry.upsert incoming).get? id = some later ∧
        later.review =
          if store.registryTarget backend incoming = some record then
            mergedPolicy record incoming
          else record.review := by
    intro missing different
    refine ⟨record, ?_, ?_⟩
    · rw [Table.get?_upsert, if_neg different]
      exact found
    · rw [missing, if_neg (by simp)]
  unfold EvidenceStore.upsertSourceRegistry at written
  cases target : store.registryTarget backend incoming with
  | some existing =>
      rw [target] at written merged
      cases backend with
      | memory =>
          cases written
          exact merged existing _ rfl rfl rfl
      | postgres =>
          cases written
          exact merged existing _ rfl rfl rfl
  | none =>
      rw [target] at written inserted
      cases backend with
      | memory =>
          cases written
          refine inserted rfl ?_
          rintro rfl
          have byId := (Option.or_eq_none_iff.mp target).2
          rw [found] at byId
          cases byId
      | postgres =>
          simp only at written
          split at written
          · next free =>
              cases written
              refine inserted rfl ?_
              rintro rfl
              rw [found] at free
              cases free
          · cases written

theorem upsertSourceRegistry_evidence {store next : EvidenceStore}
    {backend : StoreBackend} {incoming : SourceRegistryRecord}
    (written : store.upsertSourceRegistry backend incoming = some next) :
    next.evidence = store.evidence := by
  unfold EvidenceStore.upsertSourceRegistry at written
  split at written
  · cases written
    rfl
  · cases written
    rfl
  · cases written
    rfl
  · split at written
    · cases written
      rfl
    · cases written

/-! ## Decisions along a run -/

/-- The stored record of an id carries a review. -/
def HoldsReview (id : String) (review : QualityReview)
    (evidence : Table String EvidenceRecord (·.id)) : Prop :=
  ∃ record, evidence.get? id = some record ∧ record.review = review

/-- The stored entry of an id carries a policy. -/
def HoldsPolicy (id : String) (policy : PolicyReview)
    (registry : Table String SourceRegistryRecord (·.id)) : Prop :=
  ∃ record, registry.get? id = some record ∧ record.review = policy

/-- A collected record says of the quality what the stored one says, or
nothing beyond the same label. -/
structure RepeatsReview (existing incoming : EvidenceRecord) : Prop where
  label : incoming.qualityLabel = existing.qualityLabel
  note : incoming.metadata.get? "quality_note" = none ∨
    incoming.metadata.get? "quality_note" =
      existing.metadata.get? "quality_note"
  reviewedAt : incoming.metadata.get? "quality_reviewed_at" = none ∨
    incoming.metadata.get? "quality_reviewed_at" =
      existing.metadata.get? "quality_reviewed_at"

instance (existing incoming : EvidenceRecord) :
    Decidable (RepeatsReview existing incoming) :=
  decidable_of_iff
    (incoming.qualityLabel = existing.qualityLabel ∧
      (incoming.metadata.get? "quality_note" = none ∨
        incoming.metadata.get? "quality_note" =
          existing.metadata.get? "quality_note") ∧
      (incoming.metadata.get? "quality_reviewed_at" = none ∨
        incoming.metadata.get? "quality_reviewed_at" =
          existing.metadata.get? "quality_reviewed_at"))
    ⟨fun ⟨label, note, reviewedAt⟩ => ⟨label, note, reviewedAt⟩,
      fun repeats => ⟨repeats.label, repeats.note, repeats.reviewedAt⟩⟩

private theorem or_eq_right_iff {Value : Type*} {first second : Option Value} :
    first.or second = second ↔ first = none ∨ first = second := by
  cases first with
  | none => simp
  | some value => simp

/-- A merge keeps a review exactly when the collected record repeats it. -/
theorem mergedQualityReview_eq_iff {existing incoming : EvidenceRecord} :
    mergedQualityReview existing incoming = existing.review ↔
      RepeatsReview existing incoming := by
  rw [mergedQualityReview, EvidenceRecord.review, QualityReview.mk.injEq,
    or_eq_right_iff, or_eq_right_iff]
  constructor
  · rintro ⟨label, note, reviewedAt⟩
    exact ⟨label, note, reviewedAt⟩
  · rintro ⟨label, note, reviewedAt⟩
    exact ⟨label, note, reviewedAt⟩

/-- A collected entry asks for no review and gives no reason, or says what is
decided. -/
def RepeatsPolicy (existing incoming : SourceRegistryRecord) : Prop :=
  (incoming.policyReviewStatus = .notRequired ∨
      incoming.policyReviewStatus = existing.policyReviewStatus) ∧
    (incoming.policyReviewReason = "" ∨
      incoming.policyReviewReason = existing.policyReviewReason)

instance (existing incoming : SourceRegistryRecord) :
    Decidable (RepeatsPolicy existing incoming) :=
  inferInstanceAs (Decidable (_ ∧ _))

/-- A merge keeps a policy exactly when the collected entry repeats it. -/
theorem mergedPolicy_eq_iff {existing incoming : SourceRegistryRecord} :
    mergedPolicy existing incoming = existing.review ↔
      RepeatsPolicy existing incoming := by
  rw [mergedPolicy, SourceRegistryRecord.review, PolicyReview.mk.injEq,
    RepeatsPolicy]
  by_cases asks : incoming.policyReviewStatus = .notRequired <;>
    by_cases gives : incoming.policyReviewReason = "" <;>
      simp [asks, gives]

/-- No write sets the review of this record anew, and those that meet it
again repeat it. -/
def KeepsReview (id : String) (store : EvidenceStore) :
    EvidenceAction → Prop
  | .observe incoming => incoming.id = id →
      ∀ record ∈ store.evidence.get? id, RepeatsReview record incoming
  | .upsert incoming => incoming.id = id →
      ∀ record ∈ store.evidence.get? id, RepeatsReview record incoming
  | .captureSource _ => True
  | .reviewEvidence evidenceId _ _ _ => evidenceId ≠ id
  | .reviewSource _ => True

instance (id : String) (store : EvidenceStore) :
    ∀ action, Decidable (KeepsReview id store action)
  | .observe incoming =>
      inferInstanceAs (Decidable (incoming.id = id →
        ∀ record ∈ store.evidence.get? id, RepeatsReview record incoming))
  | .upsert incoming =>
      inferInstanceAs (Decidable (incoming.id = id →
        ∀ record ∈ store.evidence.get? id, RepeatsReview record incoming))
  | .captureSource _ => isTrue trivial
  | .reviewEvidence evidenceId _ _ _ =>
      inferInstanceAs (Decidable (evidenceId ≠ id))
  | .reviewSource _ => isTrue trivial

theorem review_of_merges {store : EvidenceStore}
    {evidence : Table String EvidenceRecord (·.id)} {id : String}
    {incoming record : EvidenceRecord}
    (merges : MergesReviews store evidence incoming)
    (repeats : incoming.id = id →
      ∀ record ∈ store.evidence.get? id, RepeatsReview record incoming)
    (found : store.evidence.get? id = some record) :
    HoldsReview id record.review evidence := by
  by_cases same : id = incoming.id
  · subst same
    obtain ⟨later, stored, review⟩ := merges.same record found
    refine ⟨later, stored, ?_⟩
    rw [review]
    exact mergedQualityReview_eq_iff.mpr (repeats rfl record found)
  · exact merges.other id record same found

section Runs

variable [PyRuntime] {parsing : EvidenceParsing} {backend : StoreBackend}

/-- The entry a write brings repeats the decision on this source. -/
def KeepsDecision (parsing : EvidenceParsing) (backend : StoreBackend)
    (id : String) (store : EvidenceStore) (action : EvidenceAction) : Prop :=
  ∀ incoming ∈ incomingSource parsing backend store action,
    ∀ existing ∈ store.registryTarget backend incoming,
      existing.id = id → RepeatsPolicy existing incoming

instance (parsing : EvidenceParsing) (backend : StoreBackend) (id : String)
    (store : EvidenceStore) (action : EvidenceAction) :
    Decidable (KeepsDecision parsing backend id store action) :=
  inferInstanceAs (Decidable (∀ incoming ∈
    incomingSource parsing backend store action,
      ∀ existing ∈ store.registryTarget backend incoming,
        existing.id = id → RepeatsPolicy existing incoming))

/-- What a step writes: its evidence, then the entry it brings. -/
theorem evidenceStep_cases {store next : EvidenceStore}
    {action : EvidenceAction}
    (stepped : evidenceStep parsing backend store action = some next) :
    ∃ evidence, nextEvidence parsing backend store action = some evidence ∧
      next.evidence = evidence ∧
      (incomingSource parsing backend store action = none ∧
          next.registry = store.registry ∨
        ∃ incoming,
          incomingSource parsing backend store action = some incoming ∧
          EvidenceStore.upsertSourceRegistry
            { store with evidence := evidence } backend incoming =
              some next) := by
  unfold evidenceStep at stepped
  split at stepped
  · cases stepped
  · next evidence wrote brought =>
      cases stepped
      exact ⟨evidence, wrote, rfl, .inl ⟨brought, rfl⟩⟩
  · next evidence incoming wrote brought =>
      exact ⟨evidence, wrote, upsertSourceRegistry_evidence stepped,
        .inr ⟨incoming, brought, stepped⟩⟩

theorem review_step {store next : EvidenceStore} {action : EvidenceAction}
    {id : String} {review : QualityReview}
    (keeps : KeepsReview id store action)
    (holds : HoldsReview id review store.evidence)
    (stepped : evidenceStep parsing backend store action = some next) :
    HoldsReview id review next.evidence := by
  obtain ⟨record, found, rfl⟩ := holds
  obtain ⟨evidence, wrote, same, -⟩ := evidenceStep_cases stepped
  rw [same]
  cases action with
  | observe incoming =>
      cases wrote
      exact review_of_merges (observeEvidence_merges store backend incoming)
        keeps found
  | upsert incoming =>
      cases wrote
      exact review_of_merges
        (upsertEvidence_merges store parsing backend incoming) keeps found
  | captureSource incoming =>
      cases wrote
      exact ⟨record, found, rfl⟩
  | reviewEvidence evidenceId qualityLabel note now =>
      obtain ⟨reviewed, isStored, rfl⟩ := Option.map_eq_some_iff.mp wrote
      have different : id ≠ reviewed.id := by
        rw [Table.key_of_get? isStored]
        exact fun equal => keeps equal.symm
      refine ⟨record, ?_, rfl⟩
      rw [Table.get?_upsert, if_neg different]
      exact found
  | reviewSource incoming =>
      cases wrote
      exact ⟨record, found, rfl⟩

theorem decision_step {store next : EvidenceStore} {action : EvidenceAction}
    {id : String} {policy : PolicyReview}
    (keeps : KeepsDecision parsing backend id store action)
    (holds : HoldsPolicy id policy store.registry)
    (stepped : evidenceStep parsing backend store action = some next) :
    HoldsPolicy id policy next.registry := by
  obtain ⟨record, found, rfl⟩ := holds
  obtain ⟨evidence, -, -, ⟨-, same⟩ | ⟨incoming, brought, written⟩⟩ :=
    evidenceStep_cases stepped
  · rw [same]
    exact ⟨record, found, rfl⟩
  · obtain ⟨later, stored, review⟩ :=
      upsertSourceRegistry_review written found
    refine ⟨later, stored, review.trans ?_⟩
    split
    · next target =>
        have sameId : record.id = id := Table.key_of_get? found
        exact mergedPolicy_eq_iff.mpr
          (keeps incoming brought record target sameId)
    · rfl

/-- A review puts its label, note and time on the record. -/
theorem reviewEvidence_holds {before store : EvidenceStore} {id : String}
    {qualityLabel : EvidenceQualityLabel} {note : String} {now : Nat}
    (reviewed : evidenceStep parsing backend before
      (.reviewEvidence id qualityLabel note now) = some store) :
    HoldsReview id
      { qualityLabel := qualityLabel
        qualityNote := some (.text note)
        qualityReviewedAt := some (.number now) } store.evidence := by
  obtain ⟨evidence, wrote, same, -⟩ := evidenceStep_cases reviewed
  obtain ⟨record, found, rfl⟩ := Option.map_eq_some_iff.mp wrote
  have sameId : record.id = id := Table.key_of_get? found
  rw [same, ← sameId]
  refine ⟨_, Table.get?_upsert_self _ _, ?_⟩
  simp [EvidenceRecord.review, Dict.get?_set]

/-- Along writes that repeat what was decided, a label, its note and its time
stay what the reviewer wrote, and so do the status and the reason of a decided
source. -/
theorem reviewerDecisions_kept {store final : EvidenceStore}
    {actions : List EvidenceAction}
    (run : exec (evidenceStep parsing backend) store actions = some final) :
    (∀ before id qualityLabel note now,
      evidenceStep parsing backend before
          (.reviewEvidence id qualityLabel note now) = some store →
      Along (evidenceStep parsing backend) (KeepsReview id) store actions →
        HoldsReview id
          { qualityLabel := qualityLabel
            qualityNote := some (.text note)
            qualityReviewedAt := some (.number now) } final.evidence) ∧
    ∀ id record, store.registry.get? id = some record → record.Decided →
      Along (evidenceStep parsing backend) (KeepsDecision parsing backend id)
          store actions →
        HoldsPolicy id record.review final.registry := by
  have reviewKept : ∀ id review state action next,
      HoldsReview id review (EvidenceStore.evidence state) →
      KeepsReview id state action →
      evidenceStep parsing backend state action = some next →
        HoldsReview id review next.evidence := by
    intro id review state action next holds keeps stepped
    exact review_step keeps holds stepped
  have decisionKept : ∀ id policy state action next,
      HoldsPolicy id policy (EvidenceStore.registry state) →
      KeepsDecision parsing backend id state action →
      evidenceStep parsing backend state action = some next →
        HoldsPolicy id policy next.registry := by
    intro id policy state action next holds keeps stepped
    exact decision_step keeps holds stepped
  constructor
  · intro before id qualityLabel note now reviewed guarded
    exact exec_invariant_along (reviewKept id _)
      (reviewEvidence_holds reviewed) guarded run
  · intro id record found _ guarded
    exact exec_invariant_along (decisionKept id record.review)
      ⟨record, found, rfl⟩ guarded run

end Runs

/-! ## A page collected twice -/

namespace ReviewExample

local instance reviewExampleRuntime : PyRuntime := asciiRuntime

/-- Every page is a page of one site and no two share their content. -/
def parsing : EvidenceParsing :=
  { sha256Hex := fun _ => "digest"
    hostname := fun _ => "acme.example"
    normalizeKey := id
    dedupeKeys := fun _ => []
    duplicateRows := fun _ _ => [] }

def page : EvidenceRecord :=
  { id := "evidence-1"
    projectId := "project"
    runId := some "run-1"
    rawSourceId := "raw-1"
    sourceType := "webpage"
    url := some "https://acme.example/pricing" }

def acceptedPage : EvidenceRecord :=
  { page with qualityLabel := .accepted }

/-- The same page when the robots file of its site forbids it. -/
def blockedPage : EvidenceRecord :=
  { page with
    runId := some "run-2"
    metadata := Dict.set ∅ "robots_status" (.text "blocked") }

def site : SourceRegistryRecord :=
  { id := "source-registry-digest"
    workspaceId := "default-workspace"
    domain := "acme.example"
    sourceType := "webpage"
    policyReviewStatus := .approved
    policyReviewReason := "Terms allow it." }

/-- The page is collected and its site approved. -/
def collected : EvidenceStore :=
  { evidence := Table.upsert ∅ page
    registry := Table.upsert ∅ site }

/-- The label a reviewer gives to the page. -/
def acceptance : EvidenceAction :=
  .reviewEvidence "evidence-1" .accepted "Checked." 5

def accepted : EvidenceStore :=
  (evidenceStep parsing .memory collected acceptance).getD collected

theorem reviewerDecisions_kept_repeated :
    ∃ final,
      exec (evidenceStep parsing .memory) accepted [.observe acceptedPage] =
          some final ∧
        HoldsReview "evidence-1"
          { qualityLabel := .accepted
            qualityNote := some (.text "Checked.")
            qualityReviewedAt := some (.number 5) } final.evidence ∧
        HoldsPolicy "source-registry-digest"
          { status := .approved
            reason := "Terms allow it." } final.registry := by
  obtain ⟨label, policy⟩ :=
    reviewerDecisions_kept
      (rfl : exec (evidenceStep parsing .memory) accepted
        [.observe acceptedPage] = some _)
  exact ⟨_, rfl, label collected _ _ _ _ rfl (by decide),
    policy _ site rfl (by decide) (by decide)⟩

/-- The page collected again after its review is unreviewed, its site under
review. -/
def LosesDecisions (backend : StoreBackend) : Prop :=
  ∃ final,
    exec (evidenceStep parsing backend) collected
        [acceptance, .observe blockedPage] = some final ∧
      (final.evidence.get? "evidence-1").map (·.review) =
        some
          { qualityLabel := .unreviewed
            qualityNote := some (.text "Checked.")
            qualityReviewedAt := some (.number 5) } ∧
      (final.registry.get? "source-registry-digest").map (·.review) =
        some
          { status := .pending
            reason := "Robots/source policy status is blocked." }

/-- A later run drops the decisions in both stores, the one on the site when
its robots file has come to forbid the page. -/
theorem reviewerDecisions_lost :
    LosesDecisions .memory ∧ LosesDecisions .postgres := by
  constructor
  · exact ⟨_, rfl, by decide, by decide⟩
  · exact ⟨_, rfl, by decide, by decide⟩

end ReviewExample

end CompetiScope
