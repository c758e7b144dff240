import CompetiScope.Enterprise.ReportLifecycle
import CompetiScope.Identity.SourceResolver

/-!
# Report versions in canonical form

An upsert rewrites the source tokens of the version it stores.  A version with
layers is rebuilt from them: its text and its full text become the layers
joined and rewritten once more.
-/

namespace CompetiScope

open Foundation

namespace ReportVersionRecord

/-- `_has_layered_report_content`. -/
def HasLayers (version : ReportVersionRecord) : Prop :=
  version.reportArtifact ≠ none ∨ version.coreReportMd ≠ "" ∨
    version.supportAppendixMd ≠ "" ∨ version.auditLogMd ≠ "" ∨
      version.fullReportMd ≠ ""

instance (version : ReportVersionRecord) : Decidable version.HasLayers :=
  inferInstanceAs (Decidable (_ ∨ _))

/-- `_has_preservable_layered_report_data`. -/
def HasPreservableLayers (version : ReportVersionRecord) : Prop :=
  version.reportArtifact ≠ none ∨ version.supportAppendixMd ≠ "" ∨
    version.auditLogMd ≠ "" ∨
      version.coreReportMd ≠ "" ∧ version.fullReportMd ≠ "" ∧
        version.coreReportMd ≠ version.fullReportMd

instance (version : ReportVersionRecord) :
    Decidable version.HasPreservableLayers :=
  inferInstanceAs (Decidable (_ ∨ _))

/-- `preserve_existing_report_layers_for_legacy_upsert`. -/
def preservingLayers (version : ReportVersionRecord) :
    Option ReportVersionRecord → ReportVersionRecord
  | none => version
  | some existing =>
      if version.id = existing.id ∧ existing.HasPreservableLayers ∧
          ¬ version.HasLayers then
        { version with
          coreReportMd := existing.coreReportMd
          supportAppendixMd := existing.supportAppendixMd
          auditLogMd := existing.auditLogMd
          fullReportMd := existing.fullReportMd
          reportArtifact := existing.reportArtifact }
      else version

end ReportVersionRecord

/-- `first or second`, of a layer and the text the artifact caches for it. -/
def layerOrCached (layer : String) (cached : Option String) : String :=
  if layer ≠ "" then layer else cached.getD ""

/-- The layers that are not empty, apart by an empty line. -/
def joinLayers (layers : List String) : String :=
  String.intercalate "\n\n" (layers.filter (· ≠ ""))

/-- The text a layered report is rebuilt from. -/
def rebuiltReportMd (normalize : String → String)
    (core support audit full reportMd : String) : String :=
  let joined := joinLayers [core, support, audit]
  if joined ≠ "" then joined
  else normalize (if full ≠ "" then full else reportMd)

/-- `_normalize_layered_report_version_sources`. -/
def normalizeLayeredReportVersionSources (evidence : List EvidenceRecord)
    (version : ReportVersionRecord) : ReportVersionRecord :=
  let normalize := normalizedReportMd evidence version.evidenceIds
  let artifact := version.reportArtifact
  let core := normalize
    (layerOrCached version.coreReportMd (artifact.map (·.coreMarkdown)))
  let support := normalize
    (layerOrCached version.supportAppendixMd
      (artifact.map (·.supportMarkdown)))
  let audit := normalize
    (layerOrCached version.auditLogMd (artifact.map (·.auditMarkdown)))
  let rebuilt := rebuiltReportMd normalize core support audit
    version.fullReportMd version.reportMd
  { version with
    reportMd := normalize rebuilt
    coreReportMd := core
    supportAppendixMd := support
    auditLogMd := audit
    fullReportMd := normalize rebuilt
    reportArtifact := artifact.map fun _ =>
      { coreMarkdown := core
        supportMarkdown := support
        auditMarkdown := audit
        fullMarkdown := normalize rebuilt }
    evidenceIds :=
      normalizedEvidenceIds evidence version.evidenceIds rebuilt }

/-- `normalize_report_version_sources`. -/
def normalizeReportVersionSources (evidence : List EvidenceRecord)
    (version : ReportVersionRecord) : ReportVersionRecord :=
  if version.HasLayers then
    normalizeLayeredReportVersionSources evidence version
  else
    { version with
      reportMd :=
        normalizedReportMd evidence version.evidenceIds version.reportMd
      evidenceIds :=
        normalizedEvidenceIds evidence version.evidenceIds version.reportMd }

/-! ## What normalisation leaves alone -/

section Frame

variable {evidence : List EvidenceRecord} {version : ReportVersionRecord}
  {existing : Option ReportVersionRecord}

/-- A version keeps everything but its texts and its evidence ids. -/
structure SameRecord (first second : ReportVersionRecord) : Prop where
  id : second.id = first.id
  status : second.status = first.status
  claimIds : second.claimIds = first.claimIds
  qualityMetadata : second.qualityMetadata = first.qualityMetadata
  publishedAt : second.publishedAt = first.publishedAt
  scope : second.scope = first.scope
  runId : second.runId = first.runId
  workspaceId : second.workspaceId = first.workspaceId
  createdAt : second.createdAt = first.createdAt

theorem SameRecord.refl (record : ReportVersionRecord) :
    SameRecord record record :=
  ⟨rfl, rfl, rfl, rfl, rfl, rfl, rfl, rfl, rfl⟩

theorem SameRecord.trans {first second third : ReportVersionRecord}
    (left : SameRecord first second) (right : SameRecord second third) :
    SameRecord first third where
  id := right.id.trans left.id
  status := right.status.trans left.status
  claimIds := right.claimIds.trans left.claimIds
  qualityMetadata := right.qualityMetadata.trans left.qualityMetadata
  publishedAt := right.publishedAt.trans left.publishedAt
  scope := right.scope.trans left.scope
  runId := right.runId.trans left.runId
  workspaceId := right.workspaceId.trans left.workspaceId
  createdAt := right.createdAt.trans left.createdAt

theorem normalizeReportVersionSources_sameRecord :
    SameRecord version (normalizeReportVersionSources evidence version) := by
  by_cases layered : version.HasLayers
  · rw [normalizeReportVersionSources, if_pos layered,
      normalizeLayeredReportVersionSources]
    exact ⟨rfl, rfl, rfl, rfl, rfl, rfl, rfl, rfl, rfl⟩
  · rw [normalizeReportVersionSources, if_neg layered]
    exact ⟨rfl, rfl, rfl, rfl, rfl, rfl, rfl, rfl, rfl⟩

theorem preservingLayers_sameRecord :
    SameRecord version (version.preservingLayers existing) := by
  cases existing with
  | none => exact .refl version
  | some existing =>
      rw [ReportVersionRecord.preservingLayers]
      split
      · exact ⟨rfl, rfl, rfl, rfl, rfl, rfl, rfl, rfl, rfl⟩
      · exact .refl version

/-- Layers are only taken over from a stored version that has others. -/
theorem preservingLayers_eq_self {stored : ReportVersionRecord}
    (sameCore : version.coreReportMd = stored.coreReportMd)
    (sameSupport : version.supportAppendixMd = stored.supportAppendixMd)
    (sameAudit : version.auditLogMd = stored.auditLogMd)
    (sameArtifact : version.reportArtifact = stored.reportArtifact) :
    version.preservingLayers (some stored) = version := by
  rw [ReportVersionRecord.preservingLayers]
  split
  · next taken =>
      obtain ⟨-, preservable, unlayered⟩ := taken
      refine (unlayered ?_).elim
      unfold ReportVersionRecord.HasLayers
      rw [sameCore, sameSupport, sameAudit, sameArtifact]
      rcases preservable with artifact | support | audit | ⟨core, -⟩
      · exact .inl artifact
      · exact .inr (.inr (.inl support))
      · exact .inr (.inr (.inr (.inl audit)))
      · exact .inr (.inl core)
  · rfl

end Frame

/-! ## Versions an upsert leaves as they are -/

/-- A layer is what its text, or the text the artifact caches for it, is
rewritten to. -/
def SettledLayer (evidence : List EvidenceRecord)
    (scopedEvidenceIds : List String) (layer : String)
    (cached : Option String) : Prop :=
  normalizedReportMd evidence scopedEvidenceIds
    (layerOrCached layer cached) = layer

/-- The text of a layered report is its full text and what its layers make
together. -/
structure SettledLayers (evidence : List EvidenceRecord)
    (version : ReportVersionRecord) : Prop where
  core : SettledLayer evidence version.evidenceIds version.coreReportMd
    (version.reportArtifact.map (·.coreMarkdown))
  support : SettledLayer evidence version.evidenceIds
    version.supportAppendixMd
    (version.reportArtifact.map (·.supportMarkdown))
  audit : SettledLayer evidence version.evidenceIds version.auditLogMd
    (version.reportArtifact.map (·.auditMarkdown))
  sameText : version.reportMd = version.fullReportMd
  rebuilt : normalizedReportMd evidence version.evidenceIds
    (rebuiltReportMd (normalizedReportMd evidence version.evidenceIds)
      version.coreReportMd version.supportAppendixMd version.auditLogMd
      version.fullReportMd version.reportMd) = version.fullReportMd
  covered : ScopeCovers evidence version.evidenceIds
    (rebuiltReportMd (normalizedReportMd evidence version.evidenceIds)
      version.coreReportMd version.supportAppendixMd version.auditLogMd
      version.fullReportMd version.reportMd)

theorem SettledLayers.congr {evidence : List EvidenceRecord}
    {first second : ReportVersionRecord}
    (settled : SettledLayers evidence first)
    (sameContent : second.content = first.content)
    (sameArtifact : second.reportArtifact = first.reportArtifact) :
    SettledLayers evidence second := by
  rw [ReportVersionRecord.content, ReportVersionRecord.content,
    ReportContent.mk.injEq] at sameContent
  obtain ⟨text, core, support, audit, full, ids, -⟩ := sameContent
  constructor
  · rw [ids, core, sameArtifact]
    exact settled.core
  · rw [ids, support, sameArtifact]
    exact settled.support
  · rw [ids, audit, sameArtifact]
    exact settled.audit
  · rw [text, full]
    exact settled.sameText
  · rw [ids, core, support, audit, full, text]
    exact settled.rebuilt
  · rw [ids, core, support, audit, full, text]
    exact settled.covered

/-- Text, layers and evidence ids are as an upsert leaves them. -/
def Settled (evidence : List EvidenceRecord)
    (version : ReportVersionRecord) : Prop :=
  if version.HasLayers then SettledLayers evidence version
  else
    CanonicalText evidence version.evidenceIds version.reportMd ∧
      ScopeCovers evidence version.evidenceIds version.reportMd

/-- Only the content and the artifact count. -/
theorem settled_congr {evidence : List EvidenceRecord}
    {first second : ReportVersionRecord}
    (sameContent : second.content = first.content)
    (sameArtifact : second.reportArtifact = first.reportArtifact) :
    Settled evidence second ↔ Settled evidence first := by
  have fields := sameContent
  rw [ReportVersionRecord.content, ReportVersionRecord.content,
    ReportContent.mk.injEq] at fields
  obtain ⟨text, core, support, audit, full, ids, -⟩ := fields
  have sameLayers : second.HasLayers ↔ first.HasLayers := by
    unfold ReportVersionRecord.HasLayers
    rw [sameArtifact, core, support, audit, full]
  unfold Settled
  by_cases layered : first.HasLayers
  · rw [if_pos layered, if_pos (sameLayers.mpr layered)]
    constructor
    · intro settled
      exact settled.congr sameContent.symm sameArtifact.symm
    · intro settled
      exact settled.congr sameContent sameArtifact
  · rw [if_neg layered, if_neg fun has => layered (sameLayers.mp has), ids,
      text]

theorem normalizeLayered_content_iff {evidence : List EvidenceRecord}
    {version : ReportVersionRecord} :
    (normalizeLayeredReportVersionSources evidence version).content =
        version.content ↔
      SettledLayers evidence version := by
  unfold normalizeLayeredReportVersionSources ReportVersionRecord.content
  rw [ReportContent.mk.injEq]
  dsimp only
  constructor
  · rintro ⟨text, core, support, audit, full, ids, -⟩
    rw [core, support, audit] at text full ids
    exact
      { core := core
        support := support
        audit := audit
        sameText := text.symm.trans full
        rebuilt := full
        covered := normalizedEvidenceIds_eq_iff.mp ids }
  · intro settled
    have core := settled.core
    have support := settled.support
    have audit := settled.audit
    unfold SettledLayer at core support audit
    rw [core, support, audit]
    exact ⟨settled.rebuilt.trans settled.sameText.symm, rfl, rfl, rfl,
      settled.rebuilt, normalizedEvidenceIds_eq_iff.mpr settled.covered, rfl⟩

/-- Exactly the settled versions keep their content. -/
theorem normalize_content_iff {evidence : List EvidenceRecord}
    {version : ReportVersionRecord} :
    (normalizeReportVersionSources evidence version).content =
        version.content ↔
      Settled evidence version := by
  unfold normalizeReportVersionSources Settled
  split
  · exact normalizeLayered_content_iff
  · unfold ReportVersionRecord.content
    rw [ReportContent.mk.injEq]
    constructor
    · rintro ⟨text, -, -, -, -, ids, -⟩
      exact ⟨text, normalizedEvidenceIds_eq_iff.mp ids⟩
    · rintro ⟨canonical, covers⟩
      exact ⟨canonical, rfl, rfl, rfl, rfl,
        normalizedEvidenceIds_eq_iff.mpr covers, rfl⟩

end CompetiScope
