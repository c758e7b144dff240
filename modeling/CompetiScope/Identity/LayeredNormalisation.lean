import CompetiScope.Identity.ReportVersionSources
import CompetiScope.Identity.TokenNormalisation
import Mathlib.Data.String.Basic

/-!
# Reconciling the sources of a layered report

A report of one text is normalised once and its reconciliation lists what the
pass met.  A report of layers is normalised layer by layer, joined and
normalised again: the reconciliation lists what the second pass meets.
-/

namespace CompetiScope

open Foundation

/-! ## Reconciliation -/

/-- What `build_source_reconciliation` reports. -/
structure SourceReconciliation where
  reportSourceTokens : List String
  canonicalReportSourceTokens : List String
  reportSourceTokenCount : Nat
  canonicalReportMdChanged : Bool
  scopedEvidenceIds : List String
  scopedEvidenceCount : Nat
  scopedSourceTokenCount : Nat
  unresolvedReportSourceTokens : List String
  unresolvedReportSourceTokenCount : Nat
  evidenceSourceAliases : Dict String (List String)
  sourceResolutions : List SourceResolution

/-- `SourceResolutionIndex.scoped_evidence`. -/
def scopedEvidence (evidence : List EvidenceRecord) :
    Option (List String) → List EvidenceRecord
  | none => evidence
  | some ids => evidence.filter (·.id ∈ ids)

/-- The aliases of the records in scope, for those that have some. -/
def evidenceAliases (scopedRecords : List EvidenceRecord) :
    Dict String (List String) :=
  scopedRecords.foldl
    (fun aliases item =>
      let others := sortedSet
        ((evidenceSourceTokens item).filter
          (· ≠ canonicalReportToken item))
      if others ≠ [] then aliases.set item.id others else aliases) ∅

/-- `build_source_reconciliation`. -/
def buildSourceReconciliation (reportMd : String)
    (evidence : List EvidenceRecord) (scope : Option (List String))
    (precomputed : List SourceResolution) (changed : Bool) :
    SourceReconciliation :=
  let reportTokens := dedupeStrings
    ((sourceMatches reportMd).map fun found =>
      normalizeSourceToken (String.ofList found.1))
  let resolutions :=
    if precomputed ≠ [] then precomputed
    else reportTokens.map fun token =>
      if isValidSourceToken token then resolveSourceToken evidence scope token
      else malformedResolution token
  let scopedRecords := scopedEvidence evidence scope
  let unresolved := dedupeStrings
    ((resolutions.filter (! ·.isResolved)).map (·.normalizedToken))
  { reportSourceTokens := reportTokens
    canonicalReportSourceTokens := dedupeStrings
      (resolutions.map fun resolution =>
        firstText
          [resolution.canonicalToken, some resolution.normalizedToken])
    reportSourceTokenCount := reportTokens.length
    canonicalReportMdChanged := changed
    scopedEvidenceIds := scopedRecords.map (·.id)
    scopedEvidenceCount := scopedRecords.length
    scopedSourceTokenCount :=
      (orderedUnique (scopedRecords.flatMap evidenceSourceTokens)).length
    unresolvedReportSourceTokens := unresolved
    unresolvedReportSourceTokenCount := unresolved.length
    evidenceSourceAliases := evidenceAliases scopedRecords
    sourceResolutions := resolutions }

/-- `SourceTokenNormalization.reconciliation`. -/
def SourceTokenNormalization.reconciliation
    (normalization : SourceTokenNormalization)
    (evidence : List EvidenceRecord) : SourceReconciliation :=
  buildSourceReconciliation normalization.reportMd evidence
    (some normalization.evidenceIds) normalization.resolutions
    normalization.changed

/-! ## The two paths -/

section Paths

variable (evidence : List EvidenceRecord) (version : ReportVersionRecord)

/-- The texts a layered report is rebuilt from first. -/
def sourceLayers : List String :=
  [layerOrCached version.coreReportMd
      (version.reportArtifact.map (·.coreMarkdown)),
    layerOrCached version.supportAppendixMd
      (version.reportArtifact.map (·.supportMarkdown)),
    layerOrCached version.auditLogMd
      (version.reportArtifact.map (·.auditMarkdown))]

/-- `joined_full_report_md`. -/
def joinedFullReportMd : String :=
  let normalize := normalizedReportMd evidence version.evidenceIds
  let joined := joinLayers ((sourceLayers version).map normalize)
  if joined ≠ "" then joined
  else normalize
    (if version.fullReportMd ≠ "" then version.fullReportMd
      else version.reportMd)

/-- The last normalisation of the layered path. -/
def layeredNormalization : SourceTokenNormalization :=
  normalizeReportSourceTokens (joinedFullReportMd evidence version) evidence
    (some version.evidenceIds)

/-- The normalisation of the plain path. -/
def plainNormalization : SourceTokenNormalization :=
  normalizeReportSourceTokens version.reportMd evidence
    (some version.evidenceIds)

/-- The `source_reconciliation` a normalised version carries. -/
def sourceReconciliation : SourceReconciliation :=
  if version.HasLayers then
    (layeredNormalization evidence version).reconciliation evidence
  else (plainNormalization evidence version).reconciliation evidence

theorem normalizeLayered_eq :
    (normalizeLayeredReportVersionSources evidence version).reportMd =
        (layeredNormalization evidence version).reportMd ∧
      (normalizeLayeredReportVersionSources evidence
          version).evidenceIds =
        (layeredNormalization evidence version).evidenceIds :=
  ⟨rfl, rfl⟩

theorem normalizePlain_eq (unlayered : ¬ version.HasLayers) :
    (normalizeReportVersionSources evidence version).reportMd =
        (plainNormalization evidence version).reportMd ∧
      (normalizeReportVersionSources evidence version).evidenceIds =
        (plainNormalization evidence version).evidenceIds := by
  rw [normalizeReportVersionSources, if_neg unlayered]
  exact ⟨rfl, rfl⟩

/-- The texts a version stores. -/
def storedLayers : List String :=
  [version.coreReportMd, version.supportAppendixMd, version.auditLogMd,
    version.fullReportMd, version.reportMd]

end Paths

/-! ## What the layered path promises -/

/-- The plain resolution of a token by the evidence of a version. -/
def tokenResolution (evidence : List EvidenceRecord)
    (version : ReportVersionRecord) (token : List Char) : SourceResolution :=
  matchResolution evidence (some version.evidenceIds) (String.ofList token)

/-- A token is among those reported as unresolved. -/
structure ReportedUnresolved (reconciliation : SourceReconciliation)
    (token : String) : Prop where
  resolution : ∃ resolution ∈ reconciliation.sourceResolutions,
    resolution.normalizedToken = normalizeSourceToken token ∧
      resolution.isResolved = false
  listed : normalizeSourceToken token ≠ "" →
    normalizeSourceToken token ∈
      reconciliation.unresolvedReportSourceTokens

/-- The evidence the layers cite is kept, the tokens that do not resolve are
reported, and on a single text both paths do the same. -/
structure LayersAgree (evidence : List EvidenceRecord)
    (version : ReportVersionRecord) : Prop where
  cited : ∀ layer ∈ storedLayers version, ∀ found ∈ sourceMatches layer,
    ∀ item,
      resolvedRecord evidence version.evidenceIds found.1 = some item →
        item.id ∈
          (normalizeReportVersionSources evidence version).evidenceIds
  reported : ∀ layer ∈ storedLayers version, ∀ found ∈ sourceMatches layer,
    (tokenResolution evidence version found.1).isResolved = false →
      ReportedUnresolved (sourceReconciliation evidence version)
        (String.ofList found.1)
  samePath : ¬ version.HasLayers →
    (normalizeLayeredReportVersionSources evidence version).reportMd =
        (normalizeReportVersionSources evidence version).reportMd ∧
      (normalizeLayeredReportVersionSources evidence
          version).evidenceIds =
        (normalizeReportVersionSources evidence version).evidenceIds ∧
      (layeredNormalization evidence version).reconciliation evidence =
        (plainNormalization evidence version).reconciliation evidence

/-- The texts a layered report is rebuilt from: the first three layers, or
one text if there is nothing in them but malformed markers. -/
def usedLayers (evidence : List EvidenceRecord)
    (version : ReportVersionRecord) : List String :=
  if ∀ layer ∈ sourceLayers version,
      sourceSkeleton evidence version.evidenceIds layer = "" then
    [if version.fullReportMd ≠ "" then version.fullReportMd
      else version.reportMd]
  else sourceLayers version

/-- Joining the layers makes no marker, canonical tokens match the grammar,
the evidence of every text is in scope or still cited after the first pass,
and an unresolved token of any text is one that the first pass leaves. -/
structure LayersSettle (evidence : List EvidenceRecord)
    (version : ReportVersionRecord) : Prop where
  unjoined : sourceMatches (joinLayers ((usedLayers evidence version).map
    (sourceSkeleton evidence version.evidenceIds))) = []
  canonical : ∀ text ∈ usedLayers evidence version,
    ∀ found ∈ sourceMatches text, ∀ item,
      resolvedRecord evidence version.evidenceIds found.1 = some item →
        isValidSourceToken (reportToken item)
  cited : ∀ layer ∈ storedLayers version, ∀ found ∈ sourceMatches layer,
    ∀ item,
      resolvedRecord evidence version.evidenceIds found.1 = some item →
        strip item.id = item.id ∧
          (item.id ∈ version.evidenceIds ∨
            ∃ text ∈ usedLayers evidence version,
              ∃ other ∈ sourceMatches text, ∃ record,
                resolvedRecord evidence version.evidenceIds other.1 =
                    some record ∧
                  (resolveEvidence evidence version.evidenceIds
                    (reportToken record)).map (·.id) = some item.id)
  left : ∀ layer ∈ storedLayers version, ∀ found ∈ sourceMatches layer,
    (tokenResolution evidence version found.1).isResolved = false →
      ∃ text ∈ usedLayers evidence version, ∃ other ∈ sourceMatches text,
        isValidSourceToken (String.ofList other.1) ∧
          normalizeSourceToken (String.ofList other.1) =
            normalizeSourceToken (String.ofList found.1) ∧
          (tokenResolution evidence version other.1).isResolved = false

/-- The markers of a text are canonical and its evidence has clean ids. -/
structure TextSettles (evidence : List EvidenceRecord)
    (version : ReportVersionRecord) : Prop where
  canonical : ∀ found ∈ sourceMatches version.reportMd,
    canonicalMatch evidence version.evidenceIds found.1 found.2 = found.2
  cited : ∀ found ∈ sourceMatches version.reportMd, ∀ item,
    resolvedRecord evidence version.evidenceIds found.1 = some item →
      strip item.id = item.id

/-! ## What a reconciliation lists -/

section Reconciliation

variable {evidence : List EvidenceRecord}

theorem matchResolution_normalizedToken (scope : Option (List String))
    (token : String) :
    (matchResolution evidence scope token).normalizedToken =
      normalizeSourceToken token := by
  unfold matchResolution
  split
  · have same := resolveSourceToken_normalizedToken evidence scope token
    dsimp only
    split
    · exact same
    · exact same
  · rfl

/-- Every resolution of a pass is in its reconciliation. -/
theorem reconciliation_reports {text : String} {scope : List String}
    {found : List Char × List Char} (listed : found ∈ sourceMatches text)
    (unresolved : (matchResolution evidence (some scope)
      (String.ofList found.1)).isResolved = false)
    {token : String}
    (same : normalizeSourceToken (String.ofList found.1) =
      normalizeSourceToken token) :
    ReportedUnresolved
      ((normalizeReportSourceTokens text evidence
        (some scope)).reconciliation evidence) token := by
  have inPass : matchResolution evidence (some scope)
      (String.ofList found.1) ∈ (normalizeReportSourceTokens text evidence
        (some scope)).resolutions :=
    List.mem_map.mpr ⟨found, listed, rfl⟩
  have filled := List.ne_nil_of_mem inPass
  have named :=
    (@matchResolution_normalizedToken evidence (some scope)
      (String.ofList found.1)).trans same
  unfold SourceTokenNormalization.reconciliation buildSourceReconciliation
  constructor
  case resolution =>
    dsimp only
    rw [if_pos filled]
    exact ⟨_, inPass, named, unresolved⟩
  case listed =>
    intro nonempty
    dsimp only
    rw [if_pos filled, mem_dedupeStrings]
    refine ⟨nonempty, normalizeSourceToken token, ?_, ?_⟩
    · rw [List.mem_map]
      refine ⟨_, List.mem_filter.mpr ⟨inPass, ?_⟩, named⟩
      rw [unresolved]
      rfl
    · exact strip_normalizeSourceToken token

end Reconciliation

/-! ## Joining the pieces of the layers -/

/-- The pieces of some layers, apart by an empty line. -/
def joinPieces (layers : List (List SourcePiece)) : List SourcePiece :=
  List.intercalate [.plain '\n', .plain '\n']
    (layers.filter fun pieces => ! pieces.isEmpty)

theorem intercalate_flatMap {α β : Type*} (separator : List α)
    (render : α → List β) (lists : List (List α)) :
    (List.intercalate separator lists).flatMap render =
      List.intercalate (separator.flatMap render)
        (lists.map (·.flatMap render)) := by
  induction lists with
  | nil => rfl
  | cons list lists induction =>
      cases lists with
      | nil => simp [List.intercalate_singleton]
      | cons next lists =>
          rw [List.intercalate_cons_cons, List.flatMap_append,
            List.flatMap_append, induction]
          exact List.intercalate_cons_cons.symm

theorem mem_intercalate {α : Type*} {separator : List α} {value : α}
    (apart : value ∉ separator) {lists : List (List α)} :
    value ∈ List.intercalate separator lists ↔
      ∃ list ∈ lists, value ∈ list := by
  induction lists with
  | nil => simp
  | cons list lists induction =>
      cases lists with
      | nil => simp [List.intercalate_singleton]
      | cons next lists =>
          rw [List.intercalate_cons_cons, List.mem_append, List.mem_append,
            induction, List.exists_mem_cons_iff (l := next :: lists)]
          constructor
          · rintro ((inList | inSeparator) | later)
            · exact .inl inList
            · exact (apart inSeparator).elim
            · exact .inr later
          · rintro (inList | later)
            · exact .inl (.inl inList)
            · exact .inr later

/-- The markers of joined layers are the markers of the layers. -/
theorem marker_mem_joinPieces {layers : List (List SourcePiece)}
    {token whole : List Char} :
    .marker token whole ∈ joinPieces layers ↔
      ∃ layer ∈ layers, .marker token whole ∈ layer := by
  rw [joinPieces, mem_intercalate (by simp)]
  constructor
  · rintro ⟨layer, member, inside⟩
    exact ⟨layer, List.mem_of_mem_filter member, inside⟩
  · rintro ⟨layer, member, inside⟩
    refine ⟨layer, List.mem_filter.mpr ⟨member, ?_⟩, inside⟩
    cases layer with
    | nil => cases inside
    | cons piece pieces => rfl

/-- Joining the texts of the layers joins their pieces. -/
theorem toList_joinLayers {render : SourcePiece → List Char}
    (plain : ∀ char, render (.plain char) = [char])
    {layers : List (List SourcePiece)}
    (filled : ∀ layer ∈ layers, ∀ piece ∈ layer, render piece ≠ []) :
    (joinLayers (layers.map fun layer =>
        String.ofList (layer.flatMap render))).toList =
      (joinPieces layers).flatMap render := by
  have separator : "\n\n".toList = ['\n', '\n'] := by
    decide
  have sameFilter : (layers.map fun layer =>
      String.ofList (layer.flatMap render)).filter (· ≠ "") =
        (layers.filter fun layer => ! layer.isEmpty).map fun layer =>
          String.ofList (layer.flatMap render) := by
    rw [List.filter_map]
    congr 1
    apply List.filter_congr
    intro layer member
    cases layer with
    | nil => rfl
    | cons piece pieces =>
        have nonempty := filled _ member piece List.mem_cons_self
        simp [nonempty]
  rw [joinLayers, sameFilter, String.toList_intercalate, separator,
    List.map_map, joinPieces, intercalate_flatMap]
  congr 1
  · simp [plain]
  · apply List.map_congr_left
    intro layer _
    exact String.toList_ofList

/-! ## Texts with nothing but malformed markers -/

theorem substituteFrom_eq_nil_iff
    {replace : List Char → List Char → List Char} {text : List Char} :
    substituteFrom replace 0 text = [] ↔
      ∀ piece ∈ sourcePieces text, ∃ token whole,
        piece = .marker token whole ∧ replace token whole = [] := by
  rw [substituteFrom_eq, List.flatMap_eq_nil_iff]
  constructor
  · intro empty piece member
    cases piece with
    | plain char => cases empty _ member
    | marker token whole => exact ⟨token, whole, rfl, empty _ member⟩
  · intro markers piece member
    obtain ⟨token, whole, rfl, empty⟩ := markers piece member
    exact empty

/-- A marker leaves nothing in the text where it leaves nothing in the
skeleton. -/
theorem canonicalMatch_eq_nil_iff {evidence : List EvidenceRecord}
    {scopeIds : List String} {token whole : List Char} :
    canonicalMatch evidence scopeIds token whole = [] ↔
      markerSkeleton evidence scopeIds token whole = [] := by
  unfold canonicalMatch markerSkeleton
  split
  · cases resolvedRecord evidence scopeIds token with
    | some item =>
        have nonempty : (recordMarker item).2 ≠ [] := by
          rw [recordMarker_text]
          exact List.cons_ne_nil _ _
        unfold recordMarker at nonempty
        dsimp only at nonempty ⊢
        constructor
        · intro empty
          exact (nonempty empty).elim
        · intro empty
          cases empty
    | none =>
        cases whole with
        | nil => simp [SourcePiece.brackets]
        | cons char whole => simp [SourcePiece.brackets]
  · rfl

theorem normalizedReportMd_eq_empty_iff {evidence : List EvidenceRecord}
    {scopeIds : List String} {text : String} :
    normalizedReportMd evidence scopeIds text = "" ↔
      sourceSkeleton evidence scopeIds text = "" := by
  unfold normalizedReportMd sourceSkeleton
  rw [String.ofList_eq_empty_iff, String.ofList_eq_empty_iff,
    substituteFrom_eq_nil_iff, substituteFrom_eq_nil_iff]
  constructor
  · intro markers piece member
    obtain ⟨token, whole, isMarker, empty⟩ := markers piece member
    exact ⟨token, whole, isMarker, canonicalMatch_eq_nil_iff.mp empty⟩
  · intro markers piece member
    obtain ⟨token, whole, isMarker, empty⟩ := markers piece member
    exact ⟨token, whole, isMarker, canonicalMatch_eq_nil_iff.mpr empty⟩

theorem joinLayers_eq_empty_iff {layers : List String} :
    joinLayers layers = "" ↔ ∀ layer ∈ layers, layer = "" := by
  have separator : "\n\n".toList = ['\n', '\n'] := by
    decide
  rw [joinLayers, ← String.toList_inj, String.toList_intercalate, separator]
  constructor
  · intro empty layer member
    by_contra nonempty
    have listed : layer ∈ layers.filter (· ≠ "") :=
      List.mem_filter.mpr ⟨member, decide_eq_true nonempty⟩
    cases kept : layers.filter (· ≠ "") with
    | nil =>
        rw [kept] at listed
        cases listed
    | cons first rest =>
        have inFilter : first ∈ layers.filter (· ≠ "") := by
          rw [kept]
          exact List.mem_cons_self
        have filled := of_decide_eq_true (List.mem_filter.mp inFilter).2
        rw [kept, List.map_cons] at empty
        apply filled
        rw [← String.toList_inj]
        cases rest with
        | nil =>
            rwa [List.map_nil, List.intercalate_singleton] at empty
        | cons next rest =>
            rw [List.map_cons, List.intercalate_cons_cons,
              List.append_assoc] at empty
            exact (List.append_eq_nil_iff.mp empty).1
  · intro empty
    have none : layers.filter (· ≠ "") = [] := by
      rw [List.filter_eq_nil_iff]
      intro layer member
      simp [empty layer member]
    rw [none]
    rfl

section Layered

variable {evidence : List EvidenceRecord} {version : ReportVersionRecord}

/-- The joined text is the used layers, each normalised. -/
theorem joinedFullReportMd_eq :
    joinedFullReportMd evidence version =
      joinLayers ((usedLayers evidence version).map
        (normalizedReportMd evidence version.evidenceIds)) := by
  have joinOne : ∀ text, joinLayers [text] = text := by
    intro text
    unfold joinLayers
    by_cases empty : text = ""
    · rw [empty]
      rfl
    · rw [List.filter_cons_of_pos (by simp [empty]), List.filter_nil]
      exact String.intercalate_singleton
  have sameTest : joinLayers ((sourceLayers version).map
      (normalizedReportMd evidence version.evidenceIds)) = "" ↔
        ∀ layer ∈ sourceLayers version,
          sourceSkeleton evidence version.evidenceIds layer = "" := by
    rw [joinLayers_eq_empty_iff, List.forall_mem_map]
    constructor
    · intro empty layer member
      exact normalizedReportMd_eq_empty_iff.mp (empty layer member)
    · intro empty layer member
      exact normalizedReportMd_eq_empty_iff.mpr (empty layer member)
  unfold joinedFullReportMd usedLayers
  dsimp only
  by_cases empty : ∀ layer ∈ sourceLayers version,
      sourceSkeleton evidence version.evidenceIds layer = ""
  · rw [if_neg (not_not.mpr (sameTest.mpr empty)), if_pos empty,
      List.map_singleton, joinOne]
  · rw [if_pos (mt sameTest.mp empty), if_neg empty]

/-- The pieces of a layer once it is normalised. -/
def layerPieces (evidence : List EvidenceRecord)
    (version : ReportVersionRecord) (text : String) : List SourcePiece :=
  (sourcePieces text.toList).flatMap
    (normalisedPieces evidence version.evidenceIds)

theorem LayersSettle.wellFormed (settles : LayersSettle evidence version)
    {text : String} (used : text ∈ usedLayers evidence version) :
    WellFormedPieces (layerPieces evidence version text) :=
  wellFormed_normalisedPieces (settles.canonical text used)

/-- A normalised layer has no empty pieces, whole or reduced to brackets. -/
theorem LayersSettle.filledPieces (settles : LayersSettle evidence version)
    {pieces : List SourcePiece}
    (isLayer : pieces ∈ (usedLayers evidence version).map
      (layerPieces evidence version)) :
    ∀ piece ∈ pieces, piece.text ≠ [] ∧ piece.brackets ≠ [] := by
  obtain ⟨text, used, rfl⟩ := List.mem_map.mp isLayer
  intro piece member
  cases piece with
  | plain char => exact ⟨List.cons_ne_nil _ _, List.cons_ne_nil _ _⟩
  | marker token whole =>
      obtain ⟨opening, inside, closing, shape, brackets, -⟩ :=
        (settles.wellFormed used token whole member).text
      rw [brackets]
      refine ⟨?_, List.cons_ne_nil _ _⟩
      rw [SourcePiece.text, shape]
      exact List.cons_ne_nil _ _

/-- The joined text is cut into the pieces of the layers. -/
theorem LayersSettle.sourcePieces_joined
    (settles : LayersSettle evidence version) :
    sourcePieces (joinedFullReportMd evidence version).toList =
      joinPieces ((usedLayers evidence version).map
        (layerPieces evidence version)) := by
  have formed : WellFormedPieces
      (joinPieces ((usedLayers evidence version).map
        (layerPieces evidence version))) := by
    intro token whole member
    obtain ⟨layer, isLayer, inside⟩ := marker_mem_joinPieces.mp member
    obtain ⟨text, used, rfl⟩ := List.mem_map.mp isLayer
    exact settles.wellFormed used token whole inside
  have text : (joinedFullReportMd evidence version).toList =
      piecesText (joinPieces ((usedLayers evidence version).map
        (layerPieces evidence version))) := by
    have joined := @toList_joinLayers SourcePiece.text (fun _ => rfl)
      _ fun _ isLayer piece member =>
        (settles.filledPieces isLayer piece member).1
    rw [List.map_map] at joined
    have sameTexts : (usedLayers evidence version).map
        ((fun layer => String.ofList (layer.flatMap SourcePiece.text)) ∘
          layerPieces evidence version) =
        (usedLayers evidence version).map
          (normalizedReportMd evidence version.evidenceIds) := by
      apply List.map_congr_left
      intro text _
      rw [Function.comp_apply, layerPieces, ← piecesText,
        ← toList_normalizedReportMd, String.ofList_toList]
    rw [joinedFullReportMd_eq, piecesText, ← joined, sameTexts]
  have skeleton : sourceMatchesFrom 0
      (piecesSkeleton (joinPieces ((usedLayers evidence version).map
        (layerPieces evidence version)))) = [] := by
    have joined := @toList_joinLayers SourcePiece.brackets (fun _ => rfl)
      _ fun _ isLayer piece member =>
        (settles.filledPieces isLayer piece member).2
    rw [List.map_map] at joined
    rw [piecesSkeleton, ← joined]
    have sameTexts : (usedLayers evidence version).map
        ((fun layer => String.ofList (layer.flatMap SourcePiece.brackets)) ∘
          layerPieces evidence version) =
        (usedLayers evidence version).map
          (sourceSkeleton evidence version.evidenceIds) := by
      apply List.map_congr_left
      intro text used
      rw [Function.comp_apply, layerPieces, ← piecesSkeleton,
        ← toList_sourceSkeleton (settles.canonical text used),
        String.ofList_toList]
    rw [sameTexts]
    exact settles.unjoined
  rw [text]
  exact sourcePieces_piecesText formed skeleton

/-- A marker the first pass keeps is met by the second one. -/
theorem LayersSettle.mem_joined (settles : LayersSettle evidence version)
    {text : String} (used : text ∈ usedLayers evidence version)
    {found kept : List Char × List Char}
    (listed : found ∈ sourceMatches text)
    (isKept : keptMarker evidence version.evidenceIds found = some kept) :
    kept ∈ sourceMatches (joinedFullReportMd evidence version) := by
  rw [mem_sourceMatches, settles.sourcePieces_joined, marker_mem_joinPieces]
  refine ⟨_, List.mem_map_of_mem used, ?_⟩
  rw [layerPieces, List.mem_flatMap]
  refine ⟨_, mem_sourceMatches.mp listed, ?_⟩
  rw [normalisedPieces_marker, isKept]
  exact List.mem_singleton_self _

/-! ## The main result -/

theorem mem_normalizedEvidenceIds {scopeIds : List String} {text id : String}
    (clean : strip id = id) (filled : id ≠ "") :
    id ∈ scopeIds ∨ id ∈ resolvedEvidenceIds evidence scopeIds text →
      id ∈ normalizedEvidenceIds evidence scopeIds text := by
  intro reached
  rw [normalizedEvidenceIds, mem_dedupeStrings]
  refine ⟨filled, id, ?_, clean⟩
  rcases reached with inScope | resolved
  · exact List.mem_append_left _ inScope
  · exact List.mem_append_right _
      (mem_dedupeStrings.mpr ⟨filled, id, resolved, clean⟩)

/-- The layers of a version are rebuilt without loss if nothing joins and
what they cite is cited by the texts they are rebuilt from. -/
theorem LayersSettle.agree (settles : LayersSettle evidence version)
    (layered : version.HasLayers) : LayersAgree evidence version := by
  constructor
  case cited =>
    intro layer stored found listed item resolved
    have filled := (resolvedRecord_eq_some.mp resolved).2.2
    obtain ⟨clean, reached⟩ := settles.cited layer stored found listed item
      resolved
    rw [normalizeReportVersionSources, if_pos layered]
    change item.id ∈ normalizedEvidenceIds evidence version.evidenceIds
      (joinedFullReportMd evidence version)
    apply mem_normalizedEvidenceIds clean filled
    rcases reached with inScope | ⟨text, used, other, inText, record,
      isRecord, again⟩
    · exact .inl inScope
    · right
      obtain ⟨last, isLast, sameId⟩ := Option.map_eq_some_iff.mp again
      have valid := settles.canonical text used other inText record isRecord
      have kept := settles.mem_joined used inText
        (@keptMarker_of_resolved _ _ _ other.2 _ isRecord)
      rw [mem_resolvedEvidenceIds]
      refine ⟨recordMarker record, kept, last, ?_, sameId⟩
      unfold recordMarker
      rw [resolvedRecord_eq_some, String.ofList_toList]
      exact ⟨valid, isLast, sameId ▸ filled⟩
  case reported =>
    intro layer stored found listed unresolved
    obtain ⟨text, used, other, inText, valid, sameToken, left⟩ :=
      settles.left layer stored found listed unresolved
    have noRecord : resolvedRecord evidence version.evidenceIds other.1 =
        none := by
      cases resolved : resolvedRecord evidence version.evidenceIds other.1 with
      | none => rfl
      | some record =>
          have isResolved := (@matchResolution_of_resolvedRecord _
            (some version.evidenceIds) _ _ resolved).2
          rw [tokenResolution, isResolved] at left
          cases left
    have kept := settles.mem_joined used inText
      (@keptMarker_of_unresolved _ _ _ other.2 valid noRecord)
    rw [sourceReconciliation, if_pos layered]
    exact reconciliation_reports kept left sameToken
  case samePath => exact fun unlayered => (unlayered layered).elim

/-- Without layers there is one text to normalise. -/
theorem joinedFullReportMd_of_unlayered (unlayered : ¬ version.HasLayers) :
    joinedFullReportMd evidence version =
        normalizedReportMd evidence version.evidenceIds version.reportMd ∧
      ∀ layer ∈ storedLayers version, layer = "" ∨ layer = version.reportMd := by
  unfold ReportVersionRecord.HasLayers at unlayered
  push Not at unlayered
  obtain ⟨artifact, core, support, audit, full⟩ := unlayered
  constructor
  · unfold joinedFullReportMd sourceLayers
    rw [artifact, core, support, audit, full]
    rfl
  · intro layer member
    unfold storedLayers at member
    rw [core, support, audit, full] at member
    simp only [List.mem_cons, List.not_mem_nil, or_false] at member
    tauto

/-- A single text is normalised the same way on both paths if its markers are
canonical. -/
theorem TextSettles.agree (settles : TextSettles evidence version)
    (unlayered : ¬ version.HasLayers) : LayersAgree evidence version := by
  obtain ⟨samePlain, samePlainIds⟩ :=
    normalizePlain_eq evidence version unlayered
  obtain ⟨joined, stored⟩ :=
    @joinedFullReportMd_of_unlayered evidence _ unlayered
  have settled : normalizedReportMd evidence version.evidenceIds
      version.reportMd = version.reportMd := by
    have kept := @substituteFrom_eq_drop
      (canonicalMatch evidence version.evidenceIds)
      version.reportMd.toList 0 settles.canonical
    rw [normalizedReportMd, kept, List.drop_zero, String.ofList_toList]
  have inReport : ∀ layer ∈ storedLayers version,
      ∀ found ∈ sourceMatches layer,
        found ∈ sourceMatches version.reportMd := by
    intro layer member found listed
    rcases stored layer member with rfl | rfl
    · cases listed
    · exact listed
  have samePass : layeredNormalization evidence version =
      plainNormalization evidence version := by
    rw [layeredNormalization, joined, settled, plainNormalization]
  constructor
  case cited =>
    intro layer member found listed item resolved
    have inText := inReport layer member found listed
    have clean := settles.cited found inText item resolved
    have filled := (resolvedRecord_eq_some.mp resolved).2.2
    rw [samePlainIds]
    change item.id ∈ normalizedEvidenceIds evidence version.evidenceIds
      version.reportMd
    exact mem_normalizedEvidenceIds clean filled
      (.inr (mem_resolvedEvidenceIds.mpr
        ⟨found, inText, item, resolved, rfl⟩))
  case reported =>
    intro layer member found listed unresolved
    rw [sourceReconciliation, if_neg unlayered]
    exact reconciliation_reports (inReport layer member found listed)
      unresolved rfl
  case samePath =>
    intro _
    obtain ⟨sameText, sameIds⟩ := normalizeLayered_eq evidence version
    rw [sameText, sameIds, samePlain, samePlainIds, samePass]
    exact ⟨rfl, rfl, rfl⟩

end Layered

/-- Both paths agree on a version whose layers are rebuilt without loss, or
whose only text is canonical. -/
theorem layersAgree_of_settles {evidence : List EvidenceRecord}
    {version : ReportVersionRecord}
    (layers : version.HasLayers → LayersSettle evidence version)
    (text : ¬ version.HasLayers → TextSettles evidence version) :
    LayersAgree evidence version := by
  by_cases layered : version.HasLayers
  · exact (layers layered).agree layered
  · exact (text layered).agree layered

namespace LayersExample

open NormalisationExample (quarter quarter_of_resolved)

def report (core support reportMd : String) : ReportVersionRecord :=
  { id := "rv"
    runId := some "r"
    scope :=
      { projectId := "p"
        topicNormalized := "plans"
        competitorLayer := "L1"
        competitorSetHash := "hash" }
    versionNumber := 1
    reportMd := reportMd
    createdAt := 0
    coreReportMd := core
    supportAppendixMd := support }

def layered : ReportVersionRecord :=
  report "Up [source:ev-1]" "See [source:x]" "Up [source:raw-1]"

theorem layered_settles : LayersSettle [quarter] layered := by
  constructor
  case unjoined => decide +kernel
  case canonical =>
    intro text _ found _ item resolved
    rw [quarter_of_resolved resolved]
    decide +kernel
  case cited =>
    intro layer _ found _ item resolved
    rw [quarter_of_resolved resolved]
    exact ⟨by decide +kernel, .inr ⟨layered.coreReportMd,
      by decide +kernel, ("ev-1".toList, "[source:ev-1]".toList),
      by decide +kernel, quarter, by decide +kernel, by decide +kernel⟩⟩
  case left => decide +kernel

/-- The record an alias cites comes into scope, and the token of no record is
reported. -/
theorem layersAgree_of_settles_layered :
    LayersAgree [quarter] layered ∧
      (sourceReconciliation [quarter] layered).unresolvedReportSourceTokens =
        ["x"] :=
  ⟨layersAgree_of_settles (fun _ => layered_settles)
    fun unlayered => (unlayered (by decide +kernel)).elim,
    by decide +kernel⟩

/-- A malformed token of a layer is cut out before the pass that is
reported. -/
theorem layers_unreported :
    ¬ LayersAgree [] (report "Up [source:a b]" "" "") := by
  intro agree
  have malformed := agree.reported "Up [source:a b]" (by decide +kernel)
    ("a b".toList, "[source:a b]".toList) (by decide +kernel)
    (by decide +kernel)
  have listed := malformed.listed (by decide +kernel)
  revert listed
  decide +kernel

end LayersExample

end CompetiScope
