import CompetiScope.Agents.DecisionCards
import CompetiScope.Agents.MergeOrder
import CompetiScope.Foundation.Indexed
import CompetiScope.Foundation.Pairings
import CompetiScope.Sources.SourceKinds

/-!
# Claim cards

An analyst turns the claims about one competitor and dimension into a bundle
of cards: one for each claim, one for each source of user research that no
claim is supported by, and a gap card when there is nothing else.  The bundle
counts what went into it.  What the counters promise about the cards holds
under a condition on the ids and sources, and only under it.
-/

namespace CompetiScope

open Foundation

/-- The metadata of a card, as each constructor of cards writes it. -/
inductive CardMetadata where
  | supported (sourceTypes droppedSourceIds : List String)
      (dimensionIrrelevantSourceIds : List String)
  | userResearch (sourceType : String) (sourceRole : Option Json)
  | unsupported (missingSourceIds droppedSourceIds : List String)
      (originalClaimConfidence : Rat)
  | noClaims (droppedClaimCount : Nat) (droppedSourceIds : List String)

/-- The entry `dropped_source_ids`. -/
def CardMetadata.droppedSourceIds : CardMetadata → List String
  | .supported _ dropped _ => dropped
  | .userResearch _ _ => []
  | .unsupported _ dropped _ => dropped
  | .noClaims _ dropped => dropped

/-- A claim card with everything its constructor sets. -/
structure AnalystCard where
  card : ClaimCard
  runId : String
  claimType : String
  claim : String
  scope : String
  caveats : List String
  applicability : String
  producerStage : String
  derivedFrom : List String
  metadata : CardMetadata

/-- The arguments that every card of a bundle repeats. -/
structure CardRequest where
  runId : String
  competitor : String
  dimension : String
  producerStage : String

/-- An entry of `dropped_claims`. -/
structure DroppedClaim where
  claim : String
  sourceIds : List String
  droppedSourceIds : List String

structure CardCoverage where
  claimCount : Nat
  cardCount : Nat
  droppedClaimCount : Nat
  providedSourceCount : Nat
  dimensionIrrelevantSourceCount : Nat
  deriving DecidableEq

structure AnalystCardBundle where
  request : CardRequest
  cards : List AnalystCard
  sourceIds : List String
  coverage : CardCoverage
  gapCount : Nat

section

variable [PyRuntime]

/-! ## Levels and texts -/

/-- `_support_level_for_sources`. -/
def supportLevelForSources (sources : List RatedSource) : ClaimSupportLevel :=
  if sources.any fun source =>
      contains (normalizedSourceType source.raw) "simulated" ||
        isSyntheticSource source.raw then
    .simulated
  else if sources.any fun source => isOfficialSource source.raw then .official
  else if 2 ≤ sources.countP fun source =>
      isCommunitySourceType (normalizedSourceType source.raw) then
    .triangulatedCommunity
  else .singleSource

theorem supportLevelForSources_ne_gap (sources : List RatedSource) :
    supportLevelForSources sources ≠ .gap := by
  unfold supportLevelForSources
  split
  · decide
  · split
    · decide
    · split <;> decide

omit [PyRuntime] in
/-- `_evidence_strength_for_claim`. -/
def evidenceStrengthForClaim (confidence : Rat) (sources : List RatedSource) :
    EvidenceStrength :=
  let best := min 1 (sources.foldl
    (fun best source => max best source.confidence) (max confidence 0))
  if 17 / 20 ≤ best ∧ 2 ≤ sources.length then .strong
  else if 7 / 10 ≤ best then .moderate
  else .weak

/-- `_claim_type_for_dimension`. -/
def claimTypeForDimension (dimension : String) : String :=
  if contains (casefold dimension) "pricing" then "pricing_fact"
  else if contains (casefold dimension) "persona" ||
      contains (casefold dimension) "user" then
    "persona_claim"
  else if slug dimension ≠ "" then slug dimension ++ "_claim"
  else "dimension_claim"

omit [PyRuntime] in
/-- `_scope_for_dimension`. -/
def scopeForDimension (dimension : String) : String :=
  let clean := if squeeze dimension = "" then "dimension" else squeeze dimension
  "current " ++ clean ++ " analysis"

omit [PyRuntime] in
/-- `_trim_text`. -/
def trimText (limit : Nat) (value : String) : String :=
  let text := squeeze value
  if text.length ≤ limit then text
  else stripRight (String.ofList (text.toList.take (limit - 1))) ++ "..."

omit [PyRuntime] in
/-- `value.replace("_", " ")`. -/
def underscoresToSpaces (value : String) : String :=
  String.ofList (value.toList.map fun char => if char = '_' then ' ' else char)

omit [PyRuntime] in
/-- `_user_research_claim_from_source`. -/
def userResearchClaimFromSource (competitor : String) (source : RawSource) :
    String :=
  let evidenceText := trimText 260
    (if source.snippet = "" then source.title else source.snippet)
  let roleText :=
    match source.metadata.get? "source_role" with
    | some (.str role) =>
        if strip role ≠ "" then strip (underscoresToSpaces role)
        else underscoresToSpaces source.sourceType
    | _ => underscoresToSpaces source.sourceType
  competitor ++ " user research signal (" ++ roleText ++ "): " ++ evidenceText

/-- `_user_research_caveats`. -/
def userResearchCaveats (source : RawSource) : List String :=
  if isSyntheticSource source then
    ["Synthetic user research; treat as directional interview/survey " ++
      "signal, not observed respondent evidence."]
  else []

/-- The front of an id, which all the cards of a bundle share. -/
def claimCardIdFront (request : CardRequest) : String :=
  "claim-" ++ slug request.competitor ++ "-" ++ slug request.dimension ++ "-"

/-- `_claim_card_id`. -/
def claimCardId (library : CardLibrary) (request : CardRequest)
    (ordinal : Nat) (claim : String) : String :=
  let basis := String.intercalate "|"
    [request.runId, request.competitor, request.dimension, toString ordinal,
      claim]
  let digest := String.ofList ((library.sha256Hex basis).toList.take 10)
  claimCardIdFront request ++ toString ordinal ++ "-" ++ digest

/-! ## The constructors of cards -/

variable (library : CardLibrary) (request : CardRequest)

/-- The card of a claim with supporting sources. -/
def supportedClaimCard (ordinal : Nat) (claim : RatedClaim)
    (sourceIds : List String) (filled : sourceIds ≠ [])
    (claimSources : List RatedSource) (dropped irrelevant : List String) :
    AnalystCard :=
  { card :=
      { id := claimCardId library request ordinal claim.raw.claim
        competitor := request.competitor
        dimension := request.dimension
        sourceIds := sourceIds
        confidence := claim.confidence
        evidenceStrength :=
          evidenceStrengthForClaim claim.confidence claimSources
        supportLevel := supportLevelForSources claimSources
        bounded := claim.bounded
        sourced := fun _ => filled
        gapUnlessSourced := fun empty => absurd empty filled
        gapInsufficient := fun gap =>
          absurd gap (supportLevelForSources_ne_gap claimSources) }
    runId := request.runId
    claimType := claimTypeForDimension request.dimension
    claim := claim.raw.claim
    scope := scopeForDimension request.dimension
    caveats :=
      if dropped ≠ [] then
        ["Some cited source IDs were unavailable or out of scope for this " ++
          "dimension."]
      else []
    applicability := request.competitor ++ " " ++ request.dimension ++
      " analysis"
    producerStage := request.producerStage
    derivedFrom := sourceIds
    metadata := .supported
      ((claimSources.map (·.raw.sourceType)).filter (· ≠ "")) dropped
      irrelevant }

/-- The card without sources that both gap cards are. -/
def insufficientCard (ordinal : Nat) (idClaim : String) : ClaimCard :=
  { id := claimCardId library request ordinal idClaim
    competitor := request.competitor
    dimension := request.dimension
    sourceIds := []
    confidence := 0
    evidenceStrength := .insufficient
    supportLevel := .gap
    bounded := ⟨le_refl 0, zero_le_one⟩
    sourced := fun sufficient => absurd rfl sufficient
    gapUnlessSourced := fun _ => rfl
    gapInsufficient := fun _ => rfl }

/-- `_unsupported_claim_gap_card`. -/
def unsupportedClaimGapCard (claim : RatedClaim)
    (missingSourceIds : List String) (ordinal : Nat) : AnalystCard :=
  { card := insufficientCard library request ordinal
      ("unsupported:" ++ claim.raw.claim)
    runId := request.runId
    claimType := "evidence_gap"
    claim := claim.raw.claim
    scope := scopeForDimension request.dimension
    caveats :=
      ["Claim cited source IDs that were missing or unavailable to the " ++
        "analyst bundle."]
    applicability := request.competitor ++ " " ++ request.dimension ++
      " analysis"
    producerStage := request.producerStage
    derivedFrom := []
    metadata := .unsupported (mergeOrderedRefs [missingSourceIds])
      (mergeOrderedRefs [missingSourceIds]) claim.confidence }

/-- `_gap_card`. -/
def gapCard (droppedClaims : List DroppedClaim) : AnalystCard :=
  { card := insufficientCard library request 1 "gap"
    runId := request.runId
    claimType := "evidence_gap"
    claim := "No supported " ++ request.dimension ++
      " claims were produced for " ++ request.competitor ++ "."
    scope := scopeForDimension request.dimension
    caveats := ["No cited claims matched the available scoped sources."]
    applicability := request.competitor ++ " " ++ request.dimension ++
      " analysis"
    producerStage := request.producerStage
    derivedFrom := []
    metadata := .noClaims droppedClaims.length
      (mergeOrderedRefs [droppedClaims.flatMap (·.sourceIds)]) }

/-- One card of `_supplemental_user_research_cards`. -/
def supplementalCard (ordinal : Nat) (source : RatedSource) : AnalystCard :=
  let claim := userResearchClaimFromSource request.competitor source.raw
  { card :=
      { id := claimCardId library request ordinal claim
        competitor := request.competitor
        dimension := request.dimension
        sourceIds := [source.raw.id]
        confidence := source.confidence
        evidenceStrength := evidenceStrengthForClaim source.confidence [source]
        supportLevel := supportLevelForSources [source]
        bounded := source.bounded
        sourced := fun _ => List.cons_ne_nil _ _
        gapUnlessSourced := fun empty => absurd empty (List.cons_ne_nil _ _)
        gapInsufficient := fun gap =>
          absurd gap (supportLevelForSources_ne_gap [source]) }
    runId := request.runId
    claimType := "user_research_signal"
    claim := claim
    scope := scopeForDimension request.dimension
    caveats := userResearchCaveats source.raw
    applicability := request.competitor ++ " " ++ request.dimension ++
      " user research"
    producerStage := request.producerStage
    derivedFrom := [source.raw.id]
    metadata := .userResearch source.raw.sourceType
      (source.raw.metadata.get? "source_role") }

/-- `_supplemental_user_research_cards`. -/
def supplementalUserResearchCards (sources : List RatedSource)
    (startingOrdinal : Nat) : List AnalystCard :=
  (sources.zipIdx startingOrdinal).map fun entry =>
    supplementalCard library request entry.2 entry.1

/-! ## The bundle -/

omit [PyRuntime] in
/-- `{source.id: source for source in sources}`. -/
def sourceById (sources : List RatedSource) : Dict String RatedSource :=
  indexBy (·.raw.id) sources

omit [PyRuntime] in
def availableSourceIds (byId : Dict String RatedSource) (claim : RatedClaim) :
    List String :=
  claim.raw.sourceIds.filter (· ∈ byId.keys)

/-- Whether an id is that of a source that is relevant to the dimension. -/
def relevantId (byId : Dict String RatedSource) (id : String) : Bool :=
  (byId.get? id).any fun source =>
    sourceRelevantToDimension library source.raw request.dimension

def dimensionIrrelevantSourceIds (byId : Dict String RatedSource)
    (claim : RatedClaim) : List String :=
  (availableSourceIds byId claim).filter fun id =>
    !relevantId library request byId id

/-- The `source_ids` of a claim. -/
def supportingSourceIds (byId : Dict String RatedSource)
    (claim : RatedClaim) : List String :=
  mergeOrderedRefs [(availableSourceIds byId claim).filter
    (· ∉ dimensionIrrelevantSourceIds library request byId claim)]

/-- The `dropped_source_ids` of a claim. -/
def droppedSourceIds (byId : Dict String RatedSource) (claim : RatedClaim) :
    List String :=
  mergeOrderedRefs
    [claim.raw.sourceIds.filter (· ∉ byId.keys) ++
      dimensionIrrelevantSourceIds library request byId claim]

/-- The card of one claim; there is none when an id that was found has no
source any more after its surrounding white space is removed. -/
def claimCard (byId : Dict String RatedSource) (ordinal : Nat)
    (claim : RatedClaim) : Option AnalystCard :=
  if filled : supportingSourceIds library request byId claim = [] then
    some (unsupportedClaimGapCard library request claim
      (droppedSourceIds library request byId claim) ordinal)
  else
    ((supportingSourceIds library request byId claim).mapM byId.get?).map
      fun claimSources =>
        supportedClaimCard library request ordinal claim
          (supportingSourceIds library request byId claim) filled claimSources
          (droppedSourceIds library request byId claim)
          (dimensionIrrelevantSourceIds library request byId claim)

/-- What the loop over the claims has gathered. -/
structure CardLoop where
  cards : List AnalystCard := []
  droppedClaims : List DroppedClaim := []
  dimensionIrrelevantSourceCount : Nat := 0

/-- One turn of the loop over the claims. -/
def CardLoop.step (byId : Dict String RatedSource) (loop : CardLoop)
    (entry : RatedClaim × Nat) : Option CardLoop :=
  (claimCard library request byId entry.2 entry.1).map fun card =>
    { cards := loop.cards ++ [card]
      droppedClaims :=
        if supportingSourceIds library request byId entry.1 = [] then
          loop.droppedClaims ++
            [{ claim := entry.1.raw.claim
               sourceIds := entry.1.raw.sourceIds
               droppedSourceIds :=
                droppedSourceIds library request byId entry.1 }]
        else loop.droppedClaims
      dimensionIrrelevantSourceCount := loop.dimensionIrrelevantSourceCount +
        (dimensionIrrelevantSourceIds library request byId entry.1).length }

/-- The sources of user research that no card of the list represents. -/
def unrepresentedResearch (cards : List AnalystCard)
    (sources : List RatedSource) : List RatedSource :=
  sources.filter fun source =>
    source.raw.id ∉ cards.flatMap (·.card.sourceIds) &&
      isUserResearchSource source.raw

/-- The cards of a bundle, after the loop over the claims. -/
def CardLoop.bundleCards (loop : CardLoop) (sources : List RatedSource) :
    List AnalystCard :=
  let cards := loop.cards ++
    supplementalUserResearchCards library request
      (unrepresentedResearch loop.cards sources) (loop.cards.length + 1)
  if cards.isEmpty then [gapCard library request loop.droppedClaims] else cards

/-- `build_claim_card_bundle`; there is no bundle when the lookup of a source
fails. -/
def buildClaimCardBundle (claims : List RatedClaim)
    (sources : List RatedSource) : Option AnalystCardBundle :=
  ((claims.zipIdx 1).foldlM
    (CardLoop.step library request (sourceById sources)) {}).map fun loop =>
    let cards := loop.bundleCards library request sources
    { request := request
      cards := cards
      sourceIds := mergeOrderedRefs [cards.flatMap (·.card.sourceIds)]
      coverage :=
        { claimCount := claims.length
          cardCount := cards.length
          droppedClaimCount := loop.droppedClaims.length
          providedSourceCount := sources.length
          dimensionIrrelevantSourceCount :=
            loop.dimensionIrrelevantSourceCount }
      gapCount := cards.countP fun card => card.card.supportLevel = .gap }

/-! ## The card of a claim -/

omit [PyRuntime] in
theorem get?_sourceById {sources : List RatedSource} {id : String}
    {source : RatedSource}
    (found : (sourceById sources).get? id = some source) :
    source ∈ sources ∧ source.raw.id = id :=
  get?_indexBy found

omit [PyRuntime] in
theorem mem_keys_sourceById {sources : List RatedSource} {id : String} :
    id ∈ (sourceById sources).keys ↔ id ∈ sources.map (·.raw.id) :=
  mem_keys_indexBy

variable {library : CardLibrary} {request : CardRequest}
variable {byId : Dict String RatedSource}

theorem relevantId_iff {id : String} :
    relevantId library request byId id ↔
      ∃ source, byId.get? id = some source ∧
        sourceRelevantToDimension library source.raw request.dimension := by
  rw [relevantId, Option.any_eq_true]

theorem mem_dimensionIrrelevantSourceIds {claim : RatedClaim} {id : String} :
    id ∈ dimensionIrrelevantSourceIds library request byId claim ↔
      (id ∈ claim.raw.sourceIds ∧ id ∈ byId.keys) ∧
        relevantId library request byId id = false := by
  rw [dimensionIrrelevantSourceIds, List.mem_filter, availableSourceIds,
    List.mem_filter, Bool.not_eq_true', decide_eq_true_eq]

/-- The ids that a claim cites and its card may keep. -/
theorem mem_relevantAvailable {claim : RatedClaim} {id : String} :
    id ∈ (availableSourceIds byId claim).filter
        (· ∉ dimensionIrrelevantSourceIds library request byId claim) ↔
      id ∈ claim.raw.sourceIds ∧ relevantId library request byId id := by
  rw [List.mem_filter, decide_eq_true_eq, mem_dimensionIrrelevantSourceIds,
    availableSourceIds, List.mem_filter, decide_eq_true_eq]
  constructor
  · rintro ⟨⟨cited, known⟩, notIrrelevant⟩
    refine ⟨cited, ?_⟩
    by_contra irrelevant
    exact notIrrelevant ⟨⟨cited, known⟩, by simpa using irrelevant⟩
  · rintro ⟨cited, relevant⟩
    obtain ⟨source, found, -⟩ := relevantId_iff.mp relevant
    refine ⟨⟨cited, Dict.mem_keys.mpr ⟨source, found⟩⟩, ?_⟩
    rintro ⟨-, irrelevant⟩
    rw [relevant] at irrelevant
    exact Bool.noConfusion irrelevant

omit [PyRuntime] in
theorem trimmedIds_mergeOrderedRefs (groups : List (List String)) :
    TrimmedIds (mergeOrderedRefs groups) := by
  intro id member
  obtain ⟨ref, -, rfl, nonempty⟩ := mem_mergeOrderedRefs.mp member
  exact ⟨strip_strip ref, nonempty⟩

/-- What a card made for a claim says. -/
structure MadeForClaim (library : CardLibrary) (request : CardRequest)
    (byId : Dict String RatedSource) (claim : RatedClaim)
    (card : AnalystCard) : Prop where
  text : card.claim = claim.raw.claim
  sourceIds : card.card.sourceIds =
    supportingSourceIds library request byId claim
  isGap : card.card.supportLevel = .gap ↔
    supportingSourceIds library request byId claim = []
  dropped : card.metadata.droppedSourceIds =
    droppedSourceIds library request byId claim
  ofUnsupported : supportingSourceIds library request byId claim = [] →
    ∃ missing confidence, card.metadata =
      .unsupported missing (droppedSourceIds library request byId claim)
        confidence
  ofSupported : supportingSourceIds library request byId claim ≠ [] →
    ∃ sourceTypes dropped, card.metadata =
      .supported sourceTypes dropped
        (dimensionIrrelevantSourceIds library request byId claim)

/-- The name of a card with a given ordinal. -/
def NamedAt (library : CardLibrary) (request : CardRequest) (ordinal : Nat)
    : Set String :=
  { id | ∃ text, id = claimCardId library request ordinal text }

theorem claimCard_made {ordinal : Nat} {claim : RatedClaim}
    {card : AnalystCard}
    (made : claimCard library request byId ordinal claim = some card) :
    MadeForClaim library request byId claim card ∧
      card.card.id ∈ NamedAt library request ordinal := by
  unfold claimCard at made
  split at made
  case isTrue empty =>
    rw [← Option.some.inj made]
    have merged : mergeOrderedRefs
          [droppedSourceIds library request byId claim] =
        droppedSourceIds library request byId claim :=
      mergeOrderedRefs_mergeOrderedRefs _
    constructor
    case left =>
      exact
        { text := rfl
          sourceIds := empty.symm
          isGap := iff_of_true rfl empty
          dropped := merged
          ofUnsupported := fun _ =>
            ⟨_, _, by rw [unsupportedClaimGapCard, merged]⟩
          ofSupported := fun filled => absurd empty filled }
    case right => exact ⟨_, rfl⟩
  case isFalse filled =>
    obtain ⟨claimSources, -, rfl⟩ := Option.map_eq_some_iff.mp made
    constructor
    case left =>
      exact
        { text := rfl
          sourceIds := rfl
          isGap := iff_of_false
            (supportLevelForSources_ne_gap claimSources) filled
          dropped := rfl
          ofUnsupported := fun empty => absurd empty filled
          ofSupported := fun _ => ⟨_, _, rfl⟩ }
    case right => exact ⟨_, rfl⟩

/-- A card is made when the ids of the claim have no white space around
them. -/
theorem claimCard_isSome (ordinal : Nat) {claim : RatedClaim}
    (trimmed : TrimmedIds claim.raw.sourceIds) :
    ∃ card, claimCard library request byId ordinal claim = some card := by
  unfold claimCard
  split
  case isTrue empty => exact ⟨_, rfl⟩
  case isFalse filled =>
    have found : ∀ id ∈ supportingSourceIds library request byId claim,
        ∃ source, byId.get? id = some source := by
      intro id member
      obtain ⟨ref, cited, same, -⟩ := mem_mergeOrderedRefs.mp member
      rw [List.flatten_singleton, mem_relevantAvailable] at cited
      rw [← same, (trimmed ref cited.1).1]
      obtain ⟨source, isSource, -⟩ := relevantId_iff.mp cited.2
      exact ⟨source, isSource⟩
    have all : ∃ claimSources,
        (supportingSourceIds library request byId claim).mapM byId.get? =
          some claimSources := by
      clear filled
      generalize supportingSourceIds library request byId claim = ids at found
      induction ids with
      | nil => exact ⟨[], rfl⟩
      | cons id ids induction =>
          obtain ⟨source, isSource⟩ := found id List.mem_cons_self
          obtain ⟨rest, areSources⟩ := induction fun other member =>
            found other (List.mem_cons_of_mem id member)
          exact ⟨source :: rest, by
            rw [List.mapM_cons, isSource, areSources]; rfl⟩
    obtain ⟨claimSources, areSources⟩ := all
    exact ⟨_, by rw [areSources, Option.map_some]⟩

/-! ## The loop -/

/-- What the loop adds to what it has gathered. -/
structure Gathers (library : CardLibrary) (request : CardRequest)
    (byId : Dict String RatedSource) (claims : List RatedClaim)
    (start : Nat) (loop final : CardLoop) (cards : List AnalystCard) :
    Prop where
  appended : final.cards = loop.cards ++ cards
  made : List.Forall₂ (MadeForClaim library request byId) claims cards
  named : ∀ place card, cards[place]? = some card →
    card.card.id ∈ NamedAt library request (start + place)
  droppedCount : final.droppedClaims.length = loop.droppedClaims.length +
    claims.countP fun claim =>
      supportingSourceIds library request byId claim = []
  irrelevantCount : final.dimensionIrrelevantSourceCount =
    loop.dimensionIrrelevantSourceCount + (claims.map fun claim =>
      (dimensionIrrelevantSourceIds library request byId claim).length).sum

theorem gathers_of_run {claims : List RatedClaim} {start : Nat}
    {loop final : CardLoop}
    (run : (claims.zipIdx start).foldlM
      (CardLoop.step library request byId) loop = some final) :
    ∃ cards, Gathers library request byId claims start loop final cards := by
  induction claims generalizing start loop with
  | nil =>
      cases Option.some.inj run
      refine ⟨[], ?_⟩
      exact
        { appended := (List.append_nil _).symm
          made := .nil
          named := fun place card found => by simp at found
          droppedCount := rfl
          irrelevantCount := rfl }
  | cons claim claims induction =>
      rw [List.zipIdx_cons, List.foldlM_cons] at run
      obtain ⟨next, stepped, later⟩ := Option.bind_eq_some_iff.mp run
      obtain ⟨card, isCard, rfl⟩ := Option.map_eq_some_iff.mp stepped
      obtain ⟨cards, gathers⟩ := induction later
      have made := claimCard_made isCard
      refine ⟨card :: cards, ?_⟩
      constructor
      case appended =>
        rw [gathers.appended, List.append_assoc, List.singleton_append]
      case made => exact .cons made.1 gathers.made
      case named =>
        intro place found isFound
        cases place with
        | zero =>
            rw [← Option.some.inj isFound]
            exact made.2
        | succ place =>
            rw [Nat.add_comm place 1, ← Nat.add_assoc]
            exact gathers.named place found isFound
      case droppedCount =>
        rw [gathers.droppedCount, List.countP_cons]
        dsimp only
        split
        case isTrue empty => simp [empty]; omega
        case isFalse filled => simp [filled]
      case irrelevantCount =>
        rw [gathers.irrelevantCount, List.map_cons, List.sum_cons]
        dsimp only
        omega

theorem run_of_trimmed {claims : List RatedClaim}
    (trimmed : ∀ claim ∈ claims, TrimmedIds claim.raw.sourceIds)
    (start : Nat) (loop : CardLoop) :
    ∃ final, (claims.zipIdx start).foldlM
      (CardLoop.step library request byId) loop = some final := by
  induction claims generalizing start loop with
  | nil => exact ⟨loop, rfl⟩
  | cons claim claims induction =>
      obtain ⟨card, made⟩ := @claimCard_isSome _ library request byId start
        claim (trimmed claim List.mem_cons_self)
      rw [List.zipIdx_cons, List.foldlM_cons, CardLoop.step, made,
        Option.map_some]
      exact induction (fun later member =>
        trimmed later (List.mem_cons_of_mem claim member)) _ _

end

end CompetiScope
