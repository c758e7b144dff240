import CompetiScope.Agents.ClaimCards
import CompetiScope.Foundation.Numerals

/-!
# The accounts of a bundle

The cards of a bundle are to be those of its claims, in order, and those of
the user research that these leave out, and its counters are to say what the
cards say.  This holds exactly when the claims and sources are accountable.
-/

namespace CompetiScope

open Foundation

section

variable [PyRuntime] (library : CardLibrary) (request : CardRequest)

/-! ## What a bundle accounts for -/

def AnalystCard.IsGap (card : AnalystCard) : Prop :=
  card.card.supportLevel = .gap

omit [PyRuntime] in
instance (card : AnalystCard) : Decidable card.IsGap :=
  inferInstanceAs (Decidable (card.card.supportLevel = .gap))

/-- The card is one of a claim. -/
def CardMetadata.ofClaim : CardMetadata → Bool
  | .supported .. => true
  | .unsupported .. => true
  | _ => false

/-- The card is one of a claim that was dropped. -/
def CardMetadata.ofDroppedClaim : CardMetadata → Bool
  | .unsupported .. => true
  | _ => false

/-- The ids of provided sources that a card says its claim cites in vain. -/
def CardMetadata.irrelevantSourceIds (provided : List String) :
    CardMetadata → List String
  | .supported _ _ irrelevant => irrelevant
  | .unsupported _ dropped _ => dropped.filter (· ∈ provided)
  | _ => []

/-- The id is that of a provided source relevant to the dimension. -/
def ProvidesRelevant (sources : List RatedSource) (id : String) : Prop :=
  ∃ source ∈ sources, source.raw.id = id ∧
    sourceRelevantToDimension library source.raw request.dimension = true

structure CardOfClaim (sources : List RatedSource) (claim : RatedClaim)
    (card : AnalystCard) : Prop where
  text : card.claim = claim.raw.claim
  gapCitesNone : card.IsGap → card.card.sourceIds = []
  filled : ¬ card.IsGap → card.card.sourceIds ≠ []
  distinct : card.card.sourceIds.Nodup
  supported : ∀ id ∈ card.card.sourceIds, id ∈ claim.raw.sourceIds ∧
    ProvidesRelevant library request sources id
  accounted : ∀ id ∈ claim.raw.sourceIds,
    id ∈ card.card.sourceIds ∨ id ∈ card.metadata.droppedSourceIds

structure CardOfResearch (source : RatedSource) (card : AnalystCard) :
    Prop where
  citesSource : card.card.sourceIds = [source.raw.id]
  notGap : ¬ card.IsGap
  relevant :
    sourceRelevantToDimension library source.raw request.dimension = true

/-- The cards are those of the claims in order and those of the research that
these do not represent, and the counters say what the cards say. -/
structure BundleAccounts (claims : List RatedClaim)
    (sources : List RatedSource) (bundle : AnalystCardBundle) : Prop where
  claimCards : List.Forall₂ (CardOfClaim library request sources) claims
    (bundle.cards.take claims.length)
  researchCards :
    claims ≠ [] ∨
        unrepresentedResearch (bundle.cards.take claims.length) sources ≠ [] →
      List.Forall₂ (CardOfResearch library request)
        (unrepresentedResearch (bundle.cards.take claims.length) sources)
        (bundle.cards.drop claims.length)
  gapAlone : claims = [] →
    unrepresentedResearch (bundle.cards.take claims.length) sources = [] →
      ∃ card, bundle.cards = [card] ∧ card.IsGap ∧ card.card.sourceIds = []
  distinctIds : (bundle.cards.map (·.card.id)).Nodup
  sourceIds : bundle.sourceIds =
    orderedUnique (bundle.cards.flatMap (·.card.sourceIds))
  gapCount : bundle.gapCount = bundle.cards.countP (·.IsGap)
  claimCount : bundle.coverage.claimCount =
    bundle.cards.countP (·.metadata.ofClaim)
  cardCount : bundle.coverage.cardCount = bundle.cards.length
  droppedClaimCount : bundle.coverage.droppedClaimCount =
    bundle.cards.countP (·.metadata.ofDroppedClaim)
  providedSourceCount :
    bundle.coverage.providedSourceCount = sources.length
  irrelevantSourceCount : bundle.coverage.dimensionIrrelevantSourceCount =
    (bundle.cards.map fun card =>
      (card.metadata.irrelevantSourceIds (sources.map (·.raw.id))).length).sum

/-- Unless some source supports it, the claim names no provided source
twice. -/
def DroppedOnce (sources : List RatedSource) (claim : RatedClaim) : Prop :=
  (∀ id ∈ claim.raw.sourceIds,
    relevantId library request (sourceById sources) id = false) →
  (claim.raw.sourceIds.filter (· ∈ sources.map (·.raw.id))).Nodup

/-- What the claims and sources have to meet for the bundle to account for
them: cited ids have no white space around them and are not blank; a claim
without support names no provided source twice; and a source of user research
supports a claim, or has such an id and is relevant to the dimension. -/
structure Accountable (claims : List RatedClaim)
    (sources : List RatedSource) : Prop where
  citedTrimmed : ∀ claim ∈ claims, TrimmedIds claim.raw.sourceIds
  droppedOnce : ∀ claim ∈ claims, DroppedOnce library request sources claim
  researchRelevant : ∀ source ∈ sources, isUserResearchSource source.raw →
    (∃ claim ∈ claims, source.raw.id ∈ claim.raw.sourceIds ∧
      relevantId library request (sourceById sources) source.raw.id) ∨
    (TrimmedIds [source.raw.id] ∧
      sourceRelevantToDimension library source.raw request.dimension = true)

variable {library : CardLibrary} {request : CardRequest}

/-! ## Merged ids -/

omit [PyRuntime] in
theorem mergeOrderedRefs_eq_iff {ids : List String} :
    mergeOrderedRefs [ids] = orderedUnique ids ↔ TrimmedIds ids := by
  constructor
  case mp =>
    intro same id member
    have merged : id ∈ mergeOrderedRefs [ids] := by
      rw [same]
      exact mem_orderedUnique.mpr member
    exact trimmedIds_mergeOrderedRefs [ids] id merged
  case mpr =>
    intro trimmed
    have stripped : ids.map strip = ids := by
      calc ids.map strip = ids.map id :=
            List.map_congr_left fun id member => (trimmed id member).1
        _ = ids := List.map_id ids
    have kept : ids.filter (· ≠ "") = ids :=
      List.filter_eq_self.mpr fun id member => by
        simpa using (trimmed id member).2
    rw [mergeOrderedRefs, List.flatten_singleton, stripped, kept]

omit [PyRuntime] in
theorem length_orderedUnique_eq_iff {ids : List String} :
    (orderedUnique ids).length = ids.length ↔ ids.Nodup := by
  constructor
  case mp =>
    intro same
    rw [← (orderedUnique_sublist ids).eq_of_length same]
    exact orderedUnique_nodup ids
  case mpr =>
    intro distinct
    rw [orderedUnique_eq_self distinct]

/-! ## Cards of claims -/

variable {sources : List RatedSource} {claim : RatedClaim}
variable {card : AnalystCard}

theorem providesRelevant_of_relevantId {id : String}
    (relevant : relevantId library request (sourceById sources) id) :
    ProvidesRelevant library request sources id := by
  obtain ⟨source, found, isRelevant⟩ := relevantId_iff.mp relevant
  obtain ⟨member, same⟩ := get?_sourceById found
  exact ⟨source, member, same, isRelevant⟩

theorem mem_supportingSourceIds (trimmed : TrimmedIds claim.raw.sourceIds)
    {byId : Dict String RatedSource} {id : String} :
    id ∈ supportingSourceIds library request byId claim ↔
      id ∈ claim.raw.sourceIds ∧ relevantId library request byId id := by
  rw [supportingSourceIds, mergeOrderedRefs_eq_iff.mpr, mem_orderedUnique,
    mem_relevantAvailable]
  intro id member
  exact trimmed id (mem_relevantAvailable.mp member).1

theorem mem_droppedSourceIds (trimmed : TrimmedIds claim.raw.sourceIds)
    {byId : Dict String RatedSource} {id : String} :
    id ∈ droppedSourceIds library request byId claim ↔
      id ∈ claim.raw.sourceIds ∧
        relevantId library request byId id = false := by
  have cited : ∀ id, id ∈ claim.raw.sourceIds.filter (· ∉ byId.keys) ++
        dimensionIrrelevantSourceIds library request byId claim ↔
      id ∈ claim.raw.sourceIds ∧
        relevantId library request byId id = false := by
    intro id
    rw [List.mem_append, List.mem_filter, decide_eq_true_eq,
      mem_dimensionIrrelevantSourceIds]
    constructor
    · rintro (⟨cited, unknown⟩ | ⟨⟨cited, -⟩, irrelevant⟩)
      · refine ⟨cited, ?_⟩
        rw [Bool.eq_false_iff]
        intro relevant
        obtain ⟨source, found, -⟩ := relevantId_iff.mp relevant
        exact unknown (Dict.mem_keys.mpr ⟨source, found⟩)
      · exact ⟨cited, irrelevant⟩
    · rintro ⟨cited, irrelevant⟩
      by_cases known : id ∈ byId.keys
      · exact .inr ⟨⟨cited, known⟩, irrelevant⟩
      · exact .inl ⟨cited, known⟩
  rw [droppedSourceIds, mergeOrderedRefs_eq_iff.mpr, mem_orderedUnique, cited]
  intro id member
  exact trimmed id ((cited id).mp member).1

theorem MadeForClaim.cardOfClaim
    (made : MadeForClaim library request (sourceById sources) claim card)
    (trimmed : TrimmedIds claim.raw.sourceIds) :
    CardOfClaim library request sources claim card := by
  constructor
  case text => exact made.text
  case gapCitesNone =>
    intro gap
    rw [made.sourceIds]
    exact made.isGap.mp gap
  case filled =>
    intro notGap
    rw [made.sourceIds]
    exact fun empty => notGap (made.isGap.mpr empty)
  case distinct =>
    rw [made.sourceIds]
    exact orderedUnique_nodup _
  case supported =>
    intro id member
    rw [made.sourceIds, mem_supportingSourceIds trimmed] at member
    exact ⟨member.1, providesRelevant_of_relevantId member.2⟩
  case accounted =>
    intro id cited
    rw [made.sourceIds, made.dropped, mem_supportingSourceIds trimmed,
      mem_droppedSourceIds trimmed]
    cases relevant : relevantId library request (sourceById sources) id with
    | true => exact .inl ⟨cited, rfl⟩
    | false => exact .inr ⟨cited, rfl⟩

/-- The lists of a card hold trimmed ids only. -/
theorem MadeForClaim.trimmed
    (made : MadeForClaim library request (sourceById sources) claim card)
    (accounts : CardOfClaim library request sources claim card) :
    TrimmedIds claim.raw.sourceIds := by
  intro id cited
  have listed := accounts.accounted id cited
  rw [made.sourceIds, made.dropped] at listed
  rcases listed with supported | dropped
  · exact trimmedIds_mergeOrderedRefs _ id supported
  · exact trimmedIds_mergeOrderedRefs _ id dropped

theorem MadeForClaim.ofClaim
    (made : MadeForClaim library request (sourceById sources) claim card) :
    card.metadata.ofClaim = true := by
  by_cases supported :
      supportingSourceIds library request (sourceById sources) claim = []
  · obtain ⟨missing, confidence, same⟩ := made.ofUnsupported supported
    rw [same]
    rfl
  · obtain ⟨sourceTypes, dropped, same⟩ := made.ofSupported supported
    rw [same]
    rfl

theorem MadeForClaim.ofDroppedClaim
    (made : MadeForClaim library request (sourceById sources) claim card) :
    decide (supportingSourceIds library request (sourceById sources) claim =
      []) = card.metadata.ofDroppedClaim := by
  by_cases supported :
      supportingSourceIds library request (sourceById sources) claim = []
  · obtain ⟨missing, confidence, same⟩ := made.ofUnsupported supported
    rw [same]
    exact decide_eq_true supported
  · obtain ⟨sourceTypes, dropped, same⟩ := made.ofSupported supported
    rw [same]
    exact decide_eq_false supported

/-! ## The count of irrelevant ids -/

theorem supportingSourceIds_eq_nil_iff
    (trimmed : TrimmedIds claim.raw.sourceIds)
    {byId : Dict String RatedSource} :
    supportingSourceIds library request byId claim = [] ↔
      ∀ id ∈ claim.raw.sourceIds,
        relevantId library request byId id = false := by
  rw [List.eq_nil_iff_forall_not_mem]
  simp only [mem_supportingSourceIds trimmed, not_and, Bool.not_eq_true]

/-- A claim without support drops all its provided sources. -/
theorem dimensionIrrelevantSourceIds_of_unsupported
    (irrelevant : ∀ id ∈ claim.raw.sourceIds,
      relevantId library request (sourceById sources) id = false) :
    dimensionIrrelevantSourceIds library request (sourceById sources) claim =
      claim.raw.sourceIds.filter (· ∈ sources.map (·.raw.id)) := by
  have all : dimensionIrrelevantSourceIds library request
      (sourceById sources) claim =
        availableSourceIds (sourceById sources) claim := by
    apply List.filter_eq_self.mpr
    intro id member
    rw [irrelevant id (List.mem_of_mem_filter member), Bool.not_false]
  rw [all, availableSourceIds]
  apply List.filter_congr
  intro id _
  rw [decide_eq_decide]
  exact mem_keys_sourceById

/-- The provided ones among the dropped ids are the distinct irrelevant
ones. -/
theorem length_provided_dropped (trimmed : TrimmedIds claim.raw.sourceIds)
    (irrelevant : ∀ id ∈ claim.raw.sourceIds,
      relevantId library request (sourceById sources) id = false) :
    ((droppedSourceIds library request (sourceById sources) claim).filter
      (· ∈ sources.map (·.raw.id))).length =
        (orderedUnique (dimensionIrrelevantSourceIds library request
          (sourceById sources) claim)).length := by
  have distinct : (droppedSourceIds library request (sourceById sources)
      claim).Nodup := orderedUnique_nodup _
  apply List.Perm.length_eq
  apply (List.perm_ext_iff_of_nodup (distinct.filter _)
    (orderedUnique_nodup _)).mpr
  intro id
  rw [List.mem_filter, mem_droppedSourceIds trimmed, mem_orderedUnique,
    dimensionIrrelevantSourceIds_of_unsupported irrelevant, List.mem_filter]
  constructor
  · rintro ⟨⟨cited, -⟩, provided⟩
    exact ⟨cited, provided⟩
  · rintro ⟨cited, provided⟩
    exact ⟨⟨cited, irrelevant id cited⟩, provided⟩

theorem MadeForClaim.length_irrelevant
    (made : MadeForClaim library request (sourceById sources) claim card)
    (trimmed : TrimmedIds claim.raw.sourceIds) :
    (card.metadata.irrelevantSourceIds (sources.map (·.raw.id))).length ≤
        (dimensionIrrelevantSourceIds library request (sourceById sources)
          claim).length ∧
      ((dimensionIrrelevantSourceIds library request (sourceById sources)
          claim).length =
        (card.metadata.irrelevantSourceIds
          (sources.map (·.raw.id))).length ↔
        DroppedOnce library request sources claim) := by
  by_cases supported :
      supportingSourceIds library request (sourceById sources) claim = []
  case pos =>
    obtain ⟨missing, confidence, same⟩ := made.ofUnsupported supported
    have irrelevant := (supportingSourceIds_eq_nil_iff trimmed).mp supported
    rw [same, CardMetadata.irrelevantSourceIds,
      length_provided_dropped trimmed irrelevant]
    constructor
    case left => exact (orderedUnique_sublist _).length_le
    case right =>
      rw [eq_comm, length_orderedUnique_eq_iff,
        dimensionIrrelevantSourceIds_of_unsupported irrelevant]
      exact ⟨fun distinct _ => distinct, fun once => once irrelevant⟩
  case neg =>
    obtain ⟨sourceTypes, dropped, same⟩ := made.ofSupported supported
    rw [same]
    constructor
    case left => exact Nat.le_refl _
    case right =>
      refine iff_of_true rfl fun irrelevant => absurd ?_ supported
      exact (supportingSourceIds_eq_nil_iff trimmed).mpr irrelevant

/-! ## Cards of research -/

theorem cardOfResearch_supplementalCard {source : RatedSource}
    {ordinal : Nat} :
    CardOfResearch library request source
        (supplementalCard library request ordinal source) ↔
      sourceRelevantToDimension library source.raw request.dimension =
        true := by
  constructor
  case mp =>
    intro accounts
    exact accounts.relevant
  case mpr =>
    intro relevant
    exact
      { citesSource := rfl
        notGap := supportLevelForSources_ne_gap [source]
        relevant := relevant }

theorem forall₂_supplementalUserResearchCards {research : List RatedSource}
    {start : Nat} :
    List.Forall₂ (CardOfResearch library request) research
        (supplementalUserResearchCards library request research start) ↔
      ∀ source ∈ research,
        sourceRelevantToDimension library source.raw request.dimension =
          true := by
  induction research generalizing start with
  | nil =>
      exact iff_of_true .nil fun source member => nomatch member
  | cons source research induction =>
      rw [supplementalUserResearchCards, List.zipIdx_cons, List.map_cons,
        List.forall₂_cons, cardOfResearch_supplementalCard,
        List.forall_mem_cons]
      exact and_congr_right fun _ => induction

theorem mem_supplementalUserResearchCards {research : List RatedSource}
    {start : Nat} {card : AnalystCard}
    (member : card ∈ supplementalUserResearchCards library request research
      start) :
    ∃ source ∈ research, ∃ ordinal,
      card = supplementalCard library request ordinal source := by
  obtain ⟨⟨source, ordinal⟩, isEntry, rfl⟩ := List.mem_map.mp member
  exact ⟨source, List.fst_mem_of_mem_zipIdx isEntry, ordinal, rfl⟩

theorem supplementalUserResearchCards_named {research : List RatedSource}
    {start place : Nat} {card : AnalystCard}
    (found : (supplementalUserResearchCards library request research
      start)[place]? = some card) :
    card.card.id ∈ NamedAt library request (start + place) := by
  rw [supplementalUserResearchCards, List.getElem?_map,
    List.getElem?_zipIdx] at found
  obtain ⟨entry, isEntry, rfl⟩ := Option.map_eq_some_iff.mp found
  obtain ⟨source, -, rfl⟩ := Option.map_eq_some_iff.mp isEntry
  exact ⟨_, rfl⟩

theorem flatMap_sourceIds_supplemental {research : List RatedSource}
    {start : Nat} :
    (supplementalUserResearchCards library request research start).flatMap
        (·.card.sourceIds) =
      research.map (·.raw.id) := by
  induction research generalizing start with
  | nil => rfl
  | cons source research induction =>
      rw [supplementalUserResearchCards, List.zipIdx_cons, List.map_cons,
        List.flatMap_cons, List.map_cons]
      exact congrArg _ induction

/-! ## Ids -/

theorem namedAt_disjoint {first second : Nat} {id : String}
    (named : id ∈ NamedAt library request first)
    (alsoNamed : id ∈ NamedAt library request second) : first = second := by
  obtain ⟨text, rfl⟩ := named
  obtain ⟨other, same⟩ := alsoNamed
  have characters := congrArg String.toList same
  simp only [claimCardId, String.toList_append, List.append_assoc,
    List.append_cancel_left_eq] at characters
  have isMark : ('-' : Char).isDigit = false := rfl
  exact numeral_of_marked isMark characters

/-! ## The bundle -/

variable {claims : List RatedClaim} {bundle : AnalystCardBundle}

/-- The research that supports no claim. -/
def leftOutResearch (library : CardLibrary) (request : CardRequest)
    (claims : List RatedClaim) (sources : List RatedSource) :
    List RatedSource :=
  sources.filter fun source =>
    source.raw.id ∉ claims.flatMap
        (supportingSourceIds library request (sourceById sources)) &&
      isUserResearchSource source.raw

/-- The parts of a bundle that was built. -/
structure Built (library : CardLibrary) (request : CardRequest)
    (claims : List RatedClaim) (sources : List RatedSource)
    (bundle : AnalystCardBundle) (claimCards : List AnalystCard) : Prop where
  made : List.Forall₂ (MadeForClaim library request (sourceById sources))
    claims claimCards
  named : ∀ place card, claimCards[place]? = some card →
    card.card.id ∈ NamedAt library request (1 + place)
  cards : claims ≠ [] ∨
      leftOutResearch library request claims sources ≠ [] →
    bundle.cards = claimCards ++ supplementalUserResearchCards library request
      (leftOutResearch library request claims sources) (claims.length + 1)
  gapCards : claims = [] →
    leftOutResearch library request claims sources = [] →
    bundle.cards = [gapCard library request []]
  sourceIds : bundle.sourceIds =
    mergeOrderedRefs [bundle.cards.flatMap (·.card.sourceIds)]
  gapCount : bundle.gapCount = bundle.cards.countP (·.IsGap)
  claimCount : bundle.coverage.claimCount = claims.length
  cardCount : bundle.coverage.cardCount = bundle.cards.length
  droppedClaimCount : bundle.coverage.droppedClaimCount =
    claims.countP fun claim =>
      supportingSourceIds library request (sourceById sources) claim = []
  providedSourceCount : bundle.coverage.providedSourceCount = sources.length
  irrelevantSourceCount : bundle.coverage.dimensionIrrelevantSourceCount =
    (claims.map fun claim =>
      (dimensionIrrelevantSourceIds library request (sourceById sources)
        claim).length).sum

theorem flatMap_sourceIds_of_made {cards : List AnalystCard}
    (made : List.Forall₂ (MadeForClaim library request (sourceById sources))
      claims cards) :
    cards.flatMap (·.card.sourceIds) =
      claims.flatMap
        (supportingSourceIds library request (sourceById sources)) := by
  induction made with
  | nil => rfl
  | cons isMade _ induction =>
      rw [List.flatMap_cons, List.flatMap_cons, induction, isMade.sourceIds]

theorem unrepresentedResearch_of_made {cards : List AnalystCard}
    (made : List.Forall₂ (MadeForClaim library request (sourceById sources))
      claims cards) :
    unrepresentedResearch cards sources =
      leftOutResearch library request claims sources := by
  rw [unrepresentedResearch, leftOutResearch, flatMap_sourceIds_of_made made]

theorem built_of_buildClaimCardBundle
    (returned : buildClaimCardBundle library request claims sources =
      some bundle) :
    ∃ claimCards, Built library request claims sources bundle claimCards := by
  obtain ⟨loop, run, rfl⟩ := Option.map_eq_some_iff.mp returned
  obtain ⟨claimCards, gathers⟩ := gathers_of_run run
  have appended : loop.cards = claimCards := by simpa using gathers.appended
  have dropped := gathers.droppedCount
  have counted := gathers.irrelevantCount
  simp only [List.length_nil, Nat.zero_add] at dropped counted
  have sameLength := gathers.made.length_eq
  have leftOut := unrepresentedResearch_of_made gathers.made
  refine ⟨claimCards, ?_⟩
  constructor
  case made => exact gathers.made
  case named => exact gathers.named
  case cards =>
    intro some
    have notEmpty : (claimCards ++ supplementalUserResearchCards library
        request (leftOutResearch library request claims sources)
          (claims.length + 1)).isEmpty = false := by
      rw [List.isEmpty_eq_false_iff, ← List.length_pos_iff,
        List.length_append, ← sameLength, supplementalUserResearchCards,
        List.length_map, List.length_zipIdx]
      rcases some with filled | filled
      · have := List.length_pos_iff.mpr filled
        omega
      · have := List.length_pos_iff.mpr filled
        omega
    simp only [CardLoop.bundleCards, appended, leftOut, ← sameLength, notEmpty,
      Bool.false_eq_true, if_false]
  case gapCards =>
    intro noClaims noResearch
    subst noClaims
    have noCards : claimCards = [] := List.forall₂_nil_left_iff.mp gathers.made
    have noDropped : loop.droppedClaims = [] :=
      List.length_eq_zero_iff.mp dropped
    rw [noCards] at appended leftOut
    rw [noResearch] at leftOut
    simp only [CardLoop.bundleCards, appended, leftOut, noDropped]
    rfl
  case sourceIds => rfl
  case gapCount => rfl
  case claimCount => rfl
  case cardCount => rfl
  case droppedClaimCount => exact dropped
  case providedSourceCount => rfl
  case irrelevantSourceCount => exact counted

namespace Built

variable {claimCards : List AnalystCard}

/-- The claims come first, and nothing that follows is a card of a claim. -/
theorem split (built : Built library request claims sources bundle
      claimCards) :
    ∃ others, bundle.cards = claimCards ++ others ∧
      ∀ card ∈ others,
        (∃ sourceType role, card.metadata = .userResearch sourceType role) ∨
          ∃ count dropped, card.metadata = .noClaims count dropped := by
  by_cases some : claims ≠ [] ∨
      leftOutResearch library request claims sources ≠ []
  case pos =>
    refine ⟨_, built.cards some, ?_⟩
    intro card member
    obtain ⟨source, -, ordinal, rfl⟩ :=
      mem_supplementalUserResearchCards member
    exact .inl ⟨_, _, rfl⟩
  case neg =>
    rw [not_or, not_not, not_not] at some
    have noCards : claimCards = [] := by
      rw [← List.length_eq_zero_iff, ← built.made.length_eq, some.1,
        List.length_nil]
    refine ⟨_, by rw [noCards]; exact built.gapCards some.1 some.2, ?_⟩
    intro card member
    rw [List.mem_singleton] at member
    exact .inr ⟨_, _, by rw [member]; rfl⟩

theorem take (built : Built library request claims sources bundle
      claimCards) : bundle.cards.take claims.length = claimCards := by
  obtain ⟨others, cards, -⟩ := built.split
  rw [cards, built.made.length_eq]
  exact List.take_left

theorem research (built : Built library request claims sources bundle
      claimCards) :
    unrepresentedResearch (bundle.cards.take claims.length) sources =
      leftOutResearch library request claims sources := by
  rw [built.take]
  exact unrepresentedResearch_of_made built.made

theorem drop (built : Built library request claims sources bundle claimCards)
    (some : claims ≠ [] ∨
      leftOutResearch library request claims sources ≠ []) :
    bundle.cards.drop claims.length =
      supplementalUserResearchCards library request
        (leftOutResearch library request claims sources)
        (claims.length + 1) := by
  rw [built.cards some, built.made.length_eq]
  exact List.drop_left

theorem countP_metadata {test : CardMetadata → Bool}
    (notResearch : ∀ sourceType role,
      test (.userResearch sourceType role) = false)
    (notGap : ∀ count dropped, test (.noClaims count dropped) = false)
    (built : Built library request claims sources bundle claimCards) :
    bundle.cards.countP (test ·.metadata) =
      claimCards.countP (test ·.metadata) := by
  obtain ⟨others, cards, kinds⟩ := built.split
  have none : others.countP (test ·.metadata) = 0 := by
    apply List.countP_eq_zero.mpr
    intro card member
    rcases kinds card member with ⟨sourceType, role, same⟩ |
      ⟨count, dropped, same⟩
    · rw [same, notResearch]
      exact Bool.false_ne_true
    · rw [same, notGap]
      exact Bool.false_ne_true
  rw [cards, List.countP_append, none, Nat.add_zero]

theorem sum_irrelevant (built : Built library request claims sources bundle
      claimCards) (provided : List String) :
    (bundle.cards.map fun card =>
        (card.metadata.irrelevantSourceIds provided).length).sum =
      (claimCards.map fun card =>
        (card.metadata.irrelevantSourceIds provided).length).sum := by
  obtain ⟨others, cards, kinds⟩ := built.split
  have none : (others.map fun card =>
      (card.metadata.irrelevantSourceIds provided).length).sum = 0 := by
    apply List.sum_eq_zero
    intro count member
    obtain ⟨card, isCard, rfl⟩ := List.mem_map.mp member
    rcases kinds card isCard with ⟨sourceType, role, same⟩ |
      ⟨count, dropped, same⟩
    · rw [same]
      rfl
    · rw [same]
      rfl
  rw [cards, List.map_append, List.sum_append, none, Nat.add_zero]

/-- The ids are distinct because the ordinals are. -/
theorem distinctIds (built : Built library request claims sources bundle
      claimCards) : (bundle.cards.map (·.card.id)).Nodup := by
  apply @nodup_map_of_numbered _ _ (·.card.id) (NamedAt library request)
    bundle.cards 1 (fun _ _ _ => namedAt_disjoint)
  intro place card found
  by_cases some : claims ≠ [] ∨
      leftOutResearch library request claims sources ≠ []
  case pos =>
    rw [built.cards some] at found
    by_cases early : place < claimCards.length
    case pos =>
      rw [List.getElem?_append_left early] at found
      exact built.named place card found
    case neg =>
      rw [List.getElem?_append_right (Nat.le_of_not_lt early)] at found
      have named := supplementalUserResearchCards_named found
      have sameLength := built.made.length_eq
      have ordinal : claims.length + 1 + (place - claimCards.length) =
          1 + place := by omega
      rwa [ordinal] at named
  case neg =>
    rw [not_or, not_not, not_not] at some
    rw [built.gapCards some.1 some.2] at found
    cases place with
    | zero =>
        rw [← Option.some.inj found]
        exact ⟨_, rfl⟩
    | succ place => simp at found

theorem countP_ofDroppedClaim (built : Built library request claims sources
      bundle claimCards) :
    bundle.coverage.droppedClaimCount =
      bundle.cards.countP (·.metadata.ofDroppedClaim) := by
  have counted := @countP_metadata _ _ _ _ _ _ _
    CardMetadata.ofDroppedClaim (fun _ _ => rfl) (fun _ _ => rfl) built
  rw [counted, built.droppedClaimCount]
  apply countP_eq_of_forall₂
  exact built.made.imp fun _ _ made => made.ofDroppedClaim

theorem countP_ofClaim (built : Built library request claims sources bundle
      claimCards) :
    bundle.coverage.claimCount =
      bundle.cards.countP (·.metadata.ofClaim) := by
  have counted := @countP_metadata _ _ _ _ _ _ _ CardMetadata.ofClaim
    (fun _ _ => rfl) (fun _ _ => rfl) built
  have all : claimCards.countP (·.metadata.ofClaim) = claimCards.length := by
    apply List.countP_eq_length.mpr
    intro card member
    obtain ⟨claim, -, made⟩ := exists_of_forall₂_right built.made member
    exact made.ofClaim
  rw [counted, all, built.claimCount, built.made.length_eq]

/-- The count of irrelevant ids is right when every claim drops once. -/
theorem irrelevantSourceCount_iff (built : Built library request claims
      sources bundle claimCards)
    (trimmed : ∀ claim ∈ claims, TrimmedIds claim.raw.sourceIds) :
    bundle.coverage.dimensionIrrelevantSourceCount =
        (bundle.cards.map fun card =>
          (card.metadata.irrelevantSourceIds
            (sources.map (·.raw.id))).length).sum ↔
      ∀ claim ∈ claims, DroppedOnce library request sources claim := by
  have made : List.Forall₂ (fun claim card =>
      TrimmedIds claim.raw.sourceIds ∧
        MadeForClaim library request (sourceById sources) claim card)
      claims claimCards :=
    (List.forall₂_and_left _ _).mpr ⟨trimmed, built.made⟩
  have below := made.imp fun claim card both =>
    (both.2.length_irrelevant both.1).1
  rw [built.irrelevantSourceCount, built.sum_irrelevant,
    sum_eq_iff_of_forall₂ below]
  constructor
  case mp =>
    intro equal claim member
    obtain ⟨card, -, ⟨isTrimmed, isMade⟩, same⟩ :=
      exists_of_forall₂_left (forall₂_and made equal) member
    exact (isMade.length_irrelevant isTrimmed).2.mp same
  case mpr =>
    intro once
    have both := (List.forall₂_and_left _ _).mpr ⟨once, made⟩
    exact both.imp fun claim card holds =>
      (holds.2.2.length_irrelevant holds.2.1).2.mpr holds.1

end Built

/-! ## When a bundle accounts for its claims -/

theorem accountable_of_accounts {claimCards : List AnalystCard}
    (built : Built library request claims sources bundle claimCards)
    (accounts : BundleAccounts library request claims sources bundle) :
    Accountable library request claims sources := by
  have trimmed : ∀ claim ∈ claims, TrimmedIds claim.raw.sourceIds := by
    intro claim member
    have claimAccounts := accounts.claimCards
    rw [built.take] at claimAccounts
    obtain ⟨card, -, made, cardAccounts⟩ :=
      exists_of_forall₂_left (forall₂_and built.made claimAccounts) member
    exact made.trimmed cardAccounts
  constructor
  case citedTrimmed => exact trimmed
  case droppedOnce =>
    exact (built.irrelevantSourceCount_iff trimmed).mp
      accounts.irrelevantSourceCount
  case researchRelevant =>
    intro source member isResearch
    by_cases supports : source.raw.id ∈ claims.flatMap
        (supportingSourceIds library request (sourceById sources))
    case pos =>
      obtain ⟨claim, isClaim, supported⟩ := List.mem_flatMap.mp supports
      rw [mem_supportingSourceIds (trimmed claim isClaim)] at supported
      exact .inl ⟨claim, isClaim, supported⟩
    case neg =>
      have leftOut : source ∈
          leftOutResearch library request claims sources := by
        apply List.mem_filter.mpr
        exact ⟨member, by simp [isResearch, supports]⟩
      have some : claims ≠ [] ∨
          leftOutResearch library request claims sources ≠ [] :=
        .inr (List.ne_nil_of_mem leftOut)
      have cards := accounts.researchCards
      rw [built.research, built.drop some] at cards
      have relevant := forall₂_supplementalUserResearchCards.mp (cards some)
        source leftOut
      have ids := accounts.sourceIds
      rw [built.sourceIds, mergeOrderedRefs_eq_iff, built.cards some,
        List.flatMap_append, flatMap_sourceIds_supplemental] at ids
      refine .inr ⟨?_, relevant⟩
      intro id isId
      rw [List.mem_singleton] at isId
      rw [isId]
      apply ids
      exact List.mem_append_right _ (List.mem_map_of_mem leftOut)

theorem accounts_of_accountable {claimCards : List AnalystCard}
    (built : Built library request claims sources bundle claimCards)
    (accountable : Accountable library request claims sources) :
    BundleAccounts library request claims sources bundle := by
  have leftOut : ∀ source ∈ leftOutResearch library request claims sources,
      TrimmedIds [source.raw.id] ∧
        sourceRelevantToDimension library source.raw request.dimension =
          true := by
    intro source member
    rw [leftOutResearch, List.mem_filter, Bool.and_eq_true,
      decide_eq_true_eq] at member
    obtain ⟨isSource, unsupported, isResearch⟩ := member
    rcases accountable.researchRelevant source isSource isResearch with
      ⟨claim, isClaim, cited, relevant⟩ | relevant
    · refine absurd (List.mem_flatMap.mpr ⟨claim, isClaim, ?_⟩) unsupported
      exact (mem_supportingSourceIds
        (accountable.citedTrimmed claim isClaim)).mpr ⟨cited, relevant⟩
    · exact relevant
  constructor
  case claimCards =>
    rw [built.take]
    have both :=
      (List.forall₂_and_left _ _).mpr ⟨accountable.citedTrimmed, built.made⟩
    exact both.imp fun claim card holds => holds.2.cardOfClaim holds.1
  case researchCards =>
    rw [built.research]
    intro some
    rw [built.drop some]
    exact forall₂_supplementalUserResearchCards.mpr fun source member =>
      (leftOut source member).2
  case gapAlone =>
    rw [built.research]
    intro noClaims noResearch
    exact ⟨_, built.gapCards noClaims noResearch, rfl, rfl⟩
  case distinctIds => exact built.distinctIds
  case sourceIds =>
    rw [built.sourceIds, mergeOrderedRefs_eq_iff]
    by_cases some : claims ≠ [] ∨
        leftOutResearch library request claims sources ≠ []
    case pos =>
      rw [built.cards some, List.flatMap_append,
        flatMap_sourceIds_supplemental, flatMap_sourceIds_of_made built.made]
      intro id member
      rcases List.mem_append.mp member with supported | research
      · obtain ⟨claim, -, isId⟩ := List.mem_flatMap.mp supported
        exact trimmedIds_mergeOrderedRefs _ id isId
      · obtain ⟨source, isSource, rfl⟩ := List.mem_map.mp research
        exact (leftOut source isSource).1 _ (List.mem_singleton_self _)
    case neg =>
      rw [not_or, not_not, not_not] at some
      rw [built.gapCards some.1 some.2]
      intro id member
      exact nomatch member
  case gapCount => exact built.gapCount
  case claimCount => exact built.countP_ofClaim
  case cardCount => exact built.cardCount
  case droppedClaimCount => exact built.countP_ofDroppedClaim
  case providedSourceCount => exact built.providedSourceCount
  case irrelevantSourceCount =>
    exact (built.irrelevantSourceCount_iff accountable.citedTrimmed).mpr
      accountable.droppedOnce

/-- A bundle is built and accounts for its claims and sources exactly when
these are accountable. -/
theorem claimCardBundle_accounts_iff (library : CardLibrary)
    (request : CardRequest) (claims : List RatedClaim)
    (sources : List RatedSource) :
    (∃ bundle,
      buildClaimCardBundle library request claims sources = some bundle ∧
        BundleAccounts library request claims sources bundle) ↔
      Accountable library request claims sources := by
  constructor
  case mp =>
    rintro ⟨bundle, returned, accounts⟩
    obtain ⟨claimCards, built⟩ := built_of_buildClaimCardBundle returned
    exact accountable_of_accounts built accounts
  case mpr =>
    intro accountable
    obtain ⟨loop, run⟩ := @run_of_trimmed _ library request
      (sourceById sources) claims accountable.citedTrimmed 1 {}
    have returned : ∃ bundle,
        buildClaimCardBundle library request claims sources = some bundle :=
      ⟨_, by rw [buildClaimCardBundle, run, Option.map_some]⟩
    obtain ⟨bundle, isBundle⟩ := returned
    obtain ⟨claimCards, built⟩ := built_of_buildClaimCardBundle isBundle
    exact ⟨bundle, isBundle, accounts_of_accountable built accountable⟩

end

namespace ClaimCardExample

/-- Exact on the ASCII texts of the example. -/
@[reducible] def cardRuntime : PyRuntime := asciiRuntime

attribute [local instance] cardRuntime

def library : CardLibrary :=
  { sha256Hex := fun text => text
    isPrintable := fun _ => true }

def request : CardRequest :=
  { runId := "run-1"
    competitor := "Cursor"
    dimension := "pricing"
    producerStage := "analyst:pricing:Cursor" }

/-- A survey about users that says nothing about prices. -/
def survey : RatedSource :=
  { raw :=
      { id := "raw-source-survey"
        competitor := "Cursor"
        dimension := "persona"
        sourceType := "survey_simulated"
        title := "Cursor persona survey synthesis"
        snippet := "Survey research identifies adoption blockers." }
    confidence := 3 / 4
    bounded := by decide +kernel }

/-- The bundle about prices cites the survey, which is not relevant to it. -/
theorem survey_cited_as_pricing :
    (∃ bundle,
      buildClaimCardBundle library request [] [survey] = some bundle ∧
        bundle.cards.map (·.card.sourceIds) = [["raw-source-survey"]] ∧
        bundle.gapCount = 0) ∧
      ¬ ∃ bundle,
        buildClaimCardBundle library request [] [survey] = some bundle ∧
          BundleAccounts library request [] [survey] bundle := by
  have research : unrepresentedResearch [] [survey] = [survey] := by
    have isResearch : isUserResearchSource survey.raw = true := by
      decide +kernel
    simp [unrepresentedResearch, isResearch]
  constructor
  case left =>
    refine ⟨_, rfl, ?_, ?_⟩
    · decide +kernel
    · decide +kernel
  case right =>
    rintro ⟨bundle, -, accounts⟩
    have cards := accounts.researchCards
    rw [List.length_nil, List.take_zero, research] at cards
    obtain ⟨card, others, surveyCard, -, -⟩ := List.forall₂_cons_left_iff.mp
      (cards (.inr (List.cons_ne_nil _ _)))
    have relevant := surveyCard.relevant
    revert relevant
    decide +kernel

end ClaimCardExample

end CompetiScope
