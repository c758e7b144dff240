import CompetiScope.Foundation.LastPlace
import CompetiScope.Research.Candidates

/-!
# Which candidates are captured

Candidates are dropped, deferred or preferred.  For a brief about prices a
candidate of each protected intent is promoted to the last place of the
capture window, so the window holds all of them just when one at most is
missing in front of that place.
-/

namespace CompetiScope

open Foundation

/-- The nearest double to a decimal of the source. -/
def sixTenths : Rat :=
  5404319552844595 / 9007199254740992

/-- The nearest double to a decimal of the source. -/
def fortyFiveHundredths : Rat :=
  8106479329266893 / 18014398509481984

section Selection

variable [PyRuntime] {Metadata : Type}

section Reasons

variable (library : CandidateLibrary) (candidate : SourceCandidate Metadata)

/-- `invalid_candidate_reason`. -/
def invalidCandidateReason : String :=
  let parsed := library.urlparse candidate.url
  if parsed.scheme ∉ ["http", "https"] ∨ parsed.netloc = "" then
    "invalid_url"
  else if casefold (parsed.hostname.getD "") ∈
      ["localhost", "127.0.0.1", "::1"] then
    "local_url_not_allowed"
  else ""

/-- `fallback_candidate_reason`. -/
def fallbackCandidateReason : String :=
  if candidate.origin = .homepageDerived ∧ candidate.confidence < sixTenths
  then "deferred_low_confidence_homepage_derived"
  else if candidate.origin = .communitySearch ∧
      candidate.confidence < fortyFiveHundredths then
    "deferred_low_confidence_community_search"
  else if (candidate.origin = .perplexity ∨ candidate.origin = .webSearch) ∧
      candidate.confidence < 1 / 2 then
    "deferred_low_confidence_search_result"
  else ""

end Reasons

/-- `CaptureCandidateSelection`. -/
structure CaptureCandidateSelection (Metadata : Type) where
  selected : List (SourceCandidate Metadata)
  overflowQueue : List (SourceCandidate Metadata)
  skippedReasons : Dict String String
  selectedIntents : List (CandidateIntent × List String)

/-- The candidates of the loop, and the reasons of those that are dropped. -/
structure SortedCandidates (Metadata : Type) where
  preferred : List (SourceCandidate Metadata) := []
  fallback : List (SourceCandidate Metadata × String) := []
  skipped : Dict String String := ∅

variable (library : CandidateLibrary)

/-- One turn of the loop over the candidates. -/
def sortCandidate (sorted : SortedCandidates Metadata)
    (candidate : SourceCandidate Metadata) : SortedCandidates Metadata :=
  if invalidCandidateReason library candidate ≠ "" then
    { sorted with
      skipped := sorted.skipped.set candidate.id
        (invalidCandidateReason library candidate) }
  else if fallbackCandidateReason candidate ≠ "" then
    { sorted with
      fallback := sorted.fallback ++
        [(candidate, fallbackCandidateReason candidate)] }
  else { sorted with preferred := sorted.preferred ++ [candidate] }

def sortCandidates (candidates : List (SourceCandidate Metadata)) :
    SortedCandidates Metadata :=
  candidates.foldl (sortCandidate library) {}

/-- `skipped.update({…})`. -/
def skipFallback (skips : SourceCandidate Metadata → Bool)
    (fallback : List (SourceCandidate Metadata × String))
    (skipped : Dict String String) : Dict String String :=
  (fallback.filter fun entry => skips entry.1).foldl
    (fun skipped entry => skipped.set entry.1.id entry.2) skipped

variable (brief : ResearchBrief)

/-- The intents of the window, in the order in which they are promoted. -/
def protectedIntents : List CandidateIntent :=
  [.officialPricingPage, .officialBillingOrUsageDocs, .currentPlanPriceSupport]

/-- `_intent_ordered_candidates`. -/
def intentOrderedCandidates (candidates : List (SourceCandidate Metadata)) :
    List (SourceCandidate Metadata) :=
  if ! brief.isPricing then candidates
  else
    promoteAll (candidateIntent library brief) (max 1 brief.maxFetches)
      protectedIntents candidates

/-- `_selected_intents`, with the candidates of an intent under it. -/
def selectedIntents (candidates : List (SourceCandidate Metadata)) :
    List (CandidateIntent × List String) :=
  (candidates.map (candidateIntent library brief)).dedup.map fun intent =>
    (intent,
      (candidates.filter fun candidate =>
        candidateIntent library brief candidate = intent).map (·.id))

variable [DecidableEq Metadata]

/-- `select_capture_candidates`. -/
def selectCaptureCandidates (candidates : List (SourceCandidate Metadata)) :
    CaptureCandidateSelection Metadata :=
  let sorted := sortCandidates library candidates
  let usable := sorted.preferred ++ sorted.fallback.map Prod.fst
  if ! brief.isPricing then
    let selected :=
      if brief.targetSourceCount ≤ sorted.preferred.length then
        sorted.preferred.take brief.maxFetches
      else usable.take brief.maxFetches
    { selected := selected
      overflowQueue := []
      skippedReasons := skipFallback
        (fun candidate => candidate.id ∉ selected.map (·.id))
        sorted.fallback sorted.skipped
      selectedIntents := selectedIntents library brief selected }
  else
    let ordered := intentOrderedCandidates library brief usable
    let initialLimit := min brief.maxFetches (max brief.targetSourceCount 1)
    let selected := ordered.take initialLimit
    let overflow := (ordered.take brief.maxFetches).drop initialLimit
    { selected := selected
      overflowQueue := overflow
      skippedReasons := skipFallback
        (fun candidate => candidate.id ∉ selected.map (·.id) ∧
          candidate ∉ overflow) sorted.fallback sorted.skipped
      selectedIntents := selectedIntents library brief
        (selected ++ overflow) }

end Selection

end CompetiScope
