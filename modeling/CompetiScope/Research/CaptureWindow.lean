import CompetiScope.Research.CaptureSelection

/-!
# The capture window of a pricing brief

What is selected or queued is the window of the promoted list.  It keeps an
intent of each kind just when one at most is missing in front of its last
place, and an id is queued and skipped only where candidates share it.
-/

namespace CompetiScope

open Foundation

section Window

variable [PyRuntime] {Metadata : Type} (library : CandidateLibrary)

/-- A candidate that may be captured at once. -/
def Preferred (candidate : SourceCandidate Metadata) : Prop :=
  invalidCandidateReason library candidate = "" ∧
    fallbackCandidateReason candidate = ""

/-- A candidate that is captured if there is place for it. -/
def Deferred (candidate : SourceCandidate Metadata) : Prop :=
  invalidCandidateReason library candidate = "" ∧
    fallbackCandidateReason candidate ≠ ""

instance (candidate : SourceCandidate Metadata) :
    Decidable (Preferred library candidate) :=
  inferInstanceAs (Decidable (_ ∧ _))

instance (candidate : SourceCandidate Metadata) :
    Decidable (Deferred library candidate) :=
  inferInstanceAs (Decidable (_ ∧ _))

/-- The candidates that may be captured, the deferred ones behind. -/
def usableCandidates (candidates : List (SourceCandidate Metadata)) :
    List (SourceCandidate Metadata) :=
  candidates.filter (fun candidate => Preferred library candidate) ++
    candidates.filter fun candidate => Deferred library candidate

variable (brief : ResearchBrief)

/-- The candidates of the window, read off the list as it comes. -/
def captureWindow (candidates : List (SourceCandidate Metadata)) :
    List (SourceCandidate Metadata) :=
  windowOf (candidateIntent library brief) brief.maxFetches protectedIntents
    (usableCandidates library candidates)

/-- How many candidates are captured first. -/
def initialLimit : Nat :=
  min brief.maxFetches (max brief.targetSourceCount 1)

/-- Each protected intent has a candidate in a list. -/
def ShowsIntents (candidates : List (SourceCandidate Metadata)) : Prop :=
  ∀ intent ∈ protectedIntents, ∃ candidate ∈ candidates,
    candidateIntent library brief candidate = intent

/-- The protected intents without a candidate in front of the last place. -/
def missingIntents (candidates : List (SourceCandidate Metadata)) :
    List CandidateIntent :=
  protectedIntents.filter fun intent =>
    Missing (candidateIntent library brief) brief.maxFetches
      (usableCandidates library candidates) intent

/-- No candidate of the window has the id of one that is left out. -/
structure WindowIdsApart (candidates : List (SourceCandidate Metadata)) :
    Prop where
  invalid : ∀ candidate ∈ candidates,
    invalidCandidateReason library candidate ≠ "" →
      ∀ queued ∈ captureWindow library brief candidates,
        queued.id ≠ candidate.id
  deferred : ∀ candidate ∈ candidates, Deferred library candidate →
    let window := captureWindow library brief candidates
    candidate ∉ window.drop (initialLimit brief) →
      (∀ queued ∈ window.take (initialLimit brief),
        queued.id ≠ candidate.id) →
        ∀ queued ∈ window.drop (initialLimit brief),
          queued.id ≠ candidate.id

/-- What the selection of the candidates of a pricing brief promises. -/
structure KeepsIntents [DecidableEq Metadata]
    (candidates : List (SourceCandidate Metadata)) : Prop where
  shown : ShowsIntents library brief (usableCandidates library candidates) →
    ShowsIntents library brief
      ((selectCaptureCandidates library brief candidates).selected ++
        (selectCaptureCandidates library brief candidates).overflowQueue)
  ordered : ∀ list : List (SourceCandidate Metadata),
    (intentOrderedCandidates library brief list).Perm list
  bounded :
    (selectCaptureCandidates library brief candidates).selected.length +
      (selectCaptureCandidates library brief candidates).overflowQueue.length ≤
      brief.maxFetches
  apart : ∀ candidate ∈
    (selectCaptureCandidates library brief candidates).selected ++
      (selectCaptureCandidates library brief candidates).overflowQueue,
    candidate.id ∉
      (selectCaptureCandidates library brief candidates).skippedReasons.keys

/-! ## The loop over the candidates -/

section Sorted

variable {library} {candidates : List (SourceCandidate Metadata)}

theorem sortCandidates_eq (sorted : SortedCandidates Metadata) :
    (candidates.foldl (sortCandidate library) sorted).preferred =
        sorted.preferred ++
          candidates.filter (fun candidate => Preferred library candidate) ∧
      (candidates.foldl (sortCandidate library) sorted).fallback =
        sorted.fallback ++
          (candidates.filter fun candidate =>
            Deferred library candidate).map fun candidate =>
              (candidate, fallbackCandidateReason candidate) := by
  induction candidates generalizing sorted with
  | nil => simp
  | cons candidate candidates induction =>
      rw [List.foldl_cons, (induction _).1, (induction _).2, sortCandidate]
      by_cases invalid : invalidCandidateReason library candidate = ""
      · by_cases deferred : fallbackCandidateReason candidate = ""
        · simp [Preferred, Deferred, invalid, deferred]
        · simp [Preferred, Deferred, invalid, deferred]
      · simp [Preferred, Deferred, invalid]

theorem mem_keys_skipped (sorted : SortedCandidates Metadata) (id : String) :
    id ∈ (candidates.foldl (sortCandidate library) sorted).skipped.keys ↔
      id ∈ sorted.skipped.keys ∨ ∃ candidate ∈ candidates,
        invalidCandidateReason library candidate ≠ "" ∧
          candidate.id = id := by
  induction candidates generalizing sorted with
  | nil => simp
  | cons candidate candidates induction =>
      rw [List.foldl_cons, induction, sortCandidate]
      by_cases invalid : invalidCandidateReason library candidate = ""
      · rw [if_neg (not_not.mpr invalid)]
        split
        · simp [invalid]
        · simp [invalid]
      · rw [if_pos invalid]
        have added := Dict.mem_keys_foldl_set
          (fun candidate : SourceCandidate Metadata => candidate.id)
          (fun _ candidate => invalidCandidateReason library candidate)
          [candidate] sorted.skipped id
        simp only [List.foldl_cons, List.foldl_nil, List.mem_singleton,
          exists_eq_left] at added
        dsimp only
        rw [added]
        simp [invalid, or_assoc]

theorem usableCandidates_eq :
    (sortCandidates library candidates).preferred ++
        (sortCandidates library candidates).fallback.map Prod.fst =
      usableCandidates library candidates := by
  unfold sortCandidates usableCandidates
  rw [(sortCandidates_eq {}).1, (sortCandidates_eq {}).2, List.nil_append,
    List.nil_append, List.map_map]
  exact congrArg _ (List.map_id _)

/-- The ids of the invalid candidates, and those of the deferred ones that are
skipped. -/
theorem mem_keys_skipFallback (skips : SourceCandidate Metadata → Bool)
    (id : String) :
    id ∈ (skipFallback skips (sortCandidates library candidates).fallback
        (sortCandidates library candidates).skipped).keys ↔
      (∃ candidate ∈ candidates,
        invalidCandidateReason library candidate ≠ "" ∧
          candidate.id = id) ∨
        ∃ candidate ∈ candidates, Deferred library candidate ∧
          skips candidate = true ∧ candidate.id = id := by
  have none : id ∉ ({} : SortedCandidates Metadata).skipped.keys := by
    intro member
    cases member
  have skipped := Dict.mem_keys_foldl_set
    (fun entry : SourceCandidate Metadata × String => entry.1.id)
    (fun _ entry => entry.2)
    ((sortCandidates library candidates).fallback.filter fun entry =>
      skips entry.1) (sortCandidates library candidates).skipped id
  refine skipped.trans ?_
  unfold sortCandidates
  rw [mem_keys_skipped, (sortCandidates_eq {}).2]
  simp [none, and_assoc]

end Sorted

/-! ## The window -/

variable {library brief} {candidates : List (SourceCandidate Metadata)}

theorem intentOrderedCandidates_perm
    (list : List (SourceCandidate Metadata)) :
    (intentOrderedCandidates library brief list).Perm list := by
  unfold intentOrderedCandidates
  split
  · exact List.Perm.refl _
  · exact promoteAll_perm _ _ _ _

omit [PyRuntime] in
theorem protectedIntents_nodup : protectedIntents.Nodup := by
  decide

theorem shows_captureWindow_iff
    (shown : ShowsIntents library brief
      (usableCandidates library candidates)) :
    ShowsIntents library brief (captureWindow library brief candidates) ↔
      (missingIntents library brief candidates).length ≤ 1 :=
  window_has_all_iff protectedIntents_nodup shown

section Pricing

variable (pricing : brief.isPricing = true) (filled : 0 < brief.maxFetches)

include pricing filled

theorem intentOrderedCandidates_take :
    (intentOrderedCandidates library brief
        (usableCandidates library candidates)).take brief.maxFetches =
      captureWindow library brief candidates := by
  have window : max 1 brief.maxFetches = brief.maxFetches := by
    omega
  unfold intentOrderedCandidates
  rw [pricing, window]
  exact take_promoteAll_window filled

variable [DecidableEq Metadata]

omit filled in
theorem selectCaptureCandidates_pricing :
    selectCaptureCandidates library brief candidates =
      let ordered := intentOrderedCandidates library brief
        (usableCandidates library candidates)
      let selected := ordered.take (initialLimit brief)
      let overflow := (ordered.take brief.maxFetches).drop
        (initialLimit brief)
      { selected := selected
        overflowQueue := overflow
        skippedReasons := skipFallback
          (fun candidate => candidate.id ∉ selected.map (·.id) ∧
            candidate ∉ overflow)
          (sortCandidates library candidates).fallback
          (sortCandidates library candidates).skipped
        selectedIntents := selectedIntents library brief
          (selected ++ overflow) } := by
  rw [← usableCandidates_eq]
  unfold selectCaptureCandidates
  rw [pricing]
  rfl

theorem selected_eq :
    (selectCaptureCandidates library brief candidates).selected =
      (captureWindow library brief candidates).take (initialLimit brief) := by
  have inside : min (initialLimit brief) brief.maxFetches =
      initialLimit brief := by
    unfold initialLimit
    omega
  rw [selectCaptureCandidates_pricing pricing,
    ← intentOrderedCandidates_take pricing filled, List.take_take, inside]

theorem overflowQueue_eq :
    (selectCaptureCandidates library brief candidates).overflowQueue =
      (captureWindow library brief candidates).drop (initialLimit brief) := by
  rw [selectCaptureCandidates_pricing pricing,
    ← intentOrderedCandidates_take pricing filled]

theorem queued_eq :
    (selectCaptureCandidates library brief candidates).selected ++
        (selectCaptureCandidates library brief candidates).overflowQueue =
      captureWindow library brief candidates := by
  rw [selected_eq pricing filled, overflowQueue_eq pricing filled,
    List.take_append_drop]

omit [DecidableEq Metadata] in
theorem length_captureWindow :
    (captureWindow library brief candidates).length ≤ brief.maxFetches := by
  rw [← intentOrderedCandidates_take pricing filled, List.length_take]
  exact Nat.min_le_left _ _

theorem mem_skippedReasons (id : String) :
    id ∈ (selectCaptureCandidates library brief
        candidates).skippedReasons.keys ↔
      (∃ candidate ∈ candidates,
        invalidCandidateReason library candidate ≠ "" ∧
          candidate.id = id) ∨
        ∃ candidate ∈ candidates, Deferred library candidate ∧
          ((∀ queued ∈ (captureWindow library brief candidates).take
              (initialLimit brief), queued.id ≠ candidate.id) ∧
            candidate ∉ (captureWindow library brief candidates).drop
              (initialLimit brief)) ∧
          candidate.id = id := by
  have skipped : (selectCaptureCandidates library brief
      candidates).skippedReasons =
      skipFallback (fun candidate =>
        candidate.id ∉ ((selectCaptureCandidates library brief
            candidates).selected).map (·.id) ∧
          candidate ∉ (selectCaptureCandidates library brief
            candidates).overflowQueue)
        (sortCandidates library candidates).fallback
        (sortCandidates library candidates).skipped := by
    rw [selectCaptureCandidates_pricing pricing]
  rw [skipped, mem_keys_skipFallback, selected_eq pricing filled,
    overflowQueue_eq pricing filled]
  simp only [decide_eq_true_iff, List.mem_map, not_exists, not_and]

/-- The ids of the window are not skipped unless they are shared. -/
theorem skipped_apart_iff :
    (∀ candidate ∈ captureWindow library brief candidates, candidate.id ∉
        (selectCaptureCandidates library brief
          candidates).skippedReasons.keys) ↔
      WindowIdsApart library brief candidates := by
  have parts := List.take_append_drop (initialLimit brief)
    (captureWindow library brief candidates)
  constructor
  · intro apart
    constructor
    case invalid =>
      intro candidate member invalid queued inWindow same
      apply apart queued inWindow
      rw [mem_skippedReasons pricing filled]
      exact .inl ⟨candidate, member, invalid, same.symm⟩
    case deferred =>
      intro candidate member deferred window outside unshared queued behind same
      apply apart queued (List.mem_of_mem_drop behind)
      rw [mem_skippedReasons pricing filled]
      exact .inr ⟨candidate, member, deferred, ⟨unshared, outside⟩,
        same.symm⟩
  · intro apart queued inWindow skipped
    rw [mem_skippedReasons pricing filled] at skipped
    rcases skipped with ⟨candidate, member, invalid, same⟩ |
      ⟨candidate, member, deferred, ⟨unshared, outside⟩, same⟩
    · exact apart.invalid candidate member invalid queued inWindow same.symm
    · rw [← parts] at inWindow
      rcases List.mem_append.mp inWindow with first | behind
      · exact unshared queued first same.symm
      · exact apart.deferred candidate member deferred outside unshared queued
          behind same.symm

end Pricing

/-- The selection keeps its promises just when at most one protected intent
has no candidate in front of the last place, and no id of the window is
shared with a candidate that is left out. -/
theorem selectCaptureCandidates_keepsIntents_iff [DecidableEq Metadata]
    (pricing : brief.isPricing = true) (atLeast : 3 ≤ brief.maxFetches) :
    KeepsIntents library brief candidates ↔
      (ShowsIntents library brief (usableCandidates library candidates) →
        (missingIntents library brief candidates).length ≤ 1) ∧
      WindowIdsApart library brief candidates := by
  have filled : 0 < brief.maxFetches := by
    omega
  constructor
  · intro keeps
    constructor
    · intro shown
      have inWindow := keeps.shown shown
      rw [queued_eq pricing filled] at inWindow
      exact (shows_captureWindow_iff shown).mp inWindow
    · have apart := keeps.apart
      rw [queued_eq pricing filled] at apart
      exact (skipped_apart_iff pricing filled).mp apart
  · rintro ⟨few, apart⟩
    constructor
    case shown =>
      intro shown
      rw [queued_eq pricing filled]
      exact (shows_captureWindow_iff shown).mpr (few shown)
    case ordered => exact intentOrderedCandidates_perm
    case bounded =>
      rw [← List.length_append, queued_eq pricing filled]
      exact length_captureWindow pricing filled
    case apart =>
      rw [queued_eq pricing filled]
      exact (skipped_apart_iff pricing filled).mpr apart

end Window

instance [PyRuntime] {Metadata : Type} (library : CandidateLibrary)
    (brief : ResearchBrief) (candidates : List (SourceCandidate Metadata)) :
    Decidable (ShowsIntents library brief candidates) :=
  inferInstanceAs (Decidable (∀ _ ∈ _, _))

namespace CaptureExample

attribute [local instance] asciiRuntime

/-- All pages are on one host. -/
def library : CandidateLibrary :=
  { urlparse := fun _ =>
      { scheme := "https"
        netloc := "w.example"
        hostname := some "w.example" }
    trustedDomains := fun _ => none }

def brief : ResearchBrief :=
  { competitor := "W"
    dimension := "pricing"
    homepageHint := some "https://w.example/"
    maxFetches := 3 }

def page (path title : String) : SourceCandidate Unit :=
  { id := path
    title := title
    url := "https://w.example" ++ path
    origin := .webSearch
    confidence := 1
    metadata := () }

def docs : List (SourceCandidate Unit) :=
  [page "/docs" "Docs", page "/faq" "Questions"]

def priced : List (SourceCandidate Unit) :=
  [page "/pricing" "Prices", page "/billing" "Bills", page "/offer" "20 usd"]

theorem keepsIntents_priced :
    brief.isPricing = true ∧ 3 ≤ brief.maxFetches ∧
      ShowsIntents library brief (usableCandidates library priced) ∧
      KeepsIntents library brief priced := by
  have pricing : brief.isPricing = true := by
    decide +kernel
  refine ⟨pricing, by decide, by decide +kernel,
    (selectCaptureCandidates_keepsIntents_iff pricing (by decide)).mpr
      ⟨fun _ => by decide +kernel, ?_⟩⟩
  constructor
  case invalid =>
    intro candidate member invalid
    have valid : ∀ candidate ∈ priced,
        invalidCandidateReason library candidate = "" := by
      decide +kernel
    exact absurd (valid candidate member) invalid
  case deferred =>
    intro candidate member deferred
    have none : ∀ candidate ∈ priced,
        ¬ Deferred library candidate := by
      decide +kernel
    exact absurd deferred (none candidate member)

/-- Two pages in front, and each promotion takes the place of the last. -/
theorem promotions_lose_intents :
    brief.isPricing = true ∧ 3 ≤ brief.maxFetches ∧
      ¬ KeepsIntents library brief (docs ++ priced) := by
  refine ⟨by decide +kernel, by decide, ?_⟩
  intro keeps
  have shown := keeps.shown (by decide +kernel)
  have lost : ¬ ShowsIntents library brief
      ((selectCaptureCandidates library brief
          (docs ++ priced)).selected ++
        (selectCaptureCandidates library brief
          (docs ++ priced)).overflowQueue) := by
    decide +kernel
  exact lost shown

end CaptureExample

end CompetiScope
