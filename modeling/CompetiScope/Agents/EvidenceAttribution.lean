import CompetiScope.Agents.MatrixCells

/-!
# Attribution of collected sources

The branch of a competitor labels what it collects with the name of the
competitor.  The join turns labels into lists of covered competitors by
comparing texts, so a source counts for its competitor alone exactly when no
other name of the plan occurs in the label.
-/

namespace CompetiScope

open Foundation

/-! ## The join -/

section

variable [PyRuntime]

/-- The text by which a name is compared. -/
def nameKey (name : String) : List Char :=
  casefoldChars (stripChars name.toList)

/-- `_normalize_covered_competitors`. -/
def normalizeCoveredCompetitors (plan : AnalysisPlan)
    (sourceCompetitor : String) : List String :=
  if competitorLabelMeansAll (nameKey sourceCompetitor) then plan.competitors
  else
    let matched := plan.competitors.filter
      (competitorLabelMatches sourceCompetitor)
    if matched ≠ [] then matched
    else if strip sourceCompetitor ≠ "" then [strip sourceCompetitor]
    else []

/-- `source.covered_competitors or self._normalize_covered_competitors(..)`. -/
def coveredOf (plan : AnalysisPlan) (source : RawSource) : List String :=
  if source.coveredCompetitors ≠ [] then source.coveredCompetitors
  else normalizeCoveredCompetitors plan source.competitor

/-- The source with its covered competitors written down. -/
def normalizedCopy (plan : AnalysisPlan) (source : RawSource) : RawSource :=
  { source with coveredCompetitors := coveredOf plan source }

/-- The key by which `_normalize_collected_sources` drops repeated sources. -/
def collectedKey (plan : AnalysisPlan) (source : RawSource) : List String :=
  [source.dimension, source.url.getD "", source.contentHash,
    casefold (strip source.title),
    String.intercalate "|" (coveredOf plan source)]

omit [PyRuntime] in
/-- Not one of the dimensions that are joined. -/
def outOfScope (dimensions : List String) (source : RawSource) : Bool :=
  dimensions ≠ [] && source.dimension ∉ dimensions

/-- The loop of `_normalize_collected_sources`. -/
def normalizeCollectedFrom (plan : AnalysisPlan) (dimensions : List String)
    (seen : List (List String)) : List RawSource → List RawSource
  | [] => []
  | source :: sources =>
      if outOfScope dimensions source then
        source :: normalizeCollectedFrom plan dimensions seen sources
      else if collectedKey plan source ∈ seen then
        normalizeCollectedFrom plan dimensions seen sources
      else
        normalizedCopy plan source ::
          normalizeCollectedFrom plan dimensions
            (collectedKey plan source :: seen) sources

/-- `_normalize_collected_sources`. -/
def normalizeCollectedSources (detail : RunDetail)
    (dimensions : List String) : List RawSource :=
  normalizeCollectedFrom detail.plan dimensions [] detail.rawSources

/-- The run after the join has normalised its sources. -/
def joined (detail : RunDetail) (dimensions : List String) : RunDetail :=
  { detail with
    rawSources := normalizeCollectedSources detail dimensions }

/-! ## Who collected what -/

/-- A branch, or the search over all competitors. -/
inductive Collector where
  | branch (competitor : String)
  | crossCompetitor
  deriving DecidableEq

/-- A source with the one who collected it. -/
structure CollectedSource where
  source : RawSource
  collector : Collector

/-- What the collectors write: a branch the name of its competitor, which a
join may have normalised before, and the cross search a list of competitors. -/
def CollectedSource.WellFormed (plan : AnalysisPlan)
    (item : CollectedSource) : Prop :=
  match item.collector with
  | .branch competitor =>
      competitor ∈ plan.competitors ∧
        item.source.competitor = competitor ∧
        (item.source.coveredCompetitors = [] ∨
          item.source.coveredCompetitors =
            normalizeCoveredCompetitors plan competitor)
  | .crossCompetitor => item.source.coveredCompetitors ≠ []

/-- A source as the join leaves it. -/
def afterJoin (plan : AnalysisPlan) (dimensions : List String)
    (source : RawSource) : RawSource :=
  if outOfScope dimensions source then source else normalizedCopy plan source

/-- The source was collected for the competitor, or by the cross search with
the competitor in its list. -/
def CollectedFor (plan : AnalysisPlan) (dimensions : List String)
    (collected : List CollectedSource) (competitor : String)
    (source : RawSource) : Prop :=
  ∃ item ∈ collected, source = afterJoin plan dimensions item.source ∧
    (item.collector = .branch competitor ∨
      item.collector = .crossCompetitor ∧
        competitor ∈ item.source.coveredCompetitors)

/-- A source of a branch counts for its competitor alone, and what the slice,
the coverage and the cell of a competitor are built from was collected for
it. -/
structure Attributed (detail : RunDetail) (dimensions : List String)
    (collected : List CollectedSource) : Prop where
  exactly : ∀ item ∈ collected, ∀ collector,
    item.collector = .branch collector →
    ∀ competitor ∈ detail.plan.competitors,
      (sourceMatchesCompetitor
          (afterJoin detail.plan dimensions item.source) competitor = true ↔
        competitor = collector)
  slices : ∀ competitor ∈ detail.plan.competitors, ∀ dimension,
    ∀ source ∈ sourcesForCompetitorDimension (joined detail dimensions)
      competitor dimension,
    CollectedFor detail.plan dimensions collected competitor source
  cells : ∀ competitor ∈ detail.plan.competitors, ∀ dimension,
    ∀ id ∈ (matrixCellOf (joined detail dimensions) dimension
      competitor).sourceIds,
    ∃ source, source.id = id ∧
      CollectedFor detail.plan dimensions collected competitor source

/-- The label of one competitor does not speak of another: it does not mean
all competitors, and the other name is no part of it. -/
def SpeaksOnlyOf (label other : String) : Prop :=
  competitorLabelMeansAll (nameKey label) = false ∧
    ¬ nameKey other <:+: nameKey label

/-! ## Matching is containment -/

omit [PyRuntime] in
theorem stripChars_isInfix (text : List Char) : stripChars text <:+: text := by
  have front : stripChars text <+: stripLeft text := by
    rw [← List.reverse_suffix, stripChars, List.reverse_reverse]
    exact List.dropWhile_suffix isSpace
  have back : stripLeft text <:+ text := List.dropWhile_suffix isSpace
  exact front.isInfix.trans back.isInfix

theorem casefoldChars_isInfix {part text : List Char}
    (isInfix : part <:+: text) : casefoldChars part <:+: casefoldChars text :=
  by
  obtain ⟨front, back, rfl⟩ := isInfix
  exact ⟨casefoldChars front, casefoldChars back, by simp [casefoldChars]⟩

omit [PyRuntime] in
/-- The parts of a label are pieces of it. -/
theorem isInfix_of_mem_splitLabelFrom {skip : Nat}
    {current text part : List Char}
    (fresh : skip = 0 ∨ current = [])
    (member : part ∈ splitLabelFrom skip current text) :
    part <:+: current.reverse ++ text := by
  induction text generalizing skip current with
  | nil =>
      rw [splitLabelFrom, List.mem_singleton] at member
      rw [member, List.append_nil]
  | cons char text induction =>
      have later : ∀ {piece : List Char}, piece <:+: text →
          piece <:+: current.reverse ++ char :: text := by
        intro piece inRest
        exact inRest.trans ⟨current.reverse ++ [char], [], by simp⟩
      cases skip with
      | succ skip =>
          rw [splitLabelFrom] at member
          have empty : current = [] := fresh.resolve_left (Nat.succ_ne_zero _)
          subst empty
          exact later (induction (.inr rfl) member)
      | zero =>
          rw [splitLabelFrom] at member
          split at member
          case h_1 length found =>
            rcases List.mem_cons.mp member with rfl | inRest
            · exact (List.prefix_append _ _).isInfix
            · exact later (induction (.inr rfl) inRest)
          case h_2 =>
            have shifted := induction (.inl rfl) member
            rwa [List.reverse_cons, List.append_assoc] at shifted

theorem isInfix_of_mem_labelParts {label part : List Char}
    (member : part ∈ labelParts label) : part <:+: casefoldChars label := by
  obtain ⟨stripped, isStripped, rfl⟩ := List.mem_map.mp member
  obtain ⟨piece, isPiece, rfl⟩ :=
    List.mem_map.mp (List.mem_of_mem_filter isStripped)
  have inLabel := isInfix_of_mem_splitLabelFrom (.inl rfl) isPiece
  exact casefoldChars_isInfix ((stripChars_isInfix piece).trans inLabel)

/-- A label matches a name when it means all competitors or the name occurs
in it; equal names and separated parts are cases of this. -/
theorem competitorLabelMatches_iff {label name : String} :
    competitorLabelMatches label name = true ↔
      competitorLabelMeansAll (nameKey label) = true ∨
        nameKey name <:+: nameKey label := by
  have unfolded : competitorLabelMatches label name = true ↔
      ((nameKey label = nameKey name ∨
          competitorLabelMeansAll (nameKey label) = true) ∨
        nameKey name ∈ labelParts (stripChars label.toList)) ∨
        hasInfix (nameKey name) (nameKey label) = true := by
    rw [competitorLabelMatches, Bool.or_eq_true, Bool.or_eq_true,
      Bool.or_eq_true, decide_eq_true_eq, decide_eq_true_eq]
    rfl
  rw [unfolded, hasInfix_iff]
  constructor
  · rintro (((same | meansAll) | part) | contained)
    · exact .inr (same ▸ List.infix_refl _)
    · exact .inl meansAll
    · exact .inr (isInfix_of_mem_labelParts part)
    · exact .inr contained
  · rintro (meansAll | contained)
    · exact .inl (.inl (.inr meansAll))
    · exact .inr contained

theorem speaksOnlyOf_iff {label other : String} :
    SpeaksOnlyOf label other ↔ competitorLabelMatches label other = false := by
  rw [← Bool.not_eq_true, competitorLabelMatches_iff, not_or,
    Bool.not_eq_true, SpeaksOnlyOf]

theorem competitorLabelMatches_self (label : String) :
    competitorLabelMatches label label = true :=
  competitorLabelMatches_iff.mpr (.inr (List.infix_refl _))

/-! ## What a normalised source counts for -/

variable {plan : AnalysisPlan} {dimensions : List String}

/-- A name of the plan is normalised to the names it matches. -/
theorem normalizeCoveredCompetitors_of_planned {competitor : String}
    (planned : competitor ∈ plan.competitors) :
    normalizeCoveredCompetitors plan competitor =
      plan.competitors.filter (competitorLabelMatches competitor) := by
  unfold normalizeCoveredCompetitors
  split
  case isTrue meansAll =>
    symm
    apply List.filter_eq_self.mpr
    intro other _
    exact competitorLabelMatches_iff.mpr (.inl meansAll)
  case isFalse =>
    have matched : competitor ∈
        plan.competitors.filter (competitorLabelMatches competitor) :=
      List.mem_filter.mpr ⟨planned, competitorLabelMatches_self competitor⟩
    dsimp only
    rw [if_pos (List.ne_nil_of_mem matched)]

theorem sourceMatchesCompetitor_listed {source : RawSource}
    (listed : source.coveredCompetitors ≠ []) (competitor : String) :
    sourceMatchesCompetitor source competitor = true ↔
      competitor ∈ source.coveredCompetitors := by
  rw [sourceMatchesCompetitor, if_pos listed, decide_eq_true_eq]

/-- A source of a branch counts for the names its label matches. -/
theorem sourceMatchesCompetitor_branch {item : CollectedSource}
    {collector competitor : String}
    (wellFormed : item.WellFormed plan)
    (byBranch : item.collector = .branch collector)
    (planned : competitor ∈ plan.competitors) :
    sourceMatchesCompetitor (afterJoin plan dimensions item.source)
        competitor = true ↔
      competitorLabelMatches collector competitor = true := by
  rw [CollectedSource.WellFormed, byBranch] at wellFormed
  obtain ⟨inPlan, isLabel, covered⟩ := wellFormed
  have matched := normalizeCoveredCompetitors_of_planned inPlan
  have listed : collector ∈
      plan.competitors.filter (competitorLabelMatches collector) :=
    List.mem_filter.mpr ⟨inPlan, competitorLabelMatches_self collector⟩
  have filled := List.ne_nil_of_mem listed
  have ofList : ∀ source : RawSource, source.coveredCompetitors =
        plan.competitors.filter (competitorLabelMatches collector) →
      (sourceMatchesCompetitor source competitor = true ↔
        competitorLabelMatches collector competitor = true) := by
    intro source same
    rw [sourceMatchesCompetitor_listed (same ▸ filled), same, List.mem_filter]
    exact and_iff_right planned
  unfold afterJoin
  split
  case isTrue =>
    rcases covered with empty | normalised
    · rw [sourceMatchesCompetitor, if_neg (not_not.mpr empty), isLabel]
    · exact ofList _ (normalised.trans matched)
  case isFalse =>
    apply ofList
    change coveredOf plan item.source = _
    unfold coveredOf
    split
    case isTrue given =>
      rw [covered.resolve_left given, matched]
    case isFalse =>
      rw [isLabel, matched]

/-- A source of the cross search counts for the names in its list. -/
theorem sourceMatchesCompetitor_cross {item : CollectedSource}
    {competitor : String} (wellFormed : item.WellFormed plan)
    (byCross : item.collector = .crossCompetitor) :
    sourceMatchesCompetitor (afterJoin plan dimensions item.source)
        competitor = true ↔
      competitor ∈ item.source.coveredCompetitors := by
  rw [CollectedSource.WellFormed, byCross] at wellFormed
  have kept : (afterJoin plan dimensions item.source).coveredCompetitors =
      item.source.coveredCompetitors := by
    unfold afterJoin
    split
    · rfl
    · exact if_pos wellFormed
  rw [sourceMatchesCompetitor_listed (kept ▸ wellFormed), kept]

/-- A kept source is one of those collected; a joined one has a key that was
not seen before. -/
theorem mem_normalizeCollectedFrom {seen : List (List String)}
    {sources : List RawSource} {source : RawSource}
    (member : source ∈ normalizeCollectedFrom plan dimensions seen sources) :
    ∃ original ∈ sources, source = afterJoin plan dimensions original ∧
      (outOfScope dimensions original = false →
        collectedKey plan original ∉ seen) := by
  induction sources generalizing seen with
  | nil => cases member
  | cons head sources induction =>
      have later : ∀ {more : List (List String)}, seen ⊆ more →
          source ∈ normalizeCollectedFrom plan dimensions more sources →
          ∃ original ∈ head :: sources,
            source = afterJoin plan dimensions original ∧
              (outOfScope dimensions original = false →
                collectedKey plan original ∉ seen) := by
        intro more grown inRest
        obtain ⟨original, isOriginal, same, unseen⟩ := induction inRest
        exact ⟨original, List.mem_cons_of_mem head isOriginal, same,
          fun inScope known => unseen inScope (grown known)⟩
      rw [normalizeCollectedFrom] at member
      split at member
      case isTrue outside =>
        rcases List.mem_cons.mp member with same | inRest
        · refine ⟨head, List.mem_cons_self, ?_, ?_⟩
          · rw [same, afterJoin, if_pos outside]
          · intro inScope
            rw [inScope] at outside
            cases outside
        · exact later (List.Subset.refl _) inRest
      case isFalse inside =>
        split at member
        case isTrue => exact later (List.Subset.refl _) member
        case isFalse unseen =>
          rcases List.mem_cons.mp member with same | inRest
          · refine ⟨head, List.mem_cons_self, ?_, fun _ => unseen⟩
            rw [same, afterJoin, if_neg inside]
          · exact later (List.subset_cons_self _ _) inRest

/-! ## When sources are attributed -/

variable {detail : RunDetail} {collected : List CollectedSource}

theorem attributed_of_speaksOnlyOf
    (isDetail : detail.rawSources = collected.map (·.source))
    (wellFormed : ∀ item ∈ collected, item.WellFormed detail.plan)
    (separate : ∀ item ∈ collected, ∀ collector,
      item.collector = .branch collector →
      ∀ other ∈ detail.plan.competitors, other ≠ collector →
        SpeaksOnlyOf collector other) :
    Attributed detail dimensions collected := by
  have exactly : ∀ item ∈ collected, ∀ collector,
      item.collector = .branch collector →
      ∀ competitor ∈ detail.plan.competitors,
        (sourceMatchesCompetitor
            (afterJoin detail.plan dimensions item.source) competitor = true ↔
          competitor = collector) := by
    intro item member collector byBranch competitor planned
    rw [sourceMatchesCompetitor_branch (wellFormed item member) byBranch
      planned]
    constructor
    · intro matched
      by_contra other
      have apart := speaksOnlyOf_iff.mp
        (separate item member collector byBranch competitor planned other)
      rw [apart] at matched
      exact Bool.noConfusion matched
    · rintro rfl
      exact competitorLabelMatches_self competitor
  have slices : ∀ competitor ∈ detail.plan.competitors, ∀ dimension,
      ∀ source ∈ sourcesForCompetitorDimension (joined detail dimensions)
        competitor dimension,
      CollectedFor detail.plan dimensions collected competitor source := by
    intro competitor planned dimension source member
    rw [sourcesForCompetitorDimension, List.mem_filter,
      Bool.and_eq_true] at member
    obtain ⟨isSource, -, matched⟩ := member
    obtain ⟨original, isOriginal, rfl, -⟩ :=
      mem_normalizeCollectedFrom isSource
    rw [isDetail] at isOriginal
    obtain ⟨item, isItem, rfl⟩ := List.mem_map.mp isOriginal
    refine ⟨item, isItem, rfl, ?_⟩
    cases byWhom : item.collector with
    | branch collector =>
        have same := (exactly item isItem collector byWhom competitor
          planned).mp matched
        exact .inl (by rw [same])
    | crossCompetitor =>
        exact .inr ⟨rfl, (sourceMatchesCompetitor_cross
          (wellFormed item isItem) byWhom).mp matched⟩
  constructor
  case exactly => exact exactly
  case slices => exact slices
  case cells =>
    intro competitor planned dimension id member
    obtain ⟨source, isSource, sameId⟩ := List.mem_map.mp member
    exact ⟨source, sameId,
      slices competitor planned dimension source isSource⟩

/-- The sources of a run are attributed exactly when the label of each branch
that collected one speaks of no other competitor of the plan. -/
theorem attributed_iff (detail : RunDetail) (dimensions : List String)
    (collected : List CollectedSource)
    (isDetail : detail.rawSources = collected.map (·.source))
    (wellFormed : ∀ item ∈ collected, item.WellFormed detail.plan) :
    Attributed detail dimensions collected ↔
      ∀ item ∈ collected, ∀ collector, item.collector = .branch collector →
        ∀ other ∈ detail.plan.competitors, other ≠ collector →
          SpeaksOnlyOf collector other := by
  constructor
  case mp =>
    intro attributed item member collector byBranch other planned different
    rw [speaksOnlyOf_iff, Bool.eq_false_iff]
    intro matched
    exact different
      ((attributed.exactly item member collector byBranch other planned).mp
        ((sourceMatchesCompetitor_branch (wellFormed item member) byBranch
          planned).mpr matched))
  case mpr => exact attributed_of_speaksOnlyOf isDetail wellFormed

end

namespace AttributionExample

/-- Exact on the ASCII names of the examples. -/
@[reducible] def attributionRuntime : PyRuntime := asciiRuntime

attribute [local instance] attributionRuntime

/-- A price page that the branch of a competitor has collected. -/
def pricePage (competitor : String) : RawSource :=
  { id := "raw-source-1"
    competitor := competitor
    dimension := "pricing"
    title := "Prices" }

def collectedBy (competitor : String) : List CollectedSource :=
  [{ source := pricePage competitor
     collector := .branch competitor }]

def runOf (competitors : List String) (competitor : String) : RunDetail :=
  { id := "run-1"
    plan :=
      { competitors := competitors
        dimensions := ["pricing"] }
    rawSources := [pricePage competitor] }

/-- Names that do not contain one another keep their sources apart. -/
theorem attributed_acme :
    Attributed (runOf ["Acme", "Bolt"] "Acme") ["pricing"]
      (collectedBy "Acme") := by
  have collected : ∀ item ∈ collectedBy "Acme",
      item.WellFormed (runOf ["Acme", "Bolt"] "Acme").plan := by
    intro item member
    cases List.mem_singleton.mp member
    exact ⟨List.mem_cons_self, rfl, .inl rfl⟩
  apply (attributed_iff (runOf ["Acme", "Bolt"] "Acme") ["pricing"]
    (collectedBy "Acme") rfl collected).mpr
  intro item member collector byBranch other planned different
  cases List.mem_singleton.mp member
  cases byBranch
  rcases List.mem_pair.mp planned with rfl | rfl
  · exact absurd rfl different
  · exact speaksOnlyOf_iff.mpr (by decide +kernel)

/-- A page of one product counts for the other whose name it contains. -/
theorem claudeCode_counts_for_claude :
    ¬ Attributed (runOf ["Claude", "Claude Code"] "Claude Code") ["pricing"]
      (collectedBy "Claude Code") := by
  intro attributed
  have counts : sourceMatchesCompetitor
      (afterJoin (runOf ["Claude", "Claude Code"] "Claude Code").plan
        ["pricing"] (pricePage "Claude Code")) "Claude" = true := by
    decide +kernel
  have same := (attributed.exactly _ List.mem_cons_self "Claude Code" rfl
    "Claude" List.mem_cons_self).mp counts
  exact absurd same (by decide)

end AttributionExample

end CompetiScope
