import CompetiScope.Agents.PhaseQa
import CompetiScope.Identity.SourceTokens
import CompetiScope.Orchestrator.RedoSelection

/-!
# Preparing a redo

`_prepare_redo_scope_inputs` empties what the redo will produce again and
returns the dimensions and target competitors handed to the graph.
-/

namespace CompetiScope

open Foundation

section

variable [PyRuntime]

/-- `_remove_sources_for_collector_redo` selects a source of the dimension
that covers a scoped competitor; no scope selects the whole dimension. -/
def collectorRedoSelects (dimension : String) (inScope : List String)
    (source : RawSource) : Bool :=
  source.dimension = dimension &&
    (inScope = [] ||
      inScope.any fun competitor => sourceMatchesCompetitor source competitor)

/-- Selected sources go away unless the report still cites them. -/
def collectorRedoRemoves (dimension : String) (inScope preserved : List String)
    (source : RawSource) : Bool :=
  collectorRedoSelects dimension inScope source && source.id ∉ preserved

def markPreserved (dimension : String) (inScope : List String)
    (source : RawSource) : RawSource :=
  { source with
    metadata :=
      ((source.metadata.set "redo_preserved_for_existing_citation"
          (.bool true)).set "redo_preserved_dimension" (.str dimension)).set
        "redo_preserved_competitors" (.strings inScope) }

/-- `_remove_sources_for_collector_redo`: the sources kept, in order. -/
def retainedSources (dimension : String) (inScope preserved : List String)
    (sources : List RawSource) : List RawSource :=
  (sources.filter fun source =>
    !collectorRedoRemoves dimension inScope preserved source).map fun source =>
      if collectorRedoSelects dimension inScope source then
        markPreserved dimension inScope source
      else source

def removedSourceIds (dimension : String) (inScope preserved : List String)
    (sources : List RawSource) : List String :=
  (sources.filter (collectorRedoRemoves dimension inScope preserved)).map (·.id)

def removeSourcesForCollectorRedo (detail : RunDetail) (dimension : String)
    (inScope preserved : List String) : RunDetail × List String :=
  ({ detail with
      rawSources :=
        retainedSources dimension inScope preserved detail.rawSources },
    removedSourceIds dimension inScope preserved detail.rawSources)

/-- What `_competitors_with_removed_source_dependency` searches. -/
def serializedOutputs (detail : RunDetail) (competitor dimension : String) :
    String :=
  let slice :=
    match detail.competitorKbs.get? competitor with
    | none => []
    | some kb => kb.slices.getD dimension []
  Json.dumps
    (.obj [("kb_slice", .strings slice),
      ("knowledge",
        match detail.competitorKnowledge.get? competitor with
        | none => .obj []
        | some knowledge => knowledge.toJson)])

/-- The outputs of a competitor mention one of the removed source ids. -/
def dependsOnRemovedSource (detail : RunDetail) (dimension : String)
    (removed : List String) (competitor : String) : Bool :=
  removed.any (contains (serializedOutputs detail competitor dimension))

/-- `_competitors_with_removed_source_dependency`. -/
def competitorsWithRemovedSourceDependency (detail : RunDetail)
    (dimension : String) (removed : List String) : List String :=
  if removed = [] then []
  else
    detail.plan.competitors.filter
      (dependsOnRemovedSource detail dimension removed)

/-- The dimension of an analyst or collector redo. -/
def redoDimension (detail : RunDetail) (scope : RedoScope) : Option String :=
  (truthy scope.targetSubagent).or detail.plan.dimensions.head?

/-- `scope.target_competitors or [scope.target_competitor]`. -/
def scopedCompetitors (scope : RedoScope) : List String :=
  if scope.targetCompetitors ≠ [] then scope.targetCompetitors
  else (truthy scope.targetCompetitor).toList

/-- The outputs cleared for a collector redo of some competitors. -/
def clearForCollectorRedo (detail : RunDetail) (dimension : String)
    (inScope : List String) : RunDetail :=
  let removal := removeSourcesForCollectorRedo detail dimension inScope
    (reportCitedRawSourceIds detail.reportMd)
  let dependent := competitorsWithRemovedSourceDependency removal.1 dimension
    removal.2
  (mergeOrderedRefs [inScope ++ dependent]).foldl
    (fun detail competitor =>
      clearCompetitorDimensionOutput detail competitor dimension)
    removal.1

def clearForWholeCollectorRedo (detail : RunDetail) (dimension : String) :
    RunDetail :=
  clearDimensionOutputs
    (removeSourcesForCollectorRedo detail dimension []
      (reportCitedRawSourceIds detail.reportMd)).1 dimension

def clearForFullRedo (detail : RunDetail) : RunDetail :=
  { detail with
    rawSources := []
    competitorKbs := ∅
    competitorKnowledge := ∅
    comparisonMatrix := none
    reflections := []
    qaFindings := []
    reportMd := "" }

def dropComparison (detail : RunDetail) : RunDetail :=
  { detail with
    comparisonMatrix := none
    reflections := [] }

omit [PyRuntime] in
private theorem dropComparison_sameSettings
    {before detail : RunDetail} (same : before.SameSettings detail) :
    before.SameSettings (dropComparison detail) :=
  ⟨same.plan, same.maxIterations, same.revisions, same.hitlEnabled⟩

inductive RedoError where
  /-- "Cannot redo analyst/collector scope without a target dimension." -/
  | missingTargetDimension
  /-- `issues[0]` of an empty selection. -/
  | emptySelection
  deriving DecidableEq

/-- A prepared redo: the run detail and the scope handed to the graph. -/
structure PreparedRedo where
  detail : RunDetail
  dimensions : List String
  targetCompetitors : List String

/-- `_prepare_redo_scope_inputs`. -/
def prepareRedoScopeInputs (detail : RunDetail) (scope : RedoScope) :
    Except RedoError PreparedRedo :=
  match scope.kind with
  | .analyst =>
      match redoDimension detail scope with
      | none => .error .missingTargetDimension
      | some dimension =>
          .ok
            { detail := dropComparison
                (clearDimensionFor (scopedCompetitors scope) detail dimension)
              dimensions := [dimension]
              targetCompetitors := scopedCompetitors scope }
  | .collector =>
      match redoDimension detail scope with
      | none => .error .missingTargetDimension
      | some dimension =>
          .ok
            { detail := dropComparison
                (if scopedCompetitors scope = [] then
                  clearForWholeCollectorRedo detail dimension
                else
                  clearForCollectorRedo detail dimension
                    (scopedCompetitors scope))
              dimensions := [dimension]
              targetCompetitors := scopedCompetitors scope }
  | .comparator =>
      .ok
        { detail := dropComparison detail
          dimensions := detail.plan.dimensions
          targetCompetitors := [] }
  | .full =>
      .ok
        { detail := dropComparison (clearForFullRedo detail)
          dimensions := detail.plan.dimensions
          targetCompetitors := [] }
  | .writerOnly =>
      .ok
        { detail := detail
          dimensions := detail.plan.dimensions
          targetCompetitors := [] }

private theorem removeSources_sameSettings (detail : RunDetail)
    (dimension : String) (inScope preserved : List String) :
    detail.SameSettings
      (removeSourcesForCollectorRedo detail dimension inScope preserved).1 :=
  ⟨rfl, rfl, rfl, rfl⟩

private theorem clearForCollectorRedo_sameSettings (detail : RunDetail)
    (dimension : String) (inScope : List String) :
    detail.SameSettings (clearForCollectorRedo detail dimension inScope) :=
  (removeSources_sameSettings detail dimension inScope _).trans
    (RunDetail.SameSettings.foldl
      (fun detail competitor =>
        clearCompetitorDimensionOutput_sameSettings detail competitor
          dimension)
      _ _)

private theorem clearForWholeCollectorRedo_sameSettings (detail : RunDetail)
    (dimension : String) :
    detail.SameSettings (clearForWholeCollectorRedo detail dimension) :=
  (removeSources_sameSettings detail dimension [] _).trans
    (clearDimensionOutputs_sameSettings _ dimension)

theorem prepareRedoScopeInputs_sameSettings {detail : RunDetail}
    {scope : RedoScope} {redo : PreparedRedo}
    (prepared : prepareRedoScopeInputs detail scope = .ok redo) :
    detail.SameSettings redo.detail := by
  unfold prepareRedoScopeInputs at prepared
  cases kind : scope.kind with
  | analyst =>
      cases dimension : redoDimension detail scope <;>
        simp only [kind, dimension] at prepared <;> cases prepared
      exact dropComparison_sameSettings
        (clearDimensionFor_sameSettings _ detail _)
  | collector =>
      cases dimension : redoDimension detail scope <;>
        simp only [kind, dimension] at prepared <;> cases prepared
      apply dropComparison_sameSettings
      split
      · exact clearForWholeCollectorRedo_sameSettings detail _
      · exact clearForCollectorRedo_sameSettings detail _ _
  | comparator =>
      simp only [kind] at prepared
      cases prepared
      exact dropComparison_sameSettings (.refl detail)
  | full =>
      simp only [kind] at prepared
      cases prepared
      exact ⟨rfl, rfl, rfl, rfl⟩
  | writerOnly =>
      simp only [kind] at prepared
      cases prepared
      exact .refl detail

end

end CompetiScope
