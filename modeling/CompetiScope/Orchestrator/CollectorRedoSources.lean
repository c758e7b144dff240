import CompetiScope.Agents.ClearedOutputs
import CompetiScope.Identity.SourceMarkers
import CompetiScope.Orchestrator.RedoPreparation

/-!
# Sources of a collector redo

A collector redo drops the sources it will collect again, apart from those the
report cites.  A report cites a source in any of the spellings of a marker.
-/

namespace CompetiScope

open Foundation

/-! ## Citations -/

/-- A token names the text before its first `#`. -/
def NamesId (token id : List Char) : Prop :=
  '#' ∉ id ∧ (token = id ∨ ∃ fragment, token = id ++ '#' :: fragment)

/-- The report contains a marker of the id. -/
def MarksSource (reportMd id : String) : Prop :=
  id ≠ "" ∧ ∃ token marker, IsMarker token marker ∧
    NamesId token id.toList ∧ marker <:+: reportMd.toList

theorem stripChars_of_visible {text : List Char}
    (visible : ∀ char ∈ text, isSpace char = false) :
    stripChars text = text := by
  have kept : ∀ other : List Char, (∀ char ∈ other, isSpace char = false) →
      stripLeft other = other := by
    intro other seen
    cases other with
    | nil => rfl
    | cons char rest =>
        rw [stripLeft, List.dropWhile_cons_of_neg]
        rw [seen char List.mem_cons_self]
        exact Bool.false_ne_true
  rw [stripChars, kept text visible, kept, List.reverse_reverse]
  intro char member
  exact visible char (List.mem_reverse.mp member)

theorem takeWhile_eq_iff_namesId {token id : List Char} :
    token.takeWhile (· ≠ '#') = id ↔ NamesId token id := by
  constructor
  · rintro rfl
    refine ⟨?_, ?_⟩
    · intro member
      have differs := List.mem_takeWhile_imp member
      simp at differs
    · have shape : token.takeWhile (· ≠ '#') ++ token.dropWhile (· ≠ '#') =
          token := List.takeWhile_append_dropWhile
      cases behind : token.dropWhile (· ≠ '#') with
      | nil =>
          left
          rw [behind, List.append_nil] at shape
          exact shape.symm
      | cons char fragment =>
          right
          have stops : char = '#' := by
            have first := List.head?_dropWhile_not (· ≠ '#') token
            rw [behind] at first
            simpa using first
          subst stops
          rw [behind] at shape
          exact ⟨fragment, shape.symm⟩
  · rintro ⟨plain, rfl | ⟨fragment, rfl⟩⟩
    · apply List.takeWhile_eq_self_iff.mpr
      intro char member
      exact decide_eq_true (ne_of_mem_of_not_mem member plain)
    · rw [List.takeWhile_append_of_pos, List.takeWhile_cons_of_neg (by simp),
        List.append_nil]
      intro char member
      exact decide_eq_true (ne_of_mem_of_not_mem member plain)

/-- The cited ids are those a marker names. -/
theorem mem_reportCitedRawSourceIds {reportMd id : String} :
    id ∈ reportCitedRawSourceIds reportMd ↔ MarksSource reportMd id := by
  have normalized : ∀ token, token ∈ sourceTokensFrom 0 reportMd.toList →
      (normalizeSourceToken (String.ofList token) = id ↔
        NamesId token id.toList) := by
    intro token member
    obtain ⟨marker, isMarker, inside⟩ := mem_sourceTokensFrom_iff.mp member
    have allowed : ∀ char ∈ token.takeWhile (· ≠ '#'),
        isSpace char = false := by
      intro char taken
      cases isMarker with
      | marker opens known spelled filled allowed =>
          exact not_isSpace_of_isSourceTokenChar
            (allowed char ((List.takeWhile_prefix _).subset taken))
    rw [normalizeSourceToken, String.toList_ofList,
      stripChars_of_visible allowed, ← takeWhile_eq_iff_namesId,
      ← String.toList_inj, String.toList_ofList]
  rw [reportCitedRawSourceIds, sourceTokens, List.map_map, List.mem_filter,
    List.mem_map, decide_eq_true_iff]
  constructor
  · rintro ⟨⟨token, member, isId⟩, nonempty⟩
    obtain ⟨marker, isMarker, inside⟩ := mem_sourceTokensFrom_iff.mp member
    exact ⟨nonempty, token, marker, isMarker, (normalized token member).mp isId,
      inside⟩
  · rintro ⟨nonempty, token, marker, isMarker, names, inside⟩
    have member := mem_sourceTokensFrom_iff.mpr ⟨marker, isMarker, inside⟩
    exact ⟨⟨token, member, (normalized token member).mpr names⟩, nonempty⟩

/-! ## The frame of the removal -/

section

variable [PyRuntime]

/-- A source of the dimension that matches a scoped competitor. -/
def InRedo (dimension : String) (inScope : List String)
    (source : RawSource) : Prop :=
  source.dimension = dimension ∧
    (inScope = [] ∨
      ∃ competitor ∈ inScope, sourceMatchesCompetitor source competitor = true)

/-- What a collector redo makes of the sources, one after the other: the
sources it leaves and the ids it removes. -/
inductive RedoRemoval (dimension : String) (inScope : List String)
    (reportMd : String) :
    List RawSource → List RawSource → List String → Prop where
  | done : RedoRemoval dimension inScope reportMd [] [] []
  | foreign {source : RawSource} {rest kept : List RawSource}
      {removed : List String} (outside : ¬ InRedo dimension inScope source)
      (later : RedoRemoval dimension inScope reportMd rest kept removed) :
      RedoRemoval dimension inScope reportMd (source :: rest)
        (source :: kept) removed
  | cited {source : RawSource} {rest kept : List RawSource}
      {removed : List String} (selected : InRedo dimension inScope source)
      (isCited : MarksSource reportMd source.id) (metadata : Dict String Json)
      (later : RedoRemoval dimension inScope reportMd rest kept removed) :
      RedoRemoval dimension inScope reportMd (source :: rest)
        ({ source with metadata := metadata } :: kept) removed
  | removes {source : RawSource} {rest kept : List RawSource}
      {removed : List String} (selected : InRedo dimension inScope source)
      (uncited : ¬ MarksSource reportMd source.id)
      (later : RedoRemoval dimension inScope reportMd rest kept removed) :
      RedoRemoval dimension inScope reportMd (source :: rest) kept
        (source.id :: removed)

theorem collectorRedoSelects_iff {dimension : String} {inScope : List String}
    {source : RawSource} :
    collectorRedoSelects dimension inScope source = true ↔
      InRedo dimension inScope source := by
  simp [collectorRedoSelects, InRedo]

theorem retainedSources_removal (dimension : String) (inScope : List String)
    (reportMd : String) (sources : List RawSource) :
    RedoRemoval dimension inScope reportMd sources
      (retainedSources dimension inScope (reportCitedRawSourceIds reportMd)
        sources)
      (removedSourceIds dimension inScope (reportCitedRawSourceIds reportMd)
        sources) := by
  induction sources with
  | nil => exact .done
  | cons source sources induction =>
      have removal : collectorRedoRemoves dimension inScope
          (reportCitedRawSourceIds reportMd) source = true ↔
            InRedo dimension inScope source ∧
              ¬ MarksSource reportMd source.id := by
        rw [collectorRedoRemoves, Bool.and_eq_true, collectorRedoSelects_iff,
          decide_eq_true_iff, mem_reportCitedRawSourceIds]
      unfold retainedSources removedSourceIds at induction ⊢
      by_cases selected : InRedo dimension inScope source
      · have isSelected := collectorRedoSelects_iff.mpr selected
        by_cases isCited : MarksSource reportMd source.id
        · have stays : collectorRedoRemoves dimension inScope
              (reportCitedRawSourceIds reportMd) source = false :=
            Bool.eq_false_of_not_eq_true fun goes =>
              (removal.mp goes).2 isCited
          rw [List.filter_cons_of_pos (by simp [stays]),
            List.filter_cons_of_neg (by simp [stays]), List.map_cons,
            if_pos isSelected]
          exact .cited selected isCited _ induction
        · have goes := removal.mpr ⟨selected, isCited⟩
          rw [List.filter_cons_of_neg (by simp [goes]),
            List.filter_cons_of_pos goes, List.map_cons]
          exact .removes selected isCited induction
      · have unselected : ¬ collectorRedoSelects dimension inScope source =
            true := fun isSelected =>
          selected (collectorRedoSelects_iff.mp isSelected)
        have stays : collectorRedoRemoves dimension inScope
            (reportCitedRawSourceIds reportMd) source = false :=
          Bool.eq_false_of_not_eq_true fun goes =>
            selected (removal.mp goes).1
        rw [List.filter_cons_of_pos (by simp [stays]),
          List.filter_cons_of_neg (by simp [stays]), List.map_cons,
          if_neg unselected]
        exact .foreign selected induction

/-- A collector redo removes the uncited sources of its scope and nothing
else; the clearing of dependent outputs touches no source. -/
theorem collectorRedo_removes (detail : RunDetail) (dimension : String)
    (inScope : List String) :
    let removal := removeSourcesForCollectorRedo detail dimension inScope
      (reportCitedRawSourceIds detail.reportMd)
    RedoRemoval dimension inScope detail.reportMd detail.rawSources
        removal.1.rawSources removal.2 ∧
      removal.1 = { detail with rawSources := removal.1.rawSources } ∧
      (if inScope = [] then clearForWholeCollectorRedo detail dimension
        else clearForCollectorRedo detail dimension inScope).rawSources =
          removal.1.rawSources := by
  intro removal
  refine ⟨?_, rfl, ?_⟩
  · exact retainedSources_removal dimension inScope detail.reportMd
      detail.rawSources
  · by_cases whole : inScope = []
    · rw [if_pos whole]
      subst whole
      exact (clearDimensionOutputs_clears removal.1 dimension).rawSources
    · rw [if_neg whole]
      exact (clearCompetitors_clears _ removal.1 dimension).rawSources

end

end CompetiScope
