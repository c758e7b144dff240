import CompetiScope.Identity.LayeredNormalisation

/-!
# The counts of a reconciliation

A reconciliation reads the markers of a text by their normal forms, the part
before the first `#`, and settles each of them once.  The tokens it resolves
and the ones it reports as unresolved are two parts of these normal forms.
-/

namespace CompetiScope

open Foundation

/-- The tokens of the source markers of a text, as they are written. -/
def sourceMarkers (reportMd : String) : List String :=
  (sourceMatches reportMd).map fun found => String.ofList found.1

/-- The tokens of the resolutions that found a record in scope. -/
def SourceReconciliation.resolvedReportSourceTokens
    (made : SourceReconciliation) : List String :=
  (made.sourceResolutions.filter (·.isResolved)).map (·.normalizedToken)

/-- The normal form of the token matches the grammar and is a token of a
record in scope. -/
def MarkerResolves (evidence : List EvidenceRecord)
    (scope : Option (List String)) (token : String) : Prop :=
  isValidSourceToken (normalizeSourceToken token) ∧
    ∃ item ∈ scopedEvidence evidence scope,
      normalizeSourceToken token ∈ evidenceSourceTokens item

/-- The normal forms of the markers, each once, without the empty one. -/
def normalMarkers (reportMd : String) : List String :=
  orderedUnique
    (((sourceMarkers reportMd).map normalizeSourceToken).filter (· ≠ ""))

/-- The resolved and the unresolved tokens are the two parts of the normal
forms, and none is unresolved just when every marker resolves. -/
structure CountsMarkers (reportMd : String) (evidence : List EvidenceRecord)
    (scope : Option (List String)) (made : SourceReconciliation) : Prop where
  counted : made.unresolvedReportSourceTokenCount =
    made.unresolvedReportSourceTokens.length
  settled : made.unresolvedReportSourceTokenCount = 0 ↔
    ∀ marker ∈ sourceMarkers reportMd, normalizeSourceToken marker ≠ "" →
      MarkerResolves evidence scope marker
  parted : (made.resolvedReportSourceTokens ++
    made.unresolvedReportSourceTokens).Perm (normalMarkers reportMd)
  resolved : ∀ token ∈ made.resolvedReportSourceTokens,
    MarkerResolves evidence scope token
  unresolved : ∀ token ∈ made.unresolvedReportSourceTokens,
    ¬ MarkerResolves evidence scope token

/-! ## Records in scope -/

section Scope

variable {evidence : List EvidenceRecord} {scope : Option (List String)}

theorem mem_scopedEvidence {item : EvidenceRecord} :
    item ∈ scopedEvidence evidence scope ↔
      item ∈ evidence ∧ item.id ∈ scopedIds evidence scope := by
  cases scope with
  | none =>
      constructor
      · intro member
        exact ⟨member, List.mem_map_of_mem member⟩
      · exact And.left
  | some ids =>
      simp [scopedEvidence, scopedIds]

/-- A record in scope is found before any record outside of it. -/
theorem resolveSourceToken_isResolved_iff {token : String} :
    (resolveSourceToken evidence scope token).isResolved ↔
      ∃ item ∈ scopedEvidence evidence scope,
        normalizeSourceToken token ∈ evidenceSourceTokens item := by
  constructor
  · intro isResolved
    unfold resolveSourceToken at isResolved
    split at isResolved
    · cases isResolved
    · next item found =>
        obtain ⟨member, named⟩ := mem_of_resolveEvidence found
        split at isResolved
        · next inScope =>
            exact ⟨item, mem_scopedEvidence.mpr ⟨member, inScope⟩, named⟩
        · cases isResolved
  · rintro ⟨item, inScope, named⟩
    obtain ⟨member, listed⟩ := mem_scopedEvidence.mp inScope
    have isNamed : item ∈ evidence.reverse.filter fun item =>
        normalizeSourceToken token ∈ evidenceSourceTokens item :=
      List.mem_filter.mpr ⟨List.mem_reverse.mpr member, decide_eq_true named⟩
    have some : ((evidence.reverse.filter fun item =>
        normalizeSourceToken token ∈ evidenceSourceTokens item).find?
          fun item => item.id ∈ scopedIds evidence scope).isSome := by
      rw [List.find?_isSome]
      exact ⟨item, isNamed, decide_eq_true listed⟩
    obtain ⟨record, first⟩ := Option.isSome_iff_exists.mp some
    have found : resolveEvidence evidence (scopedIds evidence scope) token =
        record := by
      rw [resolveEvidence, first]
      rfl
    have recordListed : record.id ∈ scopedIds evidence scope :=
      of_decide_eq_true
        (List.find?_some (p := fun item : EvidenceRecord =>
          decide (item.id ∈ scopedIds evidence scope)) first)
    rw [resolveSourceToken, found]
    dsimp only
    rw [if_pos recordListed]
    exact resolutionFor_isResolved token record

end Scope

/-! ## One resolution for each normal form -/

/-- How a normal form is settled. -/
def settleToken (evidence : List EvidenceRecord)
    (scope : Option (List String)) (token : String) : SourceResolution :=
  if isValidSourceToken token then resolveSourceToken evidence scope token
  else malformedResolution token

theorem settleToken_normalizedToken (evidence : List EvidenceRecord)
    (scope : Option (List String)) (token : String) :
    (settleToken evidence scope token).normalizedToken =
      normalizeSourceToken token := by
  rw [settleToken]
  split
  · exact resolveSourceToken_normalizedToken evidence scope token
  · rfl

theorem settleToken_isResolved_iff {evidence : List EvidenceRecord}
    {scope : Option (List String)} {token : String}
    (normal : normalizeSourceToken token = token) :
    (settleToken evidence scope token).isResolved ↔
      MarkerResolves evidence scope token := by
  rw [settleToken, MarkerResolves, normal]
  by_cases valid : isValidSourceToken token
  · rw [if_pos valid, resolveSourceToken_isResolved_iff, normal]
    simp [valid]
  · rw [if_neg valid]
    simp [valid, malformedResolution, SourceResolution.isResolved]

theorem dedupeStrings_normal (reportMd : String) :
    dedupeStrings ((sourceMatches reportMd).map fun found =>
      normalizeSourceToken (String.ofList found.1)) =
        normalMarkers reportMd := by
  have stripped : ((sourceMatches reportMd).map fun found =>
      normalizeSourceToken (String.ofList found.1)).map strip =
        (sourceMarkers reportMd).map normalizeSourceToken := by
    rw [sourceMarkers, List.map_map, List.map_map]
    apply List.map_congr_left
    intro found _
    exact strip_normalizeSourceToken _
  rw [dedupeStrings, normalMarkers, stripped]

theorem mem_normalMarkers {reportMd token : String} :
    token ∈ normalMarkers reportMd ↔
      token ≠ "" ∧
        ∃ marker ∈ sourceMarkers reportMd,
          normalizeSourceToken marker = token := by
  simp only [normalMarkers, mem_orderedUnique, List.mem_filter, List.mem_map,
    decide_eq_true_eq]
  exact and_comm

/-- A normal form is its own normal form. -/
theorem normal_of_mem {reportMd token : String}
    (member : token ∈ normalMarkers reportMd) :
    normalizeSourceToken token = token := by
  obtain ⟨-, marker, -, rfl⟩ := mem_normalMarkers.mp member
  exact normalizeSourceToken_idempotent marker

/-- What `dedupe_strings` leaves alone. -/
theorem dedupeStrings_eq_self {values : List String}
    (distinct : values.Nodup)
    (clean : ∀ value ∈ values, strip value = value ∧ value ≠ "") :
    dedupeStrings values = values := by
  rw [dedupeStrings, map_strip_filter_eq_self clean,
    orderedUnique_eq_self distinct]

theorem map_filter_settleToken {evidence : List EvidenceRecord}
    {scope : Option (List String)} (keep : SourceResolution → Bool)
    {tokens : List String}
    (normal : ∀ token ∈ tokens, normalizeSourceToken token = token) :
    ((tokens.map (settleToken evidence scope)).filter keep).map
        (·.normalizedToken) =
      tokens.filter fun token => keep (settleToken evidence scope token) := by
  rw [List.filter_map, List.map_map]
  calc (tokens.filter (keep ∘ settleToken evidence scope)).map
        ((·.normalizedToken) ∘ settleToken evidence scope)
      = (tokens.filter (keep ∘ settleToken evidence scope)).map id := by
        apply List.map_congr_left
        intro token kept
        have member := List.mem_of_mem_filter kept
        exact (settleToken_normalizedToken evidence scope token).trans
          (normal token member)
    _ = _ := List.map_id _

/-! ## The reconciliation of a text -/

section Reconciliation

variable (reportMd : String) (evidence : List EvidenceRecord)
  (scope : Option (List String)) (changed : Bool)

theorem sourceResolutions_eq :
    (buildSourceReconciliation reportMd evidence scope []
      changed).sourceResolutions =
        (normalMarkers reportMd).map (settleToken evidence scope) := by
  rw [← dedupeStrings_normal]
  rfl

theorem resolvedReportSourceTokens_eq :
    (buildSourceReconciliation reportMd evidence scope []
      changed).resolvedReportSourceTokens =
        (normalMarkers reportMd).filter fun token =>
          (settleToken evidence scope token).isResolved := by
  rw [SourceReconciliation.resolvedReportSourceTokens, sourceResolutions_eq]
  apply map_filter_settleToken
  intro token member
  exact normal_of_mem member

theorem unresolvedReportSourceTokens_eq :
    (buildSourceReconciliation reportMd evidence scope []
      changed).unresolvedReportSourceTokens =
        (normalMarkers reportMd).filter fun token =>
          ! (settleToken evidence scope token).isResolved := by
  have made : (buildSourceReconciliation reportMd evidence scope []
      changed).unresolvedReportSourceTokens =
        dedupeStrings
          ((((normalMarkers reportMd).map
            (settleToken evidence scope)).filter (! ·.isResolved)).map
              (·.normalizedToken)) := by
    rw [← dedupeStrings_normal]
    rfl
  rw [made, map_filter_settleToken _ fun token member =>
    normal_of_mem member]
  apply dedupeStrings_eq_self
  · exact (orderedUnique_nodup _).filter _
  · intro token kept
    have member := List.mem_of_mem_filter kept
    constructor
    · rw [← normal_of_mem member]
      exact strip_normalizeSourceToken token
    · exact (mem_normalMarkers.mp member).1

/-- No resolutions are given: the reconciliation settles the markers of the
text itself. -/
theorem buildSourceReconciliation_countsMarkers :
    CountsMarkers reportMd evidence scope
      (buildSourceReconciliation reportMd evidence scope [] changed) := by
  constructor
  case counted => rfl
  case settled =>
    have counted : (buildSourceReconciliation reportMd evidence scope []
        changed).unresolvedReportSourceTokenCount =
          (buildSourceReconciliation reportMd evidence scope []
            changed).unresolvedReportSourceTokens.length := rfl
    rw [counted, unresolvedReportSourceTokens_eq, List.length_eq_zero_iff,
      List.filter_eq_nil_iff]
    constructor
    · intro settled marker member filled
      have listed : normalizeSourceToken marker ∈ normalMarkers reportMd :=
        mem_normalMarkers.mpr ⟨filled, marker, member, rfl⟩
      have resolves := settled _ listed
      rw [Bool.not_eq_true', Bool.not_eq_false,
        settleToken_isResolved_iff (normal_of_mem listed)] at resolves
      rw [MarkerResolves, normal_of_mem listed] at resolves
      exact resolves
    · intro resolves token listed
      obtain ⟨filled, marker, member, rfl⟩ := mem_normalMarkers.mp listed
      have marked := resolves marker member filled
      rw [Bool.not_eq_true', Bool.not_eq_false,
        settleToken_isResolved_iff (normal_of_mem listed), MarkerResolves,
        normal_of_mem listed]
      exact marked
  case parted =>
    rw [resolvedReportSourceTokens_eq, unresolvedReportSourceTokens_eq]
    exact List.filter_append_perm _ _
  case resolved =>
    intro token member
    rw [resolvedReportSourceTokens_eq, List.mem_filter] at member
    exact (settleToken_isResolved_iff (normal_of_mem member.1)).mp member.2
  case unresolved =>
    intro token member resolves
    rw [unresolvedReportSourceTokens_eq, List.mem_filter,
      Bool.not_eq_true'] at member
    rw [← settleToken_isResolved_iff (normal_of_mem member.1),
      member.2] at resolves
    cases resolves

end Reconciliation

/-- Two markers of one source are settled once, and one without a normal form
is not settled at all. -/
theorem reconciliation_losesMarkers :
    let merged := buildSourceReconciliation "[source:s1] [source:s1#q]" []
      none [] false
    let dropped := buildSourceReconciliation "[source:#q]" [] none [] false
    merged.resolvedReportSourceTokens.length +
        merged.unresolvedReportSourceTokens.length = 1 ∧
      (orderedUnique
        (sourceMarkers "[source:s1] [source:s1#q]")).length = 2 ∧
      dropped.unresolvedReportSourceTokenCount = 0 ∧
      sourceMarkers "[source:#q]" = ["#q"] ∧
      ¬ MarkerResolves [] none "#q" := by
  refine ⟨by decide +kernel, by decide +kernel, by decide +kernel,
    by decide +kernel, ?_⟩
  rintro ⟨-, item, member, -⟩
  cases member

end CompetiScope
