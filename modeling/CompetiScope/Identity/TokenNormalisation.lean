import CompetiScope.Identity.SourcePieces

/-!
# Normalising the source tokens of a report

A token of a record becomes the record's canonical token, a malformed token is
cut out and a token of no record stays.  What the first pass makes is read
again by the next one.
-/

namespace CompetiScope

open Foundation

/-! ## Resolutions -/

/-- `SourceResolutionStatus`. -/
inductive SourceResolutionStatus where
  | resolved
  | alias
  | outOfScope
  | missing
  | malformed
  deriving DecidableEq

/-- `SourceResolution`. -/
structure SourceResolution where
  token : String
  normalizedToken : String
  status : SourceResolutionStatus
  evidenceId : Option String := none
  rawSourceId : Option String := none
  canonicalToken : Option String := none
  reason : String := ""
  deriving DecidableEq

/-- `SourceTokenNormalization`. -/
structure SourceTokenNormalization where
  reportMd : String
  evidenceIds : List String
  resolutions : List SourceResolution := []
  changed : Bool := false
  deriving DecidableEq

/-- `_canonical_report_token`. -/
def canonicalReportToken (evidence : EvidenceRecord) : String :=
  if normalizeSourceToken evidence.rawSourceId ≠ "" then
    normalizeSourceToken evidence.rawSourceId
  else normalizeSourceToken evidence.id

/-- `_resolution_for`. -/
def resolutionFor (token : String) (evidence : EvidenceRecord) :
    SourceResolution :=
  let direct := normalizeSourceToken token = canonicalReportToken evidence
  { token := token
    normalizedToken := normalizeSourceToken token
    status := if direct then .resolved else .alias
    evidenceId := some evidence.id
    rawSourceId := some evidence.rawSourceId
    canonicalToken := some (canonicalReportToken evidence)
    reason :=
      if direct then "Token resolved directly."
      else "Token resolved through alias." }

/-- The ids a `SourceResolutionIndex` takes to be in scope. -/
def scopedIds (evidence : List EvidenceRecord)
    (scope : Option (List String)) : List String :=
  scope.getD (evidence.map (·.id))

/-- `SourceResolutionIndex.resolve`. -/
def resolveSourceToken (evidence : List EvidenceRecord)
    (scope : Option (List String)) (token : String) : SourceResolution :=
  match resolveEvidence evidence (scopedIds evidence scope) token with
  | none =>
      { token := token
        normalizedToken := normalizeSourceToken token
        status := .missing
        reason :=
          "Token does not resolve to an EvidenceRecord id, RawSource id, " ++
            "or alias." }
  | some item =>
      if item.id ∈ scopedIds evidence scope then resolutionFor token item
      else
        { resolutionFor token item with
          status := .outOfScope
          reason :=
            "Token resolves to evidence outside the scoped report " ++
              "version." }

/-- The resolution of a token that does not match the grammar. -/
def malformedResolution (token : String) : SourceResolution :=
  { token := token
    normalizedToken := normalizeSourceToken token
    status := .malformed
    reason := "Token does not match the canonical source token grammar." }

/-- The first text that is not empty. -/
def firstText : List (Option String) → String
  | [] => ""
  | candidate :: candidates =>
      if candidate.getD "" ≠ "" then candidate.getD ""
      else firstText candidates

/-- The resolution of a match; evidence outside the scope is taken into
it. -/
def matchResolution (evidence : List EvidenceRecord)
    (scope : Option (List String)) (token : String) : SourceResolution :=
  if isValidSourceToken token then
    let resolution := resolveSourceToken evidence scope token
    if resolution.status = .outOfScope ∧
        resolution.evidenceId.getD "" ≠ "" then
      { resolution with
        status := .alias
        canonicalToken :=
          some (firstText
            [resolution.canonicalToken, resolution.rawSourceId,
              resolution.evidenceId])
        reason :=
          "Token resolved outside the initial report scope and was added " ++
            "to the normalized report evidence scope." }
    else resolution
  else malformedResolution token

/-- `normalize_report_source_tokens`. -/
def normalizeReportSourceTokens (reportMd : String)
    (evidence : List EvidenceRecord) (scope : Option (List String)) :
    SourceTokenNormalization :=
  let scopeIds := scopedIds evidence scope
  let resolvedIds :=
    dedupeStrings (resolvedEvidenceIds evidence scopeIds reportMd)
  { reportMd := normalizedReportMd evidence scopeIds reportMd
    evidenceIds :=
      match scope with
      | some ids => dedupeStrings (ids ++ resolvedIds)
      | none =>
          if resolvedIds ≠ [] then resolvedIds else evidence.map (·.id)
    resolutions :=
      (sourceMatches reportMd).map fun found =>
        matchResolution evidence scope (String.ofList found.1)
    changed :=
      (sourceMatches reportMd).any fun found =>
        canonicalMatch evidence scopeIds found.1 found.2 ≠ found.2 }

/-- `SourceResolution.resolved`. -/
def SourceResolution.isResolved (resolution : SourceResolution) : Bool :=
  resolution.status = .resolved || resolution.status = .alias

theorem resolutionFor_isResolved (token : String) (item : EvidenceRecord) :
    (resolutionFor token item).isResolved = true := by
  unfold SourceResolution.isResolved resolutionFor
  dsimp only
  split
  · rfl
  · rfl

/-- A resolution names the record the text is rewritten for. -/
theorem matchResolution_of_resolvedRecord {evidence : List EvidenceRecord}
    {scope : Option (List String)} {token : List Char}
    {item : EvidenceRecord}
    (resolved : resolvedRecord evidence (scopedIds evidence scope) token =
      some item) :
    (matchResolution evidence scope (String.ofList token)).evidenceId =
        some item.id ∧
      (matchResolution evidence scope
        (String.ofList token)).isResolved = true := by
  unfold resolvedRecord at resolved
  split at resolved
  · next valid =>
      rw [Option.filter_eq_some_iff, decide_eq_true_iff] at resolved
      obtain ⟨found, filled⟩ := resolved
      rw [matchResolution, if_pos valid]
      by_cases inScope : item.id ∈ scopedIds evidence scope
      · have whole : resolveSourceToken evidence scope (String.ofList token) =
            resolutionFor (String.ofList token) item := by
          rw [resolveSourceToken, found]
          exact if_pos inScope
        have direct := resolutionFor_isResolved (String.ofList token) item
        dsimp only
        rw [whole, if_neg]
        · exact ⟨rfl, direct⟩
        · rintro ⟨outOfScope, -⟩
          rw [SourceResolution.isResolved, outOfScope] at direct
          cases direct
      · have whole : resolveSourceToken evidence scope (String.ofList token) =
            { resolutionFor (String.ofList token) item with
              status := .outOfScope
              reason :=
                "Token resolves to evidence outside the scoped report " ++
                  "version." } := by
          rw [resolveSourceToken, found]
          exact if_neg inScope
        dsimp only
        rw [whole, if_pos]
        · exact ⟨rfl, rfl⟩
        · exact ⟨rfl, filled⟩
  · cases resolved

/-! ## What normalisation promises -/

/-- The text outside of the source markers. -/
def outsideMarkers (text : String) : List Char :=
  substituteFrom (fun _ _ => []) 0 text.toList

/-- The token and the text of the canonical marker of a record. -/
def recordMarker (item : EvidenceRecord) : List Char × List Char :=
  ((reportToken item).toList, ("[source:" ++ reportToken item ++ "]").toList)

/-- The normalisation of what was normalised, in the scope it returned. -/
def normalizedAgain (reportMd : String) (evidence : List EvidenceRecord)
    (scope : Option (List String)) : SourceTokenNormalization :=
  let result := normalizeReportSourceTokens reportMd evidence scope
  normalizeReportSourceTokens result.reportMd evidence
    (scope.map fun _ => result.evidenceIds)

/-- Normalising again changes nothing, the markers that are left match the
grammar, the ones that resolve are canonical and in the scope, and the rest
of the text is as it was. -/
structure NormalisesSources (reportMd : String)
    (evidence : List EvidenceRecord) (scope : Option (List String)) :
    Prop where
  sameText : (normalizedAgain reportMd evidence scope).reportMd =
    (normalizeReportSourceTokens reportMd evidence scope).reportMd
  sameIds : (normalizedAgain reportMd evidence scope).evidenceIds =
    (normalizeReportSourceTokens reportMd evidence scope).evidenceIds
  wellFormed : ∀ found ∈ sourceMatches
      (normalizeReportSourceTokens reportMd evidence scope).reportMd,
    isValidSourceToken (String.ofList found.1)
  canonical : ∀ found ∈ sourceMatches reportMd, ∀ item,
    resolvedRecord evidence (scopedIds evidence scope) found.1 = some item →
      item.id ∈
          (normalizeReportSourceTokens reportMd evidence
            scope).evidenceIds ∧
        recordMarker item ∈ sourceMatches
          (normalizeReportSourceTokens reportMd evidence scope).reportMd
  outside : outsideMarkers
      (normalizeReportSourceTokens reportMd evidence scope).reportMd =
    outsideMarkers reportMd

/-! ## Which texts keep their pieces -/

/-- A marker in the skeleton of a text: nothing for a malformed one, square
brackets for one that resolves, its own brackets for any other. -/
def markerSkeleton (evidence : List EvidenceRecord)
    (scopeIds : List String) (token whole : List Char) : List Char :=
  if isValidSourceToken (String.ofList token) then
    match resolvedRecord evidence scopeIds token with
    | some _ => ['[', ']']
    | none => (SourcePiece.marker token whole).brackets
  else []

/-- The text with its malformed markers cut out and its other markers reduced
to brackets. -/
def sourceSkeleton (evidence : List EvidenceRecord) (scopeIds : List String)
    (reportMd : String) : String :=
  String.ofList
    (substituteFrom (markerSkeleton evidence scopeIds) 0 reportMd.toList)

/-- The ids in scope, and those of the records the markers resolve to. -/
def reachedIds (reportMd : String) (evidence : List EvidenceRecord)
    (scope : Option (List String)) : List String :=
  match scope with
  | some ids =>
      ((ids ++ resolvedEvidenceIds evidence ids reportMd).map strip).filter
        (· ≠ "")
  | none => evidence.map (·.id)

/-- Cutting markers out joins no others, the canonical token of a record that
is cited matches the grammar and stands for the same record, or one of the
same token that is in scope, and a token of no record stays one. -/
structure SettlesSources (reportMd : String)
    (evidence : List EvidenceRecord) (scope : Option (List String)) :
    Prop where
  unjoined : sourceMatches
    (sourceSkeleton evidence (scopedIds evidence scope) reportMd) = []
  cited : ∀ found ∈ sourceMatches reportMd, ∀ item,
    resolvedRecord evidence (scopedIds evidence scope) found.1 = some item →
      strip item.id = item.id ∧ isValidSourceToken (reportToken item)
  again : ∀ found ∈ sourceMatches reportMd, ∀ item,
    resolvedRecord evidence (scopedIds evidence scope) found.1 = some item →
      ∀ other, resolveEvidence evidence (reachedIds reportMd evidence scope)
          (reportToken item) = some other →
        reportToken other = reportToken item ∧
          (scope = none → other.id = item.id)
  stays : ∀ found ∈ sourceMatches reportMd,
    resolvedRecord evidence (scopedIds evidence scope) found.1 = none →
      resolvedRecord evidence (reachedIds reportMd evidence scope)
        found.1 = none

/-! ## Tokens without brackets -/

theorem mem_stripLeft_or_space {text : List Char} {char : Char}
    (member : char ∈ text) : char ∈ stripLeft text ∨ isSpace char := by
  induction text with
  | nil => cases member
  | cons head text induction =>
      by_cases space : isSpace head
      · have dropped : stripLeft (head :: text) = stripLeft text := by
          simp [stripLeft, space]
        rw [dropped]
        rcases List.mem_cons.mp member with isHead | later
        · exact .inr (isHead ▸ space)
        · exact induction later
      · have kept : stripLeft (head :: text) = head :: text := by
          simp [stripLeft, space]
        rw [kept]
        exact .inl member

theorem mem_stripChars_or_space {text : List Char} {char : Char}
    (member : char ∈ text) : char ∈ stripChars text ∨ isSpace char := by
  rcases mem_stripLeft_or_space member with inside | space
  · have reversed := mem_stripLeft_or_space (List.mem_reverse.mpr inside)
    rcases reversed with inside | space
    · exact .inl (List.mem_reverse.mpr inside)
    · exact .inr space
  · exact .inr space

theorem isInner_of_isSpace {char : Char} (space : isSpace char) :
    isInner char := by
  apply isInner_of_not_bracket
  intro bracket
  have noSpace : ∀ bracket ∈
      ['[', ']', Char.ofNat 0x3010, Char.ofNat 0x3011],
        isSpace bracket = false := by
    decide
  rw [noSpace char bracket] at space
  cases space

/-- A token that matches the grammar is not empty and has no bracket. -/
theorem isValidSourceToken_inner {token : List Char}
    (valid : isValidSourceToken (String.ofList token)) :
    token ≠ [] ∧ ∀ char ∈ token, isInner char := by
  unfold isValidSourceToken at valid
  dsimp only at valid
  rw [String.toList_ofList, Bool.and_eq_true, decide_eq_true_iff,
    List.all_eq_true] at valid
  constructor
  · rintro rfl
    exact valid.1 rfl
  · intro char member
    rcases mem_stripChars_or_space member with inside | space
    · apply isInner_of_not_bracket
      intro bracket
      have noToken : ∀ bracket ∈
          ['[', ']', Char.ofNat 0x3010, Char.ofNat 0x3011],
            (bracket.isAlphanum ||
              decide (bracket ∈ ['_', '.', ':', '#', '-'])) = false := by
        decide
      have isToken := valid.2 char inside
      rw [noToken char bracket] at isToken
      cases isToken
    · exact isInner_of_isSpace space

theorem sourceKeyword_source (rest : List Char) :
    sourceKeyword ("source:".toList ++ rest) = some rest := by
  have letters : "source:".toList = ['s', 'o', 'u', 'r', 'c', 'e', ':'] := by
    decide
  have spelled : prefixIgnoreCase "source:".toList
      ("source:".toList ++ rest) = some rest := by
    rw [letters]
    simp [prefixIgnoreCase, matchesIgnoreCase]
  rw [sourceKeyword, spelled]

theorem recordMarker_text (item : EvidenceRecord) :
    (recordMarker item).2 =
      '[' :: ("source:".toList ++ (reportToken item).toList) ++ [']'] := by
  have opening : "[source:".toList = '[' :: "source:".toList := by
    decide
  have closing : "]".toList = [']'] := by
    decide
  rw [recordMarker, String.toList_append, String.toList_append, opening,
    closing]
  rfl

/-- The canonical marker is well formed if its token matches the grammar. -/
theorem wellFormedMarker_recordMarker {item : EvidenceRecord}
    (valid : isValidSourceToken (reportToken item)) :
    WellFormedMarker (recordMarker item).1 (recordMarker item).2 := by
  rw [← String.ofList_toList (s := reportToken item)] at valid
  obtain ⟨filled, inner⟩ := isValidSourceToken_inner valid
  have spelled : ∀ char ∈ "source:".toList, isInner char := by
    decide
  rw [recordMarker_text]
  unfold recordMarker
  dsimp only
  exact ⟨⟨'[', ']', "source:".toList, rfl, rfl, spelled,
    sourceKeyword_source⟩, filled, inner⟩

/-! ## The pieces of a normalised text -/

section Pieces

variable {evidence : List EvidenceRecord} {scopeIds : List String}
  {text : String}

/-- What becomes of a marker. -/
def keptMarker (evidence : List EvidenceRecord) (scopeIds : List String)
    (found : List Char × List Char) : Option (List Char × List Char) :=
  if isValidSourceToken (String.ofList found.1) then
    match resolvedRecord evidence scopeIds found.1 with
    | some item => some (recordMarker item)
    | none => some found
  else none

/-- What becomes of a piece. -/
def normalisedPieces (evidence : List EvidenceRecord)
    (scopeIds : List String) : SourcePiece → List SourcePiece
  | .plain char => [.plain char]
  | .marker token whole =>
      match keptMarker evidence scopeIds (token, whole) with
      | some found => [.marker found.1 found.2]
      | none => []

theorem normalisedPieces_marker (token whole : List Char) :
    normalisedPieces evidence scopeIds (.marker token whole) =
      match keptMarker evidence scopeIds (token, whole) with
      | some found => [.marker found.1 found.2]
      | none => [] := rfl

theorem keptMarker_of_malformed {token whole : List Char}
    (malformed : ¬ isValidSourceToken (String.ofList token)) :
    keptMarker evidence scopeIds (token, whole) = none :=
  if_neg malformed

theorem keptMarker_of_resolved {token whole : List Char}
    {item : EvidenceRecord}
    (resolved : resolvedRecord evidence scopeIds token = some item) :
    keptMarker evidence scopeIds (token, whole) =
      some (recordMarker item) := by
  have valid : isValidSourceToken (String.ofList token) := by
    unfold resolvedRecord at resolved
    split at resolved
    · next valid => exact valid
    · cases resolved
  rw [keptMarker, if_pos valid, resolved]

theorem keptMarker_of_unresolved {token whole : List Char}
    (valid : isValidSourceToken (String.ofList token))
    (unresolved : resolvedRecord evidence scopeIds token = none) :
    keptMarker evidence scopeIds (token, whole) = some (token, whole) := by
  rw [keptMarker, if_pos valid, unresolved]

theorem canonicalMatch_eq (token whole : List Char) :
    canonicalMatch evidence scopeIds token whole =
      piecesText
        (normalisedPieces evidence scopeIds (.marker token whole)) := by
  rw [canonicalMatch, normalisedPieces_marker]
  by_cases valid : isValidSourceToken (String.ofList token)
  · rw [if_pos valid]
    cases resolved : resolvedRecord evidence scopeIds token with
    | none =>
        rw [keptMarker_of_unresolved valid resolved]
        exact (List.append_nil whole).symm
    | some item =>
        rw [keptMarker_of_resolved resolved]
        simp only [recordMarker, piecesText, List.flatMap_singleton,
          SourcePiece.text]
  · rw [if_neg valid, keptMarker_of_malformed valid]
    rfl

theorem toList_normalizedReportMd :
    (normalizedReportMd evidence scopeIds text).toList =
      piecesText ((sourcePieces text.toList).flatMap
        (normalisedPieces evidence scopeIds)) := by
  unfold normalizedReportMd piecesText
  rw [String.toList_ofList, substituteFrom_eq, List.flatMap_assoc]
  apply List.flatMap_congr
  intro piece _
  cases piece with
  | plain char => rfl
  | marker token whole => exact canonicalMatch_eq token whole

theorem markerSkeleton_eq {token whole : List Char}
    (cited : ∀ item, resolvedRecord evidence scopeIds token = some item →
      isValidSourceToken (reportToken item)) :
    markerSkeleton evidence scopeIds token whole =
      piecesSkeleton
        (normalisedPieces evidence scopeIds (.marker token whole)) := by
  rw [markerSkeleton, normalisedPieces_marker]
  by_cases valid : isValidSourceToken (String.ofList token)
  · rw [if_pos valid]
    cases resolved : resolvedRecord evidence scopeIds token with
    | none =>
        rw [keptMarker_of_unresolved valid resolved]
        exact (List.append_nil _).symm
    | some item =>
        obtain ⟨opening, inside, closing, shape, brackets, opens, -⟩ :=
          (wellFormedMarker_recordMarker (cited item resolved)).text
        rw [recordMarker_text, List.cons_append, List.cons.injEq] at shape
        obtain ⟨rfl, -⟩ := shape
        cases opens
        rw [keptMarker_of_resolved resolved]
        dsimp only
        rw [piecesSkeleton, List.flatMap_cons, brackets]
        rfl
  · rw [if_neg valid, keptMarker_of_malformed valid]
    rfl

theorem mem_sourceMatches {found : List Char × List Char} :
    found ∈ sourceMatches text ↔
      .marker found.1 found.2 ∈ sourcePieces text.toList := by
  rw [sourceMatches, sourceMatchesFrom_eq, List.mem_filterMap]
  constructor
  · rintro ⟨piece, member, isMarker⟩
    cases piece with
    | plain char => cases isMarker
    | marker token whole =>
        cases isMarker
        exact member
  · intro member
    exact ⟨_, member, rfl⟩

theorem toList_sourceSkeleton
    (cited : ∀ found ∈ sourceMatches text, ∀ item,
      resolvedRecord evidence scopeIds found.1 = some item →
        isValidSourceToken (reportToken item)) :
    (sourceSkeleton evidence scopeIds text).toList =
      piecesSkeleton ((sourcePieces text.toList).flatMap
        (normalisedPieces evidence scopeIds)) := by
  unfold sourceSkeleton
  rw [String.toList_ofList, substituteFrom_eq]
  unfold piecesSkeleton
  rw [List.flatMap_assoc]
  apply List.flatMap_congr
  intro piece member
  cases piece with
  | plain char => rfl
  | marker token whole =>
      exact markerSkeleton_eq
        (cited (token, whole) (mem_sourceMatches.mpr member))

/-- The pieces of a normalised text are well formed. -/
theorem wellFormed_normalisedPieces
    (cited : ∀ found ∈ sourceMatches text, ∀ item,
      resolvedRecord evidence scopeIds found.1 = some item →
        isValidSourceToken (reportToken item)) :
    WellFormedPieces ((sourcePieces text.toList).flatMap
      (normalisedPieces evidence scopeIds)) := by
  intro token whole member
  obtain ⟨piece, pieceMember, image⟩ := List.mem_flatMap.mp member
  cases piece with
  | plain char =>
      cases List.mem_singleton.mp image
  | marker original originalText =>
      rw [normalisedPieces_marker] at image
      by_cases valid : isValidSourceToken (String.ofList original)
      · cases resolved : resolvedRecord evidence scopeIds original with
        | none =>
            rw [keptMarker_of_unresolved valid resolved] at image
            cases List.mem_singleton.mp image
            exact wellFormedMarker_of_mem pieceMember
              (isValidSourceToken_inner valid).2
        | some item =>
            rw [keptMarker_of_resolved resolved] at image
            have isRecord := List.mem_singleton.mp image
            rw [SourcePiece.marker.injEq] at isRecord
            rw [isRecord.1, isRecord.2]
            exact wellFormedMarker_recordMarker
              (cited (original, originalText)
                (mem_sourceMatches.mpr pieceMember) item resolved)
      · rw [keptMarker_of_malformed valid] at image
        cases image

/-- A normalised text is cut into the normalised pieces. -/
theorem sourcePieces_normalizedReportMd
    (cited : ∀ found ∈ sourceMatches text, ∀ item,
      resolvedRecord evidence scopeIds found.1 = some item →
        isValidSourceToken (reportToken item))
    (unjoined : sourceMatches (sourceSkeleton evidence scopeIds text) = []) :
    sourcePieces (normalizedReportMd evidence scopeIds text).toList =
      (sourcePieces text.toList).flatMap
        (normalisedPieces evidence scopeIds) := by
  rw [toList_normalizedReportMd]
  apply sourcePieces_piecesText (wellFormed_normalisedPieces cited)
  rw [← toList_sourceSkeleton cited]
  exact unjoined

theorem sourceMatches_normalizedReportMd
    (cited : ∀ found ∈ sourceMatches text, ∀ item,
      resolvedRecord evidence scopeIds found.1 = some item →
        isValidSourceToken (reportToken item))
    (unjoined : sourceMatches (sourceSkeleton evidence scopeIds text) = []) :
    sourceMatches (normalizedReportMd evidence scopeIds text) =
      (sourceMatches text).filterMap (keptMarker evidence scopeIds) := by
  rw [sourceMatches, sourceMatchesFrom_eq, sourceMatches,
    sourceMatchesFrom_eq]
  change (sourcePieces _).filterMap _ =
    ((sourcePieces text.toList).filterMap _).filterMap _
  rw [sourcePieces_normalizedReportMd cited unjoined]
  induction sourcePieces text.toList with
  | nil => rfl
  | cons piece pieces induction =>
      rw [List.flatMap_cons, List.filterMap_append, induction]
      cases piece with
      | plain char => rfl
      | marker token whole =>
          unfold normalisedPieces
          rw [List.filterMap_cons]
          cases kept : keptMarker evidence scopeIds (token, whole) with
          | none =>
              simp [SourcePiece.marker?, kept]
          | some found =>
              simp [SourcePiece.marker?, kept]

theorem outsideMarkers_normalizedReportMd
    (cited : ∀ found ∈ sourceMatches text, ∀ item,
      resolvedRecord evidence scopeIds found.1 = some item →
        isValidSourceToken (reportToken item))
    (unjoined : sourceMatches (sourceSkeleton evidence scopeIds text) = []) :
    outsideMarkers (normalizedReportMd evidence scopeIds text) =
      outsideMarkers text := by
  unfold outsideMarkers
  rw [substituteFrom_eq, substituteFrom_eq]
  change (sourcePieces _).flatMap _ = (sourcePieces text.toList).flatMap _
  rw [sourcePieces_normalizedReportMd cited unjoined, List.flatMap_assoc]
  apply List.flatMap_congr
  intro piece _
  cases piece with
  | plain char => rfl
  | marker token whole =>
      rw [normalisedPieces_marker]
      cases keptMarker evidence scopeIds (token, whole) with
      | none => rfl
      | some found => rfl

end Pieces

/-! ## Resolving once more -/

theorem normalizeSourceToken_idempotent (token : String) :
    normalizeSourceToken (normalizeSourceToken token) =
      normalizeSourceToken token := by
  unfold normalizeSourceToken
  rw [String.toList_ofList]
  have kept : (stripChars (token.toList.takeWhile (· ≠ '#'))).takeWhile
      (· ≠ '#') = stripChars (token.toList.takeWhile (· ≠ '#')) := by
    rw [List.takeWhile_eq_self_iff]
    intro char member
    have inside : char ∈ token.toList.takeWhile (· ≠ '#') :=
      stripChars_subset _ member
    exact List.mem_takeWhile_imp (p := fun char => decide (char ≠ '#')) inside
  rw [kept, stripChars_stripChars]

theorem strip_normalizeSourceToken (token : String) :
    strip (normalizeSourceToken token) = normalizeSourceToken token := by
  rw [normalizeSourceToken, strip, String.toList_ofList,
    stripChars_stripChars]

theorem resolveSourceToken_normalizedToken (evidence : List EvidenceRecord)
    (scope : Option (List String)) (token : String) :
    (resolveSourceToken evidence scope token).normalizedToken =
      normalizeSourceToken token := by
  rw [resolveSourceToken]
  split
  · rfl
  · split
    · rfl
    · rfl

/-- A record is named by its canonical token. -/
theorem reportToken_named {item : EvidenceRecord} (filled : item.id ≠ "") :
    normalizeSourceToken (reportToken item) ∈ evidenceSourceTokens item := by
  have names : ∀ token ∈ [item.id, item.rawSourceId], token ≠ "" →
      normalizeSourceToken token ∈ evidenceSourceTokens item := by
    intro token member nonempty
    apply List.mem_map_of_mem
    rw [List.mem_filter, decide_eq_true_iff]
    exact ⟨List.mem_append_left _ member, nonempty⟩
  have notEmpty : ∀ token, normalizeSourceToken token ≠ "" → token ≠ "" := by
    rintro token nonempty rfl
    exact nonempty rfl
  unfold reportToken
  split
  · next raw =>
      rw [normalizeSourceToken_idempotent]
      exact names _ (by simp) (notEmpty _ raw)
  · split
    · next _ named =>
        rw [normalizeSourceToken_idempotent]
        exact names _ (by simp) (notEmpty _ named)
    · split
      · next nonempty => exact names _ (by simp) nonempty
      · exact names _ (by simp) filled

/-- Only the scope of the records counts. -/
theorem resolveEvidence_congr {evidence : List EvidenceRecord}
    {first second : List String}
    (same : ∀ item ∈ evidence, item.id ∈ first ↔ item.id ∈ second)
    (token : String) :
    resolveEvidence evidence first token =
      resolveEvidence evidence second token := by
  have sameFind : ∀ items : List EvidenceRecord, items ⊆ evidence →
      (items.find? fun item => item.id ∈ first) =
        items.find? fun item => item.id ∈ second := by
    intro items inside
    induction items with
    | nil => rfl
    | cons item items induction =>
        have sameItem := same item (inside List.mem_cons_self)
        have later := induction fun other member =>
          inside (List.mem_cons_of_mem _ member)
        rw [List.find?_cons, List.find?_cons, later]
        simp only [sameItem]
  unfold resolveEvidence
  dsimp only
  rw [sameFind]
  intro item member
  exact List.mem_reverse.mp (List.mem_of_mem_filter member)

/-- A token of a record in scope resolves to a record in scope. -/
theorem resolveEvidence_mem_scope {evidence : List EvidenceRecord}
    {scopeIds : List String} {token : String} {item other : EvidenceRecord}
    (member : item ∈ evidence)
    (named : normalizeSourceToken token ∈ evidenceSourceTokens item)
    (inScope : item.id ∈ scopeIds)
    (resolved : resolveEvidence evidence scopeIds token = some other) :
    other.id ∈ scopeIds := by
  have isNamed : item ∈ evidence.reverse.filter fun item =>
      normalizeSourceToken token ∈ evidenceSourceTokens item :=
    List.mem_filter.mpr ⟨List.mem_reverse.mpr member, decide_eq_true named⟩
  unfold resolveEvidence at resolved
  dsimp only at resolved
  cases found : (evidence.reverse.filter fun item =>
      normalizeSourceToken token ∈ evidenceSourceTokens item).find?
        fun item => item.id ∈ scopeIds with
  | none =>
      have outside := List.find?_eq_none.mp found item isNamed
      exact (outside (decide_eq_true inScope)).elim
  | some first =>
      rw [found, Option.some_or, Option.some.injEq] at resolved
      subst resolved
      have inside :=
        List.find?_some
          (p := fun item : EvidenceRecord => decide (item.id ∈ scopeIds))
          found
      exact of_decide_eq_true inside

/-! ## A second pass -/

section SecondPass

variable {evidence : List EvidenceRecord} {scope : Option (List String)}
  {text : String}

theorem resolvedRecord_eq_some {scopeIds : List String} {token : List Char}
    {item : EvidenceRecord} :
    resolvedRecord evidence scopeIds token = some item ↔
      isValidSourceToken (String.ofList token) ∧
        resolveEvidence evidence scopeIds (String.ofList token) =
          some item ∧ item.id ≠ "" := by
  unfold resolvedRecord
  constructor
  · intro resolved
    split at resolved
    · next valid =>
        rw [Option.filter_eq_some_iff, decide_eq_true_iff] at resolved
        exact ⟨valid, resolved⟩
    · cases resolved
  · rintro ⟨valid, resolved, filled⟩
    rw [if_pos valid, Option.filter_eq_some_iff, decide_eq_true_iff]
    exact ⟨resolved, filled⟩

theorem mem_resolvedEvidenceIds {scopeIds : List String} {id : String} :
    id ∈ resolvedEvidenceIds evidence scopeIds text ↔
      ∃ found ∈ sourceMatches text, ∃ item,
        resolvedRecord evidence scopeIds found.1 = some item ∧
          item.id = id := by
  constructor
  · intro member
    obtain ⟨item, resolved, named⟩ := List.mem_map.mp member
    obtain ⟨found, listed, isItem⟩ := List.mem_filterMap.mp resolved
    exact ⟨found, listed, item, isItem, named⟩
  · rintro ⟨found, listed, item, isItem, named⟩
    exact List.mem_map.mpr
      ⟨item, List.mem_filterMap.mpr ⟨found, listed, isItem⟩, named⟩

/-- A text that is clean is found among the deduplicated ones. -/
theorem mem_dedupeStrings_of_clean {values : List String}
    (clean : ∀ value ∈ values, strip value = value ∧ value ≠ "")
    {value : String} : value ∈ dedupeStrings values ↔ value ∈ values := by
  rw [mem_dedupeStrings]
  constructor
  · rintro ⟨-, given, member, rfl⟩
    rw [(clean given member).1]
    exact member
  · intro member
    exact ⟨(clean value member).2, value, member, (clean value member).1⟩

theorem SettlesSources.cleanResolved
    (settles : SettlesSources text evidence scope) :
    ∀ id ∈ resolvedEvidenceIds evidence (scopedIds evidence scope) text,
      strip id = id ∧ id ≠ "" := by
  intro id member
  obtain ⟨found, listed, item, resolved, rfl⟩ :=
    mem_resolvedEvidenceIds.mp member
  obtain ⟨-, -, filled⟩ := resolvedRecord_eq_some.mp resolved
  exact ⟨(settles.cited found listed item resolved).1, filled⟩

/-- The scope of the second pass. -/
def nextScope (text : String) (evidence : List EvidenceRecord)
    (scope : Option (List String)) : List String :=
  scopedIds evidence
    (scope.map fun _ =>
      (normalizeReportSourceTokens text evidence scope).evidenceIds)

theorem mem_nextScope {id : String} :
    id ∈ nextScope text evidence scope ↔
      id ∈ reachedIds text evidence scope := by
  cases scope with
  | none => exact Iff.rfl
  | some ids =>
      change id ∈ dedupeStrings (ids ++ dedupeStrings
        (resolvedEvidenceIds evidence ids text)) ↔
          id ∈ ((ids ++ resolvedEvidenceIds evidence ids text).map
            strip).filter (· ≠ "")
      rw [mem_dedupeStrings, List.mem_filter, decide_eq_true_iff,
        List.mem_map, and_comm, and_congr_left_iff]
      intro _
      constructor
      · rintro ⟨given, member, stripped⟩
        rcases List.mem_append.mp member with inScope | resolved
        · exact ⟨given, List.mem_append_left _ inScope, stripped⟩
        · obtain ⟨-, cited, listed, rfl⟩ := mem_dedupeStrings.mp resolved
          rw [strip_strip] at stripped
          exact ⟨cited, List.mem_append_right _ listed, stripped⟩
      · rintro ⟨given, member, rfl⟩
        rcases List.mem_append.mp member with inScope | resolved
        · exact ⟨given, List.mem_append_left _ inScope, rfl⟩
        · refine ⟨strip given, List.mem_append_right _ ?_, strip_strip given⟩
          exact mem_dedupeStrings.mpr ⟨‹_›, given, resolved, rfl⟩

/-- Every record that is cited is in the scope of the second pass. -/
theorem SettlesSources.cited_mem_nextScope
    (settles : SettlesSources text evidence scope)
    {found : List Char × List Char} (listed : found ∈ sourceMatches text)
    {item : EvidenceRecord}
    (resolved : resolvedRecord evidence (scopedIds evidence scope) found.1 =
      some item) :
    item.id ∈ nextScope text evidence scope := by
  rw [mem_nextScope]
  obtain ⟨-, isItem, filled⟩ := resolvedRecord_eq_some.mp resolved
  cases scope with
  | none => exact List.mem_map_of_mem (mem_of_resolveEvidence isItem).1
  | some ids =>
      have member : item.id ∈ ids ++ resolvedEvidenceIds evidence ids text :=
        List.mem_append_right _
          (mem_resolvedEvidenceIds.mpr ⟨found, listed, item, resolved, rfl⟩)
      have clean := (settles.cited found listed item resolved).1
      exact List.mem_filter.mpr
        ⟨List.mem_map.mpr ⟨item.id, member, clean⟩, decide_eq_true filled⟩

theorem nextScope_filled {ids : List String} (isScope : scope = some ids)
    {id : String} (member : id ∈ nextScope text evidence scope) :
    id ≠ "" := by
  subst isScope
  rw [mem_nextScope] at member
  exact of_decide_eq_true (List.mem_filter.mp member).2

theorem resolvedRecord_congr {first second : List String}
    (same : ∀ item ∈ evidence, item.id ∈ first ↔ item.id ∈ second)
    (token : List Char) :
    resolvedRecord evidence first token =
      resolvedRecord evidence second token := by
  unfold resolvedRecord
  rw [resolveEvidence_congr same]

/-- The canonical token of a cited record resolves to a record of the same
canonical token. -/
theorem SettlesSources.resolvesAgain
    (settles : SettlesSources text evidence scope)
    {found : List Char × List Char} (listed : found ∈ sourceMatches text)
    {item : EvidenceRecord}
    (resolved : resolvedRecord evidence (scopedIds evidence scope) found.1 =
      some item) :
    ∃ other,
      resolvedRecord evidence (nextScope text evidence scope)
          (recordMarker item).1 = some other ∧
        reportToken other = reportToken item ∧
        other.id ∈ nextScope text evidence scope ∧
        (scope = none → other.id = item.id) := by
  obtain ⟨-, isItem, filled⟩ := resolvedRecord_eq_some.mp resolved
  have member := (mem_of_resolveEvidence isItem).1
  have named := reportToken_named filled
  have inScope := settles.cited_mem_nextScope listed resolved
  obtain ⟨other, -, found'⟩ :=
    exists_resolveEvidence member named (nextScope text evidence scope)
  have sameResolution : resolveEvidence evidence
      (nextScope text evidence scope) (reportToken item) =
        resolveEvidence evidence (reachedIds text evidence scope)
          (reportToken item) :=
    resolveEvidence_congr (fun _ _ => mem_nextScope) _
  obtain ⟨sameToken, sameId⟩ :=
    settles.again found listed item resolved other
      (sameResolution.symm.trans found')
  have otherInScope :=
    resolveEvidence_mem_scope member named inScope found'
  refine ⟨other, ?_, sameToken, otherInScope, sameId⟩
  have valid := (settles.cited found listed item resolved).2
  unfold recordMarker
  dsimp only
  rw [resolvedRecord_eq_some, String.ofList_toList]
  refine ⟨valid, found', ?_⟩
  cases isScope : scope with
  | none =>
      rw [sameId isScope]
      exact filled
  | some ids => exact nextScope_filled isScope otherInScope

/-- A token of no record stays one. -/
theorem SettlesSources.unresolvedAgain
    (settles : SettlesSources text evidence scope)
    {found : List Char × List Char} (listed : found ∈ sourceMatches text)
    (unresolved : resolvedRecord evidence (scopedIds evidence scope)
      found.1 = none) :
    resolvedRecord evidence (nextScope text evidence scope) found.1 =
      none := by
  rw [resolvedRecord_congr fun item _ => @mem_nextScope _ _ _ item.id]
  exact settles.stays found listed unresolved

/-- The second pass on what the first one made of a marker. -/
theorem SettlesSources.keptAgain
    (settles : SettlesSources text evidence scope)
    {found kept : List Char × List Char}
    (listed : found ∈ sourceMatches text)
    (isKept : keptMarker evidence (scopedIds evidence scope) found =
      some kept) :
    isValidSourceToken (String.ofList kept.1) ∧
      canonicalMatch evidence (nextScope text evidence scope)
        kept.1 kept.2 = kept.2 := by
  obtain ⟨token, whole⟩ := found
  by_cases valid : isValidSourceToken (String.ofList token)
  · cases resolved : resolvedRecord evidence (scopedIds evidence scope)
        token with
    | none =>
        rw [keptMarker_of_unresolved valid resolved,
          Option.some.injEq] at isKept
        subst isKept
        refine ⟨valid, ?_⟩
        rw [canonicalMatch, if_pos valid,
          settles.unresolvedAgain listed resolved]
    | some item =>
        rw [keptMarker_of_resolved resolved, Option.some.injEq] at isKept
        subst isKept
        obtain ⟨other, again, sameToken, -⟩ :=
          settles.resolvesAgain listed resolved
        have validAgain := (resolvedRecord_eq_some.mp again).1
        refine ⟨validAgain, ?_⟩
        rw [canonicalMatch, if_pos validAgain, again]
        dsimp only
        rw [sameToken, recordMarker]
  · rw [keptMarker_of_malformed valid] at isKept
    cases isKept

theorem SettlesSources.sourceMatches_eq
    (settles : SettlesSources text evidence scope) :
    sourceMatches (normalizeReportSourceTokens text evidence scope).reportMd =
      (sourceMatches text).filterMap
        (keptMarker evidence (scopedIds evidence scope)) :=
  sourceMatches_normalizedReportMd
    (fun found listed item resolved =>
      (settles.cited found listed item resolved).2)
    settles.unjoined

theorem SettlesSources.sameText
    (settles : SettlesSources text evidence scope) :
    (normalizedAgain text evidence scope).reportMd =
      (normalizeReportSourceTokens text evidence scope).reportMd := by
  have kept := @substituteFrom_eq_drop
    (canonicalMatch evidence (nextScope text evidence scope))
    (normalizeReportSourceTokens text evidence scope).reportMd.toList 0
  have again : ∀ found ∈ sourceMatches
      (normalizeReportSourceTokens text evidence scope).reportMd,
      canonicalMatch evidence (nextScope text evidence scope)
        found.1 found.2 = found.2 := by
    intro found member
    rw [settles.sourceMatches_eq] at member
    obtain ⟨original, listed, isKept⟩ := List.mem_filterMap.mp member
    exact (settles.keptAgain listed isKept).2
  change String.ofList (substituteFrom
    (canonicalMatch evidence (nextScope text evidence scope)) 0
    (normalizeReportSourceTokens text evidence scope).reportMd.toList) = _
  rw [kept again, List.drop_zero, String.ofList_toList]

/-- The ids of the second pass are found among those of the first. -/
theorem SettlesSources.resolvedAgain_subset
    (settles : SettlesSources text evidence scope) :
    ∀ id ∈ resolvedEvidenceIds evidence (nextScope text evidence scope)
        (normalizeReportSourceTokens text evidence scope).reportMd,
      id ∈ nextScope text evidence scope := by
  intro id member
  obtain ⟨found, listed, item, resolved, rfl⟩ :=
    mem_resolvedEvidenceIds.mp member
  rw [settles.sourceMatches_eq] at listed
  obtain ⟨⟨token, whole⟩, inText, isKept⟩ := List.mem_filterMap.mp listed
  by_cases valid : isValidSourceToken (String.ofList token)
  · cases first : resolvedRecord evidence (scopedIds evidence scope)
        token with
    | none =>
        rw [keptMarker_of_unresolved valid first,
          Option.some.injEq] at isKept
        subst isKept
        rw [settles.unresolvedAgain inText first] at resolved
        cases resolved
    | some record =>
        rw [keptMarker_of_resolved first, Option.some.injEq] at isKept
        subst isKept
        obtain ⟨other, again, -, inScope, -⟩ :=
          settles.resolvesAgain inText first
        rw [again, Option.some.injEq] at resolved
        exact resolved ▸ inScope
  · rw [keptMarker_of_malformed valid] at isKept
    cases isKept

/-- Without a scope both passes read the same ids. -/
theorem SettlesSources.resolvedAgain_eq
    (settles : SettlesSources text evidence none) :
    resolvedEvidenceIds evidence (scopedIds evidence none)
        (normalizeReportSourceTokens text evidence none).reportMd =
      resolvedEvidenceIds evidence (scopedIds evidence none) text := by
  unfold resolvedEvidenceIds
  rw [settles.sourceMatches_eq, List.filterMap_filterMap,
    List.map_filterMap, List.map_filterMap]
  apply List.filterMap_congr
  intro found listed
  obtain ⟨token, whole⟩ := found
  by_cases valid : isValidSourceToken (String.ofList token)
  · cases first : resolvedRecord evidence (scopedIds evidence none) token with
    | none =>
        rw [keptMarker_of_unresolved valid first, Option.bind_some]
        exact congrArg _ first
    | some record =>
        obtain ⟨other, again, -, -, sameId⟩ :=
          settles.resolvesAgain listed first
        rw [nextScope, Option.map_none] at again
        rw [keptMarker_of_resolved first, Option.bind_some, again,
          Option.map_some, Option.map_some, sameId rfl]
  · rw [keptMarker_of_malformed valid, Option.bind_none]
    unfold resolvedRecord
    rw [if_neg valid]

theorem evidenceIds_of_noScope (text : String)
    (evidence : List EvidenceRecord) :
    (normalizeReportSourceTokens text evidence none).evidenceIds =
      if dedupeStrings (resolvedEvidenceIds evidence
          (scopedIds evidence none) text) ≠ [] then
        dedupeStrings (resolvedEvidenceIds evidence
          (scopedIds evidence none) text)
      else evidence.map (·.id) := rfl

theorem evidenceIds_of_scope (text : String)
    (evidence : List EvidenceRecord) (ids : List String) :
    (normalizeReportSourceTokens text evidence (some ids)).evidenceIds =
      dedupeStrings (ids ++ dedupeStrings
        (resolvedEvidenceIds evidence ids text)) := rfl

theorem SettlesSources.sameIds
    (settles : SettlesSources text evidence scope) :
    (normalizedAgain text evidence scope).evidenceIds =
      (normalizeReportSourceTokens text evidence scope).evidenceIds := by
  unfold normalizedAgain
  dsimp only
  cases scope with
  | none =>
      rw [Option.map_none, evidenceIds_of_noScope, settles.resolvedAgain_eq,
        ← evidenceIds_of_noScope]
  | some ids =>
      have inside := settles.resolvedAgain_subset
      unfold nextScope at inside
      rw [Option.map_some] at inside ⊢
      rw [evidenceIds_of_scope]
      change ∀ id ∈ resolvedEvidenceIds evidence
        (normalizeReportSourceTokens text evidence (some ids)).evidenceIds _,
          id ∈ (normalizeReportSourceTokens text evidence
            (some ids)).evidenceIds at inside
      have deduped := evidenceIds_of_scope text evidence ids
      apply dedupeStrings_append_eq_left
      · rw [deduped]
        exact orderedUnique_nodup _
      · intro value member
        rw [deduped] at member
        obtain ⟨filled, given, -, rfl⟩ := mem_dedupeStrings.mp member
        exact ⟨strip_strip given, filled⟩
      · intro value member _
        obtain ⟨-, given, listed, rfl⟩ := mem_dedupeStrings.mp member
        have inScope := inside given listed
        rw [deduped] at inScope ⊢
        obtain ⟨-, original, -, rfl⟩ := mem_dedupeStrings.mp inScope
        rw [strip_strip, strip_strip]
        exact inScope

theorem SettlesSources.canonical
    (settles : SettlesSources text evidence scope)
    {found : List Char × List Char} (listed : found ∈ sourceMatches text)
    {item : EvidenceRecord}
    (resolved : resolvedRecord evidence (scopedIds evidence scope) found.1 =
      some item) :
    item.id ∈
        (normalizeReportSourceTokens text evidence scope).evidenceIds ∧
      recordMarker item ∈ sourceMatches
        (normalizeReportSourceTokens text evidence scope).reportMd := by
  constructor
  · have cited := mem_resolvedEvidenceIds.mpr
      ⟨found, listed, item, resolved, rfl⟩
    cases scope with
    | some ids => exact settles.cited_mem_nextScope listed resolved
    | none =>
        have member : item.id ∈ dedupeStrings
            (resolvedEvidenceIds evidence (scopedIds evidence none) text) :=
          (mem_dedupeStrings_of_clean settles.cleanResolved).mpr cited
        rw [evidenceIds_of_noScope, if_pos (List.ne_nil_of_mem member)]
        exact member
  · rw [settles.sourceMatches_eq, List.mem_filterMap]
    exact ⟨found, listed, keptMarker_of_resolved resolved⟩

end SecondPass

/-- A text whose markers can be cut out without joining others is normalised
once and for all, if the records it cites have canonical tokens of their
own. -/
theorem normalizeReportSourceTokens_settles {reportMd : String}
    {evidence : List EvidenceRecord} {scope : Option (List String)}
    (settles : SettlesSources reportMd evidence scope) :
    NormalisesSources reportMd evidence scope := by
  constructor
  case sameText => exact settles.sameText
  case sameIds => exact settles.sameIds
  case wellFormed =>
    intro found member
    rw [settles.sourceMatches_eq] at member
    obtain ⟨original, listed, isKept⟩ := List.mem_filterMap.mp member
    exact (settles.keptAgain listed isKept).1
  case canonical =>
    intro found listed item resolved
    exact settles.canonical listed resolved
  case outside =>
    exact outsideMarkers_normalizedReportMd
      (fun found listed item resolved =>
        (settles.cited found listed item resolved).2)
      settles.unjoined

namespace NormalisationExample

def quarter : EvidenceRecord :=
  { id := "ev-1"
    projectId := "p"
    rawSourceId := "raw-1" }

/-- A marker by the id of a record, a malformed one and one of no record. -/
def reportMd : String :=
  "Up [source:ev-1], [source:a b]down [source:x]."

theorem quarter_of_resolved {scopeIds : List String} {token : List Char}
    {item : EvidenceRecord}
    (resolved : resolvedRecord [quarter] scopeIds token = some item) :
    item = quarter := by
  obtain ⟨-, isItem, -⟩ := resolvedRecord_eq_some.mp resolved
  exact List.mem_singleton.mp (mem_of_resolveEvidence isItem).1

theorem settles : SettlesSources reportMd [quarter] (some []) := by
  constructor
  case unjoined => decide +kernel
  case cited =>
    intro found _ item resolved
    rw [quarter_of_resolved resolved]
    decide +kernel
  case again =>
    intro found _ item resolved other again
    rw [quarter_of_resolved resolved,
      List.mem_singleton.mp (mem_of_resolveEvidence again).1]
    exact ⟨rfl, fun _ => rfl⟩
  case stays => decide +kernel

/-- The record is cited by its raw source id and comes into the scope. -/
theorem normalizeReportSourceTokens_settles_quarter :
    (normalizeReportSourceTokens reportMd [quarter] (some [])).reportMd =
        "Up [source:raw-1], down [source:x]." ∧
      (normalizeReportSourceTokens reportMd [quarter]
        (some [])).evidenceIds = ["ev-1"] ∧
      NormalisesSources reportMd [quarter] (some []) := by
  refine ⟨?_, ?_, normalizeReportSourceTokens_settles settles⟩
  · decide +kernel
  · decide +kernel

/-- Cutting the malformed marker out leaves another one. -/
theorem normalizeReportSourceTokens_joins :
    ¬ NormalisesSources "[sou[source:a b]rce:x y]" [] none := by
  intro normalises
  have malformed := normalises.wellFormed
    ("x y".toList, "[source:x y]".toList)
  revert malformed
  decide +kernel

end NormalisationExample

end CompetiScope
