import CompetiScope.BusinessIntel.GateSoundness
import CompetiScope.Identity.ReaderMarkers

/-!
# The citations of a released report

The scanners of the gate see the markers that are spelled without blanks.
What a reader also takes for a marker is never looked up, and an id of the
version that no record has is filtered away before anything is checked.
-/

namespace CompetiScope

open Foundation

/-- A token stands for a record of the report. -/
def ResolvesInReport (input : GateInput) (token : List Char) : Prop :=
  isEvidenceToken input.reportScopedEvidence
    (normalizeSourceToken (String.ofList token)) = true

/-- The ids of the version are ids of the records that were given. -/
structure IdsExist (input : GateInput) : Prop where
  evidence : ∀ id ∈ input.reportVersion.evidenceIds,
    ∃ item ∈ input.evidence, item.id = id
  claims : ∀ id ∈ input.reportVersion.claimIds,
    ∃ claim ∈ input.claims, claim.id = id

/-- Every marker a reader sees stands for a record of the report, and every
id of the version for a record. -/
structure CitationsResolve (input : GateInput) : Prop where
  markers : ∀ suffix token, suffix <:+ input.reportVersion.reportMd.toList →
    readerTokenAt suffix = some token → ResolvesInReport input token
  ids : IdsExist input

/-- The lenient scanner matches nothing at the front, or a token with a blank
beside it. -/
def StartsLoose (suffix : List Char) : Prop :=
  ∀ token, scannedTokenAt suffix = some token → stripChars token ≠ token

/-- The same, asked of the loosely spelled markers only. -/
structure LooseCitationsResolve (input : GateInput) : Prop where
  markers : ∀ suffix token, suffix <:+ input.reportVersion.reportMd.toList →
    readerTokenAt suffix = some token → StartsLoose suffix →
      ResolvesInReport input token
  ids : IdsExist input

/-- A marker that is not blank and not malformed matches the grammar. -/
theorem isValidSourceToken_of_wellFormed {reportMd : String}
    (wellFormed : malformedSourceTokens reportMd = [])
    {found : List Char × List Char} (member : found ∈ sourceMatches reportMd)
    (filled : stripChars found.1 ≠ []) :
    isValidSourceToken (String.ofList found.1) = true := by
  by_contra malformed
  have isFilled : strip (String.ofList found.1) ≠ "" := by
    rw [strip, String.toList_ofList]
    intro empty
    exact filled (String.ofList_injective empty)
  have listed : strip (String.ofList found.1) ∈
      malformedSourceTokens reportMd := by
    refine mem_dedupeStrings.mpr ⟨isFilled, _, ?_, rfl⟩
    rw [List.mem_filter, Bool.eq_false_of_not_eq_true malformed]
    exact ⟨List.mem_map_of_mem member, rfl⟩
  rw [wellFormed] at listed
  cases listed

theorem scannedTokenAt_ne_nil {suffix token : List Char}
    (scanned : scannedTokenAt suffix = some token) : token ≠ [] := by
  obtain ⟨⟨found, length⟩, isFound, rfl⟩ := Option.map_eq_some_iff.mp scanned
  cases suffix with
  | nil => cases isFound
  | cons char text =>
      obtain ⟨_, _, _, -, -, -, -, filled, -⟩ := anySourceTokenAt_spec isFound
      exact filled

theorem mem_sourceTokens_of_tight {reportMd : String}
    (wellFormed : malformedSourceTokens reportMd = [])
    {suffix token : List Char} (isSuffix : suffix <:+ reportMd.toList)
    (scanned : scannedTokenAt suffix = some token)
    (tight : stripChars token = token) :
    String.ofList token ∈ sourceTokens reportMd := by
  have filled := scannedTokenAt_ne_nil scanned
  obtain ⟨⟨found, length⟩, isFound, rfl⟩ := Option.map_eq_some_iff.mp scanned
  have valid : isValidSourceToken (String.ofList found) = true := by
    rcases mem_sourceMatchesFrom isFound reportMd.toList 0 isSuffix with
      ⟨whole, member⟩ | ⟨other, member, char, inToken, bracket⟩
    · apply isValidSourceToken_of_wellFormed wellFormed member
      dsimp only at tight filled ⊢
      rw [tight]
      exact filled
    · exfalso
      have stays : char ∈ stripChars other.1 := by
        rcases mem_stripChars_or_space inToken with inside | space
        · exact inside
        · exact (bracket (isInner_of_isSpace space)).elim
      have otherValid := isValidSourceToken_of_wellFormed wellFormed member
        (List.ne_nil_of_mem stays)
      exact bracket ((isValidSourceToken_inner otherValid).2 char inToken)
  have strict := sourceTokenAt_of_valid isFound valid tight
  exact List.mem_map_of_mem
    (mem_sourceTokensFrom strict reportMd.toList 0 isSuffix)

/-- The markers that are scanned without blanks all resolve. -/
theorem resolves_of_tight [PyRuntime] {library : GateLibrary}
    {input : GateInput} (passed : GatePassed library input)
    {suffix token : List Char}
    (isSuffix : suffix <:+ input.reportVersion.reportMd.toList)
    (scanned : scannedTokenAt suffix = some token)
    (tight : stripChars token = token) : ResolvesInReport input token := by
  have cited := mem_sourceTokens_of_tight passed.wellFormed isSuffix scanned
    tight
  by_contra missing
  have listed : String.ofList token ∈ missingSourceTokens
      input.reportVersion input.reportScopedEvidence := by
    rw [missingSourceTokens, mem_sortedSet, List.mem_filter]
    refine ⟨cited, ?_⟩
    rw [Bool.eq_false_of_not_eq_true missing]
    rfl
  rw [passed.resolved] at listed
  cases listed

/-- The citations of a released report resolve exactly when the markers that
are spelled loosely do and no id dangles. -/
theorem citationsResolve_iff [PyRuntime] {library : GateLibrary}
    {input : GateInput}
    (allowed : (evaluateReportReleaseGate library input).allowed = true) :
    CitationsResolve input ↔ LooseCitationsResolve input := by
  have passed := gatePassed_of_allowed allowed
  constructor
  · rintro ⟨markers, ids⟩
    refine ⟨?_, ids⟩
    intro suffix token isSuffix read _
    exact markers suffix token isSuffix read
  · rintro ⟨loose, ids⟩
    refine ⟨?_, ids⟩
    intro suffix token isSuffix read
    by_cases startsLoose : StartsLoose suffix
    · exact loose suffix token isSuffix read startsLoose
    · unfold StartsLoose at startsLoose
      push Not at startsLoose
      obtain ⟨scannedToken, scanned, tight⟩ := startsLoose
      have asRead := readerTokenAt_of_scanned scanned
        (by rw [tight]; exact scannedTokenAt_ne_nil scanned)
      rw [read, tight, Option.some.injEq] at asRead
      rw [asRead]
      exact resolves_of_tight passed isSuffix scanned tight

namespace ReleasedExample

local instance citationsExampleRuntime : PyRuntime := asciiRuntime

theorem citationsResolve_iff_pricing :
    CitationsResolve input ↔ LooseCitationsResolve input :=
  citationsResolve_iff input_allowed

/-- The gate allows a report with a marker of no record, an evidence id of no
record and a claim id of no claim. -/
theorem citations_dangle :
    (evaluateReportReleaseGate library input).allowed = true ∧
      (∃ suffix token, suffix <:+ input.reportVersion.reportMd.toList ∧
        readerTokenAt suffix = some token ∧
          ¬ ResolvesInReport input token) ∧
        (∃ id ∈ input.reportVersion.evidenceIds,
          ∀ item ∈ input.evidence, item.id ≠ id) ∧
          ∃ id ∈ input.reportVersion.claimIds,
            ∀ claim ∈ input.claims, claim.id ≠ id := by
  have read : readerTokenAt reportBack = some "ghost".toList := by
    decide +kernel
  have missing : isEvidenceToken [pricingPage]
      (normalizeSourceToken (String.ofList "ghost".toList)) = false := by
    decide +kernel
  have isSuffix : reportBack <:+ input.reportVersion.reportMd.toList := by
    show reportBack <:+ (String.ofList reportChars).toList
    rw [String.toList_ofList]
    exact List.suffix_append _ _
  refine ⟨input_allowed, ⟨reportBack, _, isSuffix, read, ?_⟩, ?_, ?_⟩
  · rw [ResolvesInReport, input_scoped.2.2, missing]
    exact nofun
  · exact ⟨"evidence-ghost", by decide, by decide⟩
  · exact ⟨"claim-ghost", by decide, by decide⟩

end ReleasedExample

end CompetiScope
