import CompetiScope.Foundation.Collections
import CompetiScope.Identity.SourceTokens
import CompetiScope.Schema.Enterprise

/-!
# Source tokens in canonical form

A report cites its sources by tokens.  A token that names an evidence record
is rewritten to the record's canonical token and puts the record into the
scope of the report; a malformed token is dropped.
-/

namespace CompetiScope

open Foundation

/-- `evidence_source_tokens`. -/
def evidenceSourceTokens (evidence : EvidenceRecord) : List String :=
  (([evidence.id, evidence.rawSourceId] ++
    stringList (evidence.metadata.get? "raw_source_aliases")).filter
      (· ≠ "")).map normalizeSourceToken

/-- `_canonical_report_token`, or what stands for it in a report. -/
def reportToken (evidence : EvidenceRecord) : String :=
  if normalizeSourceToken evidence.rawSourceId ≠ "" then
    normalizeSourceToken evidence.rawSourceId
  else if normalizeSourceToken evidence.id ≠ "" then
    normalizeSourceToken evidence.id
  else if evidence.rawSourceId ≠ "" then evidence.rawSourceId
  else evidence.id

/-- The record a token stands for in a `SourceResolutionIndex`: one in scope
before one outside, a later one before an earlier one. -/
def resolveEvidence (evidence : List EvidenceRecord)
    (scopedEvidenceIds : List String) (token : String) :
    Option EvidenceRecord :=
  let named := evidence.reverse.filter fun item =>
    normalizeSourceToken token ∈ evidenceSourceTokens item
  (named.find? fun item => item.id ∈ scopedEvidenceIds).or named.head?

theorem mem_of_resolveEvidence {evidence : List EvidenceRecord}
    {scopedEvidenceIds : List String} {token : String} {item : EvidenceRecord}
    (resolved : resolveEvidence evidence scopedEvidenceIds token = some item) :
    item ∈ evidence ∧
      normalizeSourceToken token ∈ evidenceSourceTokens item := by
  have isNamed : item ∈ evidence.reverse.filter fun item =>
      normalizeSourceToken token ∈ evidenceSourceTokens item := by
    rw [resolveEvidence, Option.or_eq_some_iff] at resolved
    rcases resolved with inScope | ⟨-, isHead⟩
    · exact List.mem_of_find?_eq_some inScope
    · exact List.mem_of_head? isHead
  obtain ⟨member, named⟩ := List.mem_filter.mp isNamed
  exact ⟨List.mem_reverse.mp member, of_decide_eq_true named⟩

/-- A token of a record resolves. -/
theorem exists_resolveEvidence {evidence : List EvidenceRecord}
    {token : String} {item : EvidenceRecord} (member : item ∈ evidence)
    (named : normalizeSourceToken token ∈ evidenceSourceTokens item)
    (scopedEvidenceIds : List String) :
    ∃ record ∈ evidence,
      resolveEvidence evidence scopedEvidenceIds token = some record := by
  have isNamed : item ∈ evidence.reverse.filter fun item =>
      normalizeSourceToken token ∈ evidenceSourceTokens item :=
    List.mem_filter.mpr ⟨List.mem_reverse.mpr member, decide_eq_true named⟩
  cases resolved : resolveEvidence evidence scopedEvidenceIds token with
  | some record => exact ⟨record, (mem_of_resolveEvidence resolved).1, rfl⟩
  | none =>
      rw [resolveEvidence, Option.or_eq_none_iff,
        List.head?_eq_none_iff] at resolved
      rw [resolved.2] at isNamed
      cases isNamed

/-- `is_valid_source_token`. -/
def isValidSourceToken (token : String) : Bool :=
  let text := stripChars token.toList
  text ≠ [] && text.all fun char =>
    char.isAlphanum || char ∈ ['_', '.', ':', '#', '-']

/-- A match of `ANY_SOURCE_TOKEN_RE` at the front: the token and the length
of the match. -/
def anySourceTokenAt : List Char → Option (List Char × Nat)
  | [] => none
  | char :: text =>
      let closing : Option Char :=
        if char = '[' then some ']'
        else if char.toNat = 0x3010 then some (Char.ofNat 0x3011)
        else none
      match closing, sourceKeyword text with
      | some close, some body =>
          let token := body.takeWhile (· ≠ close)
          if token ≠ [] ∧ token.length < body.length then
            some (token,
              1 + (text.length - body.length) + token.length + 1)
          else none
      | _, _ => none

/-- The tokens of a text with the text of their matches; `skip` characters
belong to the match already reported. -/
def sourceMatchesFrom (skip : Nat) :
    List Char → List (List Char × List Char)
  | [] => []
  | char :: text =>
      match skip with
      | skip + 1 => sourceMatchesFrom skip text
      | 0 =>
          match anySourceTokenAt (char :: text) with
          | some (token, length) =>
              (token, (char :: text).take length) ::
                sourceMatchesFrom (length - 1) text
          | none => sourceMatchesFrom 0 text

def sourceMatches (text : String) : List (List Char × List Char) :=
  sourceMatchesFrom 0 text.toList

/-- `ANY_SOURCE_TOKEN_RE.sub`. -/
def substituteFrom (replace : List Char → List Char → List Char)
    (skip : Nat) : List Char → List Char
  | [] => []
  | char :: text =>
      match skip with
      | skip + 1 => substituteFrom replace skip text
      | 0 =>
          match anySourceTokenAt (char :: text) with
          | some (token, length) =>
              replace token ((char :: text).take length) ++
                substituteFrom replace (length - 1) text
          | none => char :: substituteFrom replace 0 text

/-- The record a match is canonicalised to. -/
def resolvedRecord (evidence : List EvidenceRecord)
    (scopedEvidenceIds : List String) (token : List Char) :
    Option EvidenceRecord :=
  if isValidSourceToken (String.ofList token) then
    (resolveEvidence evidence scopedEvidenceIds (String.ofList token)).filter
      fun item => item.id ≠ ""
  else none

/-- What `replace` puts in the place of a match. -/
def canonicalMatch (evidence : List EvidenceRecord)
    (scopedEvidenceIds : List String) (token whole : List Char) :
    List Char :=
  if isValidSourceToken (String.ofList token) then
    match resolvedRecord evidence scopedEvidenceIds token with
    | some item => ("[source:" ++ reportToken item ++ "]").toList
    | none => whole
  else []

/-- `dedupe_strings`. -/
def dedupeStrings (values : List String) : List String :=
  orderedUnique ((values.map strip).filter (· ≠ ""))

/-- The evidence ids the tokens of a text resolve to. -/
def resolvedEvidenceIds (evidence : List EvidenceRecord)
    (scopedEvidenceIds : List String) (reportMd : String) : List String :=
  ((sourceMatches reportMd).filterMap fun found =>
    resolvedRecord evidence scopedEvidenceIds found.1).map (·.id)

/-- The text of `normalize_report_source_tokens`. -/
def normalizedReportMd (evidence : List EvidenceRecord)
    (scopedEvidenceIds : List String) (reportMd : String) : String :=
  String.ofList
    (substituteFrom (canonicalMatch evidence scopedEvidenceIds) 0
      reportMd.toList)

/-- The evidence ids of `normalize_report_source_tokens`. -/
def normalizedEvidenceIds (evidence : List EvidenceRecord)
    (scopedEvidenceIds : List String) (reportMd : String) : List String :=
  dedupeStrings (scopedEvidenceIds ++
    dedupeStrings
      (resolvedEvidenceIds evidence scopedEvidenceIds reportMd))

/-! ## Texts already in canonical form -/

/-- Normalisation leaves the text as it is. -/
def CanonicalText (evidence : List EvidenceRecord)
    (scopedEvidenceIds : List String) (text : String) : Prop :=
  normalizedReportMd evidence scopedEvidenceIds text = text

/-- A substitution that keeps every match keeps the text. -/
theorem substituteFrom_eq_drop
    {replace : List Char → List Char → List Char} (text : List Char) :
    ∀ skip, (∀ found ∈ sourceMatchesFrom skip text,
      replace found.1 found.2 = found.2) →
        substituteFrom replace skip text = text.drop skip := by
  induction text with
  | nil =>
      intro skip _
      cases skip <;> rfl
  | cons char text induction =>
      intro skip kept
      cases skip with
      | succ skip => exact induction skip kept
      | zero =>
          rw [substituteFrom]
          simp only [sourceMatchesFrom] at kept
          split
          · next token length found =>
              rw [found] at kept
              have here := kept _ List.mem_cons_self
              have later := induction (length - 1)
                fun other member => kept other (List.mem_cons_of_mem _ member)
              have positive : length ≠ 0 := by
                rintro rfl
                simp only [anySourceTokenAt] at found
                split at found
                · split at found
                  · cases found
                  · cases found
                · cases found
              obtain ⟨rest, rfl⟩ := Nat.exists_eq_succ_of_ne_zero positive
              rw [here, later]
              exact List.take_append_drop (rest + 1) (char :: text)
          · next missing =>
              rw [missing] at kept
              exact congrArg (char :: ·) (induction 0 kept)

/-! ## Scopes that cover a text -/

/-- The ids are what `dedupe_strings` leaves alone, and every record the text
names is among them. -/
structure ScopeCovers (evidence : List EvidenceRecord)
    (scopedEvidenceIds : List String) (text : String) : Prop where
  distinct : scopedEvidenceIds.Nodup
  clean : ∀ id ∈ scopedEvidenceIds, strip id = id ∧ id ≠ ""
  named : ∀ id ∈ resolvedEvidenceIds evidence scopedEvidenceIds text,
    strip id ≠ "" → strip id ∈ scopedEvidenceIds

theorem mem_dedupeStrings {values : List String} {value : String} :
    value ∈ dedupeStrings values ↔
      value ≠ "" ∧ ∃ given ∈ values, strip given = value := by
  simp only [dedupeStrings, mem_orderedUnique, List.mem_filter, List.mem_map,
    decide_eq_true_eq]
  exact and_comm

theorem map_strip_filter_eq_self {values : List String}
    (clean : ∀ value ∈ values, strip value = value ∧ value ≠ "") :
    (values.map strip).filter (· ≠ "") = values := by
  have stripped : values.map strip = values := by
    calc values.map strip
        = values.map id :=
          List.map_congr_left fun value member => (clean value member).1
      _ = values := List.map_id _
  rw [stripped, List.filter_eq_self]
  intro value member
  exact decide_eq_true (clean value member).2

/-- Values that are there already add nothing. -/
theorem dedupeStrings_append_eq_left {known values : List String}
    (distinct : known.Nodup)
    (clean : ∀ value ∈ known, strip value = value ∧ value ≠ "")
    (covered : ∀ value ∈ values, strip value ≠ "" → strip value ∈ known) :
    dedupeStrings (known ++ values) = known := by
  rw [dedupeStrings, List.map_append, List.filter_append,
    map_strip_filter_eq_self clean]
  apply orderedUnique_append_eq_left distinct
  intro value listed
  obtain ⟨image, filled⟩ := List.mem_filter.mp listed
  obtain ⟨given, member, rfl⟩ := List.mem_map.mp image
  exact covered given member (of_decide_eq_true filled)

theorem normalizedEvidenceIds_eq_iff {evidence : List EvidenceRecord}
    {scopedEvidenceIds : List String} {text : String} :
    normalizedEvidenceIds evidence scopedEvidenceIds text =
        scopedEvidenceIds ↔
      ScopeCovers evidence scopedEvidenceIds text := by
  have member : ∀ id,
      id ∈ normalizedEvidenceIds evidence scopedEvidenceIds text ↔
        id ≠ "" ∧
          ((∃ given ∈ scopedEvidenceIds, strip given = id) ∨
            ∃ given ∈ resolvedEvidenceIds evidence scopedEvidenceIds text,
              strip given = id) := by
    intro id
    rw [normalizedEvidenceIds, mem_dedupeStrings]
    constructor
    · rintro ⟨filled, given, listed, rfl⟩
      rcases List.mem_append.mp listed with inScope | resolved
      · exact ⟨filled, .inl ⟨given, inScope, rfl⟩⟩
      · obtain ⟨-, named, found, rfl⟩ := mem_dedupeStrings.mp resolved
        exact ⟨filled, .inr ⟨named, found, (strip_strip named).symm⟩⟩
    · rintro ⟨filled, ⟨given, inScope, rfl⟩ | ⟨given, resolved, rfl⟩⟩
      · exact ⟨filled, given, List.mem_append_left _ inScope, rfl⟩
      · refine ⟨filled, strip given, List.mem_append_right _ ?_,
          strip_strip given⟩
        exact mem_dedupeStrings.mpr ⟨filled, given, resolved, rfl⟩
  constructor
  · intro same
    have distinct : scopedEvidenceIds.Nodup := by
      rw [← same]
      exact orderedUnique_nodup _
    refine ⟨distinct, ?_, ?_⟩
    · intro id inScope
      rw [← same, member] at inScope
      obtain ⟨filled, ⟨given, -, rfl⟩ | ⟨given, -, rfl⟩⟩ := inScope
      · exact ⟨strip_strip given, filled⟩
      · exact ⟨strip_strip given, filled⟩
    · intro id resolved filled
      rw [← same]
      exact (member _).mpr ⟨filled, .inr ⟨id, resolved, rfl⟩⟩
  · intro covers
    apply dedupeStrings_append_eq_left covers.distinct covers.clean
    intro id listed _
    obtain ⟨filled, named, found, rfl⟩ := mem_dedupeStrings.mp listed
    rw [strip_strip]
    exact covers.named named found filled

end CompetiScope
