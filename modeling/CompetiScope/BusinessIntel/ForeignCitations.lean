import CompetiScope.BusinessIntel.CitationPolicy
import CompetiScope.Identity.SpacedTokens

/-!
# Foreign citations of repaired lines

The references that are put behind a line are chosen for the whole run.  They
belong to the subject of the line just when the run's first strong records do.
-/

namespace CompetiScope

open Foundation

/-! ## Tokens of a repaired line -/

/-- The references to no record hold no token, and neither does the sentence
that stands for them. -/
theorem sourceTokensFrom_withReferences (downgraded : List Char)
    (sourceIds : List String) :
    sourceTokensFrom 0 (withReferences downgraded sourceIds) =
      sourceTokensFrom 0 downgraded ++
        sourceTokensFrom 0 (references sourceIds) := by
  have isBlank : isSpace ' ' = true := by decide
  unfold withReferences
  split
  · next noIds =>
      have opens : noCitationText.toList =
          ' ' :: noCitationText.toList.tail := by
        decide +kernel
      have noTokens : sourceTokensFrom 0 noCitationText.toList.tail = [] := by
        decide +kernel
      rw [opens, sourceTokensFrom_append_space isBlank _ (Nat.zero_le _),
        noTokens, noIds]
      rfl
  · rw [sourceTokensFrom_rdropWhile,
      sourceTokensFrom_append_space isBlank _ (Nat.zero_le _)]

/-- The tokens of a line. -/
def lineTokens (line : List Char) : List String :=
  sourceTokens (String.ofList line)

theorem mem_lineTokens_withReferences {downgraded : List Char}
    {sourceIds : List String} {token : String} :
    token ∈ lineTokens (withReferences downgraded sourceIds) ↔
      token ∈ lineTokens downgraded ∨
        token ∈ lineTokens (references sourceIds) := by
  unfold lineTokens sourceTokens
  rw [String.toList_ofList, String.toList_ofList, String.toList_ofList,
    sourceTokensFrom_withReferences, List.map_append, List.mem_append]

section Repair

variable [PyRuntime] [UrlTables]
  {evidence : List EvidenceRecord} {reportMd : List Char}

/-! ## The lines of a repaired report -/

/-- `repaired_lines`, also of a report without violations. -/
def repairedLines (reportMd : List Char) (evidence : List EvidenceRecord) :
    Option (List (List Char)) :=
  match reportCitationPolicyViolations reportMd evidence with
  | none => none
  | some violations =>
      repairedLinesFrom evidence (violations.map (·.lineNumber)) 1
        (splitLinesFrom [] reportMd)

theorem repairedLinesFrom_eq {sourceIds : List String}
    (isIds : sourceIdsForReportLinePolicy evidence true 2 = some sourceIds)
    (numbers : List Nat) (lineNumber : Nat) (lines : List (List Char)) :
    repairedLinesFrom evidence numbers lineNumber lines =
      some (lines.mapIdx fun index line =>
        if lineNumber + index ∈ numbers then
          withReferences (rewordedLine line) sourceIds
        else line) := by
  induction lines generalizing lineNumber with
  | nil => rfl
  | cons line lines induction =>
      have here : (if lineNumber ∈ numbers then
            repairStrongConclusionLine line evidence
          else some line) =
          some (if lineNumber ∈ numbers then
            withReferences (rewordedLine line) sourceIds else line) := by
        unfold repairStrongConclusionLine
        rw [isIds]
        split
        · rfl
        · rfl
      rw [repairedLinesFrom, here]
      dsimp only
      rw [induction, List.mapIdx_cons, Option.map_some]
      simp only [Nat.add_zero, Nat.add_assoc, Nat.add_comm 1]

/-- A line is repaired only when the references are found. -/
theorem exists_sourceIds {numbers : List Nat} {lineNumber index : Nat}
    {lines repaired : List (List Char)}
    (isRepaired : repairedLinesFrom evidence numbers lineNumber lines =
      some repaired)
    (inside : index < lines.length)
    (violated : lineNumber + index ∈ numbers) :
    ∃ sourceIds,
      sourceIdsForReportLinePolicy evidence true 2 = some sourceIds := by
  induction lines generalizing lineNumber index repaired with
  | nil => exact absurd inside (Nat.not_lt_zero index)
  | cons line lines induction =>
      rw [repairedLinesFrom] at isRepaired
      cases index with
      | zero =>
          rw [Nat.add_zero] at violated
          rw [if_pos violated] at isRepaired
          unfold repairStrongConclusionLine at isRepaired
          cases found : sourceIdsForReportLinePolicy evidence true 2 with
          | none =>
              rw [found] at isRepaired
              cases isRepaired
          | some sourceIds => exact ⟨sourceIds, rfl⟩
      | succ index =>
          split at isRepaired
          · cases isRepaired
          · obtain ⟨later, isLater, -⟩ := Option.map_eq_some_iff.mp isRepaired
            apply induction isLater
            · exact Nat.lt_of_succ_lt_succ inside
            · rw [Nat.add_assoc, Nat.add_comm 1]
              exact violated

theorem lineNumber_of_lineViolation
    {byToken : Dict String EvidenceRecord} {heading line : List Char}
    {lineNumber : Nat} {violations : List ReportCitationPolicyViolation}
    (found : lineViolation byToken heading lineNumber line =
      some violations) :
    ∀ violation ∈ violations, violation.lineNumber = lineNumber := by
  unfold lineViolation at found
  split at found
  · obtain rfl := Option.some.inj found
    exact List.forall_mem_nil _
  · split at found
    · cases found
    · obtain rfl := Option.some.inj found
      exact List.forall_mem_nil _
    · obtain ⟨decisions, -, rfl⟩ := Option.map_eq_some_iff.mp found
      intro violation member
      rw [List.mem_singleton.mp member]

theorem lineNumber_le {byToken : Dict String EvidenceRecord}
    {heading : List Char} {lineNumber : Nat} {lines : List (List Char)}
    {violations : List ReportCitationPolicyViolation}
    (found : violationsFrom byToken heading lineNumber lines =
      some violations) :
    ∀ violation ∈ violations, lineNumber ≤ violation.lineNumber := by
  induction lines generalizing heading lineNumber violations with
  | nil =>
      obtain rfl := Option.some.inj found
      exact List.forall_mem_nil _
  | cons line lines induction =>
      rw [violationsFrom] at found
      split at found
      · intro violation member
        exact Nat.le_of_succ_le (induction found violation member)
      · split at found
        · cases found
        · next here isHere =>
            obtain ⟨later, isLater, rfl⟩ := Option.map_eq_some_iff.mp found
            intro violation member
            rcases List.mem_append.mp member with early | late
            · exact Nat.le_of_eq
                (lineNumber_of_lineViolation isHere violation early).symm
            · exact Nat.le_of_succ_le (induction isLater violation late)

/-! ## Subjects -/

/-- Records about the same dimension of the same competitor. -/
def SameSubject (first second : EvidenceRecord) : Prop :=
  first.competitorId = second.competitorId ∧
    first.dimension = second.dimension

/-- A token of a line stands for a record. -/
def LineCites (evidence : List EvidenceRecord) (line : List Char)
    (token : String) (item : EvidenceRecord) : Prop :=
  token ∈ lineTokens line ∧
    (policyEvidenceByToken evidence).get? (normalizeSourceToken token) =
      some item

/-- Each citation of a repaired line is a strong one that the line had, or
one of the subject of another that it had. -/
def KeepsSubject (evidence : List EvidenceRecord)
    (line repaired : List Char) : Prop :=
  ∀ token item, LineCites evidence repaired token item →
    (evidenceCanSupportStrongReportSection item = some true ∧
      ∃ old, LineCites evidence line old item) ∨
    ∃ old other, LineCites evidence line old other ∧ SameSubject item other

/-- What a repair promises of the citations of the lines it repairs. -/
def AttachesNothingForeign (reportMd : List Char)
    (evidence : List EvidenceRecord) : Prop :=
  ∀ result, repairReportCitationPolicy reportMd evidence = some result →
    ∃ lines, repairedLines reportMd evidence = some lines ∧
      (result.violations ≠ [] → result.reportMd = joinLines lines) ∧
      ∀ violation ∈ result.violations, ∀ line repaired,
        (splitLinesFrom [] reportMd)[violation.lineNumber - 1]? = some line →
          lines[violation.lineNumber - 1]? = some repaired →
            KeepsSubject evidence line repaired

/-- The references, and any citation that deleting and rewording forms, are
of the subject of a citation of the line. -/
structure OwnReferences (evidence : List EvidenceRecord)
    (sourceIds : List String) (line : List Char) : Prop where
  attached : ∀ token item, LineCites evidence (references sourceIds) token item →
    ∃ old other, LineCites evidence line old other ∧ SameSubject item other
  formed : ∀ token item, LineCites evidence (rewordedLine line) token item →
    token ∉ lineTokens line →
      ∃ old other, LineCites evidence line old other ∧ SameSubject item other

theorem keepsSubject_withReferences_iff {line : List Char}
    {sourceIds : List String} :
    KeepsSubject evidence line
        (withReferences (rewordedLine line) sourceIds) ↔
      OwnReferences evidence sourceIds line := by
  have own : ∀ item, ((evidenceCanSupportStrongReportSection item =
        some true ∧ ∃ old, LineCites evidence line old item) ∨
      ∃ old other, LineCites evidence line old other ∧ SameSubject item other) →
      ∃ old other, LineCites evidence line old other ∧
        SameSubject item other := by
    rintro item (⟨-, old, cited⟩ | found)
    · exact ⟨old, item, cited, rfl, rfl⟩
    · exact found
  constructor
  · intro keeps
    constructor
    case attached =>
      rintro token item ⟨member, resolved⟩
      exact own item (keeps token item
        ⟨mem_lineTokens_withReferences.mpr (.inr member), resolved⟩)
    case formed =>
      rintro token item ⟨member, resolved⟩ -
      exact own item (keeps token item
        ⟨mem_lineTokens_withReferences.mpr (.inl member), resolved⟩)
  · rintro references token item ⟨member, resolved⟩
    right
    rcases mem_lineTokens_withReferences.mp member with kept | added
    · by_cases known : token ∈ lineTokens line
      · exact ⟨token, item, ⟨known, resolved⟩, rfl, rfl⟩
      · exact references.formed token item ⟨kept, resolved⟩ known
    · exact references.attached token item ⟨added, resolved⟩

end Repair

namespace ForeignExample

attribute [local instance] asciiRuntime asciiUrlTables

/-- A survey about the prices of one competitor. -/
def survey : EvidenceRecord :=
  { id := "e1"
    projectId := "project"
    rawSourceId := "s1"
    competitorId := "B"
    dimension := "pricing"
    sourceType := "survey_response"
    reliabilityScore := 1 / 2 }

/-- The documents of another. -/
def documents : EvidenceRecord :=
  { id := "e2"
    projectId := "project"
    rawSourceId := "s2"
    competitorId := "A"
    dimension := "security"
    sourceType := "official_docs"
    url := some "https://a.example/docs"
    reliabilityScore := 1 }

def reportMd : List Char :=
  "B is the winner [source:s1]".toList

end ForeignExample

end CompetiScope
