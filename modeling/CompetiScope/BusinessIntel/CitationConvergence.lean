import CompetiScope.BusinessIntel.ForeignCitations
import CompetiScope.Enterprise.JoinedLines

/-!
# Convergence of the citation policy

A repaired line may still draw a strong conclusion and cite weak evidence, or
become a heading under which other lines do.  A repair converges just when
neither happens.
-/

namespace CompetiScope

open Foundation

section Convergence

variable [PyRuntime] [UrlTables]

/-- A token that resolves to a record that is not strong. -/
def WeakToken (evidence : List EvidenceRecord) (token : String) : Prop :=
  ∃ item, (policyEvidenceByToken evidence).get? (normalizeSourceToken token) =
      some item ∧
    evidenceCanSupportStrongReportSection item = some false

/-- A line that is in violation under a heading. -/
def Violates (evidence : List EvidenceRecord) (heading line : List Char) :
    Prop :=
  reportSectionPolicy heading line = .strongConclusion ∧
    ∃ token ∈ lineTokens line, WeakToken evidence token

/-- No line is in violation; a heading goes for the lines below it. -/
def NoViolation (evidence : List EvidenceRecord) (heading : List Char) :
    List (List Char) → Prop
  | [] => True
  | line :: lines =>
      match policyHeading line with
      | some heading => NoViolation evidence heading lines
      | none =>
          ¬ Violates evidence heading line ∧
            NoViolation evidence heading lines

/-- Lines in violation come out with strong citations or no strong
conclusion; the other lines are in no violation under the headings that come
out.  The lines stand under the heading `was`, and `now` once repaired. -/
def SettlesFrom (evidence : List EvidenceRecord) (sourceIds : List String)
    (was now : List Char) : List (List Char) → Prop
  | [] => True
  | line :: lines =>
      match policyHeading line with
      | some heading => SettlesFrom evidence sourceIds heading heading lines
      | none =>
          (¬ Violates evidence was line →
            ¬ Violates evidence now line ∧
              SettlesFrom evidence sourceIds was now lines) ∧
          (Violates evidence was line →
            match policyHeading
                (withReferences (rewordedLine line) sourceIds) with
            | some heading =>
                SettlesFrom evidence sourceIds was heading lines
            | none =>
                (reportSectionPolicy now
                    (withReferences (rewordedLine line) sourceIds) =
                      .strongConclusion →
                  (∀ token ∈ lineTokens (rewordedLine line),
                    ¬ WeakToken evidence token) ∧
                  ∀ token ∈ lineTokens (references sourceIds),
                    ¬ WeakToken evidence token) ∧
                SettlesFrom evidence sourceIds was now lines)

/-- Records that can be classified, and referred to on one line. -/
structure ReadableRecords (evidence : List EvidenceRecord) : Prop where
  classified : ∀ item ∈ evidence, classifyEvidenceStrength item ≠ none
  oneLine : ∀ item ∈ evidence, OneLine (reportSourceId item).toList

/-- What a repair promises of the report it returns. -/
def Converges (reportMd : List Char) (evidence : List EvidenceRecord) :
    Prop :=
  ∃ result, repairReportCitationPolicy reportMd evidence = some result ∧
    reportCitationPolicyViolations result.reportMd evidence = some [] ∧
    (∀ index line, (splitLinesFrom [] reportMd)[index]? = some line →
      (∀ violation ∈ result.violations, violation.lineNumber ≠ index + 1) →
        (splitLinesFrom [] result.reportMd)[index]? = some line) ∧
    ∃ again, repairReportCitationPolicy result.reportMd evidence =
      some again ∧ again.reportMd = result.reportMd

/-- A repair settles the report: no violation is left or made, and no empty
line at the end is lost. -/
structure RepairSettles (reportMd : List Char)
    (evidence : List EvidenceRecord) : Prop where
  lines : ∀ sourceIds,
    sourceIdsForReportLinePolicy evidence true 2 = some sourceIds →
      SettlesFrom evidence sourceIds [] [] (splitLinesFrom [] reportMd)
  last : ¬ NoViolation evidence [] (splitLinesFrom [] reportMd) →
    ∀ line ∈ (splitLinesFrom [] reportMd).getLast?, line ≠ []

variable {evidence : List EvidenceRecord}

/-! ## Citations -/

omit [PyRuntime] [UrlTables] in
theorem get?_setPolicyTokens {byToken : Dict String EvidenceRecord}
    {record item : EvidenceRecord} {key : String}
    (found : (setPolicyTokens byToken record).get? key = some item) :
    item = record ∨ byToken.get? key = some item := by
  unfold setPolicyTokens at found
  generalize policySourceTokens record = tokens at found
  induction tokens generalizing byToken with
  | nil => exact .inr found
  | cons token tokens induction =>
      rcases induction found with same | before
      · exact .inl same
      · rw [Dict.get?_set] at before
        split at before
        · exact .inl (Option.some.inj before).symm
        · exact .inr before

omit [PyRuntime] [UrlTables] in
theorem mem_of_policyEvidenceByToken {key : String} {item : EvidenceRecord}
    (found : (policyEvidenceByToken evidence).get? key = some item) :
    item ∈ evidence := by
  have ofRecords : ∀ (records : List EvidenceRecord)
      (start : Dict String EvidenceRecord),
      (records.foldl setPolicyTokens start).get? key = some item →
        item ∈ records ∨ start.get? key = some item := by
    intro records
    induction records with
    | nil => exact fun start isFound => .inr isFound
    | cons record records induction =>
        intro start isFound
        rw [List.foldl_cons] at isFound
        rcases induction (setPolicyTokens start record) isFound with
          inRest | before
        · exact .inl (List.mem_cons_of_mem record inRest)
        · rcases get?_setPolicyTokens before with rfl | earlier
          · exact .inl List.mem_cons_self
          · exact .inr earlier
  rcases ofRecords evidence ∅ found with member | known
  · exact member
  · have nothing : (∅ : Dict String EvidenceRecord).get? key = none := rfl
    rw [nothing] at known
    cases known

omit [PyRuntime] [UrlTables] in
theorem get?_citeToken (byToken result : Dict String EvidenceRecord)
    (token key : String) :
    (citeToken byToken result token).get? key =
      if normalizeSourceToken token = key then
        (byToken.get? key).or (result.get? key)
      else result.get? key := by
  unfold citeToken
  cases found : byToken.get? (normalizeSourceToken token) with
  | none =>
      dsimp only
      by_cases same : normalizeSourceToken token = key
      · rw [if_pos same, ← same, found]
        rfl
      · rw [if_neg same]
  | some item =>
      dsimp only
      rw [Dict.get?_set]
      by_cases same : normalizeSourceToken token = key
      · rw [if_pos same.symm, if_pos same, ← same, found]
        rfl
      · rw [if_neg (Ne.symm same), if_neg same]

omit [PyRuntime] [UrlTables] in
/-- The entries of the cited evidence are the tokens that resolve. -/
theorem get?_citedEvidence {line : List Char}
    {byToken : Dict String EvidenceRecord} {key : String}
    {item : EvidenceRecord} :
    (citedEvidence line byToken).get? key = some item ↔
      byToken.get? key = some item ∧
        ∃ token ∈ lineTokens line, normalizeSourceToken token = key := by
  have scan : ∀ (tokens : List String) (start : Dict String EvidenceRecord),
      (tokens.foldl (citeToken byToken) start).get? key =
        if ∃ token ∈ tokens, normalizeSourceToken token = key then
          (byToken.get? key).or (start.get? key)
        else start.get? key := by
    intro tokens
    induction tokens with
    | nil => simp
    | cons token tokens induction =>
        intro start
        rw [List.foldl_cons, induction, get?_citeToken]
        by_cases same : normalizeSourceToken token = key
        · by_cases later : ∃ token ∈ tokens, normalizeSourceToken token = key
          · rw [if_pos later, if_pos same, if_pos (by simp [same])]
            cases byToken.get? key
            · rfl
            · rfl
          · rw [if_neg later, if_pos same, if_pos (by simp [same])]
        · by_cases later : ∃ token ∈ tokens, normalizeSourceToken token = key
          · rw [if_pos later, if_neg same, if_pos (by simp [later])]
          · rw [if_neg later, if_neg same, if_neg (by simpa [same] using later)]
  unfold citedEvidence
  rw [scan]
  unfold lineTokens
  split
  · next named =>
      have nothing : (∅ : Dict String EvidenceRecord).get? key = none := rfl
      rw [nothing, Option.or_none]
      exact ⟨fun found => ⟨found, named⟩, fun both => both.1⟩
  · next unnamed =>
      constructor
      · intro found
        cases found
      · rintro ⟨-, named⟩
        exact absurd named unnamed

/-! ## Violations -/

/-- What a record supports is known, when it can be classified. -/
theorem exists_supports {item : EvidenceRecord}
    (classified : classifyEvidenceStrength item ≠ none) :
    ∃ isStrong,
      evidenceCanSupportStrongReportSection item = some isStrong := by
  obtain ⟨decision, isDecision⟩ := Option.ne_none_iff_exists'.mp classified
  unfold evidenceCanSupportStrongReportSection
  rw [isDecision]
  exact ⟨_, rfl⟩

theorem weakCited_eq {cited : List (String × EvidenceRecord)}
    (classified : ∀ entry ∈ cited, classifyEvidenceStrength entry.2 ≠ none) :
    weakCited cited = some (cited.filter fun entry =>
      evidenceCanSupportStrongReportSection entry.2 = some false) := by
  induction cited with
  | nil => rfl
  | cons entry cited induction =>
      rw [List.forall_mem_cons] at classified
      obtain ⟨isStrong, known⟩ := exists_supports classified.1
      rw [weakCited, known, induction classified.2]
      cases isStrong with
      | false => rw [List.filter_cons_of_pos (by simp [known])]; rfl
      | true => rw [List.filter_cons_of_neg (by simp [known])]; rfl

theorem exists_weakDecisions {weak : List (String × EvidenceRecord)}
    (classified : ∀ entry ∈ weak, classifyEvidenceStrength entry.2 ≠ none)
    (decisions : Dict String EvidenceStrengthDecision) :
    ∃ found, weakDecisions decisions weak = some found := by
  induction weak generalizing decisions with
  | nil => exact ⟨decisions, rfl⟩
  | cons entry weak induction =>
      rw [List.forall_mem_cons] at classified
      obtain ⟨decision, isDecision⟩ :=
        Option.ne_none_iff_exists'.mp classified.1
      rw [weakDecisions, isDecision]
      exact induction classified.2 _

variable (readable : ReadableRecords evidence)

include readable in
theorem lineViolation_spec (heading line : List Char) (lineNumber : Nat) :
    ∃ found, lineViolation (policyEvidenceByToken evidence) heading lineNumber
        line = some found ∧
      (found = [] ↔ ¬ Violates evidence heading line) := by
  unfold lineViolation Violates
  by_cases strong : reportSectionPolicy heading line = .strongConclusion
  · rw [if_neg (not_not.mpr strong)]
    have classified : ∀ entry ∈ (citedEvidence line
        (policyEvidenceByToken evidence)).entries,
        classifyEvidenceStrength entry.2 ≠ none := by
      intro entry member
      have found := get?_citedEvidence.mp (Dict.mem_entries.mp member)
      exact readable.classified _ (mem_of_policyEvidenceByToken found.1)
    rw [weakCited_eq classified]
    cases weak : (citedEvidence line
        (policyEvidenceByToken evidence)).entries.filter fun entry =>
          evidenceCanSupportStrongReportSection entry.2 = some false with
    | nil =>
        refine ⟨[], rfl, fun _ => ?_, fun _ => rfl⟩
        rintro ⟨-, token, member, item, resolved, isWeak⟩
        have isEntry := Dict.mem_entries.mpr
          (get?_citedEvidence.mpr ⟨resolved, token, member, rfl⟩)
        have absent := List.filter_eq_nil_iff.mp weak _ isEntry
        rw [decide_eq_true_eq] at absent
        exact absent isWeak
    | cons first others =>
        have ofWeak : ∀ entry ∈ first :: others,
            entry ∈ (citedEvidence line
              (policyEvidenceByToken evidence)).entries ∧
            evidenceCanSupportStrongReportSection entry.2 = some false := by
          intro entry member
          rw [← weak] at member
          have both := List.mem_filter.mp member
          exact ⟨both.1, of_decide_eq_true both.2⟩
        obtain ⟨decisions, isDecisions⟩ := exists_weakDecisions
          (fun entry member => classified entry (ofWeak entry member).1) ∅
        dsimp only
        rw [isDecisions]
        refine ⟨_, rfl, fun none => absurd none (List.cons_ne_nil _ _), ?_⟩
        intro fine
        obtain ⟨isEntry, isWeak⟩ := ofWeak first List.mem_cons_self
        obtain ⟨resolved, token, member, same⟩ :=
          get?_citedEvidence.mp (Dict.mem_entries.mp isEntry)
        exact absurd ⟨strong, token, member, first.2, by rw [same]; exact resolved,
          isWeak⟩ fine
  · rw [if_pos strong]
    exact ⟨[], rfl, fun _ both => strong both.1, fun _ => rfl⟩

include readable in
theorem exists_violationsFrom (lines : List (List Char)) (heading : List Char)
    (lineNumber : Nat) :
    ∃ found, violationsFrom (policyEvidenceByToken evidence) heading lineNumber
        lines = some found ∧
      (found = [] ↔ NoViolation evidence heading lines) := by
  induction lines generalizing heading lineNumber with
  | nil => exact ⟨[], rfl, fun _ => True.intro, fun _ => rfl⟩
  | cons line lines induction =>
      rw [violationsFrom, NoViolation]
      cases policyHeading line with
      | some other => exact induction other (lineNumber + 1)
      | none =>
          obtain ⟨here, isHere, hereNone⟩ :=
            lineViolation_spec readable heading line lineNumber
          obtain ⟨later, isLater, laterNone⟩ :=
            induction heading (lineNumber + 1)
          dsimp only
          rw [isHere, isLater]
          refine ⟨here ++ later, rfl, ?_⟩
          rw [List.append_eq_nil_iff, hereNone, laterNone]

/-- A line in violation shows something. -/
theorem exists_line_of_violation {heading : List Char} {lineNumber : Nat}
    {lines : List (List Char)} {byToken : Dict String EvidenceRecord}
    {violations : List ReportCitationPolicyViolation}
    (found : violationsFrom byToken heading lineNumber lines =
      some violations) :
    ∀ violation ∈ violations, ∃ index line,
      violation.lineNumber = lineNumber + index ∧
        lines[index]? = some line ∧ line ≠ [] := by
  induction lines generalizing heading lineNumber violations with
  | nil =>
      obtain rfl := Option.some.inj found
      exact List.forall_mem_nil _
  | cons line lines induction =>
      have later : ∀ {heading violations},
          violationsFrom byToken heading (lineNumber + 1) lines =
            some violations → ∀ violation ∈ violations, ∃ index other,
              violation.lineNumber = lineNumber + index ∧
                (line :: lines)[index]? = some other ∧ other ≠ [] := by
        intro heading violations isFound violation member
        obtain ⟨index, other, number, isOther, filled⟩ :=
          induction isFound violation member
        refine ⟨index + 1, other, ?_, ?_, filled⟩
        · rw [number, Nat.add_assoc, Nat.add_comm 1]
        · rw [List.getElem?_cons_succ]
          exact isOther
      rw [violationsFrom] at found
      cases isHeading : policyHeading line with
      | some other =>
          rw [isHeading] at found
          exact later found
      | none =>
          rw [isHeading] at found
          dsimp only at found
          split at found
          · cases found
          · next here isHere =>
              obtain ⟨rest, isRest, rfl⟩ := Option.map_eq_some_iff.mp found
              intro violation member
              rcases List.mem_append.mp member with early | late
              · refine ⟨0, line, ?_, rfl, ?_⟩
                · exact lineNumber_of_lineViolation isHere violation early
                · rintro rfl
                  have fine : reportSectionPolicy heading [] =
                      .auditAppendix := rfl
                  unfold lineViolation at isHere
                  rw [fine, if_pos (by simp)] at isHere
                  obtain rfl := Option.some.inj isHere
                  cases early
              · exact later isRest violation late

/-! ## Repaired lines -/

open Classical in
/-- The lines of a report, with those in violation repaired. -/
noncomputable def repairedFrom (evidence : List EvidenceRecord)
    (sourceIds : List String) (heading : List Char) :
    List (List Char) → List (List Char)
  | [] => []
  | line :: lines =>
      match policyHeading line with
      | some heading => line :: repairedFrom evidence sourceIds heading lines
      | none =>
          (if Violates evidence heading line then
            withReferences (rewordedLine line) sourceIds
          else line) :: repairedFrom evidence sourceIds heading lines

include readable in
/-- The numbers of the violations tell which lines are repaired. -/
theorem repairedLinesFrom_violations {sourceIds : List String}
    (isIds : sourceIdsForReportLinePolicy evidence true 2 = some sourceIds)
    {numbers : List Nat} {lines : List (List Char)} {heading : List Char}
    {lineNumber : Nat} {violations : List ReportCitationPolicyViolation}
    (found : violationsFrom (policyEvidenceByToken evidence) heading lineNumber
      lines = some violations)
    (known : ∀ number, lineNumber ≤ number →
      (number ∈ numbers ↔ number ∈ violations.map (·.lineNumber))) :
    repairedLinesFrom evidence numbers lineNumber lines =
      some (repairedFrom evidence sourceIds heading lines) := by
  induction lines generalizing heading lineNumber violations with
  | nil => rfl
  | cons line lines induction =>
      rw [violationsFrom] at found
      rw [repairedLinesFrom, repairedFrom]
      cases isHeading : policyHeading line with
      | some other =>
          rw [isHeading] at found
          dsimp only at found ⊢
          have notHere : lineNumber ∉ numbers := by
            rw [known lineNumber (Nat.le_refl _)]
            intro member
            obtain ⟨violation, isViolation, same⟩ := List.mem_map.mp member
            have later := lineNumber_le found violation isViolation
            omega
          rw [if_neg notHere, induction found fun number isLater =>
            known number (Nat.le_of_succ_le isLater)]
          rfl
      | none =>
          rw [isHeading] at found
          obtain ⟨here, isHere, hereNone⟩ :=
            lineViolation_spec readable heading line lineNumber
          dsimp only at found ⊢
          rw [isHere] at found
          obtain ⟨later, isLater, rfl⟩ := Option.map_eq_some_iff.mp found
          have numberHere := lineNumber_of_lineViolation isHere
          have numberLater := lineNumber_le isLater
          have isKnown : lineNumber ∈ numbers ↔
              Violates evidence heading line := by
            rw [known lineNumber (Nat.le_refl _), ← not_iff_not, ← hereNone,
              List.map_append, List.mem_append]
            constructor
            · intro absent
              apply List.eq_nil_iff_forall_not_mem.mpr
              intro violation member
              exact absent (.inl (List.mem_map.mpr
                ⟨violation, member, numberHere violation member⟩))
            · rintro rfl (early | late)
              · cases early
              · obtain ⟨violation, member, same⟩ := List.mem_map.mp late
                have isBehind := numberLater violation member
                omega
          have rest := induction isLater fun number isBehind => by
            rw [known number (Nat.le_of_succ_le isBehind), List.map_append,
              List.mem_append]
            constructor
            · rintro (early | late)
              · obtain ⟨violation, member, same⟩ := List.mem_map.mp early
                have isHead := numberHere violation member
                omega
              · exact late
            · exact .inr
          rw [rest]
          by_cases violates : Violates evidence heading line
          · rw [if_pos (isKnown.mpr violates), if_pos violates]
            unfold repairStrongConclusionLine
            rw [isIds]
            rfl
          · rw [if_neg fun member => violates (isKnown.mp member),
              if_neg violates]
            rfl

theorem repairedFrom_of_noViolation {sourceIds : List String}
    {lines : List (List Char)} {heading : List Char}
    (fine : NoViolation evidence heading lines) :
    repairedFrom evidence sourceIds heading lines = lines := by
  induction lines generalizing heading with
  | nil => rfl
  | cons line lines induction =>
      rw [repairedFrom]
      rw [NoViolation] at fine
      cases isHeading : policyHeading line with
      | some other =>
          rw [isHeading] at fine
          dsimp only
          rw [induction fine]
      | none =>
          rw [isHeading] at fine
          dsimp only
          rw [if_neg fine.1, induction fine.2]

/-- A repaired line is in violation when a citation is still weak. -/
theorem violates_withReferences_iff {sourceIds : List String}
    {heading line : List Char} :
    ¬ Violates evidence heading
        (withReferences (rewordedLine line) sourceIds) ↔
      (reportSectionPolicy heading
          (withReferences (rewordedLine line) sourceIds) =
            .strongConclusion →
        (∀ token ∈ lineTokens (rewordedLine line),
          ¬ WeakToken evidence token) ∧
        ∀ token ∈ lineTokens (references sourceIds),
          ¬ WeakToken evidence token) := by
  unfold Violates
  simp only [mem_lineTokens_withReferences]
  constructor
  · intro fine strong
    constructor
    · intro token member weak
      exact fine ⟨strong, token, .inl member, weak⟩
    · intro token member weak
      exact fine ⟨strong, token, .inr member, weak⟩
  · rintro settles ⟨strong, token, member | member, weak⟩
    · exact (settles strong).1 token member weak
    · exact (settles strong).2 token member weak

theorem settlesFrom_iff {sourceIds : List String} {lines : List (List Char)}
    {was now : List Char} :
    SettlesFrom evidence sourceIds was now lines ↔
      NoViolation evidence now
        (repairedFrom evidence sourceIds was lines) := by
  induction lines generalizing was now with
  | nil => exact Iff.rfl
  | cons line lines induction =>
      rw [SettlesFrom, repairedFrom]
      cases isHeading : policyHeading line with
      | some heading =>
          dsimp only
          rw [NoViolation, isHeading]
          exact induction
      | none =>
          dsimp only
          rw [NoViolation]
          by_cases violates : Violates evidence was line
          · rw [if_pos violates]
            cases policyHeading
                (withReferences (rewordedLine line) sourceIds) with
            | some heading =>
                dsimp only
                rw [← induction]
                exact ⟨fun both => both.2 violates,
                  fun settles => ⟨fun fine => absurd violates fine,
                    fun _ => settles⟩⟩
            | none =>
                dsimp only
                rw [← induction, violates_withReferences_iff]
                exact ⟨fun both => both.2 violates,
                  fun settles => ⟨fun fine => absurd violates fine,
                    fun _ => settles⟩⟩
          · rw [if_neg violates, isHeading]
            dsimp only
            rw [← induction]
            exact ⟨fun both => both.1 violates,
              fun settles => ⟨fun _ => settles,
                fun isViolated => absurd isViolated violates⟩⟩

/-! ## Lines that stay lines -/

omit [PyRuntime] [UrlTables] in
theorem OneLine.of_subset {line part : List Char} (oneLine : OneLine line)
    (isPart : part ⊆ line) : OneLine part :=
  fun char member => oneLine char (isPart member)

omit [PyRuntime] [UrlTables] in
theorem OneLine.append {first second : List Char} (isFirst : OneLine first)
    (isSecond : OneLine second) : OneLine (first ++ second) := by
  intro char member
  rcases List.mem_append.mp member with early | late
  · exact isFirst char early
  · exact isSecond char late

omit [UrlTables] in
theorem OneLine.substituted {text : List Char} (oneLine : OneLine text)
    (pattern : Pattern) {replacement : String}
    (isReplacement : OneLine replacement.toList) :
    OneLine (CompetiScope.substituted pattern replacement text) := by
  intro char member
  rcases Pattern.mem_replaceMatches member with inText | inReplacement
  · exact oneLine char inText
  · exact isReplacement char inReplacement

omit [PyRuntime] [UrlTables] in
theorem suffix_of_afterFolded {letters text rest : List Char}
    (found : afterFolded letters text = some rest) : rest <:+ text := by
  induction letters generalizing text with
  | nil =>
      rw [afterFolded] at found
      rw [Option.some.inj found]
  | cons letter letters induction =>
      cases text with
      | nil => cases found
      | cons char text =>
          rw [afterFolded] at found
          split at found
          · exact (induction found).trans (List.suffix_cons char text)
          · cases found

omit [UrlTables] in
theorem OneLine.downgraded {line : List Char} (oneLine : OneLine line) :
    OneLine (downgradeStrongLanguage line) := by
  have stripped : OneLine (stripChars line) :=
    oneLine.of_subset (stripChars_subset line)
  have evidenceCaveat : OneLine "Evidence caveat: ".toList := by decide
  have draftCaveat : OneLine "Draft caveat: ".toList := by decide
  unfold downgradeStrongLanguage
  dsimp only
  split
  · apply evidenceCaveat.append
    have remainder : OneLine (stripChars
        (((stripChars line).dropWhile (· ≠ '|')).drop 1)) :=
      stripped.of_subset fun char member =>
        (List.dropWhile_suffix _).subset
          (List.drop_subset _ _ (stripChars_subset _ member))
    have caveat : OneLine (if stripChars
          (((stripChars line).dropWhile (· ≠ '|')).drop 1) ≠ [] then
        stripChars (((stripChars line).dropWhile (· ≠ '|')).drop 1)
      else stripChars line) := by
      split
      · exact remainder
      · exact stripped
    split
    · next rest found =>
        exact caveat.of_subset fun char member =>
          (suffix_of_afterFolded found).subset
            ((List.dropWhile_suffix _).subset member)
    · exact caveat
  · split
    · exact draftCaveat.append stripped
    · have replacements : ∀ entry ∈ strongLanguage,
          OneLine entry.2.toList := by
        have texts : ∀ text ∈ strongLanguage.map Prod.snd,
            OneLine text.toList := by
          decide
        intro entry member
        exact texts entry.2 (List.mem_map_of_mem member)
      revert replacements
      generalize strongLanguage = entries
      generalize stripChars line = text at stripped
      intro replacements
      induction entries generalizing text with
      | nil => exact stripped
      | cons entry entries induction =>
          rw [List.forall_mem_cons] at replacements
          exact induction _ (stripped.substituted entry.1 replacements.1)
            replacements.2

omit [PyRuntime] [UrlTables] in
theorem mem_of_mem_intercalate {separator : List Char}
    {texts : List (List Char)} {char : Char}
    (member : char ∈ List.intercalate separator texts) :
    char ∈ separator ∨ ∃ text ∈ texts, char ∈ text := by
  induction texts with
  | nil => cases member
  | cons text texts induction =>
      cases texts with
      | nil =>
          rw [List.intercalate_singleton] at member
          exact .inr ⟨text, List.mem_cons_self, member⟩
      | cons second texts =>
          rw [List.intercalate_cons_cons] at member
          rcases List.mem_append.mp member with early | late
          · rcases List.mem_append.mp early with inText | inSeparator
            · exact .inr ⟨text, List.mem_cons_self, inText⟩
            · exact .inl inSeparator
          · rcases induction late with inSeparator | ⟨other, isOther, inOther⟩
            · exact .inl inSeparator
            · exact .inr ⟨other, List.mem_cons_of_mem text isOther, inOther⟩

omit [UrlTables] in
theorem oneLine_withReferences {line : List Char} (oneLine : OneLine line)
    {sourceIds : List String}
    (ids : ∀ sourceId ∈ sourceIds, OneLine sourceId.toList) :
    OneLine (withReferences (rewordedLine line) sourceIds) := by
  have nothing : OneLine "".toList := by decide
  have opening : OneLine "[source:".toList := by decide
  have closing : OneLine "]".toList := by decide
  have blank : OneLine [' '] := by decide
  have sentence : OneLine noCitationText.toList := by decide +kernel
  have reworded : OneLine (rewordedLine line) :=
    OneLine.downgraded ((oneLine.substituted policySourceToken
      nothing).of_subset (List.rdropWhile_prefix isSpace _).subset)
  unfold withReferences
  split
  · exact reworded.append sentence
  · have refs : OneLine (references sourceIds) := by
      unfold references
      intro char member
      rcases mem_of_mem_intercalate member with
        inBlank | ⟨text, isText, inText⟩
      · exact blank char inBlank
      · obtain ⟨sourceId, isId, rfl⟩ := List.mem_map.mp isText
        rw [String.toList_append, String.toList_append] at inText
        exact ((opening.append (ids sourceId isId)).append closing) char inText
    exact (reworded.append (blank.append refs)).of_subset
      (List.rdropWhile_prefix isSpace _).subset

/-- References are found, and are ids of records. -/
theorem sourceIdsFrom_spec {limit : Nat} {sourceIds : List String}
    {records : List EvidenceRecord}
    (classified : ∀ item ∈ records, classifyEvidenceStrength item ≠ none) :
    ∃ found, sourceIdsFrom true limit sourceIds records = some found ∧
      ∀ sourceId ∈ found, sourceId ∈ sourceIds ∨
        ∃ item ∈ records, reportSourceId item = sourceId := by
  induction records generalizing sourceIds with
  | nil => exact ⟨sourceIds, rfl, fun _ member => .inl member⟩
  | cons item records induction =>
      rw [List.forall_mem_cons] at classified
      obtain ⟨isStrong, supports⟩ := exists_supports classified.1
      have later : ∀ before,
          (∀ sourceId ∈ before, sourceId ∈ sourceIds ∨
            sourceId = reportSourceId item) →
          ∃ found, sourceIdsFrom true limit before records = some found ∧
            ∀ sourceId ∈ found, sourceId ∈ sourceIds ∨
              ∃ other ∈ item :: records, reportSourceId other = sourceId := by
        intro before known
        obtain ⟨found, isFound, ids⟩ := @induction before classified.2
        refine ⟨found, isFound, fun sourceId member => ?_⟩
        rcases ids sourceId member with inBefore | ⟨other, isOther, same⟩
        · rcases known sourceId inBefore with known | rfl
          · exact .inl known
          · exact .inr ⟨item, List.mem_cons_self, rfl⟩
        · exact .inr ⟨other, List.mem_cons_of_mem item isOther, same⟩
      have extended : ∀ sourceId ∈ sourceIds ++ [reportSourceId item],
          sourceId ∈ sourceIds ∨ sourceId = reportSourceId item := by
        simp
      rw [sourceIdsFrom]
      dsimp only
      rw [if_pos rfl, supports]
      cases isStrong with
      | false => exact later sourceIds fun _ member => .inl member
      | true =>
          dsimp only
          split
          · exact later sourceIds fun _ member => .inl member
          · split
            · refine ⟨_, rfl, fun sourceId member => ?_⟩
              rcases extended sourceId member with known | rfl
              · exact .inl known
              · exact .inr ⟨item, List.mem_cons_self, rfl⟩
            · exact later _ extended

/-! ## Convergence -/

include readable in
theorem exists_references : ∃ sourceIds,
    sourceIdsForReportLinePolicy evidence true 2 = some sourceIds ∧
      ∀ sourceId ∈ sourceIds, OneLine sourceId.toList := by
  obtain ⟨sourceIds, isIds, ofRecords⟩ :=
    @sourceIdsFrom_spec _ _ 2 [] evidence readable.classified
  refine ⟨sourceIds, isIds, fun sourceId member => ?_⟩
  rcases ofRecords sourceId member with nowhere | ⟨item, isItem, rfl⟩
  · cases nowhere
  · exact readable.oneLine item isItem

theorem oneLine_repairedFrom {sourceIds : List String}
    (ids : ∀ sourceId ∈ sourceIds, OneLine sourceId.toList)
    {lines : List (List Char)} (oneLine : ∀ line ∈ lines, OneLine line)
    {heading : List Char} :
    ∀ line ∈ repairedFrom evidence sourceIds heading lines, OneLine line := by
  induction lines generalizing heading with
  | nil => exact List.forall_mem_nil _
  | cons line lines induction =>
      rw [List.forall_mem_cons] at oneLine
      rw [repairedFrom]
      split
      · exact List.forall_mem_cons.mpr ⟨oneLine.1, induction oneLine.2⟩
      · refine List.forall_mem_cons.mpr ⟨?_, induction oneLine.2⟩
        split
        · exact oneLine_withReferences oneLine.1 ids
        · exact oneLine.1

include readable in
theorem repair_of_noViolation {reportMd : List Char}
    (fine : NoViolation evidence [] (splitLinesFrom [] reportMd)) :
    reportCitationPolicyViolations reportMd evidence = some [] ∧
      repairReportCitationPolicy reportMd evidence =
        some
          { reportMd := reportMd
            changed := false
            repairedLineCount := 0
            violations := [] } := by
  obtain ⟨found, isFound, none⟩ :=
    exists_violationsFrom readable (splitLinesFrom [] reportMd) [] 1
  obtain rfl := none.mpr fine
  unfold repairReportCitationPolicy
  unfold reportCitationPolicyViolations
  rw [isFound]
  exact ⟨rfl, rfl⟩

include readable in
/-- A repair that returns another text: its lines, and those that stay. -/
theorem repair_of_violation {reportMd : List Char} {sourceIds : List String}
    (isIds : sourceIdsForReportLinePolicy evidence true 2 = some sourceIds)
    (broken : ¬ NoViolation evidence [] (splitLinesFrom [] reportMd)) :
    ∃ result, repairReportCitationPolicy reportMd evidence = some result ∧
      result.reportMd = joinLines (repairedFrom evidence sourceIds []
        (splitLinesFrom [] reportMd)) ∧
      (∀ index line, (splitLinesFrom [] reportMd)[index]? = some line →
        (∀ violation ∈ result.violations,
          violation.lineNumber ≠ index + 1) →
        (repairedFrom evidence sourceIds []
          (splitLinesFrom [] reportMd))[index]? = some line) ∧
      ∀ index, (splitLinesFrom [] reportMd)[index]? = some [] →
        ∀ violation ∈ result.violations,
          violation.lineNumber ≠ index + 1 := by
  obtain ⟨found, isFound, none⟩ :=
    exists_violationsFrom readable (splitLinesFrom [] reportMd) [] 1
  have lines := repairedLinesFrom_violations readable isIds isFound
    fun number _ => Iff.rfl
  have indexed := repairedLinesFrom_eq isIds (found.map (·.lineNumber)) 1
    (splitLinesFrom [] reportMd)
  rw [lines] at indexed
  have same := Option.some.inj indexed
  have isResult : repairReportCitationPolicy reportMd evidence =
      some
        { reportMd := joinLines (repairedFrom evidence sourceIds []
            (splitLinesFrom [] reportMd))
          changed := joinLines (repairedFrom evidence sourceIds []
            (splitLinesFrom [] reportMd)) ≠ reportMd
          repairedLineCount := found.length
          violations := found } := by
    cases found with
    | nil => exact absurd (none.mp rfl) broken
    | cons first others =>
        unfold repairReportCitationPolicy reportCitationPolicyViolations
        rw [isFound]
        dsimp only
        rw [lines]
        rfl
  refine ⟨_, isResult, rfl, ?_, ?_⟩
  · intro index line isLine absent
    have notRepaired : 1 + index ∉ found.map (·.lineNumber) := by
      intro member
      obtain ⟨violation, isViolation, number⟩ := List.mem_map.mp member
      exact absent violation isViolation (by rw [number, Nat.add_comm])
    rw [same, List.getElem?_mapIdx, isLine, Option.map_some,
      if_neg notRepaired]
  · intro index isEmpty violation member number
    obtain ⟨place, line, isPlace, isLine, filled⟩ :=
      exists_line_of_violation isFound violation member
    have isIndex : place = index := by omega
    rw [isIndex, isEmpty] at isLine
    exact filled (Option.some.inj isLine).symm

omit [PyRuntime] [UrlTables] in
theorem withReferences_ne_nil (downgraded : List Char)
    (sourceIds : List String) : withReferences downgraded sourceIds ≠ [] := by
  intro empty
  unfold withReferences at empty
  split at empty
  · have sentence := (List.append_eq_nil_iff.mp empty).2
    have filled : noCitationText.toList ≠ [] := by
      decide +kernel
    exact filled sentence
  · next someIds =>
      obtain ⟨first, others, rfl⟩ := List.exists_cons_of_ne_nil someIds
      have inside : '[' ∈ references (first :: others) := by
        unfold references
        cases others with
        | nil => simp [List.intercalate_singleton]
        | cons second others => simp [List.intercalate_cons_cons]
      have isSpaced := List.rdropWhile_eq_nil_iff.mp empty '['
        (List.mem_append_right _ (List.mem_cons_of_mem _ inside))
      exact absurd isSpaced (by decide)

theorem getLast?_repairedFrom {sourceIds : List String}
    {lines : List (List Char)} {heading : List Char} :
    (∀ line ∈ lines.getLast?, line ≠ []) →
      ∀ line ∈ (repairedFrom evidence sourceIds heading lines).getLast?,
        line ≠ [] := by
  induction lines generalizing heading with
  | nil =>
      intro _ line isLast
      cases isLast
  | cons line lines induction =>
      intro filled
      have later : ∀ {heading} (head : List Char),
          (lines = [] → head ≠ []) →
            ∀ other ∈ (head :: repairedFrom evidence sourceIds heading
              lines).getLast?, other ≠ [] := by
        intro heading head ofHead other isLast
        cases lines with
        | nil =>
            rw [← Option.some.inj isLast]
            exact ofHead rfl
        | cons second rest =>
            have filledRest : ∀ last ∈ (second :: rest).getLast?,
                last ≠ [] := by
              intro last isEnd
              apply filled
              rw [List.getLast?_cons_cons]
              exact isEnd
            have isCons : ∃ next others, repairedFrom evidence sourceIds
                heading (second :: rest) = next :: others := by
              rw [repairedFrom]
              split
              · exact ⟨_, _, rfl⟩
              · exact ⟨_, _, rfl⟩
            obtain ⟨next, others, whole⟩ := isCons
            rw [whole, List.getLast?_cons_cons, ← whole] at isLast
            exact induction filledRest other isLast
      have ofLine : lines = [] → line ≠ [] := by
        rintro rfl
        exact filled line rfl
      rw [repairedFrom]
      split
      · exact later line ofLine
      · apply later
        intro noRest
        split
        · exact withReferences_ne_nil _ _
        · exact ofLine noRest

/-- An empty line at the end of a report stays where it is. -/
theorem repairedFrom_append_empty {sourceIds : List String}
    {lines : List (List Char)} {heading : List Char} :
    ∃ rest, repairedFrom evidence sourceIds heading (lines ++ [[]]) =
      rest ++ [[]] ∧ rest.length = lines.length := by
  induction lines generalizing heading with
  | nil =>
      refine ⟨[], ?_, rfl⟩
      have noHeading : policyHeading [] = none := rfl
      have fine : ¬ Violates evidence heading [] := by
        rintro ⟨strong, -⟩
        cases strong
      rw [List.nil_append, repairedFrom, noHeading]
      dsimp only
      rw [if_neg fine]
      rfl
  | cons line lines induction =>
      rw [List.cons_append, repairedFrom]
      split
      · next other _ =>
          obtain ⟨rest, whole, length⟩ := @induction other
          exact ⟨line :: rest, by rw [whole]; rfl, by simp [length]⟩
      · obtain ⟨rest, whole, length⟩ := @induction heading
        exact ⟨_ :: rest, by rw [whole]; rfl, by simp [length]⟩

end Convergence

namespace ConvergenceExample

open ForeignExample

attribute [local instance] asciiRuntime asciiUrlTables

/-- The citation is spelled as the repair does not read it. -/
def reportMd : List Char :=
  "# Executive summary\nB is the winner [来源:s1]".toList

theorem readable : ReadableRecords [survey, documents] := by
  constructor
  case classified => decide +kernel
  case oneLine => decide +kernel

end ConvergenceExample

end CompetiScope
