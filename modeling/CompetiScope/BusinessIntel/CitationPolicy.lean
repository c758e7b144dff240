import CompetiScope.BusinessIntel.EvidenceStrength
import CompetiScope.Enterprise.ReportDiff
import CompetiScope.Foundation.Lines
import CompetiScope.Research.PricingModel

/-!
# The citation policy of reports

A line that draws a strong conclusion may only cite strong evidence.  A line
that cites weak evidence is reworded, loses its citations, and gets references
to strong records of the run.
-/

namespace CompetiScope

open Foundation

inductive ReportSectionPolicy where
  | strongConclusion
  | factualComparison
  | qualitativeSignal
  | auditAppendix
  deriving DecidableEq

/-! ## Patterns -/

/-- `SOURCE_TOKEN_RE` of the policy, `\[source:[^\]]+\]`. -/
def policySourceToken : Pattern :=
  inTurn (exactCase "[source:")
    [.repeated 1 none fun char => char ≠ ']', exactCase "]"]

/-- `STRONG_CONCLUSION_RE`. -/
def strongConclusion : Pattern :=
  boundedBy
    [anyCase "winner", anyCase "leading option", anyCase "best option",
      anyCase "safer", anyCase "safest", anyCase "recommended",
      anyCase "recommendation", anyCase "executive recommendation",
      anyCase "executive summary", anyCase "dimension winner",
      inTurn (anyCase "soc") [anySpaces, anyCase "2"],
      inTurn (anyCase "iso")
        [anySpaces, .optional (anyCase "/"), anySpaces, anyCase "iec"],
      anyCase "ip indemnity", anyCase "sso", anyCase "saml", anyCase "scim",
      anyCase "audit log", anyCase "pricing transparency"]
    (anyCase "overall confidence")

/-- `QUALITATIVE_SECTION_RE`. -/
def qualitativeSection : Pattern :=
  Pattern.anyOf
    (boundedBy
      [anyCase "risk", anyCase "persona", anyCase "user research",
        anyCase "buyer research", anyCase "validation plan",
        anyCase "verification plan", anyCase "evidence gap",
        .sequence (anyCase "limitation") (.optional (anyCase "s"))]
      (anyCase "caveat"))
    [anyCase "证据缺口", anyCase "验证计划", anyCase "下一步采集",
      anyCase "采集与验证", anyCase "风险", anyCase "用户研究",
      anyCase "用户评价", anyCase "置信度说明", anyCase "声明校验",
      anyCase "证据风险"]

/-- `APPENDIX_SECTION_RE`. -/
def appendixSection : Pattern :=
  Pattern.anyOf
    (boundedBy
      [anyCase "source quality", anyCase "source coverage",
        anyCase "release gate", anyCase "qa", anyCase "claim validation"]
      (anyCase "appendix"))
    [anyCase "附录", anyCase "来源质量", anyCase "来源覆盖",
      inTurn (anyCase "证据与") [anySpaces, anyCase "qa"],
      anyCase "证据支撑", anyCase "声明校验", anyCase "证据风险",
      inTurn (anyCase "场景") [anySpaces, anyCase "qa"],
      inTurn (anyCase "rag") [anySpaces, anyCase "缺口"],
      anyCase "用户研究证据"]

/-- `\b(pricing|price|feature|capability|tier|plan)\b`. -/
def factualAxis : Pattern :=
  boundedBy
    [anyCase "price", anyCase "feature", anyCase "capability",
      anyCase "tier", anyCase "plan"]
    (anyCase "pricing")

/-- The replacements of strong words, in the order in which they are made. -/
def strongLanguage : List (Pattern × String) :=
  [(boundedBy [] (anyCase "recommended"), "tentatively suggested"),
    (boundedBy [] (anyCase "recommendation"), "draft recommendation"),
    (boundedBy [] (anyCase "winner"), "current evidence leader"),
    (boundedBy [] (anyCase "leading option"), "current evidence leader"),
    (boundedBy [] (anyCase "best option"), "current evidence leader"),
    (boundedBy [] (anyCase "safer"), "lower-observed-risk"),
    (boundedBy [] (anyCase "safest"), "lowest-observed-risk")]

/-- `_heading_text`, of a line without line breaks. -/
def policyHeading (line : List Char) : Option (List Char) :=
  let body := stripLeft line
  let marks := (body.takeWhile (· = '#')).length
  let rest := body.drop marks
  if 1 ≤ marks ∧ marks ≤ 4 ∧ rest.head?.any isSpace ∧
      (stripChars rest ≠ [] ∨ 2 ≤ rest.length) then
    some (stripChars rest)
  else none

section Policy

variable [PyRuntime]

/-- `pattern.sub(replacement, text)`. -/
def substituted (pattern : Pattern) (replacement : String)
    (text : List Char) : List Char :=
  Pattern.replaceMatches isWordChar pattern replacement.toList 0 false text

/-- `_line_is_overall_confidence`. -/
def lineIsOverallConfidence (line : List Char) : Bool :=
  "overall confidence".toList.isPrefixOf (casefoldChars (stripChars line))

/-- `report_section_policy`. -/
def reportSectionPolicy (sectionHeading line : List Char) :
    ReportSectionPolicy :=
  let lineText := stripChars line
  if lineText = [] then .auditAppendix
  else
    let combined := sectionHeading ++ ' ' :: lineText
    if searches appendixSection sectionHeading then .auditAppendix
    else if searches qualitativeSection combined ∧
        ! lineIsOverallConfidence lineText then .qualitativeSignal
    else if searches strongConclusion combined then .strongConclusion
    else if searches factualAxis combined then .factualComparison
    else .auditAppendix

/-- `_downgrade_strong_language`. -/
def downgradeStrongLanguage (line : List Char) : List Char :=
  let stripped := stripChars line
  if lineIsOverallConfidence stripped then
    let remainder := stripChars ((stripped.dropWhile (· ≠ '|')).drop 1)
    let caveat := if remainder ≠ [] then remainder else stripped
    let caveat :=
      match afterFolded "caveat:".toList caveat with
      | some rest => stripLeft rest
      | none => caveat
    "Evidence caveat: ".toList ++ caveat
  else
    let downgraded := strongLanguage.foldl
      (fun text entry => substituted entry.1 entry.2 text) stripped
    if downgraded = stripped then "Draft caveat: ".toList ++ stripped
    else downgraded

/-- The line without its citations, in careful words. -/
def rewordedLine (line : List Char) : List Char :=
  downgradeStrongLanguage ((substituted policySourceToken "" line).rdropWhile
    isSpace)

end Policy

/-! ## Evidence -/

/-- `_source_tokens_for_evidence`. -/
def policySourceTokens (evidence : EvidenceRecord) : List String :=
  ([strip evidence.id, strip evidence.rawSourceId] ++
    ["raw_source_id", "source_id", "canonical_source_id"].map fun key =>
      MetadataValue.textOf (evidence.metadata.get? key)).filter
    (strip · ≠ "")

/-- The tokens of a record stand for it from now on. -/
def setPolicyTokens (byToken : Dict String EvidenceRecord)
    (item : EvidenceRecord) : Dict String EvidenceRecord :=
  (policySourceTokens item).foldl
    (fun byToken token => byToken.set (normalizeSourceToken token) item)
    byToken

/-- `_evidence_by_source_token`. -/
def policyEvidenceByToken (evidence : List EvidenceRecord) :
    Dict String EvidenceRecord :=
  evidence.foldl setPolicyTokens ∅

/-- `_report_source_id`. -/
def reportSourceId (evidence : EvidenceRecord) : String :=
  if strip evidence.rawSourceId ≠ "" then strip evidence.rawSourceId
  else strip evidence.id

/-- A token of a line, with the record it resolves to. -/
def citeToken (evidenceByToken : Dict String EvidenceRecord)
    (result : Dict String EvidenceRecord) (token : String) :
    Dict String EvidenceRecord :=
  match evidenceByToken.get? (normalizeSourceToken token) with
  | some item => result.set (normalizeSourceToken token) item
  | none => result

/-- `_cited_evidence`. -/
def citedEvidence (line : List Char)
    (evidenceByToken : Dict String EvidenceRecord) :
    Dict String EvidenceRecord :=
  (sourceTokens (String.ofList line)).foldl (citeToken evidenceByToken) ∅

/-- The references to records that are put behind a line. -/
def references (sourceIds : List String) : List Char :=
  List.intercalate [' ']
    (sourceIds.map fun sourceId => ("[source:" ++ sourceId ++ "]").toList)

/-- What is put behind a line when there is no strong record. -/
def noCitationText : String :=
  " No high-confidence verified citation is currently attached; " ++
    "keep this as a draft caveat until stronger evidence is collected."

/-- A line with references behind it. -/
def withReferences (downgraded : List Char) (sourceIds : List String) :
    List Char :=
  if sourceIds = [] then downgraded ++ noCitationText.toList
  else (downgraded ++ ' ' :: references sourceIds).rdropWhile isSpace

/-! ## Violations and their repair -/

structure ReportCitationPolicyViolation where
  ruleId : String := "strong_conclusion_uses_weak_source"
  ruleName : String := "Strong conclusion source quality"
  severity : String := "blocker"
  lineNumber : Nat
  sectionHeading : List Char
  sectionPolicy : ReportSectionPolicy
  line : List Char
  evidenceIds : List String
  sourceStrengths : Dict String EvidenceStrengthDecision
  message : List Char
  recommendation : String :=
    "Rewrite the line as a caveat or replace the citation with " ++
      "high-confidence verified webpage or official evidence."

structure ReportCitationPolicyRepairResult where
  reportMd : List Char
  changed : Bool
  repairedLineCount : Nat
  violations : List ReportCitationPolicyViolation

section Repair

variable [PyRuntime] [UrlTables]

/-- The records among the cited ones that are not strong. -/
def weakCited :
    List (String × EvidenceRecord) → Option (List (String × EvidenceRecord))
  | [] => some []
  | entry :: cited =>
      match evidenceCanSupportStrongReportSection entry.2 with
      | none => none
      | some isStrong =>
          (weakCited cited).map fun weak =>
            if isStrong then weak else entry :: weak

/-- The decisions about weak records, by their ids. -/
def weakDecisions (decisions : Dict String EvidenceStrengthDecision) :
    List (String × EvidenceRecord) →
      Option (Dict String EvidenceStrengthDecision)
  | [] => some decisions
  | entry :: weak =>
      match classifyEvidenceStrength entry.2 with
      | none => none
      | some decision =>
          weakDecisions (decisions.set (policyEvidenceId entry.2) decision)
            weak

/-- The violation of a line, if it is one. -/
def lineViolation (evidenceByToken : Dict String EvidenceRecord)
    (sectionHeading : List Char) (lineNumber : Nat) (line : List Char) :
    Option (List ReportCitationPolicyViolation) :=
  if reportSectionPolicy sectionHeading line ≠ .strongConclusion then some []
  else
    match weakCited (citedEvidence line evidenceByToken).entries with
    | none => none
    | some [] => some []
    | some (first :: weak) =>
        (weakDecisions ∅ (first :: weak)).map fun decisions =>
          [{ lineNumber := lineNumber
             sectionHeading := sectionHeading
             sectionPolicy := .strongConclusion
             line := stripChars line
             evidenceIds := decisions.keys
             sourceStrengths := decisions
             message :=
              ("A strong report conclusion cites evidence that cannot " ++
                "support strong report language. Line: ").toList ++
                (stripChars line).take 220 }]

/-- The loop of `report_citation_policy_violations`. -/
def violationsFrom (evidenceByToken : Dict String EvidenceRecord)
    (sectionHeading : List Char) (lineNumber : Nat) :
    List (List Char) → Option (List ReportCitationPolicyViolation)
  | [] => some []
  | line :: lines =>
      match policyHeading line with
      | some heading =>
          violationsFrom evidenceByToken heading (lineNumber + 1) lines
      | none =>
          match lineViolation evidenceByToken sectionHeading lineNumber
              line with
          | none => none
          | some here =>
              (violationsFrom evidenceByToken sectionHeading (lineNumber + 1)
                lines).map (here ++ ·)

/-- `report_citation_policy_violations`. -/
def reportCitationPolicyViolations (reportMd : List Char)
    (evidence : List EvidenceRecord) :
    Option (List ReportCitationPolicyViolation) :=
  violationsFrom (policyEvidenceByToken evidence) [] 1
    (splitLinesFrom [] reportMd)

/-- The loop of `source_ids_for_report_line_policy`. -/
def sourceIdsFrom (requireStrongSupport : Bool) (limit : Nat)
    (sourceIds : List String) : List EvidenceRecord → Option (List String)
  | [] => some sourceIds
  | item :: evidence =>
      let supports :=
        if requireStrongSupport then evidenceCanSupportStrongReportSection item
        else some true
      match supports with
      | none => none
      | some false =>
          sourceIdsFrom requireStrongSupport limit sourceIds evidence
      | some true =>
          let sourceId := reportSourceId item
          if sourceId = "" ∨ sourceId ∈ sourceIds then
            sourceIdsFrom requireStrongSupport limit sourceIds evidence
          else if limit ≤ (sourceIds ++ [sourceId]).length then
            some (sourceIds ++ [sourceId])
          else
            sourceIdsFrom requireStrongSupport limit (sourceIds ++ [sourceId])
              evidence

/-- `source_ids_for_report_line_policy`. -/
def sourceIdsForReportLinePolicy (evidence : List EvidenceRecord)
    (requireStrongSupport : Bool) (limit : Nat) : Option (List String) :=
  sourceIdsFrom requireStrongSupport limit [] evidence

/-- `_repair_strong_conclusion_line`. -/
def repairStrongConclusionLine (line : List Char)
    (evidence : List EvidenceRecord) : Option (List Char) :=
  (sourceIdsForReportLinePolicy evidence true 2).map
    (withReferences (rewordedLine line))

/-- The lines of the repaired report; `lineNumber` is that of the first. -/
def repairedLinesFrom (evidence : List EvidenceRecord)
    (violationLines : List Nat) (lineNumber : Nat) :
    List (List Char) → Option (List (List Char))
  | [] => some []
  | line :: lines =>
      let repaired :=
        if lineNumber ∈ violationLines then
          repairStrongConclusionLine line evidence
        else some line
      match repaired with
      | none => none
      | some repaired =>
          (repairedLinesFrom evidence violationLines (lineNumber + 1)
            lines).map (repaired :: ·)

/-- `repair_report_citation_policy`. -/
def repairReportCitationPolicy (reportMd : List Char)
    (evidence : List EvidenceRecord) :
    Option ReportCitationPolicyRepairResult :=
  match reportCitationPolicyViolations reportMd evidence with
  | none => none
  | some [] =>
      some
        { reportMd := reportMd
          changed := false
          repairedLineCount := 0
          violations := [] }
  | some (first :: violations) =>
      let violationLines := (first :: violations).map (·.lineNumber)
      (repairedLinesFrom evidence violationLines 1
        (splitLinesFrom [] reportMd)).map fun repairedLines =>
          { reportMd := joinLines repairedLines
            changed := joinLines repairedLines ≠ reportMd
            repairedLineCount := (first :: violations).length
            violations := first :: violations }

end Repair

end CompetiScope
