import CompetiScope.BusinessIntel.ReportSections
import CompetiScope.Foundation.Collections
import CompetiScope.I18n.ReportLabels

/-!
# Heading keys

The section key that a heading stands for: a heading is stripped of numbering
and other decoration and compared with the labels of both languages.
-/

namespace CompetiScope

open Foundation

/-- `CORE_HEADING_KEYS`. -/
def coreHeadingKeys : List String :=
  ["executive_summary", "executive_takeaway", "decision_summary",
    "competitive_findings", "review_theme_summary",
    "community_evidence_triangulation", "competitor_deep_dives",
    "comparison_matrix", "side_by_side_matrix", "swot_analysis", "battlecard",
    "workflow_enterprise_risk", "market_landscape", "business_implications"]

/-- `SUPPORT_HEADING_KEYS`. -/
def supportHeadingKeys : List String :=
  ["evidence_support", "source_quality", "knowledge_coverage",
    "confidence_notes", "claim_risk", "next_collection", "evidence_appendix",
    "generation_notes", "memory_context", "user_research_evidence",
    "scenario_checklist", "rag_gap_fill"]

/-- `HEADING_KEY_ALIASES`. -/
def headingKeyAliases : List (String × List String) :=
  [("executive_summary", ["Executive Summary"]),
    ("executive_takeaway", ["Executive Takeaway"]),
    ("decision_summary", ["Decision Summary"]),
    ("competitive_findings", ["Competitive Findings"]),
    ("review_theme_summary", ["User Research", "User Research Summary",
      "User Review Themes", "Review Theme Summary"]),
    ("community_evidence_triangulation", ["Community Evidence Triangulation"]),
    ("competitor_deep_dives", ["Competitor Deep Dive",
      "Competitor Deep Dives"]),
    ("swot_analysis", ["SWOT Matrix"]),
    ("evidence_support", ["Evidence Support", "Evidence and QA Support",
      "Evidence QA Support"])]

/-- `_HEADING_ALIAS_KEYS`. -/
def headingAliasKeys : List String :=
  orderedUnique (coreHeadingKeys ++ supportHeadingKeys ++
    headingKeyAliases.map Prod.fst)

/-! ## Decoration -/

/-- `_DASH_TRANSLATION`. -/
def translateDash (char : Char) : Char :=
  if (0x2010 ≤ char.toNat ∧ char.toNat ≤ 0x2015) ∨ char.toNat = 0x2212 then '-'
  else char

/-- Without a match of `\s+#+$`. -/
def dropClosingMarks (text : List Char) : List Char :=
  let front := text.rdropWhile (· = '#')
  if front.length < text.length ∧ front.getLast?.any isSpace then
    front.rdropWhile isSpace
  else text

/-- The Chinese numerals of the decoration patterns. -/
def isChineseNumeral (char : Char) : Bool :=
  char ∈ ['一', '二', '三', '四', '五', '六', '七', '八', '九', '十', '百', '千']

/-- The rest after one or more characters of a kind. -/
def afterRun (kind : Char → Bool) : List Char → Option (List Char)
  | [] => none
  | char :: text => if kind char then some (text.dropWhile kind) else none

/-- The rest after one character of a kind. -/
def afterChar (kind : Char → Bool) : List Char → Option (List Char)
  | [] => none
  | char :: text => if kind char then some text else none

section Decoration

variable [PyRuntime]

/-- The rest after `\d+(?:\.\d+)*`, from within a number; `dot` is the text
from a dot that may begin another group. -/
def afterDigits (dot : Option (List Char)) : List Char → List Char
  | [] => dot.getD []
  | char :: text =>
      if PyRuntime.isDecimal char then afterDigits none text
      else
        match dot with
        | some given => given
        | none =>
            if char = '.' then afterDigits (some (char :: text)) text
            else char :: text

/-- `[-*+•]\s+`. -/
def afterBullet (text : List Char) : Option (List Char) :=
  (afterChar (· ∈ ['-', '*', '+', '•']) text).bind (afterRun isSpace)

/-- `(?:section\s+)?(?:\d+(?:\.\d+)*|[ivxlcdm]+)[\.)]\s+`. -/
def afterNumbering (text : List Char) : Option (List Char) :=
  (afterNumber (afterSectionWord text)).bind (afterRun isSpace)

/-- The number between brackets. -/
def afterBracketedNumber (text : List Char) : Option (List Char) :=
  match text with
  | [] => none
  | char :: _ =>
      if PyRuntime.isDecimal char then some (afterDigits none text)
      else (afterRun isRomanDigit text).or (afterRun isChineseNumeral text)

/-- A number in brackets, with the word before it. -/
def afterBrackets (text : List Char) : Option (List Char) :=
  ((afterChar (· ∈ ['(', '[', '（', '【']) (afterSectionWord text)).bind
    fun inner => (afterBracketedNumber (stripLeft inner)).bind
      fun rest => (afterChar (· ∈ [')', ']', '）', '】']) (stripLeft rest))).map
        stripLeft

/-- A Chinese ordinal. -/
def afterOrdinal (text : List Char) : Option (List Char) :=
  let number :=
    match text with
    | '第' :: rest => stripLeft rest
    | _ => text
  ((afterRun isChineseNumeral number).bind
    (afterChar (· ∈ ['、', '.', '．', ')']))).map stripLeft

/-- A match of `_LEADING_HEADING_DECORATION_RE`: the text after it. -/
def afterDecoration (text : List Char) : Option (List Char) :=
  (((afterBullet text).or (afterNumbering text)).or (afterBrackets text)).or
    (afterOrdinal text)

/-- The loop of `_strip_leading_heading_decoration`; each turn makes the
heading shorter. -/
def stripDecoration : Nat → List Char → List Char
  | 0, heading => heading
  | turns + 1, heading =>
      match afterDecoration heading with
      | none => heading
      | some rest => stripDecoration turns (stripChars rest)

variable [PyLowercase]

/-- `_normalize_heading` of the segment contracts. -/
def normalizeSegmentHeading (heading : List Char) : List Char :=
  let cleaned := stripChars
    (dropClosingMarks ((stripChars heading).map translateDash))
  let plain := stripDecoration cleaned.length cleaned
  let normalized := squeeze (String.ofList (PyLowercase.lower plain))
  stripChars (dropClosingMarks normalized.toList)

/-- The headings of a key, in `_heading_aliases`. -/
def headingAliases (outputLanguage key : String) : List String :=
  orderedUnique ((orderedUnique [outputLanguage, "zh-CN", "en-US"]).filterMap
      (reportLabel · key) ++
    ((headingKeyAliases.find? fun entry => entry.1 = key).map
      Prod.snd).getD [])

/-- `heading_key_for`. -/
def headingKeyFor (heading : List Char) (outputLanguage : String) :
    Option String :=
  let normalized := normalizeSegmentHeading heading
  headingAliasKeys.find? fun key =>
    (headingAliases outputLanguage key).any fun label =>
      normalizeSegmentHeading label.toList = normalized

end Decoration

end CompetiScope
