import CompetiScope.Research.TermExtractors

/-!
# Admission of evidence

Every field of an extraction that has a value becomes an evidence item, which
is rejected for each thing that is wrong with the extraction, the page or the
quote of the field.
-/

namespace CompetiScope

open Foundation

/-- `EvidenceStatus`. -/
inductive EvidenceStatus where
  | accepted
  | rejected
  | unreviewed
  deriving DecidableEq

/-- `EvidenceItem`. -/
structure EvidenceItem where
  competitor : String
  dimension : String
  field : String
  value : FieldValue
  sourceCandidateId : String
  capturedPageId : String
  sourceUrl : Option String
  quote : String
  confidence : Float
  status : EvidenceStatus
  rejectionReason : Option String

/-- The bounds of `admit_evidence_items`, and how a bound is written. -/
structure AdmissionLimits where
  minAcceptConfidence : Float := 0.35
  minPageQuality : Float := 0.25
  twoDecimals : Float → String

/-- The page with an id; a later page takes the place of an earlier one. -/
def pageById (pages : List CapturedPage) (id : String) : Option CapturedPage :=
  pages.reverse.find? (·.id = id)

/-- `_quote_by_field`, at a field. -/
def quoteByField (quotes : List EvidenceQuote) (field : String) :
    Option EvidenceQuote :=
  quotes.reverse.find? fun quote =>
    quote.field = field && quote.field ≠ "" && quote.text ≠ "" &&
      quote.field ≠ "confidence_reason"

/-- `_requires_field_quote`. -/
def requiresFieldQuote (extraction : ExtractionResult) (field : String) :
    Bool :=
  if field = "confidence_reason" then false
  else if extraction.status = .notApplicable ∧
      field ∈ ["pricing_model_type", "not_applicable_reason"] then false
  else true

/-- `_empty_evidence_value`. -/
def emptyEvidenceValue : FieldValue → Bool
  | .text value => strip value = ""
  | .texts values => values = []
  | .rows rows => rows = []
  | .slot status _ => status = .notFoundInSource

section Admission

variable (limits : AdmissionLimits)

/-- What is wrong with a page. -/
def pageReasons : Option CapturedPage → List String
  | none => ["captured_page_missing"]
  | some page =>
      if page.status ≠ .ok then ["capture_status_" ++ page.status.text]
      else if page.qualityScore < limits.minPageQuality then
        ["page_quality_below_" ++ limits.twoDecimals limits.minPageQuality]
      else []

variable [PyRuntime]

/-- `_admission_rejection_reasons`. -/
def admissionRejectionReasons (extraction : ExtractionResult)
    (field : String) (quote : Option EvidenceQuote)
    (page : Option CapturedPage) : List String :=
  (if extraction.confidence < limits.minAcceptConfidence then
    ["extraction_confidence_below_" ++
      limits.twoDecimals limits.minAcceptConfidence]
  else []) ++
  pageReasons limits page ++
  (if requiresFieldQuote extraction field ∧
      (quote.all fun quote => (stripChars quote.text.toList).length < 24) then
    ["field_quote_missing_or_too_short"]
  else []) ++
  ((quote.bind fun quote =>
    quoteQualityProblem quote.text.toList
      (signalDimension extraction.dimension)).toList)

/-- The item of a field. -/
def evidenceItem (pages : List CapturedPage) (extraction : ExtractionResult)
    (entry : String × FieldValue) : EvidenceItem :=
  let page := pageById pages extraction.capturedPageId
  let quote := quoteByField extraction.quotes entry.1
  let reasons := admissionRejectionReasons limits extraction entry.1 quote page
  { competitor := extraction.competitor
    dimension := extraction.dimension
    field := entry.1
    value := entry.2
    sourceCandidateId := extraction.sourceCandidateId
    capturedPageId := extraction.capturedPageId
    sourceUrl :=
      match (quote.bind (·.sourceUrl)).filter (· ≠ "") with
      | some url => some url
      | none => page.map (·.finalUrl)
    quote := (quote.map (·.text)).getD ""
    confidence := extraction.confidence
    status := if reasons = [] then .accepted else .rejected
    rejectionReason :=
      if reasons = [] then none else some (String.intercalate "; " reasons) }

/-- `admit_evidence_items`. -/
def admitEvidenceItems (extractions : List ExtractionResult)
    (pages : List CapturedPage) : List EvidenceItem :=
  extractions.flatMap fun extraction =>
    (extraction.fields.filter (! emptyEvidenceValue ·.2)).map
      (evidenceItem limits pages extraction)

end Admission

end CompetiScope
