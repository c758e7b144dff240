import CompetiScope.Foundation.Words
import CompetiScope.Research.Candidates
import CompetiScope.Research.QuoteWindows

/-!
# Captured pages and extracted fields

What a fetch returned for a candidate, and what an extractor read from it: the
values of its fields and the quotes that show them.
-/

namespace CompetiScope

open Foundation

/-- `CaptureStatus`. -/
inductive CaptureStatus where
  | ok
  | failed
  | rejected
  deriving DecidableEq, Repr

def CaptureStatus.text : CaptureStatus → String
  | .ok => "ok"
  | .failed => "failed"
  | .rejected => "rejected"

/-- The part of `CapturedPage` that is read. -/
structure CapturedPage where
  id : String
  candidateId : String
  requestedUrl : String
  finalUrl : String
  status : CaptureStatus
  title : String := ""
  text : String := ""
  markdown : String := ""
  snippet : String := ""
  contentHash : String
  qualityScore : Float := 0.0
  error : Option String := none
  failureReason : Option String := none

/-- `_text`. -/
def CapturedPage.pageText (page : CapturedPage) : String :=
  if page.text ≠ "" then page.text
  else if page.markdown ≠ "" then page.markdown
  else page.snippet

/-- A row of `price_rows`. -/
structure PriceRow where
  tierName : String
  price : String
  billingCycle : String
  usageLimit : String
  deriving DecidableEq

/-- The status of a feature slot. -/
inductive SlotStatus where
  | notFoundInSource
  | partiallySupported
  | supported
  deriving DecidableEq

/-- The value of a field. -/
inductive FieldValue where
  | text (value : String)
  | texts (values : List String)
  | rows (values : List PriceRow)
  | slot (status : SlotStatus) (evidenceTerms : List String)
  deriving DecidableEq

/-- `bool(value)`. -/
def FieldValue.filled : FieldValue → Bool
  | .text value => value ≠ ""
  | .texts values => values ≠ []
  | .rows values => values ≠ []
  | .slot _ _ => true

/-- `EvidenceQuote`. -/
structure EvidenceQuote where
  text : String
  sourceUrl : Option String := none
  field : String
  startOffset : Option Nat := none
  endOffset : Option Nat := none
  deriving DecidableEq

/-- `ExtractionStatus`. -/
inductive ExtractionStatus where
  | extracted
  | partiallyExtracted
  | nothing
  | notApplicable
  deriving DecidableEq

/-- `ExtractionResult`; the fields stand in the order of the dictionary. -/
structure ExtractionResult where
  competitor : String
  dimension : String
  sourceCandidateId : String
  capturedPageId : String
  fields : List (String × FieldValue)
  quotes : List EvidenceQuote
  confidence : Float
  extractorName : String
  status : ExtractionStatus
  missingFields : List String
  notApplicableReason : Option String := none

/-- `fields.get(field)`. -/
def fieldFilled (fields : List (String × FieldValue)) (field : String) :
    Bool :=
  match fields.find? (·.1 = field) with
  | some entry => entry.2.filled
  | none => false

/-- `" ".join(value.split())`. -/
def squeezeChars (text : List Char) : List Char :=
  List.intercalate [' '] (wordsOf isSpace text)

/-- `needle in text`, and the first place where it stands. -/
def findFrom (needle : List Char) (place : Nat) : List Char → Option Nat
  | [] => if needle = [] then some place else none
  | char :: text =>
      if needle.isPrefixOf (char :: text) then some place
      else findFrom needle (place + 1) text

/-- `text.find(needle)`. -/
def findChars (needle text : List Char) : Option Nat :=
  findFrom needle 0 text

/-- `re.escape(text)` under `re.IGNORECASE`; the letters are lower case. -/
def anyCase (text : String) : Pattern :=
  Pattern.spelled matchesFolded text.toList

/-- `re.escape(text)`. -/
def exactCase (text : String) : Pattern :=
  Pattern.spelled (fun expected char => char = expected) text.toList

/-- `\s*`. -/
def anySpaces : Pattern :=
  .repeated 0 none isSpace

/-- `\s+`. -/
def someSpaces : Pattern :=
  .repeated 1 none isSpace

/-- Patterns one after another. -/
def inTurn (first : Pattern) : List Pattern → Pattern
  | [] => first
  | second :: patterns => .sequence first (inTurn second patterns)

section Texts

variable [PyRuntime]

/-- `\d+`. -/
def someDigits : Pattern :=
  .repeated 1 none PyRuntime.isDecimal

/-- `re.search(pattern, text)`. -/
def searches (pattern : Pattern) (text : List Char) : Bool :=
  Pattern.search isWordChar pattern false text

/-- `re.finditer(pattern, text)`. -/
def spansOf (pattern : Pattern) (text : List Char) : List (Nat × Nat) :=
  Pattern.spans isWordChar pattern 0 0 false text

/-- `_dedupe`, with the keys that have been seen. -/
def dedupeFolded (seen : List (List Char)) :
    List (List Char) → List (List Char)
  | [] => []
  | value :: values =>
      let normalized := squeezeChars value
      let key := casefoldChars normalized
      if normalized = [] ∨ key ∈ seen then dedupeFolded seen values
      else normalized :: dedupeFolded (key :: seen) values

end Texts

end CompetiScope
