import CompetiScope.Research.PricingModel

/-!
# The feature and persona extractors

A field is read as the terms of a list that the page shows, and quoted where
the first of them stands that has an acceptable window.
-/

namespace CompetiScope

open Foundation

section Terms

variable [PyRuntime]

/-- `_matched_terms`. -/
def matchedTerms (normalized : List Char) (terms : List String) :
    List String :=
  terms.filter (hasTerm normalized)

/-- `re.search(re.escape(term), text, re.IGNORECASE)`; the place. -/
def findAnyCase (term : List Char) (place : Nat) : List Char → Option Nat
  | [] => if term = [] then some place else none
  | char :: text =>
      match afterFolded term (char :: text) with
      | some _ => some place
      | none => findAnyCase term (place + 1) text

/-- `_quote_for_terms`; none at all when a window cannot be cut. -/
def quoteForTerms (dimension : SignalDimension) (page : CapturedPage)
    (field : String) : List String → Option (Option EvidenceQuote)
  | [] => some none
  | term :: terms =>
      match findAnyCase term.toList 0 page.pageText.toList with
      | none => quoteForTerms dimension page field terms
      | some start =>
          match quoteWindowFromMatch page.pageText.toList start
              (start + term.length) dimension with
          | none => none
          | some [] => quoteForTerms dimension page field terms
          | some quote =>
              some (some {
                text := String.ofList quote
                sourceUrl := some page.finalUrl
                field := field
                startOffset := some start
                endOffset := some (start + term.length) })

/-! ## Feature slots -/

/-- `_SLOT_TERMS`, in the order of `FEATURE_SLOTS`. -/
def slotTerms : List (String × List String) :=
  [("core_capability", ["model", "assistant", "coding", "chat", "reasoning",
      "generate", "analyze"]),
    ("context_window", ["context window", "context length", "token context",
      "long context"]),
    ("multimodal", ["image", "vision", "audio", "multimodal", "file upload",
      "pdf"]),
    ("tool_use", ["tool use", "function calling", "tools", "api", "actions"]),
    ("agentic_workflow", ["agent", "autonomous", "workflow", "tasks", "plan",
      "execute", "computer use"]),
    ("repository_context", ["repository", "codebase", "github",
      "pull request", "workspace", "ide"]),
    ("enterprise_controls", ["enterprise", "sso", "scim", "admin", "audit",
      "security", "privacy"]),
    ("deployment_api", ["api", "sdk", "endpoint", "deploy", "cloud",
      "self-host", "server"]),
    ("customization", ["custom", "fine-tune", "instructions", "memory",
      "adapter", "workspace rules"])]

/-- `_slot_status`. -/
def slotStatus (matched : List String) : SlotStatus :=
  match matched with
  | [] => .notFoundInSource
  | [_] => .partiallySupported
  | _ => .supported

/-- The terms of each slot that the page shows. -/
def slotMatches (page : CapturedPage) : List (String × List String) :=
  let normalized := casefoldChars page.pageText.toList
  slotTerms.map fun entry => (entry.1, matchedTerms normalized entry.2)

/-- The confidence of the feature extractor. -/
def featureConfidence (statuses : List SlotStatus) (qualityScore : Float) :
    Float :=
  let supported := (statuses.count .supported).toFloat
  let partly := (statuses.count .partiallySupported).toFloat
  let coverage := (supported + partly * 0.55) / statuses.length.toFloat
  max 0.2 (min 0.98 (qualityScore * 0.4 + coverage * 0.6))

/-- The result of `extract_feature_slots`, once the quotes are there. -/
def featureExtraction (brief : ResearchBrief) (page : CapturedPage)
    (quotes : List EvidenceQuote) : ExtractionResult :=
  let matched := slotMatches page
  let missingFields := (matched.filter fun entry =>
    slotStatus entry.2 = .notFoundInSource).map Prod.fst
  { competitor := brief.competitor
    dimension := brief.dimension
    sourceCandidateId := page.candidateId
    capturedPageId := page.id
    fields := matched.map fun entry =>
      (entry.1, .slot (slotStatus entry.2) entry.2)
    quotes := quotes
    confidence := featureConfidence (matched.map (slotStatus ·.2))
      page.qualityScore
    extractorName := "feature_slots"
    status := if missingFields.length ≤ 2 then .extracted
      else .partiallyExtracted
    missingFields := missingFields }

/-- `extract_feature_slots`. -/
def extractFeatureSlots (brief : ResearchBrief) (page : CapturedPage) :
    Option ExtractionResult :=
  (cappedQuotes (fun entry => quoteForTerms .feature page entry.1 entry.2) 8
    (slotMatches page)).map (featureExtraction brief page)

/-! ## Persona schema -/

/-- `PERSONA_FIELDS`. -/
def personaFields : List String :=
  ["target_segment", "buyer_or_user_role", "primary_use_case",
    "switching_trigger", "deployment_context", "company_size",
    "confidence_reason"]

/-- `_FIELD_TERMS`. -/
def fieldTerms : List (String × List String) :=
  [("target_segment", ["customer", "customers", "teams", "developers",
      "enterprise", "startup"]),
    ("buyer_or_user_role", ["developer", "engineer", "product manager",
      "security team", "data scientist", "admin"]),
    ("primary_use_case", ["use case", "build", "automate", "analyze",
      "support", "coding", "research"]),
    ("switching_trigger", ["faster", "reduce", "save time", "migrate",
      "replace", "improve productivity"]),
    ("deployment_context", ["cloud", "api", "workspace", "enterprise",
      "self-host", "browser", "ide"]),
    ("company_size", ["startup", "small business", "team", "enterprise",
      "organization"])]

/-- `_title_case`, for the words of the terms. -/
def titleCase (value : String) : String :=
  String.ofList (List.intercalate [' ']
    ((wordsOf isSpace value.toList).map fun word =>
      match word with
      | [] => []
      | char :: rest => char.toUpper :: rest.map Char.toLower))

/-- `_field_value`. -/
def personaFieldValue (field : String) (matched : List String) : String :=
  if field = "buyer_or_user_role" ∨ field = "company_size" then
    String.intercalate ", " ((matched.take 3).map titleCase)
  else String.intercalate "; " (matched.take 3)

/-- The terms of each persona field that the page shows. -/
def personaMatches (page : CapturedPage) : List (String × List String) :=
  let normalized := casefoldChars page.pageText.toList
  fieldTerms.map fun entry => (entry.1, matchedTerms normalized entry.2)

/-- The confidence of the persona extractor. -/
def personaConfidence (populated : Nat) (qualityScore : Float) : Float :=
  let coverage := populated.toFloat / fieldTerms.length.toFloat
  max 0.2 (min 0.96 (qualityScore * 0.4 + coverage * 0.6))

/-- The result of `extract_persona_schema`, once the quotes are there. -/
def personaExtraction (brief : ResearchBrief) (page : CapturedPage)
    (quotes : List EvidenceQuote) : ExtractionResult :=
  let values : List (String × FieldValue) :=
    (personaMatches page).map fun entry =>
      (entry.1, .text (personaFieldValue entry.1 entry.2))
  let populated := values.countP (·.2.filled)
  let fields := values ++ [("confidence_reason", .text
    (if populated = 0 then ""
    else "Matched " ++ toString populated ++
      " persona fields from public page text."))]
  let missingFields := personaFields.filter (! fieldFilled fields ·)
  { competitor := brief.competitor
    dimension := brief.dimension
    sourceCandidateId := page.candidateId
    capturedPageId := page.id
    fields := fields
    quotes := quotes
    confidence := personaConfidence populated page.qualityScore
    extractorName := "persona_schema"
    status := if missingFields.length ≤ 2 then .extracted
      else .partiallyExtracted
    missingFields := missingFields }

/-- `extract_persona_schema`. -/
def extractPersonaSchema (brief : ResearchBrief) (page : CapturedPage) :
    Option ExtractionResult :=
  (cappedQuotes (fun entry => quoteForTerms .persona page entry.1 entry.2) 8
    (personaMatches page)).map (personaExtraction brief page)

/-- `extract_page`. -/
def extractPage (brief : ResearchBrief) (page : CapturedPage) :
    Option ExtractionResult :=
  match signalDimension brief.dimension with
  | .pricing => extractPricingModel brief page
  | .persona => extractPersonaSchema brief page
  | .feature => extractFeatureSlots brief page

end Terms

end CompetiScope
