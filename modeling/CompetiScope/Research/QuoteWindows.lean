import CompetiScope.BusinessIntel.ReportSections
import CompetiScope.Foundation.Patterns
import CompetiScope.Foundation.Slices
import Mathlib.Algebra.GroupWithZero.Nat

/-!
# Quotes of a page

A quote is a window of the page text around a match.  It is cleaned, cut down
to a sentence when it is long, and refused when it looks like noise or shows
nothing of its dimension.
-/

namespace CompetiScope

open Foundation

/-- The dimensions with signals of their own. -/
inductive SignalDimension where
  | pricing
  | persona
  | feature
  deriving DecidableEq

/-- `_NAVIGATION_MARKERS`. -/
def navigationMarkers : List String :=
  ["skip to content", "skip to main content", "navigation menu",
    "toggle navigation", "open menu", "search docs", "search clear", "sign in",
    "sign up", "log in", "create account", "cookie", "privacy policy",
    "terms of use", "back to blog", "on this page", "copy code", "view all"]

/-- `_ENCODING_MARKERS`, by their code points. -/
def encodingMarkers : List (List Char) :=
  [[0xFFFD], [0xC3], [0xC2], [0xE2, 0x20AC], [0xE2, 0x20AC, 0x2122],
    [0xE2, 0x20AC, 0x153], [0xE2, 0x20AC, 0x9D]].map (·.map Char.ofNat)

/-- `_DIMENSION_SIGNALS`. -/
def dimensionSignals : SignalDimension → List String
  | .pricing =>
      ["$", "usd", "pricing", "price", "plan", "billing", "per user",
        "per seat", "per month", "per year", "token", "mtok", "enterprise",
        "contact sales", "定价", "价格", "计费", "按月", "按年", "席位", "预算",
        "企业"]
  | .persona =>
      ["customer", "customers", "developer", "developers", "team", "teams",
        "enterprise", "use case", "workflow", "productivity", "organization",
        "用户", "客户", "开发者", "团队", "企业", "使用场景", "工作流", "组织"]
  | .feature =>
      ["feature", "model", "api", "agent", "workflow", "coding", "codebase",
        "repository", "context", "security", "admin", "sso", "sdk", "功能",
        "模型", "代理", "工作流", "编码", "代码", "代码库", "上下文", "安全", "管理"]

/-- `needle in text`. -/
def hasTerm (text : List Char) (term : String) : Bool :=
  hasInfix term.toList text

/-- `text.count(needle)`; `skip` characters belong to the last one. -/
def countFrom (needle : List Char) (skip : Nat) : List Char → Nat
  | [] => 0
  | char :: text =>
      match skip with
      | skip + 1 => countFrom needle skip text
      | 0 =>
          if needle.isPrefixOf (char :: text) then
            countFrom needle (needle.length - 1) text + 1
          else countFrom needle 0 text

/-- `str.rstrip()`. -/
def stripRightChars (text : List Char) : List Char :=
  text.rdropWhile isSpace

/-- `re.sub(r"\s+", " ", text)`. -/
def collapseSpaces (text : List Char) : List Char :=
  replaceRuns isSpace ' ' false text

/-- What is stripped around a quote. -/
def isQuoteEnd (char : Char) : Bool :=
  char ∈ [' ', '-', '|', '\t', '\r', '\n']

/-- `_normalize_whitespace`. -/
def normalizeWhitespace (text : List Char) : List Char :=
  ((collapseSpaces text).dropWhile isQuoteEnd).rdropWhile isQuoteEnd

/-- `text.rfind(char)`. -/
def lastPlaceOf (char : Char) (text : List Char) : Option Nat :=
  (text.reverse.findIdx? (· = char)).map (text.length - 1 - ·)

/-- `_clip_at_word_boundary`. -/
def clipAtWordBoundary (text : List Char) (maxChars : Nat) : List Char :=
  let clipped := stripRightChars (text.take maxChars)
  let boundary := max ((lastPlaceOf '.' clipped).getD 0)
    (max ((lastPlaceOf ';' clipped).getD 0) ((lastPlaceOf ',' clipped).getD 0))
  if 80 ≤ boundary then stripChars (clipped.take (boundary + 1))
  else
    let space := (lastPlaceOf ' ' clipped).getD 0
    if 80 ≤ space then stripChars (clipped.take space)
    else stripChars clipped

def isSentenceEnd (char : Char) : Bool :=
  char ∈ ['.', '!', '?']

/-- `re.split(r"(?<=[.!?])\s+", text)`; the part that is open, and whether
the sentence has ended in front of white space. -/
def sentencesFrom (part : List Char) (ended : Bool) :
    List Char → List (List Char)
  | [] => [part]
  | char :: text =>
      if isSpace char && ended then
        -- The white space that follows belongs to the same separator.
        (if part = [] then [] else [part]) ++ sentencesFrom [] ended text
      else sentencesFrom (part ++ [char]) (isSentenceEnd char) text

section Quality

variable [PyRuntime]

/-- `_dimension` keys, in the order in which they are looked for. -/
def signalDimension (dimension : String) : SignalDimension :=
  let key := casefoldChars dimension.toList
  if hasTerm key "pricing" then .pricing
  else if hasTerm key "persona" || hasTerm key "user" || hasTerm key "buyer"
  then .persona
  else .feature

/-- `\$|usd|eur|cny|rmb|\d+\s*(?:/|per)\s*(?:token|seat|month|year|user)`. -/
def pricingSignal : Pattern :=
  let exactly := fun text : String =>
    Pattern.spelled (fun expected char => char = expected) text.toList
  let spaces := Pattern.repeated 0 none isSpace
  Pattern.anyOf (exactly "$")
    [exactly "usd", exactly "eur", exactly "cny", exactly "rmb",
      .sequence (.repeated 1 none PyRuntime.isDecimal)
        (.sequence spaces
          (.sequence (.either (exactly "/") (exactly "per"))
            (.sequence spaces
              (Pattern.anyOf (exactly "token")
                [exactly "seat", exactly "month", exactly "year",
                  exactly "user"]))))]

/-- `_has_dimension_signal`. -/
def hasDimensionSignal (dimension : SignalDimension) (text : List Char) :
    Bool :=
  (dimensionSignals dimension).any (hasTerm text) ||
    (dimension = .pricing &&
      Pattern.search isWordChar pricingSignal false text)

/-- `_encoding_noise_ratio(text) > 0.015`. -/
def encodingNoise (text : List Char) : Bool :=
  let markers := (encodingMarkers.map fun marker => countFrom marker 0 text).sum
  let controls := text.countP fun char =>
    char.toNat < 32 && char ∉ ['\n', '\r', '\t']
  3 * max 1 text.length < 200 * (markers + controls)

/-- `_looks_like_install_or_code_noise`. -/
def looksLikeInstallOrCodeNoise (text : List Char) : Bool :=
  2 ≤ ["curl ", "install.cmd", "npm install", "pip install",
    "copy code"].countP (hasTerm text)

/-- `_looks_like_business_sentence`. -/
def looksLikeBusinessSentence (text : List Char) : Bool :=
  [SignalDimension.pricing, .persona, .feature].any fun dimension =>
    (dimensionSignals dimension).any (hasTerm text)

/-- `_looks_like_truncated_fragment`. -/
def looksLikeTruncatedFragment (text : List Char) : Bool :=
  let firstWord := (text.dropWhile (! isWordChar ·)).takeWhile isWordChar
  if firstWord = [] then true
  else if ! firstWord.all (·.toNat < 128) then false
  else casefoldChars firstWord ∈
    ["mpletions", "ull", "ctions", "oser", "ownload", "ublished"].map
      String.toList

/-- `text_noise_problem`, without the word in front. -/
def textNoiseProblem (text : List Char) : Option String :=
  let quote := normalizeWhitespace text
  if quote = [] then none
  else if encodingNoise quote then some "encoding_noise"
  else
    let normalized := casefoldChars quote
    let markerCount := navigationMarkers.countP (hasTerm normalized)
    if 4 ≤ markerCount then some "navigation_boilerplate"
    else if 2 ≤ markerCount ∧ ! looksLikeBusinessSentence normalized then
      some "navigation_boilerplate"
    else if looksLikeInstallOrCodeNoise normalized then
      some "code_or_install_noise"
    else if looksLikeTruncatedFragment quote then some "truncated_fragment"
    else none

/-- `quote_quality_problem`. -/
def quoteQualityProblem (text : List Char) (dimension : SignalDimension) :
    Option String :=
  let quote := normalizeWhitespace text
  if quote.length < 32 then some "quote_too_short"
  else
    match textNoiseProblem quote with
    | some problem => some ("quote_" ++ problem)
    | none =>
        if hasDimensionSignal dimension (casefoldChars quote) then none
        else some "quote_missing_dimension_signal"

/-- `_trim_leading_boilerplate`. -/
def trimLeadingBoilerplate (text : List Char) : List Char :=
  navigationMarkers.foldl (fun text marker =>
    if marker.toList.isPrefixOf (casefoldChars text) then
      let tail := (text.drop marker.length).dropWhile fun char =>
        isSpace char || char ∈ ['-', '|', ':']
      if 40 ≤ tail.length then tail else text
    else text) text

/-- `_best_signal_sentence`. -/
def bestSignalSentence (text : List Char) (dimension : SignalDimension)
    (maxChars : Nat) : List Char :=
  match (sentencesFrom [] false text).find? fun part =>
      40 ≤ (stripChars part).length &&
        hasDimensionSignal dimension (casefoldChars part) with
  | some part => clipAtWordBoundary part maxChars
  | none => []

/-- `clean_evidence_quote`. -/
def cleanEvidenceQuote (text : List Char) (dimension : SignalDimension) :
    List Char :=
  let normalized := trimLeadingBoilerplate (normalizeWhitespace text)
  if normalized.length ≤ 420 then normalized
  else
    let sentence := bestSignalSentence normalized dimension 420
    if sentence ≠ [] then sentence else clipAtWordBoundary normalized 420

/-- `_expand_to_word_start`, or no place when the text has no character in
front of it. -/
def expandToWordStart (text : List Char) : Nat → Option Nat
  | 0 => some 0
  | start + 1 =>
      match text[start]? with
      | none => none
      | some char =>
          if PyRuntime.isAlnum char then expandToWordStart text start
          else some (start + 1)

/-- `_expand_to_word_end`. -/
def expandToWordEnd (text : List Char) (stop : Nat) : Nat :=
  stop + ((text.drop stop).takeWhile PyRuntime.isAlnum).length

/-- `quote_window_from_match`; it raises when the match starts too far behind
the text. -/
def quoteWindowFromMatch (text : List Char) (matchStart matchEnd : Nat)
    (dimension : SignalDimension) : Option (List Char) :=
  if text = [] then some []
  else
    match expandToWordStart text (matchStart - 140) with
    | none => none
    | some start =>
        let stop := expandToWordEnd text (min text.length (matchEnd + 280))
        let quote := cleanEvidenceQuote (slice text start stop) dimension
        some (if quoteQualityProblem quote dimension = none then quote else [])

end Quality

end CompetiScope
