import CompetiScope.Foundation.Text

/-!
# Source tokens of a report

The scanner behind `SOURCE_TOKEN_RE.finditer`.  The token alphabet excludes
both closing brackets, so the greedy token run is the only one that can match.
-/

namespace CompetiScope

open Foundation

/-- `char` matches the lower-case ASCII letter `letter` under
`re.IGNORECASE`, which folds the long s and the Kelvin sign too. -/
def matchesIgnoreCase (letter char : Char) : Bool :=
  char = letter || char.toLower = letter ||
    (letter = 's' && char.toNat = 0x17F) ||
    (letter = 'k' && char.toNat = 0x212A)

def prefixIgnoreCase : List Char → List Char → Option (List Char)
  | [], text => some text
  | _ :: _, [] => none
  | letter :: letters, char :: text =>
      if matchesIgnoreCase letter char then prefixIgnoreCase letters text
      else none

/-- `[A-Za-z0-9_.:#-]` under `re.IGNORECASE`. -/
def isSourceTokenChar (char : Char) : Bool :=
  char.isAlphanum || char ∈ ['_', '.', ':', '#', '-'] ||
    char.toNat ∈ [0x130, 0x131, 0x17F, 0x212A]

/-- `source:` or its Chinese spelling, after the opening bracket. -/
def sourceKeyword (text : List Char) : Option (List Char) :=
  match prefixIgnoreCase "source:".toList text with
  | some rest => some rest
  | none =>
      prefixIgnoreCase [Char.ofNat 0x6765, Char.ofNat 0x6E90, ':'] text

/-- A bracketed token at the front: the token and the length of the match. -/
def sourceTokenAt : List Char → Option (List Char × Nat)
  | [] => none
  | char :: text =>
      let closing : Option Char :=
        if char = '[' then some ']'
        else if char.toNat = 0x3010 then some (Char.ofNat 0x3011)
        else none
      match closing, sourceKeyword text with
      | some close, some body =>
          let token := body.takeWhile isSourceTokenChar
          if token ≠ [] ∧ (body.drop token.length).head? = some close then
            some (token,
              1 + (text.length - body.length) + token.length + 1)
          else none
      | _, _ => none

/-- `skip` characters belong to the match already reported. -/
def sourceTokensFrom (skip : Nat) : List Char → List (List Char)
  | [] => []
  | char :: text =>
      match skip with
      | skip + 1 => sourceTokensFrom skip text
      | 0 =>
          match sourceTokenAt (char :: text) with
          | some (token, length) =>
              token :: sourceTokensFrom (length - 1) text
          | none => sourceTokensFrom 0 text

/-- `source_tokens`. -/
def sourceTokens (markdown : String) : List String :=
  (sourceTokensFrom 0 markdown.toList).map String.ofList

/-- `normalize_source_token`: the part before the first `#`, stripped. -/
def normalizeSourceToken (token : String) : String :=
  String.ofList (stripChars (token.toList.takeWhile (· ≠ '#')))

/-- `_report_cited_raw_source_ids`. -/
def reportCitedRawSourceIds (reportMd : String) : List String :=
  ((sourceTokens reportMd).map normalizeSourceToken).filter (· ≠ "")

example :
    reportCitedRawSourceIds "A [source:s1] and [Source:s2#q] but [source:a b]" =
      ["s1", "s2"] := by
  decide

end CompetiScope
