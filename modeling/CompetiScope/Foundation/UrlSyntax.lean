import CompetiScope.Foundation.Text
import Mathlib.Data.List.TakeWhile

/-!
# The syntax of URLs

`urllib.parse` on lists of code points: a URL is split into its scheme, its
network location, its path and what follows, and put together again.  The
tables behind `str.lower` and the Unicode check of a network location, and the
grammar of addresses in brackets, are a class whose laws they meet.
-/

namespace Foundation

/-- An ASCII character that is no letter. -/
def isAsciiMark (char : Char) : Bool :=
  char.toNat < 128 && !char.isAlpha

/-- What `urllib.parse` asks the Unicode tables and `ipaddress`: lower case,
whether the compatibility form of a character has one of `/?#@:`, and whether
a text is an address that may stand in brackets. -/
class UrlTables extends PyLowercase where
  hidesDelimiter : Char → Bool
  isBracketedHost : List Char → Bool
  lower_settled : ∀ text : List Char, ∀ char ∈ lower text,
    lower [char] = [char]
  lower_of_settled : ∀ text : List Char,
    (∀ char ∈ text, lower [char] = [char]) → lower text = text
  lower_eq_nil : ∀ text : List Char, lower text = [] → text = []
  mem_lower : ∀ (text : List Char) (char : Char), isAsciiMark char = true →
    (char ∈ lower text ↔ char ∈ text)
  lower_marked : ∀ text marks : List Char,
    (∀ char ∈ marks, isAsciiMark char = true) →
      marks <:+ lower text → marks <:+ text
  lower_zone : ∀ front back : List Char,
    lower (front ++ '%' :: back) = lower front ++ '%' :: lower back
  lower_port : ∀ front digits : List Char,
    (∀ char ∈ digits, char.isDigit = true) →
      lower (front ++ ':' :: digits) = lower front ++ ':' :: digits
  hides_ascii : ∀ char : Char, char.toNat < 128 →
    hidesDelimiter char = false
  lower_visible : ∀ text : List Char,
    (∀ char ∈ text, hidesDelimiter char = false) →
      ∀ char ∈ lower text, hidesDelimiter char = false

section Ascii

variable {char : Char} {text : List Char}

theorem toLower_toLower (char : Char) :
    char.toLower.toLower = char.toLower := by
  rcases toLower_eq (rfl : char.toLower = _) with
    same | ⟨above, below, code⟩
  · rw [← same]
    exact same.symm
  · rcases toLower_eq (rfl : char.toLower.toLower = _) with
      same | ⟨-, again, -⟩
    · exact same.symm
    · omega

/-- Only a mark itself is a mark in lower case. -/
theorem eq_of_toLower_mark {mark : Char} (isMark : isAsciiMark mark = true)
    (lower : char.toLower = mark) : char = mark := by
  rcases toLower_eq lower with same | ⟨above, below, code⟩
  · exact same
  · have isLower : mark.isLower = true := by
      rw [isLower_iff]
      omega
    simp [isAsciiMark, isAlpha_eq, isLower] at isMark

theorem isAsciiMark_of_isDigit (digit : char.isDigit = true) :
    isAsciiMark char = true := by
  have range : 48 ≤ char.toNat ∧ char.toNat ≤ 57 := by
    simpa [Char.isDigit, UInt32.le_iff_toNat_le] using digit
  have noUpper : char.isUpper = false := by
    rw [Bool.eq_false_iff, ne_eq, isUpper_iff]
    omega
  have noLower : char.isLower = false := by
    rw [Bool.eq_false_iff, ne_eq, isLower_iff]
    omega
  have small : char.toNat < 128 := by omega
  simp [isAsciiMark, isAlpha_eq, noUpper, noLower, small]

theorem toLower_of_mark (isMark : isAsciiMark char = true) :
    char.toLower = char := by
  unfold Char.toLower
  split
  · next upper =>
      have isUpper : char.isUpper = true := decide_eq_true upper
      simp [isAsciiMark, isAlpha_eq, isUpper] at isMark
  · rfl

theorem map_toLower_marks {marks : List Char}
    (areMarks : ∀ char ∈ marks, isAsciiMark char = true)
    (lower : text.map Char.toLower = marks) : text = marks := by
  induction text generalizing marks with
  | nil => exact lower
  | cons char text induction =>
      cases lower
      have first := areMarks char.toLower List.mem_cons_self
      rw [List.map_cons, ← eq_of_toLower_mark first rfl,
        ← induction (fun char member =>
          areMarks char (List.mem_cons_of_mem _ member)) rfl]

end Ascii

/-- Tables that are exact on ASCII text without addresses in brackets; used
to evaluate examples. -/
@[reducible] def asciiUrlTables : UrlTables :=
  { asciiLowercase with
    hidesDelimiter := fun _ => false
    isBracketedHost := fun _ => false
    lower_settled := by
      intro text char member
      obtain ⟨upper, -, rfl⟩ := List.mem_map.mp member
      exact congrArg (fun char => [char]) (toLower_toLower upper)
    lower_of_settled := by
      intro text settled
      calc text.map Char.toLower
          = text.map id := List.map_congr_left fun char member =>
            (List.cons.inj (settled char member)).1
        _ = text := List.map_id text
    lower_eq_nil := fun _ none => List.map_eq_nil_iff.mp none
    mem_lower := by
      intro text char isMark
      constructor
      · intro member
        obtain ⟨other, inText, lower⟩ := List.mem_map.mp member
        rwa [eq_of_toLower_mark isMark lower] at inText
      · intro member
        exact List.mem_map.mpr ⟨char, member, toLower_of_mark isMark⟩
    lower_marked := by
      rintro text marks areMarks ⟨front, lower⟩
      obtain ⟨before, after, rfl, -, isMarks⟩ :=
        List.map_eq_append_iff.mp lower.symm
      rw [map_toLower_marks areMarks isMarks]
      exact List.suffix_append before marks
    lower_zone := fun _ _ => List.map_append
    lower_port := by
      intro front digits areDigits
      have fixed : (':' :: digits).map Char.toLower = ':' :: digits := by
        calc (':' :: digits).map Char.toLower
            = (':' :: digits).map id := List.map_congr_left (by
              intro char member
              rcases List.mem_cons.mp member with rfl | isDigit
              · rfl
              · exact toLower_of_mark
                  (isAsciiMark_of_isDigit (areDigits char isDigit)))
          _ = ':' :: digits := List.map_id _
      show List.map Char.toLower (front ++ ':' :: digits) = _
      rw [List.map_append, fixed]
      rfl
    hides_ascii := fun _ _ => rfl
    lower_visible := fun _ _ _ _ => rfl }

/-! ## Cutting a text at a mark -/

/-- The text before the first mark, and the text behind it. -/
def cut (mark : Char) : List Char → List Char × Option (List Char)
  | [] => ([], none)
  | char :: text =>
      if char = mark then ([], some text)
      else (char :: (cut mark text).1, (cut mark text).2)

/-- The text before the last mark, and the text behind it. -/
def cutLast (mark : Char) (text : List Char) :
    Option (List Char) × List Char :=
  ((cut mark text.reverse).2.map List.reverse,
    (cut mark text.reverse).1.reverse)

/-! ## Parts -/

/-- `SplitResult`. -/
structure SplitUrl where
  scheme : List Char
  netloc : List Char
  path : List Char
  query : List Char
  fragment : List Char
  deriving DecidableEq

/-- `ParseResult`. -/
structure ParsedParts extends SplitUrl where
  params : List Char
  deriving DecidableEq

/-- `_WHATWG_C0_CONTROL_OR_SPACE`. -/
def isControlOrSpace (char : Char) : Bool :=
  char.toNat ≤ 32

/-- `_UNSAFE_URL_BYTES_TO_REMOVE`. -/
def isUnsafe (char : Char) : Bool :=
  char ∈ ['\t', '\r', '\n']

/-- `scheme_chars`. -/
def isSchemeChar (char : Char) : Bool :=
  char.isAlphanum || char ∈ ['+', '-', '.']

/-- The characters that end a network location. -/
def endsLocation (char : Char) : Bool :=
  char ∈ ['/', '?', '#']

/-- `uses_params`. -/
def usesParams : List (List Char) :=
  ["", "ftp", "hdl", "prospero", "http", "imap", "https", "shttp", "rtsp",
    "rtsps", "rtspu", "sip", "sips", "mms", "sftp", "tel"].map String.toList

section Parsing

variable [UrlTables]

/-- The scheme of a URL and the rest. -/
def splitScheme (url : List Char) : List Char × List Char :=
  match cut ':' url with
  | (head :: front, some rest) =>
      if head.isAlpha ∧ (head :: front).all isSchemeChar then
        (PyLowercase.lower (head :: front), rest)
      else ([], url)
  | _ => ([], url)

/-- The network location of what is left, and the rest. -/
def splitNetloc : List Char → List Char × List Char
  | '/' :: '/' :: rest =>
      (rest.takeWhile (! endsLocation ·), rest.dropWhile (! endsLocation ·))
  | rest => ([], rest)

/-- The host a network location has in brackets. -/
def bracketedHost (netloc : List Char) : List Char :=
  (cut ']' ((cut '[' netloc).2.getD [])).1

/-- The checks of a network location: brackets come in pairs around an
address, and no character hides a delimiter (`_checknetloc`). -/
def checkNetloc (netloc : List Char) : Except String Unit :=
  if ('[' ∈ netloc ∧ ']' ∉ netloc) ∨ (']' ∈ netloc ∧ '[' ∉ netloc) then
    .error "Invalid IPv6 URL"
  else if '[' ∈ netloc ∧ ! UrlTables.isBracketedHost (bracketedHost netloc)
  then .error "Invalid address in brackets"
  else if netloc.any UrlTables.hidesDelimiter then
    .error "netloc contains invalid characters under NFKC normalization"
  else .ok ()

/-- `urlsplit`. -/
def urlsplit (url : List Char) : Except String SplitUrl :=
  let clean := (url.dropWhile isControlOrSpace).filter (! isUnsafe ·)
  let (scheme, rest) := splitScheme clean
  let (netloc, rest) := splitNetloc rest
  let (rest, fragment) := cut '#' rest
  let (path, query) := cut '?' rest
  match checkNetloc netloc with
  | .error message => .error message
  | .ok () =>
      .ok
        { scheme := scheme
          netloc := netloc
          path := path
          query := query.getD []
          fragment := fragment.getD [] }

/-- `_splitparams`: the parameters of the last segment. -/
def splitParams (path : List Char) : List Char × List Char :=
  match cutLast '/' path with
  | (none, last) => ((cut ';' last).1, (cut ';' last).2.getD [])
  | (some front, last) =>
      (front ++ '/' :: (cut ';' last).1, (cut ';' last).2.getD [])

/-- `urlparse`. -/
def urlparse (url : List Char) : Except String ParsedParts :=
  match urlsplit url with
  | .error message => .error message
  | .ok split =>
      if split.scheme ∈ usesParams then
        .ok
          { split with
            path := (splitParams split.path).1
            params := (splitParams split.path).2 }
      else .ok { split with params := [] }

end Parsing

end Foundation
