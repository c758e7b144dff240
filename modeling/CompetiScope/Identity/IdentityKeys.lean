import CompetiScope.Foundation.Collections
import CompetiScope.Foundation.Words
import CompetiScope.Identity.StableIds
import Mathlib.Data.Set.Function
import Mathlib.Data.String.Basic

/-!
# Identity keys

The ids of competitors, projects and evidence are digests of joined texts.
The parts are joined by a separator that is not escaped, and names are cut
down to their ASCII letters and digits first, so that some distinct arguments
share a digest; which ones is said exactly.
-/

namespace CompetiScope

open Foundation

/-- What the builders take from elsewhere: the hexadecimal SHA-256,
`str.lower` and `normalize_url`. -/
structure IdentityLibrary where
  sha256Hex : String → String
  lower : String → String
  lower_ascii : ∀ text : String, (∀ char ∈ text.toList, char.toNat < 128) →
    lower text = String.ofList (text.toList.map Char.toLower)
  normalizeUrl : Option String → String

/-- `[a-z0-9]`. -/
def isKeyChar (char : Char) : Bool :=
  char.isLower || char.isDigit

/-- The text `stable_digest` hashes. -/
def hashedText (parts : List IdPart) : String :=
  String.intercalate "|" (parts.map identityPart)

/-- The punctuation `compute_topic_normalized` replaces. -/
def topicPunctuation : List Char :=
  ['、', '，', '。', '！', '？', ',', '.', ';', ':', '!', '?']

namespace IdentityLibrary

variable (library : IdentityLibrary)

/-! ## Normalised texts -/

/-- `normalize_text`. -/
def normalizeText (text : Option String) : String :=
  match text with
  | none => ""
  | some text =>
      if text = "" then ""
      else
        String.ofList (replaceRuns isSpace ' ' false
          (stripChars (library.lower text).toList))

/-- `normalize_key`. -/
def normalizeKey (value : Option String) : String :=
  let key := trimMarks '-' (replaceRuns (fun char => !isKeyChar char) '-'
    false (library.normalizeText value).toList)
  if key = [] then "unknown" else String.ofList key

/-- `normalize_dimension_key`. -/
def normalizeDimensionKey (dimension : Option String) : String :=
  match dimension with
  | none => ""
  | some dimension =>
      if dimension = "" then ""
      else
        String.ofList (trimMarks '_'
          (replaceRuns (fun char => !(isKeyChar char || char == '_')) '_'
            false (library.normalizeText (some dimension)).toList))

/-- `compute_topic_normalized`. -/
def computeTopicNormalized (topic : Option String) : String :=
  let text := replaceRuns (· ∈ topicPunctuation) ' ' false
    (library.normalizeText topic).toList
  String.ofList (stripChars (replaceRuns isSpace ' ' false text))

/-- `compute_competitor_set_hash`. -/
def computeCompetitorSetHash (competitorIds : List String) : String :=
  if competitorIds = [] then library.sha256Hex ""
  else
    library.sha256Hex (String.intercalate "|"
      (sortedSet ((competitorIds.map strip).filter (· ≠ ""))))

/-! ## Ids -/

/-- The digest of a text, `digest[:length] if length else digest`. -/
def digest (length : Option Nat) (text : String) : String :=
  match length with
  | none => library.sha256Hex text
  | some length =>
      String.ofList ((library.sha256Hex text).toList.take length)

/-- `stable_digest`. -/
def stableDigest (parts : List IdPart) (length : Option Nat) : String :=
  library.digest length (hashedText parts)

/-- The parts of a competitor id. -/
def competitorParts (workspaceId name : String) : List IdPart :=
  [.text workspaceId, .text (library.normalizeKey (some name))]

/-- `compute_competitor_id`. -/
def computeCompetitorId (workspaceId name : String) : String :=
  stablePrefixedId library.sha256Hex "competitor"
    (library.competitorParts workspaceId name) 16

/-- The parts of a project id. -/
def projectParts (workspaceId topic : String) (competitorIds : List String) :
    List IdPart :=
  [.text workspaceId, .text (library.computeTopicNormalized (some topic)),
    .text (library.computeCompetitorSetHash competitorIds)]

/-- `compute_project_id`. -/
def computeProjectId (workspaceId topic : String)
    (competitorIds : List String) : String :=
  stablePrefixedId library.sha256Hex "project"
    (library.projectParts workspaceId topic competitorIds) 16

end IdentityLibrary

/-- The arguments of `compute_evidence_id`. -/
structure EvidenceIdentity where
  canonicalUrl : Option String
  contentHash : Option String
  competitorId : Option String
  dimensionKey : Option String
  deriving DecidableEq

namespace IdentityLibrary

variable (library : IdentityLibrary)

/-- The texts an evidence id joins. -/
def evidenceTexts (evidence : EvidenceIdentity) : List String :=
  [library.normalizeUrl evidence.canonicalUrl,
    evidence.contentHash.getD "", evidence.competitorId.getD "",
    library.normalizeDimensionKey evidence.dimensionKey]

/-- `compute_evidence_id`. -/
def computeEvidenceId (evidence : EvidenceIdentity) : String :=
  library.sha256Hex
    (String.intercalate "|" (library.evidenceTexts evidence))

/-! ## What tells ids apart -/

/-- The runs of ASCII letters and digits of a name in lower case; a name
without any is taken for "unknown". -/
def keyWords (name : String) : List (List Char) :=
  let words := wordsOf (fun char => !isKeyChar char)
    (library.lower name).toList
  if words = [] then ["unknown".toList] else words

end IdentityLibrary

/-- The texts, cut at every separator. -/
def textPieces (texts : List String) : List (List Char) :=
  texts.flatMap fun text => text.toList.splitOn '|'

/-- The parts as they are hashed, cut at every separator. -/
def tuplePieces (parts : List IdPart) : List (List Char) :=
  textPieces (parts.map identityPart)

theorem splitOn_intercalate {texts : List String} (filled : texts ≠ []) :
    (String.intercalate "|" texts).toList.splitOn '|' = textPieces texts := by
  rw [String.toList_intercalate]
  have separator : "|".toList = ['|'] := rfl
  rw [separator]
  induction texts with
  | nil => exact (filled rfl).elim
  | cons text texts induction =>
      rw [List.map_cons, intercalate_cons, textPieces, List.flatMap_cons]
      by_cases alone : texts = []
      · simp [alone]
      · rw [if_neg (by simpa using alone),
          List.splitOn_append_cons_of_beq _ _ (by simp), induction alone]
        rfl

/-- Joined texts are equal when the same pieces are joined. -/
theorem intercalate_eq_iff {first second : List String}
    (filled : first ≠ []) (otherFilled : second ≠ []) :
    String.intercalate "|" first = String.intercalate "|" second ↔
      textPieces first = textPieces second := by
  rw [← splitOn_intercalate filled, ← splitOn_intercalate otherFilled]
  constructor
  · intro same
    rw [same]
  · intro same
    have joined := congrArg (List.intercalate ['|']) same
    rw [List.intercalate_splitOn, List.intercalate_splitOn] at joined
    exact String.toList_inj.mp joined

/-! ## Keys -/

theorem isSpace_of_isKeyChar {char : Char} (key : isKeyChar char = true) :
    isSpace char = false := by
  have code : 97 ≤ char.toNat ∧ char.toNat ≤ 122 ∨
      48 ≤ char.toNat ∧ char.toNat ≤ 57 := by
    simpa [isKeyChar, isLower_iff, Char.isDigit, UInt32.le_iff_toNat_le]
      using key
  simp [isSpace]
  omega

theorem not_isKeyChar_of_isSpace (char : Char) (space : isSpace char = true) :
    (!isKeyChar char) = true := by
  cases key : isKeyChar char with
  | false => rfl
  | true =>
      rw [isSpace_of_isKeyChar key] at space
      cases space

/-- A text without white space is stripped already. -/
theorem strip_of_visible {text : String}
    (visible : ∀ char ∈ text.toList, isSpace char = false) :
    strip text = text := by
  have noLeading : ∀ chars : List Char,
      (∀ char ∈ chars, isSpace char = false) → stripLeft chars = chars := by
    intro chars visible
    cases chars with
    | nil => rfl
    | cons char chars =>
        apply List.dropWhile_cons_of_neg
        rw [visible char List.mem_cons_self]
        decide
  rw [strip, stripChars, noLeading _ visible, noLeading, List.reverse_reverse,
    String.ofList_toList]
  intro char member
  exact visible char (List.mem_reverse.mp member)

namespace IdentityLibrary

variable {library : IdentityLibrary}

/-- Trimming a text and squeezing its white space keeps its words. -/
theorem wordsOf_normalizeText (name : String) :
    wordsOf (fun char => !isKeyChar char)
        (library.normalizeText (some name)).toList =
      wordsOf (fun char => !isKeyChar char) (library.lower name).toList := by
  rw [normalizeText]
  by_cases empty : name = ""
  · have lowered : library.lower name = "" := by
      rw [library.lower_ascii name]
      · rw [empty]
        rfl
      · rw [empty]
        exact fun _ member => nomatch member
    rw [empty] at lowered
    simp [empty, lowered]
  · rw [if_neg empty, String.toList_ofList]
    calc wordsOf (fun char => !isKeyChar char)
          (replaceRuns isSpace ' ' false
            (stripChars (library.lower name).toList))
        = wordsOf (fun char => !isKeyChar char)
            (stripChars (library.lower name).toList) :=
          (wordsOf_replaceRuns not_isKeyChar_of_isSpace (by decide) _ []).1
      _ = wordsOf (fun char => !isKeyChar char)
            ((library.lower name).toList.dropWhile isSpace) :=
          wordsOf_rdropWhile not_isKeyChar_of_isSpace _
      _ = wordsOf (fun char => !isKeyChar char)
            (library.lower name).toList :=
          wordsOf_dropWhile not_isKeyChar_of_isSpace _

theorem keyWords_filled (name : String) :
    ∀ word ∈ library.keyWords name, word ≠ [] := by
  rw [keyWords]
  intro word member
  split at member
  · rw [List.mem_singleton.mp member]
    decide
  · exact mem_wordsOf member

theorem keyWords_kept (name : String) :
    ∀ word ∈ library.keyWords name, ∀ char ∈ word,
      (!isKeyChar char) = false := by
  rw [keyWords]
  intro word member
  split at member
  · rw [List.mem_singleton.mp member]
    decide
  · exact kept_of_mem_wordsOf member

/-- The key of a name spells its words. -/
theorem normalizeKey_eq (name : String) :
    library.normalizeKey (some name) =
      String.ofList (['-'].intercalate (library.keyWords name)) := by
  rw [normalizeKey, trimMarks_replaceRuns (by decide), keyWords,
    wordsOf_normalizeText]
  have filled : ∀ word ∈ wordsOf (fun char => !isKeyChar char)
      (library.lower name).toList, word ≠ [] := fun _ member =>
    mem_wordsOf member
  simp only [intercalate_eq_nil filled]
  split
  · rw [List.intercalate_singleton, String.ofList_toList]
  · rfl

/-- Names share a key when they have the same words. -/
theorem normalizeKey_eq_iff {first second : String} :
    library.normalizeKey (some first) = library.normalizeKey (some second) ↔
      library.keyWords first = library.keyWords second := by
  rw [normalizeKey_eq, normalizeKey_eq]
  constructor
  · intro same
    have words := congrArg (wordsOf fun char => !isKeyChar char)
      (String.ofList_injective same)
    rwa [wordsOf_intercalate (by decide) (keyWords_filled first)
        (keyWords_kept first),
      wordsOf_intercalate (by decide) (keyWords_filled second)
        (keyWords_kept second)] at words
  · intro same
    rw [same]

theorem strip_normalizeKey (name : String) :
    strip (library.normalizeKey (some name)) =
      library.normalizeKey (some name) := by
  apply strip_of_visible
  rw [normalizeKey_eq, String.toList_ofList]
  intro char member
  rcases mem_spelling member with isDash | ⟨word, isWord, inWord⟩
  · rw [isDash]
    decide
  · have kept := keyWords_kept name word isWord char inWord
    exact isSpace_of_isKeyChar (by simpa using kept)

/-! ## Ids -/

theorem stablePrefixedId_eq_iff {label : String} {first second : List IdPart}
    {length : Nat} :
    stablePrefixedId library.sha256Hex label first length =
        stablePrefixedId library.sha256Hex label second length ↔
      library.stableDigest first (some length) =
        library.stableDigest second (some length) := by
  unfold stablePrefixedId stableDigest digest hashedText
  dsimp only
  rw [← String.toList_inj]
  simp only [String.toList_append, List.append_cancel_left_eq,
    String.toList_inj]

/-- Digests of tuples differ when their pieces do, as far as the digest tells
the joined texts apart. -/
theorem stableDigest_eq_iff {texts : Set String} {length : Option Nat}
    (collisionFree : Set.InjOn (library.digest length) texts)
    {first second : List IdPart} (filled : first ≠ [])
    (otherFilled : second ≠ [])
    (hashed : hashedText first ∈ texts)
    (otherHashed : hashedText second ∈ texts) :
    library.stableDigest first length = library.stableDigest second length ↔
      tuplePieces first = tuplePieces second := by
  rw [tuplePieces, tuplePieces, ← intercalate_eq_iff (by simpa using filled)
    (by simpa using otherFilled)]
  exact collisionFree.eq_iff hashed otherHashed

/-- Two names of a workspace share an id when they have the same words. -/
theorem computeCompetitorId_eq_iff {texts : Set String}
    (collisionFree : Set.InjOn (library.digest (some 16)) texts)
    {workspaceId first second : String}
    (hashed : hashedText (library.competitorParts workspaceId first) ∈ texts)
    (otherHashed : hashedText (library.competitorParts workspaceId second) ∈ texts) :
    library.computeCompetitorId workspaceId first =
        library.computeCompetitorId workspaceId second ↔
      library.keyWords first = library.keyWords second := by
  rw [computeCompetitorId, computeCompetitorId, stablePrefixedId_eq_iff,
    ← normalizeKey_eq_iff]
  apply (collisionFree.eq_iff hashed otherHashed).trans
  rw [hashedText, hashedText, competitorParts, competitorParts,
    ← String.toList_inj, String.toList_intercalate, String.toList_intercalate]
  simp [identityPart, strip_normalizeKey, List.intercalate_cons_cons,
    String.toList_inj]

theorem computeProjectId_eq_iff {texts : Set String}
    (collisionFree : Set.InjOn (library.digest (some 16)) texts)
    {workspaceId otherWorkspaceId topic otherTopic : String}
    {competitorIds otherCompetitorIds : List String}
    (hashed : hashedText
      (library.projectParts workspaceId topic competitorIds) ∈ texts)
    (otherHashed : hashedText
      (library.projectParts otherWorkspaceId otherTopic otherCompetitorIds) ∈
        texts) :
    library.computeProjectId workspaceId topic competitorIds =
        library.computeProjectId otherWorkspaceId otherTopic
          otherCompetitorIds ↔
      tuplePieces (library.projectParts workspaceId topic competitorIds) =
        tuplePieces (library.projectParts otherWorkspaceId otherTopic
          otherCompetitorIds) := by
  rw [computeProjectId, computeProjectId, stablePrefixedId_eq_iff]
  exact stableDigest_eq_iff collisionFree (List.cons_ne_nil _ _)
    (List.cons_ne_nil _ _) hashed otherHashed

theorem computeEvidenceId_eq_iff {texts : Set String}
    (collisionFree : Set.InjOn (library.digest none) texts)
    {first second : EvidenceIdentity}
    (hashed : String.intercalate "|" (library.evidenceTexts first) ∈ texts)
    (otherHashed : String.intercalate "|" (library.evidenceTexts second) ∈
      texts) :
    library.computeEvidenceId first = library.computeEvidenceId second ↔
      textPieces (library.evidenceTexts first) =
        textPieces (library.evidenceTexts second) := by
  have joined := @intercalate_eq_iff (library.evidenceTexts first)
    (library.evidenceTexts second) (List.cons_ne_nil _ _)
    (List.cons_ne_nil _ _)
  rw [← joined]
  exact collisionFree.eq_iff hashed otherHashed

/-- The lengths the builders cut a digest to. -/
def builderLengths : List (Option Nat) :=
  [none, some 16, some 20, some 24, some 32]

/-- SHA-256 tells the texts apart, also when its digest is cut. -/
def CollisionFree (library : IdentityLibrary) (texts : Set String) : Prop :=
  ∀ length ∈ builderLengths, Set.InjOn (library.digest length) texts

/-- Names, tuples of arguments, workspaces of projects and evidence that are
distinct have distinct ids exactly when the names differ in their words and
the arguments in their pieces. -/
theorem identityKeys_distinct_iff [PyRuntime] {texts : Set String}
    (collisionFree : library.CollisionFree texts) :
    (∀ workspaceId first second,
      hashedText (library.competitorParts workspaceId first) ∈ texts →
      hashedText (library.competitorParts workspaceId second) ∈ texts →
        ((casefold (strip first) ≠ casefold (strip second) →
            library.computeCompetitorId workspaceId first ≠
              library.computeCompetitorId workspaceId second) ↔
          (casefold (strip first) = casefold (strip second) ∨
            library.keyWords first ≠ library.keyWords second))) ∧
    (∀ length ∈ builderLengths, ∀ first second : List IdPart,
      first ≠ [] → second ≠ [] →
      hashedText first ∈ texts → hashedText second ∈ texts →
        ((first ≠ second →
            library.stableDigest first length ≠
              library.stableDigest second length) ↔
          (first = second ∨ tuplePieces first ≠ tuplePieces second))) ∧
    (∀ workspaceId otherWorkspaceId topic otherTopic competitorIds
        otherCompetitorIds,
      hashedText (library.projectParts workspaceId topic competitorIds) ∈
        texts →
      hashedText (library.projectParts otherWorkspaceId otherTopic
        otherCompetitorIds) ∈ texts →
        ((workspaceId ≠ otherWorkspaceId →
            library.computeProjectId workspaceId topic competitorIds ≠
              library.computeProjectId otherWorkspaceId otherTopic
                otherCompetitorIds) ↔
          (workspaceId = otherWorkspaceId ∨
            tuplePieces
                (library.projectParts workspaceId topic competitorIds) ≠
              tuplePieces (library.projectParts otherWorkspaceId otherTopic
                otherCompetitorIds)))) ∧
    (∀ first second : EvidenceIdentity,
      String.intercalate "|" (library.evidenceTexts first) ∈ texts →
      String.intercalate "|" (library.evidenceTexts second) ∈ texts →
        ((first ≠ second →
            library.computeEvidenceId first ≠
              library.computeEvidenceId second) ↔
          (first = second ∨
            textPieces (library.evidenceTexts first) ≠
              textPieces (library.evidenceTexts second)))) := by
  have cut : Set.InjOn (library.digest (some 16)) texts :=
    collisionFree (some 16) (by decide)
  refine ⟨?_, ?_, ?_, ?_⟩
  · intro workspaceId first second hashed otherHashed
    rw [ne_eq (library.computeCompetitorId _ _),
      computeCompetitorId_eq_iff cut hashed otherHashed]
    exact or_iff_not_imp_left.symm
  · intro length used first second filled otherFilled hashed otherHashed
    rw [ne_eq (library.stableDigest _ _),
      stableDigest_eq_iff (collisionFree length used) filled otherFilled
        hashed otherHashed]
    exact or_iff_not_imp_left.symm
  · intro workspaceId otherWorkspaceId topic otherTopic competitorIds
      otherCompetitorIds hashed otherHashed
    rw [ne_eq (library.computeProjectId _ _ _),
      computeProjectId_eq_iff cut hashed otherHashed]
    exact or_iff_not_imp_left.symm
  · intro first second hashed otherHashed
    have whole := collisionFree none (by decide)
    rw [ne_eq (library.computeEvidenceId _),
      computeEvidenceId_eq_iff whole hashed otherHashed]
    exact or_iff_not_imp_left.symm

end IdentityLibrary

namespace IdentityExample

local instance identityExampleRuntime : PyRuntime := asciiRuntime

/-- A library whose digest is the text itself. -/
def library : IdentityLibrary :=
  { sha256Hex := id
    lower := fun text => String.ofList (text.toList.map Char.toLower)
    lower_ascii := fun _ _ => rfl
    normalizeUrl := fun url => url.getD "" }

/-- The texts of the ids of two competitors of a workspace. -/
def texts : Set String :=
  {hashedText (library.competitorParts "w" "Cursor"),
    hashedText (library.competitorParts "w" "Copilot")}

theorem identityKeys_distinct_iff_competitors :
    casefold (strip "Cursor") ≠ casefold (strip "Copilot") ∧
      library.computeCompetitorId "w" "Cursor" ≠
        library.computeCompetitorId "w" "Copilot" := by
  have collisionFree : library.CollisionFree texts := by
    intro length used
    have apart : library.digest length
          (hashedText (library.competitorParts "w" "Cursor")) ≠
        library.digest length
          (hashedText (library.competitorParts "w" "Copilot")) := by
      revert length
      decide +kernel
    rintro first (rfl | rfl) second (rfl | rfl) same
    · rfl
    · exact (apart same).elim
    · exact (apart same.symm).elim
    · rfl
  have competitors :=
    (IdentityLibrary.identityKeys_distinct_iff collisionFree).1 "w" "Cursor"
      "Copilot" (.inl rfl) (.inr rfl)
  have different : casefold (strip "Cursor") ≠ casefold (strip "Copilot") := by
    decide +kernel
  exact ⟨different, competitors.mpr (.inr (by decide +kernel)) different⟩

/-- Two names in Chinese share an id, and so do projects of two workspaces
and two records of evidence whose arguments contain the separator. -/
theorem identityKeys_collide :
    casefold (strip "飞书") ≠ casefold (strip "钉钉") ∧
      library.computeCompetitorId "w" "飞书" =
        library.computeCompetitorId "w" "钉钉" ∧
      library.computeProjectId "a|b" "c" [] =
        library.computeProjectId "a" "b|c" [] ∧
      library.computeEvidenceId
          { canonicalUrl := some "u"
            contentHash := some "h|x"
            competitorId := some "c"
            dimensionKey := some "pricing" } =
        library.computeEvidenceId
          { canonicalUrl := some "u"
            contentHash := some "h"
            competitorId := some "x|c"
            dimensionKey := some "pricing" } := by
  decide +kernel

end IdentityExample

end CompetiScope
