import CompetiScope.Foundation.Spans
import CompetiScope.Foundation.Words
import CompetiScope.Identity.StableIds
import CompetiScope.Schema.Enterprise
import Mathlib.Data.List.Chain

/-!
# Chunks of the evidence

The text of a record is cut into windows that share a few characters.  A
window ends behind a sentence if one ends in its second half; the next window
begins where the shared characters begin.  The chunks are the windows without
the white space around them.
-/

namespace CompetiScope

open Foundation

def maxChunkChars : Nat := 700

def chunkOverlapChars : Int := 120

/-- `text.rfind(needle, start, stop)`, with `-1` for a text without it. -/
def rfind (text needle : List Char) (start stop : Nat) : Int :=
  let places := List.range' start (stop + 1 - needle.length - start)
  match places.reverse.find? fun place => needle.isPrefixOf (text.drop place) with
  | some place => place
  | none => -1

/-- Where the window ends that begins at a place. -/
def windowStop (text : List Char) (maxChars start : Nat) : Nat :=
  let stop := min text.length (start + maxChars)
  if stop < text.length then
    let sentenceEnd := max (rfind text ". ".toList start stop)
      (rfind text "; ".toList start stop)
    if (start + maxChars / 2 : Nat) < sentenceEnd then sentenceEnd.toNat + 1
    else stop
  else stop

/-- The loop of `_chunk_text`. -/
def chunkFrom (text : List Char) (maxChars safeOverlap start : Nat) :
    List (List Char) :=
  if start < text.length then
    let stop := windowStop text maxChars start
    let chunk := stripChars (slice text start stop)
    let rest :=
      if text.length ≤ stop then []
      else chunkFrom text maxChars safeOverlap
        (max (stop - safeOverlap) (start + 1))
    if chunk ≠ [] then chunk :: rest else rest
  else []
termination_by text.length - start

/-- `_chunk_text`. -/
def chunkText (text : List Char) (maxChars : Nat) (overlapChars : Int) :
    List (List Char) :=
  if text.length ≤ maxChars then [text]
  else
    let safeOverlap := max 0 (min overlapChars (maxChars / 2 : Nat))
    chunkFrom text maxChars safeOverlap.toNat 0

structure RetrievalChunk where
  id : String
  evidenceId : String
  chunkIndex : Nat
  title : String
  sourceType : String
  dimension : String
  text : String
  sourceUrl : String := ""
  deriving DecidableEq

/-- `_metadata_text`. -/
def metadataText (evidence : EvidenceRecord) : String :=
  let keys :=
    ["full_text", "content", "text", "raw_text", "extracted_text", "summary"]
  String.intercalate " " (keys.filterMap fun key =>
    match evidence.metadata.get? key with
    | some (.text value) => if strip value = "" then none else some value
    | _ => none)

/-- `_normalize`. -/
def normalizeChunkText (text : String) : List Char :=
  stripChars (replaceRuns isSpace ' ' false text.toList)

/-- `_evidence_text`. -/
def evidenceText (evidence : EvidenceRecord) : List Char :=
  let parts :=
    [evidence.title, evidence.snippet, metadataText evidence,
      evidence.dimension, evidence.sourceType, evidence.canonicalUrl]
  normalizeChunkText (String.intercalate " " (parts.filter (· ≠ "")))

/-- `compute_retrieval_chunk_id`. -/
def computeRetrievalChunkId (sha256Hex : String → String)
    (evidenceId : String) (index : Nat) (text : String) : String :=
  stablePrefixedId sha256Hex "chunk"
    [.text evidenceId, .number index, .text text] 24

/-- `chunk_evidence`. -/
def chunkEvidence (sha256Hex : String → String) (evidence : EvidenceRecord)
    (maxChars : Nat) (overlapChars : Int) : List RetrievalChunk :=
  let text := evidenceText evidence
  if text = [] then []
  else
    (chunkText text maxChars overlapChars).mapIdx fun index chunk =>
      { id := computeRetrievalChunkId sha256Hex evidence.id index
          (String.ofList chunk)
        evidenceId := evidence.id
        chunkIndex := index
        title := evidence.title
        sourceType := evidence.sourceType
        dimension := evidence.dimension
        text := String.ofList chunk
        sourceUrl :=
          match evidence.url with
          | some url => if url ≠ "" then url else evidence.canonicalUrl
          | none => evidence.canonicalUrl }

/-- `chunk_corpus`. -/
def chunkCorpus (sha256Hex : String → String)
    (evidence : List EvidenceRecord) : List RetrievalChunk :=
  evidence.flatMap fun item =>
    chunkEvidence sha256Hex item maxChunkChars chunkOverlapChars

/-! ## The windows -/

/-- What `rfind` finds lies inside. -/
theorem rfind_inside {text needle : List Char} {start stop : Nat} :
    rfind text needle start stop = -1 ∨
      ∃ place : Nat, rfind text needle start stop = place ∧
        start ≤ place ∧ place + needle.length ≤ stop := by
  unfold rfind
  dsimp only
  cases found : (List.range' start
      (stop + 1 - needle.length - start)).reverse.find?
        fun place => needle.isPrefixOf (text.drop place) with
  | none => exact Or.inl rfl
  | some place =>
      right
      have member := List.mem_of_find?_eq_some found
      rw [List.mem_reverse, List.mem_range'_1] at member
      exact ⟨place, rfl, by omega, by omega⟩

/-- A window ends inside the text, and in the second half of what it may
hold if it does not reach the end. -/
theorem windowStop_spec (text : List Char) {maxChars start : Nat}
    (room : 1 ≤ maxChars) (inside : start < text.length) :
    let stop := windowStop text maxChars start
    start < stop ∧ stop ≤ text.length ∧ stop ≤ start + maxChars ∧
      (stop = text.length ∨ stop = start + maxChars ∨
        start + maxChars / 2 + 2 ≤ stop) := by
  unfold windowStop
  dsimp only
  have halves : maxChars / 2 < maxChars := by omega
  split
  case isTrue short =>
    split
    case isTrue late =>
      have first := @rfind_inside text ". ".toList start
        (min text.length (start + maxChars))
      have second := @rfind_inside text "; ".toList start
        (min text.length (start + maxChars))
      have firstLength : ". ".toList.length = 2 := by decide
      have secondLength : "; ".toList.length = 2 := by decide
      rw [firstLength] at first
      rw [secondLength] at second
      generalize rfind text ". ".toList start _ = period at *
      generalize rfind text "; ".toList start _ = semicolon at *
      rcases first with first | ⟨firstPlace, first, firstFrom, firstTo⟩ <;>
        rcases second with second | ⟨secondPlace, second, secondFrom, secondTo⟩ <;>
        omega
    case isFalse early => omega
  case isFalse whole => omega

/-- The windows the loop cuts the text into. -/
def windowsFrom (text : List Char) (maxChars safeOverlap start : Nat) :
    List Span :=
  if start < text.length then
    let stop := windowStop text maxChars start
    let window : Span :=
      { start := start
        stop := stop }
    if text.length ≤ stop then [window]
    else
      window :: windowsFrom text maxChars safeOverlap
        (max (stop - safeOverlap) (start + 1))
  else []
termination_by text.length - start

theorem chunkFrom_eq (text : List Char) (maxChars safeOverlap start : Nat) :
    chunkFrom text maxChars safeOverlap start =
      ((windowsFrom text maxChars safeOverlap start).map fun window =>
        stripChars (window.cut text)).filter (· ≠ []) := by
  fun_induction windowsFrom text maxChars safeOverlap start with
  | case1 start inside stop window last =>
      have cutIs : window.cut text = slice text start stop := rfl
      rw [chunkFrom, if_pos inside, List.map_singleton, cutIs,
        List.filter_singleton]
      dsimp only
      rw [if_pos last]
      change (if stripChars (slice text start stop) ≠ [] then _ else _) = _
      cases stripChars (slice text start stop) with
      | nil => rfl
      | cons char chunk => rfl
  | case2 start inside stop window more induction =>
      have cutIs : window.cut text = slice text start stop := rfl
      rw [chunkFrom, if_pos inside, List.map_cons, cutIs, List.filter_cons,
        ← induction]
      dsimp only
      rw [if_neg more]
      change (if stripChars (slice text start stop) ≠ [] then _ else _) = _
      cases stripChars (slice text start stop) with
      | nil => rfl
      | cons char chunk => rfl
  | case3 start outside =>
      rw [chunkFrom, if_neg outside]
      rfl

section Windows

variable {text : List Char} {maxChars safeOverlap : Nat}

/-- The step of the loop: the next window begins later, and where the shared
characters of this one begin. -/
theorem next_spec (room : 1 ≤ maxChars) (half : safeOverlap ≤ maxChars / 2)
    {start : Nat} (inside : start < text.length)
    (more : ¬ text.length ≤ windowStop text maxChars start) :
    let stop := windowStop text maxChars start
    let next := max (stop - safeOverlap) (start + 1)
    start < next ∧ (3 ≤ maxChars → start + 2 ≤ next) ∧
      next + safeOverlap = stop ∧ next < text.length ∧
      stop ≤ windowStop text maxChars next := by
  obtain ⟨later, withinText, withinRoom, ends⟩ :=
    windowStop_spec text room inside
  dsimp only
  have next_lt : max (windowStop text maxChars start - safeOverlap)
      (start + 1) < text.length := by omega
  obtain ⟨nextLater, nextWithin, -, nextEnds⟩ :=
    windowStop_spec text room next_lt
  refine ⟨by omega, by omega, by omega, next_lt, by omega⟩

theorem mem_windowsFrom (room : 1 ≤ maxChars)
    (half : safeOverlap ≤ maxChars / 2) {start : Nat} {window : Span}
    (member : window ∈ windowsFrom text maxChars safeOverlap start) :
    start ≤ window.start ∧ windowStop text maxChars start ≤ window.stop ∧
      window.stop ≤ text.length ∧ window.stop ≤ window.start + maxChars := by
  fun_induction windowsFrom text maxChars safeOverlap start with
  | case1 start inside stop first last =>
      obtain ⟨-, withinText, withinRoom, -⟩ :=
        windowStop_spec text room inside
      rw [List.mem_singleton] at member
      rw [member]
      exact ⟨Nat.le_refl _, Nat.le_refl _, withinText, withinRoom⟩
  | case2 start inside stop first more induction =>
      obtain ⟨-, withinText, withinRoom, -⟩ :=
        windowStop_spec text room inside
      obtain ⟨next_gt, -, -, -, stop_le⟩ := next_spec room half inside more
      rcases List.mem_cons.mp member with same | later
      · rw [same]
        exact ⟨Nat.le_refl _, Nat.le_refl _, withinText, withinRoom⟩
      · obtain ⟨start_le, next_le, inText, inRoom⟩ := induction later
        exact ⟨Nat.le_trans (Nat.le_of_lt next_gt) start_le,
          Nat.le_trans stop_le next_le, inText, inRoom⟩
  | case3 start outside => contradiction

/-- Of two windows the later one begins and ends later, and they share no
more than was asked for. -/
theorem windowsFrom_ordered (room : 1 ≤ maxChars)
    (half : safeOverlap ≤ maxChars / 2) (start : Nat) :
    (windowsFrom text maxChars safeOverlap start).Pairwise
      fun first second => first.Leads safeOverlap second ∧
        (3 ≤ maxChars → first.start + 2 ≤ second.start) := by
  fun_induction windowsFrom text maxChars safeOverlap start with
  | case1 start inside stop first last => exact List.pairwise_singleton _ _
  | case2 start inside stop first more induction =>
      apply List.Pairwise.cons _ induction
      intro window member
      obtain ⟨next_gt, far, shared, -, stop_le⟩ :=
        next_spec room half inside more
      obtain ⟨start_le, next_le, -, -⟩ := mem_windowsFrom room half member
      constructor
      · constructor
        case start_lt =>
          change start < window.start
          omega
        case stop_le =>
          exact Nat.le_trans stop_le next_le
        case stop_le_start =>
          change windowStop text maxChars start ≤ window.start + safeOverlap
          omega
      · intro three
        have distance := far three
        change start + 2 ≤ window.start
        omega
  | case3 start outside => exact List.Pairwise.nil

theorem exists_mem_windowsFrom (room : 1 ≤ maxChars)
    (half : safeOverlap ≤ maxChars / 2) {start place : Nat}
    (behind : start ≤ place) (within : place < text.length) :
    ∃ window ∈ windowsFrom text maxChars safeOverlap start,
      window.Holds place := by
  fun_induction windowsFrom text maxChars safeOverlap start with
  | case1 start inside stop first last =>
      exact ⟨_, List.mem_singleton_self _, behind,
        Nat.lt_of_lt_of_le within last⟩
  | case2 start inside stop first more induction =>
      by_cases early : place < stop
      · exact ⟨_, List.mem_cons_self, behind, early⟩
      · obtain ⟨-, -, shared, -, -⟩ := next_spec room half inside more
        obtain ⟨window, member, held⟩ := induction (by omega)
        exact ⟨window, List.mem_cons_of_mem _ member, held⟩
  | case3 start outside => omega

end Windows

/-! ## What the chunks cover -/

/-- The places of the chunks in the text. -/
structure Placed (text : List Char) (maxChars : Nat) (overlapChars : Int)
    (chunks : List (List Char)) (spans : List Span) : Prop where
  chunks_eq : chunks = spans.map (Span.cut text)
  filled : ∀ span ∈ spans, span.start < span.stop
  inside : ∀ span ∈ spans, span.stop ≤ text.length
  short : ∀ span ∈ spans, span.stop ≤ span.start + maxChars
  ordered : spans.Pairwise fun first second =>
    first.start ≤ second.start ∧ first.stop ≤ second.stop
  shared : spans.Pairwise fun first second =>
    (first.stop : Int) ≤ second.start + max 0 overlapChars
  covered : ∀ place, Visible text place → ∃ span ∈ spans, span.Holds place

/-- Every chunk is a filled part of the text of at most `maxChars`
characters, the parts do not go back in the text, two of them share no more
than the overlap, and every visible character is in one. -/
theorem chunkText_placed (text : List Char) (maxChars : Nat)
    (overlapChars : Int) (room : 1 ≤ maxChars) (filled : text ≠ []) :
    ∃ spans, Placed text maxChars overlapChars
        (chunkText text maxChars overlapChars) spans ∧
      (SingleSpaced text → 3 ≤ maxChars →
        spans.Pairwise fun first second => first.start < second.start) := by
  unfold chunkText
  split
  case isTrue fits =>
    have whole : Span.cut text { start := 0, stop := text.length } = text := by
      unfold Span.cut slice
      rw [List.take_length, List.drop_zero]
    refine ⟨[{ start := 0, stop := text.length }], ?_,
      fun _ _ => List.pairwise_singleton _ _⟩
    constructor
    case chunks_eq => rw [List.map_singleton, whole]
    case filled =>
      intro span member
      rw [List.mem_singleton] at member
      rw [member]
      exact List.length_pos_iff.mpr filled
    case inside =>
      intro span member
      rw [List.mem_singleton] at member
      rw [member]
    case short =>
      intro span member
      rw [List.mem_singleton] at member
      rw [member]
      exact Nat.le_trans fits (Nat.le_add_left _ _)
    case ordered => exact List.pairwise_singleton _ _
    case shared => exact List.pairwise_singleton _ _
    case covered =>
      intro place visible
      exact ⟨_, List.mem_singleton_self _, Nat.zero_le place,
        visible.lt_length⟩
  case isFalse long =>
    dsimp only
    generalize overlapIs :
      (max 0 (min overlapChars (maxChars / 2 : Nat))).toNat = safeOverlap
    have half : safeOverlap ≤ maxChars / 2 := by omega
    have requested : (safeOverlap : Int) ≤ max 0 overlapChars := by omega
    have inText : ∀ window ∈ windowsFrom text maxChars safeOverlap 0,
        window.stop ≤ text.length :=
      fun window member => (mem_windowsFrom room half member).2.2.1
    have windowsOrdered : (windowsFrom text maxChars safeOverlap 0).Pairwise
        _ := windowsFrom_ordered room half 0
    refine ⟨trimmedWindows text (windowsFrom text maxChars safeOverlap 0),
      ?_, ?_⟩
    · constructor
      case chunks_eq => rw [chunkFrom_eq, map_cut_trimmedWindows inText]
      case filled =>
        intro span member
        obtain ⟨window, -, trims⟩ := mem_trimmedWindows inText member
        exact trims.filled
      case inside =>
        intro span member
        obtain ⟨window, isWindow, trims⟩ := mem_trimmedWindows inText member
        exact Nat.le_trans trims.stop_le (inText window isWindow)
      case short =>
        intro span member
        obtain ⟨window, isWindow, trims⟩ := mem_trimmedWindows inText member
        have windowShort := (mem_windowsFrom room half isWindow).2.2.2
        have start_le := trims.start_le
        have stop_le := trims.stop_le
        omega
      case ordered =>
        apply pairwise_trimmedWindows inText _ windowsOrdered
        intro first second firstSpan secondSpan leads firstTrims secondTrims
        have order := Trims.ordered leads.1 firstTrims secondTrims
        exact ⟨order.1, order.2.1⟩
      case shared =>
        apply pairwise_trimmedWindows inText _ windowsOrdered
        intro first second firstSpan secondSpan leads firstTrims secondTrims
        have order := Trims.ordered leads.1 firstTrims secondTrims
        have sharing := order.2.2
        omega
      case covered =>
        intro place visible
        obtain ⟨window, isWindow, held⟩ := exists_mem_windowsFrom room half
          (Nat.zero_le place) visible.lt_length
        exact exists_mem_trimmedWindows inText isWindow held visible
    · intro single three
      apply pairwise_trimmedWindows inText _ windowsOrdered
      intro first second firstSpan secondSpan leads firstTrims secondTrims
      have distance := leads.2 three
      have first_le := firstTrims.start_le_succ single
      have second_ge := secondTrims.start_le
      omega

/-! ## The chunks of a record -/

/-- Runs of white space that have become one space leave no two of them. -/
theorem singleSpaced_replaceRuns (text : List Char) (inRun : Bool) :
    SingleSpaced (replaceRuns isSpace ' ' inRun text) ∧
      (inRun = true →
        ∀ char ∈ (replaceRuns isSpace ' ' inRun text).head?,
          isSpace char = false) := by
  induction text generalizing inRun with
  | nil => exact ⟨List.isChain_nil, fun _ char none => nomatch none⟩
  | cons first text induction =>
      rw [replaceRuns]
      by_cases space : isSpace first = true
      · rw [if_pos space]
        cases inRun with
        | true => exact ⟨(induction true).1, fun _ => (induction true).2 rfl⟩
        | false =>
            constructor
            · apply List.isChain_cons.mpr
              refine ⟨?_, (induction true).1⟩
              intro next isNext
              exact Or.inr ((induction true).2 rfl next isNext)
            · intro none
              contradiction
      · rw [if_neg space]
        have visible : isSpace first = false := Bool.of_not_eq_true space
        constructor
        · apply List.isChain_cons.mpr
          exact ⟨fun next _ => Or.inl visible, (induction false).1⟩
        · intro _ char isHead
          have same : first = char := Option.some.inj isHead
          rw [← same]
          exact visible

theorem singleSpaced_evidenceText (evidence : EvidenceRecord) :
    SingleSpaced (evidenceText evidence) := by
  unfold evidenceText normalizeChunkText
  dsimp only
  generalize String.intercalate " " _ = text
  have single := (singleSpaced_replaceRuns text.toList false).1
  generalize replaceRuns isSpace ' ' false text.toList = spaced at *
  obtain ⟨before, after, -, -, whole⟩ := exists_stripChars spaced
  exact List.IsChain.infix single ⟨before, after, whole⟩

theorem map_text_chunkEvidence (sha256Hex : String → String)
    (evidence : EvidenceRecord) (maxChars : Nat) (overlapChars : Int) :
    (chunkEvidence sha256Hex evidence maxChars overlapChars).map
        (·.text.toList) =
      if evidenceText evidence = [] then []
      else chunkText (evidenceText evidence) maxChars overlapChars := by
  unfold chunkEvidence
  dsimp only
  split
  case isTrue => rfl
  case isFalse =>
    apply List.ext_getElem?
    intro index
    rw [List.getElem?_map, List.getElem?_mapIdx]
    cases (chunkText (evidenceText evidence) maxChars overlapChars)[index]? with
    | none => rfl
    | some chunk => exact congrArg some String.toList_ofList

theorem placed_nil (maxChars : Nat) (overlapChars : Int) :
    Placed [] maxChars overlapChars [] [] := by
  constructor
  case chunks_eq => rfl
  case filled => exact fun span member => nomatch member
  case inside => exact fun span member => nomatch member
  case short => exact fun span member => nomatch member
  case ordered => exact List.Pairwise.nil
  case shared => exact List.Pairwise.nil
  case covered =>
    intro place visible
    exact absurd visible.lt_length (Nat.not_lt_zero place)

/-- The chunks of a text cover it, and the chunks of a record begin one
behind the other. -/
theorem chunks_coverDocument (maxChars : Nat) (overlapChars : Int)
    (room : 1 ≤ maxChars) :
    (∀ text, text ≠ [] → ∃ spans, Placed text maxChars overlapChars
        (chunkText text maxChars overlapChars) spans) ∧
      ∀ (sha256Hex : String → String) (evidence : EvidenceRecord),
        3 ≤ maxChars →
          ∃ spans, Placed (evidenceText evidence) maxChars overlapChars
              ((chunkEvidence sha256Hex evidence maxChars overlapChars).map
                (·.text.toList)) spans ∧
            spans.Pairwise fun first second => first.start < second.start := by
  constructor
  · intro text filled
    obtain ⟨spans, placed, -⟩ :=
      chunkText_placed text maxChars overlapChars room filled
    exact ⟨spans, placed⟩
  · intro sha256Hex evidence three
    rw [map_text_chunkEvidence]
    split
    case isTrue empty =>
      rw [empty]
      exact ⟨[], placed_nil maxChars overlapChars, List.Pairwise.nil⟩
    case isFalse filled =>
      obtain ⟨spans, placed, strict⟩ := chunkText_placed
        (evidenceText evidence) maxChars overlapChars room filled
      exact ⟨spans, placed, strict (singleSpaced_evidenceText evidence) three⟩

theorem chunks_coverDocument_words :
    (∃ spans, Placed "x a b".toList 2 1 (chunkText "x a b".toList 2 1)
        spans) ∧
      ∃ spans,
        Placed
            (evidenceText
              { id := "e1"
                projectId := "p1"
                rawSourceId := "r1"
                title := "Plans; prices" })
            4 2
            ((chunkEvidence (fun _ => "0")
              { id := "e1"
                projectId := "p1"
                rawSourceId := "r1"
                title := "Plans; prices" } 4 2).map (·.text.toList))
            spans ∧
          spans.Pairwise fun first second => first.start < second.start :=
  ⟨(chunks_coverDocument 2 1 (by decide)).1 "x a b".toList (by decide),
    (chunks_coverDocument 4 2 (by decide)).2 _ _ (by decide)⟩

/-- The empty text has an empty chunk, and a chunk may come twice from one
place. -/
theorem chunkText_repeats :
    (∃ chunk ∈ chunkText [] maxChunkChars chunkOverlapChars, chunk = []) ∧
      ¬ ∃ spans : List Span,
        chunkText "x a b".toList 2 1 =
            spans.map (Span.cut "x a b".toList) ∧
          spans.Pairwise fun first second => first.start < second.start := by
  constructor
  · exact ⟨[], by decide, rfl⟩
  · have chunks : chunkText "x a b".toList 2 1 =
        [['x'], ['a'], ['a'], ['b']] := by decide +kernel
    have only : ∀ start < 5, "x a b".toList[start]? = some 'a' → start = 2 := by
      decide
    have place : ∀ span : Span, ['a'] = span.cut "x a b".toList →
        span.start = 2 := by
      intro span isCut
      have found : (span.cut "x a b".toList)[0]? = some 'a' := by
        rw [← isCut]
        rfl
      rw [Span.cut, slice, List.getElem?_drop, List.getElem?_take] at found
      split at found
      case isTrue =>
        have inside := (List.getElem?_eq_some_iff.mp found).1
        exact only span.start inside found
      case isFalse => contradiction
    intro placed
    obtain ⟨spans, cuts, increasing⟩ := placed
    rw [chunks] at cuts
    obtain ⟨first, later, rfl, -, cuts⟩ := List.map_eq_cons_iff.mp cuts.symm
    obtain ⟨second, later, rfl, isSecond, cuts⟩ := List.map_eq_cons_iff.mp cuts
    obtain ⟨third, later, rfl, isThird, cuts⟩ := List.map_eq_cons_iff.mp cuts
    have less := (List.pairwise_cons.mp (List.pairwise_cons.mp increasing).2).1
      third List.mem_cons_self
    rw [place second isSecond.symm, place third isThird.symm] at less
    exact Nat.lt_irrefl 2 less

end CompetiScope
