import CompetiScope.Foundation.Blocks
import CompetiScope.Foundation.PlacedPieces
import CompetiScope.Knowledge.IngestRetries

/-!
# What the chunks of a document cover

The chunks of a text are placed by the visible characters in front of them.
They cover the text in order, and only the windows of a long sentence
overlap; a window may show nothing that the one before it did not show.
-/

namespace CompetiScope

open Foundation

/-- Not white space. -/
def isVisible (char : Char) : Bool :=
  !isSpace char

/-! ## Splitting by patterns -/

section Splitting

theorem visible_of_blank {text : List Char} (isBlank : Blank text) :
    text.filter isVisible = [] := by
  apply List.filter_eq_nil_iff.mpr
  intro char member
  simp [isVisible, isBlank char member]

theorem visible_stripChars (text : List Char) :
    (stripChars text).filter isVisible = text.filter isVisible := by
  obtain ⟨before, after, isBefore, isAfter, whole⟩ := exists_stripChars text
  conv => rhs; rw [← whole]
  rw [List.filter_append, List.filter_append, visible_of_blank isBefore,
    visible_of_blank isAfter, List.nil_append, List.append_nil]

theorem visible_strippedPieces (pieces : List (List Char)) :
    (strippedPieces pieces).flatten.filter isVisible =
      pieces.flatten.filter isVisible := by
  induction pieces with
  | nil => rfl
  | cons piece pieces induction =>
      have stripped := visible_stripChars piece
      unfold strippedPieces at induction ⊢
      rw [List.map_cons, List.filter_cons, List.flatten_cons,
        List.filter_append, ← induction, ← stripped]
      split
      · rw [List.flatten_cons, List.filter_append]
      · next isEmpty =>
          have none : stripChars piece = [] := by simpa using isEmpty
          rw [none]
          rfl

theorem drop_blank {text : List Char} {count : Nat}
    (few : count ≤ (text.takeWhile isSpace).length) :
    (text.drop count).filter isVisible = text.filter isVisible := by
  have isBlank : Blank (text.take count) := by
    have front : text.take count <+: text.takeWhile isSpace :=
      List.prefix_of_prefix_length_le (List.take_prefix count text)
        (List.takeWhile_prefix isSpace) (by
          rw [List.length_take]
          omega)
    exact fun char member => List.mem_takeWhile_imp (front.subset member)
  conv => rhs; rw [← List.take_append_drop count text]
  rw [List.filter_append, visible_of_blank isBlank, List.nil_append]

theorem paragraphBreak_le {rest : List Char} {length : Nat}
    (found : paragraphBreak rest = some length) :
    length - 1 ≤ (rest.takeWhile isSpace).length := by
  unfold paragraphBreak at found
  dsimp only at found
  split at found
  · cases found
    omega
  · cases found

/-- A separator shows nothing. -/
theorem visible_splitParagraphsFrom (text : List Char) :
    ∀ (skip : Nat) (current : List Char),
      (splitParagraphsFrom skip current text).flatten.filter isVisible =
        (current.reverse ++ text.drop skip).filter isVisible := by
  induction text with
  | nil =>
      intro skip current
      rw [splitParagraphsFrom, List.drop_nil, List.flatten_singleton,
        List.append_nil]
  | cons char text induction =>
      intro skip current
      cases skip with
      | succ skip =>
          rw [splitParagraphsFrom, induction, List.drop_succ_cons]
      | zero =>
          rw [splitParagraphsFrom, List.drop_zero]
          split
          · next length found =>
              split at found
              · next newline =>
                  rw [List.flatten_cons, List.filter_append, induction,
                    List.reverse_nil, List.nil_append,
                    drop_blank (paragraphBreak_le found), List.filter_append,
                    newline]
                  rfl
              · cases found
          · rw [induction, List.reverse_cons, List.append_assoc,
              List.drop_zero]
            rfl

theorem visible_splitSentencesFrom (text : List Char) :
    ∀ (skip : Nat) (current : List Char),
      (splitSentencesFrom skip current text).flatten.filter isVisible =
        (current.reverse ++ text.drop skip).filter isVisible := by
  induction text with
  | nil =>
      intro skip current
      rw [splitSentencesFrom, List.drop_nil, List.flatten_singleton,
        List.append_nil]
  | cons char text induction =>
      intro skip current
      cases skip with
      | succ skip =>
          rw [splitSentencesFrom, induction, List.drop_succ_cons]
      | zero =>
          rw [splitSentencesFrom, List.drop_zero]
          split
          · next ends =>
              rw [List.flatten_cons, List.filter_append, induction,
                List.reverse_nil, List.nil_append,
                drop_blank (Nat.le_refl _), List.filter_append,
                List.filter_cons_of_neg (by simp [isVisible, ends.1])]
          · rw [induction, List.reverse_cons, List.append_assoc,
              List.drop_zero]
            rfl

/-- Paragraphs show all that a text shows. -/
theorem visible_paragraphs (text : List Char) :
    (paragraphs text).flatten.filter isVisible = text.filter isVisible := by
  rw [paragraphs, visible_strippedPieces, visible_splitParagraphsFrom]
  rfl

theorem visible_sentences (paragraph : List Char) :
    (sentences paragraph).flatten.filter isVisible =
      paragraph.filter isVisible := by
  rw [sentences, visible_strippedPieces, visible_splitSentencesFrom]
  rfl

theorem exists_visible {text : List Char} (filled : stripChars text ≠ []) :
    0 < text.countP isVisible := by
  apply List.countP_pos_iff.mpr
  by_contra none
  apply filled
  have isBlank : Blank text := by
    intro char member
    by_contra visible
    exact none ⟨char, member, by simpa [isVisible] using visible⟩
  have around := stripChars_around isBlank (List.forall_mem_nil _)
    stripped_nil
  rw [List.append_nil, List.append_nil] at around
  exact around

/-- A stripped piece that is kept shows something. -/
theorem filled_of_strippedPieces {pieces : List (List Char)} :
    ∀ piece ∈ strippedPieces pieces, 0 < piece.countP isVisible := by
  intro piece member
  obtain ⟨isPiece, filled⟩ := List.mem_filter.mp member
  obtain ⟨text, -, rfl⟩ := List.mem_map.mp isPiece
  apply exists_visible
  rw [stripChars_stripChars]
  exact of_decide_eq_true filled

end Splitting

/-! ## Windows -/

theorem visible_cons (char : Char) (text : List Char) :
    (char :: text).countP isVisible =
      [char].countP isVisible + text.countP isVisible := by
  change ([char] ++ text).countP isVisible = _
  exact List.countP_append

namespace ChunkSizes

variable (sizes : ChunkSizes)

/-- How far a window is from the next one. -/
def step : Nat :=
  max 1 (sizes.chunkSize - sizes.chunkOverlap)

/-- The windows of a text at a place. -/
def placedWindowsFrom (skip place : Nat) :
    List Char → List (PlacedPiece Char)
  | [] => []
  | char :: text =>
      let next := place + [char].countP isVisible
      match skip with
      | skip + 1 => placedWindowsFrom skip next text
      | 0 =>
          { text := (char :: text).take sizes.chunkSize, place := place } ::
            placedWindowsFrom (sizes.step - 1) next text

theorem map_text_placedWindowsFrom (text : List Char) :
    ∀ skip place : Nat,
      (sizes.placedWindowsFrom skip place text).map (·.text) =
        sizes.windowsFrom skip text := by
  induction text with
  | nil => exact fun _ _ => rfl
  | cons char text induction =>
      intro skip place
      cases skip with
      | zero => exact congrArg (_ :: ·) (induction _ _)
      | succ skip => exact induction _ _

theorem placedWindowsFrom_skip (text : List Char) : ∀ skip place : Nat,
    sizes.placedWindowsFrom skip place text =
      sizes.placedWindowsFrom 0 (place + (text.take skip).countP isVisible)
        (text.drop skip) := by
  induction text with
  | nil =>
      intro skip place
      rw [List.drop_nil]
      cases skip <;> rfl
  | cons char text induction =>
      intro skip place
      cases skip with
      | zero => rfl
      | succ skip =>
          rw [placedWindowsFrom, induction, List.take_succ_cons,
            List.drop_succ_cons, Nat.add_assoc, ← visible_cons]

theorem placedWindowsFrom_cons (char : Char) (text : List Char)
    (place : Nat) :
    sizes.placedWindowsFrom 0 place (char :: text) =
      { text := (char :: text).take sizes.chunkSize, place := place } ::
        sizes.placedWindowsFrom 0
          (place + ((char :: text).take sizes.step).countP isVisible)
          ((char :: text).drop sizes.step) := by
  have one : 1 ≤ sizes.step := Nat.le_max_left _ _
  obtain ⟨step, isStep⟩ := Nat.exists_eq_add_of_le' one
  rw [placedWindowsFrom, placedWindowsFrom_skip, isStep,
    Nat.add_sub_cancel, List.drop_succ_cons, List.take_succ_cons,
    Nat.add_assoc, ← visible_cons]

end ChunkSizes

/-- The stripped pieces that are not empty, at their places. -/
def keptPieces (pieces : List (PlacedPiece Char)) :
    List (PlacedPiece Char) :=
  (pieces.map fun piece =>
    { piece with text := stripChars piece.text }).filter (·.text ≠ [])

theorem map_text_keptPieces (pieces : List (PlacedPiece Char)) :
    (keptPieces pieces).map (·.text) =
      strippedPieces (pieces.map (·.text)) := by
  unfold keptPieces strippedPieces
  rw [List.filter_map, List.filter_map, List.map_map, List.filter_map,
    List.map_map]
  rfl

theorem keptPieces_cons (piece : PlacedPiece Char)
    (pieces : List (PlacedPiece Char)) :
    keptPieces (piece :: pieces) =
      if stripChars piece.text = [] then keptPieces pieces
      else { piece with text := stripChars piece.text } ::
        keptPieces pieces := by
  unfold keptPieces
  rw [List.map_cons, List.filter_cons]
  by_cases isEmpty : stripChars piece.text = []
  · rw [if_pos isEmpty, if_neg (by simp [isEmpty])]
  · rw [if_neg isEmpty, if_pos (by simp [isEmpty])]

theorem countP_stripChars (text : List Char) :
    (stripChars text).countP isVisible = text.countP isVisible := by
  rw [List.countP_eq_length_filter, List.countP_eq_length_filter,
    visible_stripChars]

theorem hidden_of_stripChars {text : List Char}
    (isEmpty : stripChars text = []) : text.countP isVisible = 0 := by
  rw [← countP_stripChars, isEmpty]
  rfl

section Windows

variable {sizes : ChunkSizes} {whole : List Char}

theorem ChunkSizes.step_le (room : 1 ≤ sizes.chunkSize) :
    sizes.step ≤ sizes.chunkSize :=
  Nat.max_le.mpr ⟨room, Nat.sub_le _ _⟩

/-- Counted characters of a longer part. -/
theorem countP_take_le (text : List Char) {short long : Nat}
    (shorter : short ≤ long) :
    (text.take short).countP isVisible ≤
      (text.take long).countP isVisible :=
  (List.take_sublist_take_left shorter).countP_le

theorem countP_take_drop (text : List Char) (count more : Nat) :
    (text.take (count + more)).countP isVisible =
      (text.take count).countP isVisible +
        ((text.drop count).take more).countP isVisible := by
  rw [List.take_add, List.countP_append]

theorem countP_take_add_drop (text : List Char) (count : Nat) :
    (text.take count).countP isVisible +
      (text.drop count).countP isVisible = text.countP isVisible := by
  rw [← List.countP_append, List.take_append_drop]

/-- The pieces cover a text at its place, and none ends before a window. -/
structure WindowsCover (sizes : ChunkSizes) (whole : List Char)
    (place : Nat) (text : List Char) (pieces : List (PlacedPiece Char)) :
    Prop where
  covers : Covers isVisible whole place (place + text.countP isVisible)
    pieces
  late : ∀ piece ∈ pieces,
    place + (text.take sizes.chunkSize).countP isVisible ≤
      piece.stop isVisible

/-- A window in front of the windows of the rest. -/
theorem WindowsCover.cons (room : 1 ≤ sizes.chunkSize) {place : Nat}
    {text : List Char} {windows : List (PlacedPiece Char)}
    (fits : text.filter isVisible =
      (whole.drop place).take (text.countP isVisible))
    (rest : WindowsCover sizes whole
      (place + (text.take sizes.step).countP isVisible)
      (text.drop sizes.step) (keptPieces windows)) :
    WindowsCover sizes whole place text
      (keptPieces ({ text := text.take sizes.chunkSize, place := place } ::
        windows)) := by
  have small := ChunkSizes.step_le room
  have few := countP_take_le text small
  have onward : ∀ piece ∈ keptPieces windows,
      place + (text.take sizes.chunkSize).countP isVisible ≤
        piece.stop isVisible := by
    intro piece member
    have late := rest.late piece member
    have longer := countP_take_le text
      (Nat.le_add_left sizes.chunkSize sizes.step)
    rw [countP_take_drop] at longer
    omega
  have ends := countP_take_add_drop text sizes.step
  have inside := countP_take_add_drop text sizes.chunkSize
  have covers := rest.covers
  rw [Nat.add_assoc, ends] at covers
  rw [keptPieces_cons]
  split
  · next isEmpty =>
      have hidden : (text.take sizes.chunkSize).countP isVisible = 0 :=
        hidden_of_stripChars isEmpty
      have same : place + (text.take sizes.step).countP isVisible =
          place := by
        omega
      rw [same] at covers
      exact ⟨covers, onward⟩
  · next filled =>
      have counted := countP_stripChars (text.take sizes.chunkSize)
      have shows := exists_visible filled
      have stops : PlacedPiece.stop isVisible
          { text := stripChars (text.take sizes.chunkSize), place := place } =
            place + (text.take sizes.chunkSize).countP isVisible :=
        congrArg (place + ·) counted
      constructor
      case covers =>
        refine Covers.cons rfl ?_ ?_ covers (Nat.le_add_right _ _) ?_ ?_ ?_
        · have front := fits
          rw [← List.take_append_drop sizes.chunkSize text] at front
          unfold PlacedPiece.Fits
          dsimp only
          rw [visible_stripChars, counted]
          exact (split_span front).1
        · rw [stops]
          exact Nat.lt_add_of_pos_right shows
        · rw [stops]
          omega
        · rw [stops]
          omega
        · rw [stops]
          exact onward
      case late => exact List.forall_mem_cons.mpr ⟨stops.ge, onward⟩

theorem windowsCover (room : 1 ≤ sizes.chunkSize) :
    ∀ (length : Nat) (text : List Char) (place : Nat),
      text.length ≤ length →
      text.filter isVisible =
        (whole.drop place).take (text.countP isVisible) →
      WindowsCover sizes whole place text
        (keptPieces (sizes.placedWindowsFrom 0 place text)) := by
  intro length
  induction length with
  | zero =>
      intro text place short fits
      rw [List.length_eq_zero_iff.mp (Nat.le_zero.mp short)]
      exact ⟨covers_nil, fun _ member => absurd member List.not_mem_nil⟩
  | succ length induction =>
      intro text place short fits
      cases text with
      | nil =>
          exact ⟨covers_nil, fun _ member => absurd member List.not_mem_nil⟩
      | cons char rest =>
          rw [sizes.placedWindowsFrom_cons]
          apply WindowsCover.cons room fits
          apply induction
          · have one : 1 ≤ sizes.step := Nat.le_max_left _ _
            rw [List.length_drop]
            omega
          · have behind := fits
            rw [← List.take_append_drop sizes.step (char :: rest)] at behind
            exact (split_span behind).2

/-! ## Windows that show more -/

/-- Each window that shows something shows something behind the end of the
window before it. -/
def ChunkSizes.WindowsGain (sizes : ChunkSizes) (text : List Char) : Prop :=
  ∀ index : Nat,
    0 < ((text.drop ((index + 1) * sizes.step)).take
      sizes.chunkSize).countP isVisible →
    0 < ((text.drop (index * sizes.step + sizes.chunkSize)).take
      sizes.step).countP isVisible

theorem ChunkSizes.windowsGain_iff (text : List Char) :
    sizes.WindowsGain text ↔
      (0 < ((text.drop sizes.step).take sizes.chunkSize).countP isVisible →
        0 < ((text.drop sizes.chunkSize).take sizes.step).countP
          isVisible) ∧
      sizes.WindowsGain (text.drop sizes.step) := by
  have later : ∀ index more : Nat,
      (text.drop sizes.step).drop (index * sizes.step + more) =
        text.drop ((index + 1) * sizes.step + more) := by
    intro index more
    rw [List.drop_drop]
    congr 1
    rw [Nat.succ_mul]
    omega
  unfold WindowsGain
  constructor
  · intro gains
    constructor
    · have first := gains 0
      rw [Nat.zero_add, Nat.one_mul, Nat.zero_mul, Nat.zero_add] at first
      exact first
    · intro index
      have next := gains (index + 1)
      have window := later (index + 1) 0
      rw [Nat.add_zero, Nat.add_zero] at window
      rw [later, window]
      exact next
  · rintro ⟨first, rest⟩ index
    cases index with
    | zero =>
        rw [Nat.zero_add, Nat.one_mul, Nat.zero_mul, Nat.zero_add]
        exact first
    | succ index =>
        have next := rest index
        have window := later (index + 1) 0
        rw [Nat.add_zero, Nat.add_zero] at window
        rw [later, window] at next
        exact next

/-- What a window and the next one show together. -/
theorem countP_windows (sizes : ChunkSizes) (text : List Char) :
    (text.take sizes.step).countP isVisible +
        ((text.drop sizes.step).take sizes.chunkSize).countP isVisible =
      (text.take sizes.chunkSize).countP isVisible +
        ((text.drop sizes.chunkSize).take sizes.step).countP isVisible := by
  rw [← countP_take_drop, ← countP_take_drop, Nat.add_comm]

/-- The first window kept behind a place ends behind another window just
where the next window, if it is kept, shows more. -/
theorem head_gains_iff {next last more : Nat} {text : List Char}
    (rest : WindowsCover sizes whole next text
      (keptPieces (sizes.placedWindowsFrom 0 next text)))
    (together : next + (text.take sizes.chunkSize).countP isVisible =
      last + more) :
    (∀ piece ∈ (keptPieces (sizes.placedWindowsFrom 0 next text)).head?,
      last < piece.stop isVisible) ↔
      (0 < (text.take sizes.chunkSize).countP isVisible → 0 < more) := by
  cases text with
  | nil =>
      apply iff_of_true
      · exact fun piece isHead => by cases isHead
      · exact fun shows => by simp at shows
  | cons char text =>
      have within := rest.covers.within
      have filled := rest.covers.filled
      rw [sizes.placedWindowsFrom_cons, keptPieces_cons] at within filled ⊢
      by_cases isEmpty : stripChars ((char :: text).take sizes.chunkSize) = []
      · have hidden := hidden_of_stripChars isEmpty
        rw [if_pos isEmpty] at within filled ⊢
        apply iff_of_true
        · intro piece isHead
          have member := List.mem_of_mem_head? isHead
          have above := (within piece member).1
          have shows := filled piece member
          omega
        · exact fun shows => absurd shows (by omega)
      · have shows := exists_visible isEmpty
        have counted := countP_stripChars
          ((char :: text).take sizes.chunkSize)
        rw [if_neg isEmpty, List.head?_cons, imp_iff_right shows]
        unfold PlacedPiece.stop
        constructor
        · intro ends
          have here := ends _ rfl
          dsimp only at here
          omega
        · intro gains piece isHead
          cases isHead
          dsimp only
          omega

theorem gains_windows_iff (room : 1 ≤ sizes.chunkSize) :
    ∀ (length : Nat) (text : List Char) (place : Nat),
      text.length ≤ length →
      text.filter isVisible =
        (whole.drop place).take (text.countP isVisible) →
      (Gains isVisible (keptPieces (sizes.placedWindowsFrom 0 place text)) ↔
        sizes.WindowsGain text) := by
  intro length
  induction length with
  | zero =>
      intro text place short fits
      rw [List.length_eq_zero_iff.mp (Nat.le_zero.mp short)]
      refine iff_of_true List.IsChain.nil ?_
      intro index shows
      simp at shows
  | succ length induction =>
      intro text place short fits
      cases text with
      | nil =>
          refine iff_of_true List.IsChain.nil ?_
          intro index shows
          simp at shows
      | cons char rest =>
          have small := ChunkSizes.step_le room
          have shorter : ((char :: rest).drop sizes.step).length ≤ length := by
            have one : 1 ≤ sizes.step := Nat.le_max_left _ _
            rw [List.length_drop]
            omega
          have behind := fits
          rw [← List.take_append_drop sizes.step (char :: rest)] at behind
          have later := (split_span behind).2
          have covers := windowsCover room length _ _ shorter later
          have gains := induction _ _ shorter later
          rw [sizes.placedWindowsFrom_cons, keptPieces_cons,
            sizes.windowsGain_iff, ← gains]
          have together := countP_windows sizes (char :: rest)
          split
          · next isEmpty =>
              have hidden := hidden_of_stripChars isEmpty
              have few := countP_take_le (char :: rest) small
              refine (and_iff_right ?_).symm
              intro shows
              dsimp only at hidden
              omega
          · next filled =>
              unfold Gains
              rw [List.isChain_cons]
              refine and_congr_left fun _ => head_gains_iff covers ?_
              unfold PlacedPiece.stop
              dsimp only
              rw [countP_stripChars]
              omega

end Windows

/-! ## Packing -/

namespace ChunkSizes

section Packing

variable {sizes : ChunkSizes} {whole separator : List Char}

/-- White space between texts shows nothing. -/
theorem visible_intercalate (isBlank : Blank separator)
    (texts : List (List Char)) :
    (List.intercalate separator texts).filter isVisible =
      texts.flatten.filter isVisible := by
  induction texts with
  | nil => rfl
  | cons text texts induction =>
      cases texts with
      | nil => simp [List.intercalate]
      | cons second texts =>
          have glue : List.intercalate separator (text :: second :: texts) =
              text ++ (separator ++
                List.intercalate separator (second :: texts)) := by
            simp [List.intercalate]
          rw [glue, List.filter_append, List.filter_append,
            visible_of_blank isBlank, List.nil_append, induction,
            ← List.filter_append, ← List.flatten_cons]

theorem countP_intercalate (isBlank : Blank separator)
    (texts : List (List Char)) :
    (List.intercalate separator texts).countP isVisible =
      texts.flatten.countP isVisible := by
  rw [List.countP_eq_length_filter, List.countP_eq_length_filter,
    visible_intercalate isBlank]

/-- What is packed, at the place of its first piece. -/
def Packed.flushAt (packed : Packed) (separator : List Char) (start : Nat) :
    List (PlacedPiece Char) :=
  (packed.flush separator).map fun text => { text := text, place := start }

/-- `pack` with the places of its pieces. -/
def packPlaced (sizes : ChunkSizes) (separator : List Char)
    (split : PlacedPiece Char → List (PlacedPiece Char)) :
    Packed → Nat → List (PlacedPiece Char) → List (PlacedPiece Char)
  | packed, start, [] => packed.flushAt separator start
  | packed, start, part :: parts =>
      if sizes.chunkSize < part.text.length then
        packed.flushAt separator start ++ split part ++
          sizes.packPlaced separator split { } 0 parts
      else if sizes.overflows packed separator.length part.text then
        packed.flushAt separator start ++
          sizes.packPlaced separator split
            (({ } : Packed).add separator.length part.text) part.place parts
      else
        sizes.packPlaced separator split
          (packed.add separator.length part.text)
          (if packed.parts = [] then part.place else start) parts

theorem Packed.map_text_flushAt (packed : Packed) (start : Nat) :
    (packed.flushAt separator start).map (·.text) =
      packed.flush separator := by
  rw [Packed.flushAt, List.map_map]
  exact List.map_id _

theorem map_text_packPlaced
    {split : PlacedPiece Char → List (PlacedPiece Char)}
    {splitText : List Char → List (List Char)}
    (same : ∀ part, (split part).map (·.text) = splitText part.text)
    (parts : List (PlacedPiece Char)) : ∀ (packed : Packed) (start : Nat),
      (sizes.packPlaced separator split packed start parts).map (·.text) =
        sizes.pack separator splitText packed (parts.map (·.text)) := by
  induction parts with
  | nil => exact fun packed start => packed.map_text_flushAt start
  | cons part parts induction =>
      intro packed start
      rw [List.map_cons, packPlaced, pack]
      split
      · rw [List.map_append, List.map_append, packed.map_text_flushAt, same,
          induction]
      · split
        · rw [List.map_append, packed.map_text_flushAt, induction]
        · exact induction _ _

/-- What is packed covers a span, if anything is packed. -/
def Packed.Holds (whole : List Char) (packed : Packed)
    (start first last : Nat) : Prop :=
  if packed.parts = [] then first = last
  else start = first ∧
    packed.parts.flatten.filter isVisible =
      (whole.drop first).take (packed.parts.flatten.countP isVisible) ∧
    first + packed.parts.flatten.countP isVisible = last ∧ first < last

theorem Packed.Holds.le {packed : Packed} {start first last : Nat}
    (holds : packed.Holds whole start first last) :
    first ≤ last := by
  unfold Packed.Holds at holds
  split at holds
  · exact holds.le
  · exact holds.2.2.2.le

theorem Packed.Holds.covers (isBlank : Blank separator) {packed : Packed}
    {start first last : Nat}
    (holds : packed.Holds whole start first last) :
    Covers isVisible whole first last (packed.flushAt separator start) := by
  unfold Packed.Holds at holds
  unfold Packed.flushAt Packed.flush
  split
  · next isEmpty =>
      rw [if_pos isEmpty] at holds
      rw [holds]
      exact covers_nil
  · next filled =>
      rw [if_neg filled] at holds
      obtain ⟨rfl, fits, rfl, forward⟩ := holds
      rw [← countP_intercalate isBlank, ← visible_intercalate isBlank]
        at fits
      rw [← countP_intercalate isBlank] at forward ⊢
      let piece : PlacedPiece Char :=
        { text := List.intercalate separator packed.parts, place := start }
      have isFit : piece.Fits isVisible whole := fits
      exact covers_single isFit forward

/-- A piece is added behind those packed already. -/
theorem Packed.Holds.add {packed : Packed} {start first middle : Nat}
    (holds : packed.Holds whole start first middle)
    {part : PlacedPiece Char} (here : part.place = middle)
    (fits : part.Fits isVisible whole)
    (filled : part.place < part.stop isVisible) (width : Nat) :
    (packed.add width part.text).Holds whole
      (if packed.parts = [] then part.place else start) first
      (part.stop isVisible) := by
  have some : (packed.add width part.text).parts ≠ [] :=
    List.append_ne_nil_of_right_ne_nil _ (List.cons_ne_nil _ _)
  unfold Packed.Holds at holds ⊢
  rw [if_neg some]
  unfold Packed.add PlacedPiece.stop at *
  unfold PlacedPiece.Fits at fits
  dsimp only
  rw [List.flatten_append, List.flatten_singleton]
  by_cases isEmpty : packed.parts = []
  · rw [if_pos isEmpty] at holds ⊢
    rw [isEmpty, List.flatten_nil, List.nil_append]
    rw [here, ← holds] at fits filled ⊢
    exact ⟨rfl, fits, rfl, filled⟩
  · rw [if_neg isEmpty] at holds ⊢
    obtain ⟨isStart, before, ends, forward⟩ := holds
    rw [here] at fits filled ⊢
    rw [← ends] at fits
    refine ⟨isStart, join_span before fits, ?_, by omega⟩
    rw [List.countP_append]
    omega

theorem gains_flushAt (packed : Packed) (start : Nat) :
    Gains isVisible (packed.flushAt separator start) := by
  unfold Packed.flushAt Packed.flush
  split
  · exact List.IsChain.nil
  · exact List.IsChain.singleton _

/-- Packed pieces cover what their parts cover, and a piece repeats nothing
just where no part that is split repeats something. -/
theorem packPlaced_covers (isBlank : Blank separator)
    {split : PlacedPiece Char → List (PlacedPiece Char)}
    {gains : PlacedPiece Char → Prop}
    (splitCovers : ∀ part, part.Fits isVisible whole →
      part.place < part.stop isVisible →
      Covers isVisible whole part.place (part.stop isVisible) (split part) ∧
        (Gains isVisible (split part) ↔ gains part))
    {last : Nat} (parts : List (PlacedPiece Char)) :
    ∀ (packed : Packed) (start first middle : Nat),
      packed.Holds whole start first middle →
      TiledBy isVisible whole middle last parts →
      Covers isVisible whole first last
          (sizes.packPlaced separator split packed start parts) ∧
        (Gains isVisible
            (sizes.packPlaced separator split packed start parts) ↔
          ∀ part ∈ parts, sizes.chunkSize < part.text.length →
            gains part) := by
  induction parts with
  | nil =>
      intro packed start first middle holds tiles
      cases tiles
      refine ⟨holds.covers isBlank, ?_⟩
      exact iff_of_true (gains_flushAt packed start) (List.forall_mem_nil _)
  | cons part parts induction =>
      intro packed start first middle holds tiles
      obtain ⟨here, fits, filled, rest⟩ := tiles
      have flushed := holds.covers isBlank
      have nothing : ∀ place,
          ({ } : Packed).Holds whole 0 place place := fun _ => rfl
      rw [packPlaced, List.forall_mem_cons]
      split
      · next long =>
          obtain ⟨isSplit, gainsPart⟩ := splitCovers part fits filled
          obtain ⟨covers, gainsRest⟩ :=
            induction { } 0 _ _ (nothing _) rest
          rw [here] at isSplit filled
          have front := flushed.append isSplit holds.le filled.le
          have onward : first ≤ part.stop isVisible :=
            holds.le.trans filled.le
          refine ⟨front.append covers onward rest.le, ?_⟩
          rw [front.gains_append covers, flushed.gains_append isSplit,
            gainsPart, gainsRest, imp_iff_right long]
          exact and_congr_left fun _ => and_iff_right (gains_flushAt _ _)
      · next short =>
          rw [and_iff_right fun long => absurd long short]
          split
          · have fresh := (nothing middle).add here fits filled
              separator.length
            rw [if_pos rfl] at fresh
            obtain ⟨covers, gainsRest⟩ := induction _ _ _ _ fresh rest
            rw [here] at filled
            refine ⟨flushed.append covers holds.le
              (filled.le.trans rest.le), ?_⟩
            rw [flushed.gains_append covers, gainsRest]
            exact and_iff_right (gains_flushAt _ _)
          · exact induction _ _ _ _
              (holds.add here fits filled separator.length) rest

/-- The size of what is packed, with the separators. -/
structure Packed.Sized (sizes : ChunkSizes) (separator : List Char)
    (packed : Packed) : Prop where
  counted : packed.size = (List.intercalate separator packed.parts).length
  bounded : packed.size ≤ sizes.chunkSize

theorem length_intercalate_concat (parts : List (List Char))
    (part : List Char) :
    (List.intercalate separator (parts ++ [part])).length =
      (List.intercalate separator parts).length + part.length +
        if parts = [] then 0 else separator.length := by
  induction parts with
  | nil => simp
  | cons first parts induction =>
      rw [List.cons_append, List.intercalate_cons_of_ne_nil (by simp),
        List.length_append, List.length_append, induction,
        if_neg (List.cons_ne_nil _ _)]
      cases parts with
      | nil => simp; omega
      | cons second parts =>
          rw [List.intercalate_cons_cons, List.length_append,
            List.length_append, if_neg (List.cons_ne_nil _ _)]
          omega

theorem Packed.Sized.flush {packed : Packed}
    (sized : packed.Sized sizes separator) :
    ∀ text ∈ packed.flush separator, text.length ≤ sizes.chunkSize := by
  intro text member
  unfold Packed.flush at member
  split at member
  · exact absurd member List.not_mem_nil
  · rw [List.mem_singleton.mp member, ← sized.counted]
    exact sized.bounded

theorem Packed.Sized.add {packed : Packed}
    (sized : packed.Sized sizes separator) {part : List Char}
    (room : packed.size + part.length +
      (if packed.parts = [] then 0 else separator.length) ≤
        sizes.chunkSize) :
    (packed.add separator.length part).Sized sizes separator := by
  constructor
  case counted =>
    unfold Packed.add
    dsimp only
    rw [length_intercalate_concat, sized.counted]
  case bounded => exact room

/-- No packed piece is longer than the chunk size. -/
theorem pack_bounded {split : List Char → List (List Char)}
    (splitBounded : ∀ part, ∀ text ∈ split part,
      text.length ≤ sizes.chunkSize) (parts : List (List Char)) :
    ∀ packed : Packed, packed.Sized sizes separator →
      ∀ text ∈ sizes.pack separator split packed parts,
        text.length ≤ sizes.chunkSize := by
  have nothing : ({ } : Packed).Sized sizes separator :=
    ⟨rfl, Nat.zero_le _⟩
  induction parts with
  | nil => exact fun packed sized => sized.flush
  | cons part parts induction =>
      intro packed sized
      rw [pack]
      split
      · rw [List.forall_mem_append, List.forall_mem_append]
        exact ⟨⟨sized.flush, splitBounded part⟩, induction { } nothing⟩
      · next short =>
          split
          · rw [List.forall_mem_append]
            refine ⟨sized.flush, induction _ (nothing.add ?_)⟩
            rw [if_pos rfl]
            change 0 + part.length + 0 ≤ sizes.chunkSize
            omega
          · next fitting =>
              refine induction _ (sized.add ?_)
              by_cases isEmpty : packed.parts = []
              · have none : packed.size = 0 := by
                  rw [sized.counted, isEmpty]
                  rfl
                rw [if_pos isEmpty]
                omega
              · by_contra long
                exact fitting ⟨isEmpty, Nat.lt_of_not_le long⟩

end Packing

/-! ## The pieces of a document -/

variable (sizes : ChunkSizes)

/-- The windows of a piece, at their places. -/
def placedWindows (piece : PlacedPiece Char) : List (PlacedPiece Char) :=
  keptPieces (sizes.placedWindowsFrom 0 piece.place piece.text)

/-- The pieces of a long paragraph, at their places. -/
def placedLong (piece : PlacedPiece Char) : List (PlacedPiece Char) :=
  if (sentences piece.text).length ≤ 1 then sizes.placedWindows piece
  else
    sizes.packPlaced [' '] sizes.placedWindows { } 0
      (placeFrom isVisible piece.place (sentences piece.text))

/-- The pieces of a text the chunks are made of, at their places. -/
def placedChunks (text : List Char) : List (PlacedPiece Char) :=
  sizes.packPlaced ['\n', '\n'] sizes.placedLong { } 0
    (placeFrom isVisible 0 (paragraphs text))

/-- Windows of a long paragraph repeat nothing. -/
def LongGains (paragraph : List Char) : Prop :=
  if (sentences paragraph).length ≤ 1 then sizes.WindowsGain paragraph
  else ∀ sentence ∈ sentences paragraph,
    sizes.chunkSize < sentence.length → sizes.WindowsGain sentence

/-- Every window that is cut from a text shows more than the one before. -/
def CutsGain (text : List Char) : Prop :=
  ∀ paragraph ∈ paragraphs text, sizes.chunkSize < paragraph.length →
    sizes.LongGains paragraph

variable {sizes} {whole : List Char}

theorem map_text_placedWindows (piece : PlacedPiece Char) :
    (sizes.placedWindows piece).map (·.text) =
      sizes.splitByCharacterWindow piece.text := by
  rw [placedWindows, map_text_keptPieces, map_text_placedWindowsFrom]
  rfl

theorem map_text_placedLong (piece : PlacedPiece Char) :
    (sizes.placedLong piece).map (·.text) =
      sizes.splitLongParagraph piece.text := by
  unfold placedLong splitLongParagraph
  split
  · exact map_text_placedWindows piece
  · rw [map_text_packPlaced map_text_placedWindows, map_text_placeFrom]

theorem placedWindows_covers (room : 1 ≤ sizes.chunkSize)
    (piece : PlacedPiece Char) (fits : piece.Fits isVisible whole) :
    Covers isVisible whole piece.place (piece.stop isVisible)
        (sizes.placedWindows piece) ∧
      (Gains isVisible (sizes.placedWindows piece) ↔
        sizes.WindowsGain piece.text) :=
  ⟨(windowsCover room _ _ _ (Nat.le_refl _) fits).covers,
    gains_windows_iff room _ _ _ (Nat.le_refl _) fits⟩

/-- Stripped pieces of a text, one behind the other. -/
theorem tiles_texts {texts : List (List Char)} {piece : PlacedPiece Char}
    (fits : piece.Fits isVisible whole)
    (filled : ∀ text ∈ texts, 0 < text.countP isVisible)
    (same : texts.flatten.filter isVisible = piece.text.filter isVisible) :
    TiledBy isVisible whole piece.place (piece.stop isVisible)
      (placeFrom isVisible piece.place texts) := by
  have counted : texts.flatten.countP isVisible =
      piece.text.countP isVisible := by
    rw [List.countP_eq_length_filter, same, List.countP_eq_length_filter]
  have tiles : TiledBy isVisible whole piece.place
      (piece.place + texts.flatten.countP isVisible)
      (placeFrom isVisible piece.place texts) := by
    apply tiles_placeFrom filled
    rw [same, counted, fits]
  rw [counted] at tiles
  exact tiles

/-- What holds of the texts of placed pieces. -/
theorem forall_placeFrom {holds : List Char → Prop} {place : Nat}
    {texts : List (List Char)} :
    (∀ part ∈ placeFrom isVisible place texts, holds part.text) ↔
      ∀ text ∈ texts, holds text := by
  conv => rhs; rw [← @map_text_placeFrom _ isVisible place texts]
  rw [List.forall_mem_map]

theorem blank_of_all {separator : List Char}
    (all : separator.all isSpace = true) : Blank separator :=
  List.all_eq_true.mp all

/-- What is packed from the parts of a piece. -/
theorem packedTexts_cover {separator : List Char}
    (isBlank : separator.all isSpace = true)
    {split : PlacedPiece Char → List (PlacedPiece Char)}
    {gains : List Char → Prop}
    (splitCovers : ∀ part : PlacedPiece Char, part.Fits isVisible whole →
      Covers isVisible whole part.place (part.stop isVisible) (split part) ∧
        (Gains isVisible (split part) ↔ gains part.text))
    {texts : List (List Char)} {piece : PlacedPiece Char}
    (fits : piece.Fits isVisible whole)
    (filled : ∀ text ∈ texts, 0 < text.countP isVisible)
    (same : texts.flatten.filter isVisible = piece.text.filter isVisible) :
    Covers isVisible whole piece.place (piece.stop isVisible)
        (sizes.packPlaced separator split { } 0
          (placeFrom isVisible piece.place texts)) ∧
      (Gains isVisible (sizes.packPlaced separator split { } 0
          (placeFrom isVisible piece.place texts)) ↔
        ∀ text ∈ texts, sizes.chunkSize < text.length → gains text) := by
  rw [← @forall_placeFrom (fun text => sizes.chunkSize < text.length →
    gains text) piece.place texts]
  apply packPlaced_covers (blank_of_all isBlank) _ _ { } 0 _ _ rfl
    (tiles_texts fits filled same)
  exact fun part isFit _ => splitCovers part isFit

theorem placedLong_covers (room : 1 ≤ sizes.chunkSize)
    (piece : PlacedPiece Char) (fits : piece.Fits isVisible whole) :
    Covers isVisible whole piece.place (piece.stop isVisible)
        (sizes.placedLong piece) ∧
      (Gains isVisible (sizes.placedLong piece) ↔
        sizes.LongGains piece.text) := by
  unfold placedLong LongGains
  split
  · exact placedWindows_covers room piece fits
  · exact packedTexts_cover (by decide) (placedWindows_covers room) fits
      filled_of_strippedPieces (visible_sentences piece.text)

/-- The pieces cover the text, and none repeats only what the one before it
shows just where no window does. -/
theorem placedChunks_covers (room : 1 ≤ sizes.chunkSize)
    (text : List Char) :
    Covers isVisible (text.filter isVisible) 0 (text.countP isVisible)
        (sizes.placedChunks text) ∧
      (Gains isVisible (sizes.placedChunks text) ↔ sizes.CutsGain text) := by
  let document : PlacedPiece Char := { text := text, place := 0 }
  have fits : document.Fits isVisible (text.filter isVisible) := by
    unfold PlacedPiece.Fits
    rw [List.drop_zero, List.countP_eq_length_filter, List.take_length]
  have stops : document.stop isVisible = text.countP isVisible :=
    Nat.zero_add _
  rw [← stops]
  exact packedTexts_cover (by decide) (placedLong_covers room) fits
    filled_of_strippedPieces (visible_paragraphs text)

/-! ## The chunks -/

theorem length_stripChars_le (text : List Char) :
    (stripChars text).length ≤ text.length := by
  obtain ⟨before, after, -, -, whole⟩ := exists_stripChars text
  have lengths := congrArg List.length whole
  rw [List.length_append, List.length_append] at lengths
  omega

theorem windowsFrom_bounded (text : List Char) : ∀ skip : Nat,
    ∀ window ∈ sizes.windowsFrom skip text,
      window.length ≤ sizes.chunkSize := by
  induction text with
  | nil => exact fun skip => List.forall_mem_nil _
  | cons char text induction =>
      intro skip
      cases skip with
      | succ skip => exact induction skip
      | zero =>
          rw [windowsFrom, List.forall_mem_cons]
          exact ⟨List.length_take_le _ _, induction _⟩

theorem splitByCharacterWindow_bounded (text : List Char) :
    ∀ window ∈ sizes.splitByCharacterWindow text,
      window.length ≤ sizes.chunkSize := by
  intro window member
  obtain ⟨raw, isWindow, rfl⟩ :=
    List.mem_map.mp (List.mem_filter.mp member).1
  exact (length_stripChars_le raw).trans
    (windowsFrom_bounded text 0 raw isWindow)

theorem splitLongParagraph_bounded (paragraph : List Char) :
    ∀ piece ∈ sizes.splitLongParagraph paragraph,
      piece.length ≤ sizes.chunkSize := by
  unfold splitLongParagraph
  split
  · exact splitByCharacterWindow_bounded paragraph
  · exact pack_bounded splitByCharacterWindow_bounded _ { }
      ⟨rfl, Nat.zero_le _⟩

theorem map_text_placedChunks (text : List Char) :
    (sizes.placedChunks text).map (·.text) =
      sizes.pack ['\n', '\n'] sizes.splitLongParagraph { }
        (paragraphs text) := by
  rw [placedChunks, map_text_packPlaced map_text_placedLong,
    map_text_placeFrom]

theorem placedChunks_bounded (text : List Char) :
    ∀ piece ∈ sizes.placedChunks text,
      piece.text.length ≤ sizes.chunkSize := by
  have bounded : ∀ piece ∈ sizes.pack ['\n', '\n'] sizes.splitLongParagraph
      { } (paragraphs text), piece.length ≤ sizes.chunkSize := by
    apply pack_bounded splitLongParagraph_bounded
    exact ⟨rfl, Nat.zero_le _⟩
  rw [← map_text_placedChunks, List.forall_mem_map] at bounded
  exact bounded

/-- The chunks of a text are its placed pieces. -/
theorem chunkTexts_eq (room : 1 ≤ sizes.chunkSize) (text : String) :
    sizes.chunkTexts text =
      (sizes.placedChunks text.toList).map
        fun piece => String.ofList piece.text := by
  have covers := (placedChunks_covers room text.toList).1
  unfold chunkTexts
  rw [← map_text_placedChunks, List.filter_map, List.map_map]
  congr 1
  apply List.filter_eq_self.mpr
  intro piece member
  have filled := covers.filled piece member
  refine decide_eq_true fun isEmpty => ?_
  have hidden : piece.text.countP isVisible = 0 :=
    hidden_of_stripChars isEmpty
  unfold PlacedPiece.stop at filled
  omega

end ChunkSizes

/-! ## What a claim of coverage says -/

/-- Chunks of a text: numbered, with ids of their own, bounded, cut from
pieces that cover the text in order without a piece inside the one before. -/
structure CoversDocument (sizes : ChunkSizes) (text : List Char)
    (chunks : List KnowledgeChunk) : Prop where
  numbered : chunks.map (·.chunkIndex) = List.range chunks.length
  distinct : (chunks.map (·.id)).Nodup
  filled : ∀ chunk ∈ chunks, chunk.text ≠ ""
  bounded : ∀ chunk ∈ chunks, chunk.text.length ≤ sizes.chunkSize
  cut : chunks.map (·.text) =
    (sizes.placedChunks text).map fun piece => String.ofList piece.text
  covered : Covers isVisible (text.filter isVisible) 0
    (text.countP isVisible) (sizes.placedChunks text)
  apart : (sizes.placedChunks text).IsChain
    fun before piece => ¬ Inside isVisible piece before

section Document

variable {pipeline : IngestionPipeline} (text documentId model : String)
  (crawlRunId : Option String)

theorem map_text_chunkText :
    (pipeline.chunkText text documentId model crawlRunId).map (·.text) =
      pipeline.sizes.chunkTexts text := by
  rw [IngestionPipeline.chunkText, List.map_map]
  exact List.zipIdx_map_fst 0 _

theorem map_chunkIndex_chunkText :
    (pipeline.chunkText text documentId model crawlRunId).map
        (·.chunkIndex) =
      List.range (pipeline.sizes.chunkTexts text).length := by
  rw [IngestionPipeline.chunkText, List.map_map, List.range_eq_range']
  exact List.zipIdx_map_snd 0 _

theorem map_id_chunkText :
    (pipeline.chunkText text documentId model crawlRunId).map (·.id) =
      (List.range (pipeline.sizes.chunkTexts text).length).map
        fun index => pipeline.uuid5 (chunkName documentId index) := by
  rw [← map_chunkIndex_chunkText text documentId model crawlRunId,
    List.map_map, IngestionPipeline.chunkText, List.map_map, List.map_map]
  rfl

/-- The chunks cover the document, and no chunk only repeats the one before,
just where every window shows more than the one before it. -/
theorem chunkText_covers_iff (room : 1 ≤ pipeline.sizes.chunkSize)
    (distinct : Set.InjOn pipeline.uuid5
      { name | ∃ index < (pipeline.sizes.chunkTexts text).length,
        name = chunkName documentId index }) :
    CoversDocument pipeline.sizes text.toList
        (pipeline.chunkText text documentId model crawlRunId) ↔
      pipeline.sizes.CutsGain text.toList := by
  obtain ⟨covers, gains⟩ :=
    ChunkSizes.placedChunks_covers room text.toList
  rw [← gains, covers.gains_iff]
  refine ⟨fun document => document.apart, fun apart => ?_⟩
  have texts := ChunkSizes.chunkTexts_eq room text
  have isPiece : ∀ chunk ∈
      pipeline.chunkText text documentId model crawlRunId,
      ∃ piece ∈ pipeline.sizes.placedChunks text.toList,
        String.ofList piece.text = chunk.text := by
    intro chunk member
    have inTexts := List.mem_map_of_mem (f := (·.text)) member
    rw [map_text_chunkText, texts] at inTexts
    exact List.mem_map.mp inTexts
  constructor
  case numbered =>
    rw [map_chunkIndex_chunkText]
    congr 1
    rw [← map_text_chunkText text documentId model crawlRunId,
      List.length_map]
  case distinct =>
    rw [map_id_chunkText]
    apply List.nodup_range.map_on
    intro first inFirst second inSecond same
    have named := distinct ⟨first, List.mem_range.mp inFirst, rfl⟩
      ⟨second, List.mem_range.mp inSecond, rfl⟩ same
    exact (chunkName_eq_iff.mp named).2
  case filled =>
    intro chunk member isEmpty
    obtain ⟨piece, inPieces, same⟩ := isPiece chunk member
    have filled := covers.filled piece inPieces
    rw [isEmpty, ← String.ofList_nil] at same
    have none := String.ofList_injective same
    unfold PlacedPiece.stop at filled
    rw [none] at filled
    exact absurd filled (Nat.lt_irrefl _)
  case bounded =>
    intro chunk member
    obtain ⟨piece, inPieces, same⟩ := isPiece chunk member
    rw [← same, String.length_ofList]
    exact ChunkSizes.placedChunks_bounded _ piece inPieces
  case cut => rw [map_text_chunkText, texts]
  case covered => exact covers
  case apart => exact apart

end Document

namespace CoveredExample

/-- Windows of ten characters, each five behind the one before. -/
def overlapping : IngestionPipeline :=
  { sizes := { chunkSize := 10, chunkOverlap := 5 }
    sha256Hex := fun text => text
    uuid5 := fun name => name }

/-- The third window is the end of the second one. -/
theorem last_window_repeats :
    ¬ CoversDocument overlapping.sizes "abcdefghijkl".toList
      (overlapping.chunkText "abcdefghijkl" "d1" "bge-m3" none) :=
  fun document => absurd document.apart (by decide +kernel)

theorem covers_iff_twelve :
    CoversDocument overlapping.sizes "abcdefghijkl".toList
        (overlapping.chunkText "abcdefghijkl" "d1" "bge-m3" none) ↔
      overlapping.sizes.CutsGain "abcdefghijkl".toList :=
  chunkText_covers_iff "abcdefghijkl" "d1" "bge-m3" none (by decide)
    fun _ _ _ _ same => same

end CoveredExample

end CompetiScope
