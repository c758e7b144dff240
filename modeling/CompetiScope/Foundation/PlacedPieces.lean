import Mathlib.Data.List.Chain

/-!
# Pieces of a text at their places

Only some characters count.  A piece is placed by the number of counted
characters in front of it, so it covers a span of those.  Pieces that cover
neighbouring spans cover both when they are put together.
-/

namespace Foundation

variable {α : Type*}

structure PlacedPiece (α : Type*) where
  text : List α
  place : Nat

/-- Where the counted characters of a piece end. -/
def PlacedPiece.stop (counts : α → Bool) (piece : PlacedPiece α) : Nat :=
  piece.place + piece.text.countP counts

/-- The counted characters of a piece are those of the whole at its place. -/
def PlacedPiece.Fits (counts : α → Bool) (whole : List α)
    (piece : PlacedPiece α) : Prop :=
  piece.text.filter counts =
    (whole.drop piece.place).take (piece.text.countP counts)

/-- The pieces begin and end one behind the other. -/
def Before (counts : α → Bool) (first second : PlacedPiece α) : Prop :=
  first.place ≤ second.place ∧ first.stop counts ≤ second.stop counts

/-- The span of a piece lies in the span of another one. -/
def Inside (counts : α → Bool) (piece other : PlacedPiece α) : Prop :=
  other.place ≤ piece.place ∧ piece.stop counts ≤ other.stop counts

instance (counts : α → Bool) (piece other : PlacedPiece α) :
    Decidable (Inside counts piece other) :=
  inferInstanceAs (Decidable (_ ∧ _))

/-- Filled pieces of the whole, in order, that cover a span of it. -/
structure Covers (counts : α → Bool) (whole : List α) (start stop : Nat)
    (pieces : List (PlacedPiece α)) : Prop where
  fits : ∀ piece ∈ pieces, piece.Fits counts whole
  filled : ∀ piece ∈ pieces, piece.place < piece.stop counts
  within : ∀ piece ∈ pieces, start ≤ piece.place ∧ piece.stop counts ≤ stop
  ordered : pieces.Pairwise (Before counts)
  covered : ∀ index, start ≤ index → index < stop →
    ∃ piece ∈ pieces, piece.place ≤ index ∧ index < piece.stop counts

/-- Every piece ends behind the one before it. -/
def Gains (counts : α → Bool) (pieces : List (PlacedPiece α)) : Prop :=
  pieces.IsChain fun first second => first.stop counts < second.stop counts

/-- Pieces that follow each other without a gap. -/
def TiledBy (counts : α → Bool) (whole : List α) : Nat → Nat →
    List (PlacedPiece α) → Prop
  | start, stop, [] => start = stop
  | start, stop, piece :: pieces =>
      piece.place = start ∧ piece.Fits counts whole ∧
        piece.place < piece.stop counts ∧
          TiledBy counts whole (piece.stop counts) stop pieces

/-- Put texts one behind the other. -/
def placeFrom (counts : α → Bool) (place : Nat) :
    List (List α) → List (PlacedPiece α)
  | [] => []
  | text :: texts =>
      { text := text, place := place } ::
        placeFrom counts (place + text.countP counts) texts

section Covering

variable {counts : α → Bool} {whole : List α} {start middle stop : Nat}
  {first second pieces : List (PlacedPiece α)}

theorem covers_nil : Covers counts whole start start [] :=
  { fits := fun _ member => absurd member List.not_mem_nil
    filled := fun _ member => absurd member List.not_mem_nil
    within := fun _ member => absurd member List.not_mem_nil
    ordered := .nil
    covered := fun _ from_ before => absurd before (Nat.not_lt.mpr from_) }

theorem covers_single {piece : PlacedPiece α}
    (fits : piece.Fits counts whole)
    (filled : piece.place < piece.stop counts) :
    Covers counts whole piece.place (piece.stop counts) [piece] := by
  constructor
  case fits =>
    intro other member
    rw [List.mem_singleton.mp member]
    exact fits
  case filled =>
    intro other member
    rw [List.mem_singleton.mp member]
    exact filled
  case within =>
    intro other member
    rw [List.mem_singleton.mp member]
    exact ⟨Nat.le_refl _, Nat.le_refl _⟩
  case ordered => exact List.pairwise_singleton _ _
  case covered =>
    intro index above below
    exact ⟨piece, List.mem_singleton_self piece, above, below⟩

theorem Covers.append (isFirst : Covers counts whole start middle first)
    (isSecond : Covers counts whole middle stop second)
    (forward : start ≤ middle) (onward : middle ≤ stop) :
    Covers counts whole start stop (first ++ second) := by
  constructor
  case fits => exact List.forall_mem_append.mpr ⟨isFirst.fits, isSecond.fits⟩
  case filled =>
    exact List.forall_mem_append.mpr ⟨isFirst.filled, isSecond.filled⟩
  case within =>
    intro piece member
    rcases List.mem_append.mp member with inFirst | inSecond
    · obtain ⟨above, below⟩ := isFirst.within piece inFirst
      exact ⟨above, below.trans onward⟩
    · obtain ⟨above, below⟩ := isSecond.within piece inSecond
      exact ⟨forward.trans above, below⟩
  case ordered =>
    apply List.pairwise_append.mpr
    refine ⟨isFirst.ordered, isSecond.ordered, ?_⟩
    intro ahead inFirst behind inSecond
    have below := (isFirst.within ahead inFirst).2
    have above := (isSecond.within behind inSecond).1
    have filled := isFirst.filled ahead inFirst
    have filledToo := isSecond.filled behind inSecond
    exact ⟨by omega, by omega⟩
  case covered =>
    intro index above below
    rcases Nat.lt_or_ge index middle with early | late
    · obtain ⟨piece, member, holds⟩ := isFirst.covered index above early
      exact ⟨piece, List.mem_append_left _ member, holds⟩
    · obtain ⟨piece, member, holds⟩ := isSecond.covered index late below
      exact ⟨piece, List.mem_append_right _ member, holds⟩

/-- A piece in front of pieces that begin in its span and end behind it. -/
theorem Covers.cons {piece : PlacedPiece α} (here : piece.place = start)
    (fits : piece.Fits counts whole)
    (filled : piece.place < piece.stop counts)
    (rest : Covers counts whole middle stop pieces)
    (forward : start ≤ middle) (overlaps : middle ≤ piece.stop counts)
    (inside : piece.stop counts ≤ stop)
    (onward : ∀ other ∈ pieces, piece.stop counts ≤ other.stop counts) :
    Covers counts whole start stop (piece :: pieces) := by
  constructor
  case fits => exact List.forall_mem_cons.mpr ⟨fits, rest.fits⟩
  case filled => exact List.forall_mem_cons.mpr ⟨filled, rest.filled⟩
  case within =>
    refine List.forall_mem_cons.mpr ⟨⟨here.ge, inside⟩, ?_⟩
    intro other member
    obtain ⟨above, below⟩ := rest.within other member
    exact ⟨forward.trans above, below⟩
  case ordered =>
    refine List.pairwise_cons.mpr ⟨?_, rest.ordered⟩
    intro other member
    exact ⟨here.le.trans (forward.trans (rest.within other member).1),
      onward other member⟩
  case covered =>
    intro index above below
    rcases Nat.lt_or_ge index (piece.stop counts) with early | late
    · exact ⟨piece, List.mem_cons_self, here.le.trans above, early⟩
    · obtain ⟨other, member, holds⟩ :=
        rest.covered index (overlaps.trans late) below
      exact ⟨other, List.mem_cons_of_mem piece member, holds⟩

/-- Nothing is lost between pieces that cover neighbouring spans. -/
theorem Covers.gains_append (isFirst : Covers counts whole start middle first)
    (isSecond : Covers counts whole middle stop second) :
    Gains counts (first ++ second) ↔
      Gains counts first ∧ Gains counts second := by
  unfold Gains
  rw [List.isChain_append]
  refine and_congr_right fun _ => and_iff_left ?_
  intro ahead isLast behind isHead
  have below := (isFirst.within ahead (List.mem_of_mem_getLast? isLast)).2
  have inSecond := List.mem_of_mem_head? isHead
  have above := (isSecond.within behind inSecond).1
  have filled := isSecond.filled behind inSecond
  omega

/-- In order, a piece lies in the one before it just where it ends there. -/
theorem Covers.gains_iff (covers : Covers counts whole start stop pieces) :
    Gains counts pieces ↔
      pieces.IsChain fun before piece => ¬ Inside counts piece before := by
  have ordered := covers.ordered
  clear covers
  unfold Gains
  induction pieces with
  | nil => exact iff_of_true List.IsChain.nil List.IsChain.nil
  | cons piece pieces induction =>
      obtain ⟨ahead, rest⟩ := List.pairwise_cons.mp ordered
      rw [List.isChain_cons, List.isChain_cons]
      refine and_congr (forall₂_congr ?_) (induction rest)
      intro behind isHead
      have before := ahead behind (List.mem_of_mem_head? isHead)
      unfold Inside
      rw [not_and, Nat.not_le]
      exact ⟨fun ends _ => ends, fun ends => ends before.1⟩

/-! ## Placing -/

/-- The counted characters of two texts are two neighbouring spans. -/
theorem split_span {front back : List α}
    (span : (front ++ back).filter counts =
      (whole.drop start).take ((front ++ back).countP counts)) :
    front.filter counts =
        (whole.drop start).take (front.countP counts) ∧
      back.filter counts = (whole.drop (start + front.countP counts)).take
        (back.countP counts) := by
  rw [List.filter_append, List.countP_append, List.take_add,
    List.drop_drop] at span
  have lengths := congrArg List.length span
  simp only [List.length_append, ← List.countP_eq_length_filter,
    List.length_take, List.length_drop] at lengths
  apply List.append_inj span
  rw [← List.countP_eq_length_filter, List.length_take, List.length_drop]
  omega

/-- Two neighbouring spans are one. -/
theorem join_span {front back : List α}
    (isFront : front.filter counts =
      (whole.drop start).take (front.countP counts))
    (isBack : back.filter counts =
      (whole.drop (start + front.countP counts)).take
        (back.countP counts)) :
    (front ++ back).filter counts =
      (whole.drop start).take ((front ++ back).countP counts) := by
  rw [List.filter_append, List.countP_append, List.take_add, List.drop_drop,
    ← isFront, ← isBack]

theorem tiles_placeFrom {texts : List (List α)} {place : Nat}
    (filled : ∀ text ∈ texts, 0 < text.countP counts)
    (span : texts.flatten.filter counts =
      (whole.drop place).take (texts.flatten.countP counts)) :
    TiledBy counts whole place (place + texts.flatten.countP counts)
      (placeFrom counts place texts) := by
  induction texts generalizing place with
  | nil => rfl
  | cons text texts induction =>
      rw [List.flatten_cons] at span ⊢
      obtain ⟨here, later⟩ := split_span span
      have some := filled text List.mem_cons_self
      have rest := induction
        (fun other member => filled other (List.mem_cons_of_mem text member))
        later
      rw [List.countP_append, ← Nat.add_assoc]
      exact ⟨rfl, here, Nat.lt_add_of_pos_right some, rest⟩

theorem map_text_placeFrom (place : Nat) (texts : List (List α)) :
    (placeFrom counts place texts).map (·.text) = texts := by
  induction texts generalizing place with
  | nil => rfl
  | cons text texts induction =>
      rw [placeFrom, List.map_cons, induction]

theorem TiledBy.le (tiles : TiledBy counts whole start stop pieces) :
    start ≤ stop := by
  induction pieces generalizing start with
  | nil => exact Nat.le_of_eq tiles
  | cons piece pieces induction =>
      obtain ⟨isPlace, -, filled, rest⟩ := tiles
      have onward := induction rest
      omega

end Covering

end Foundation
