import CompetiScope.Identity.SourceResolver

/-!
# The pieces of a report

A scan cuts a text into plain characters and markers.  A substitution replaces
markers piece by piece, but the text it makes is scanned anew: a marker that
is cut out can join its neighbours, and a bracket can close what stood open.
The skeleton of a text, its markers reduced to their brackets, tells whether
the pieces are still there.
-/

namespace CompetiScope

open Foundation

inductive SourcePiece where
  | plain (char : Char)
  | marker (token whole : List Char)

namespace SourcePiece

/-- The text of a piece. -/
def text : SourcePiece → List Char
  | .plain char => [char]
  | .marker _ whole => whole

/-- The brackets of a marker; a plain character stays. -/
def brackets : SourcePiece → List Char
  | .plain char => [char]
  | .marker _ whole => whole.take 1 ++ whole.drop (whole.length - 1)

/-- The token and the text of a marker. -/
def marker? : SourcePiece → Option (List Char × List Char)
  | .plain _ => none
  | .marker token whole => some (token, whole)

end SourcePiece

/-- `skip` characters belong to the marker already found. -/
def sourcePiecesFrom (skip : Nat) : List Char → List SourcePiece
  | [] => []
  | char :: text =>
      match skip with
      | skip + 1 => sourcePiecesFrom skip text
      | 0 =>
          match anySourceTokenAt (char :: text) with
          | some (token, length) =>
              .marker token ((char :: text).take length) ::
                sourcePiecesFrom (length - 1) text
          | none => .plain char :: sourcePiecesFrom 0 text

def sourcePieces (text : List Char) : List SourcePiece :=
  sourcePiecesFrom 0 text

/-- The text of some pieces. -/
def piecesText (pieces : List SourcePiece) : List Char :=
  pieces.flatMap (·.text)

/-- The pieces with their markers reduced to brackets. -/
def piecesSkeleton (pieces : List SourcePiece) : List Char :=
  pieces.flatMap (·.brackets)

theorem sourceMatchesFrom_eq (text : List Char) : ∀ skip,
    sourceMatchesFrom skip text =
      (sourcePiecesFrom skip text).filterMap (·.marker?) := by
  induction text with
  | nil => exact fun _ => rfl
  | cons char text induction =>
      intro skip
      cases skip with
      | succ skip => exact induction skip
      | zero =>
          rw [sourceMatchesFrom, sourcePiecesFrom]
          cases anySourceTokenAt (char :: text) with
          | none =>
              dsimp only
              rw [List.filterMap_cons, induction]
              rfl
          | some found =>
              dsimp only
              rw [List.filterMap_cons, induction]
              rfl

theorem substituteFrom_eq (replace : List Char → List Char → List Char)
    (text : List Char) : ∀ skip,
    substituteFrom replace skip text =
      (sourcePiecesFrom skip text).flatMap fun piece =>
        match piece with
        | .plain char => [char]
        | .marker token whole => replace token whole := by
  induction text with
  | nil => exact fun _ => rfl
  | cons char text induction =>
      intro skip
      cases skip with
      | succ skip => exact induction skip
      | zero =>
          rw [substituteFrom, sourcePiecesFrom]
          cases anySourceTokenAt (char :: text) with
          | none =>
              dsimp only
              rw [List.flatMap_cons, induction]
              rfl
          | some found =>
              dsimp only
              rw [List.flatMap_cons, induction]

theorem sourcePiecesFrom_drop (text : List Char) : ∀ skip,
    sourcePiecesFrom skip text = sourcePieces (text.drop skip) := by
  induction text with
  | nil =>
      intro skip
      cases skip <;> rfl
  | cons char text induction =>
      intro skip
      cases skip with
      | zero => rfl
      | succ skip => exact induction skip

/-! ## The shape of a marker -/

/-- The bracket that closes a marker. -/
def closingBracket (char : Char) : Option Char :=
  if char = '[' then some ']'
  else if char.toNat = 0x3010 then some (Char.ofNat 0x3011)
  else none

/-- A character that neither opens nor closes a marker. -/
def isInner (char : Char) : Bool :=
  char ≠ '[' && char ≠ ']' && char.toNat ≠ 0x3010 && char.toNat ≠ 0x3011

/-- A marker whose text is found as it stands, whatever follows it. -/
structure WellFormedMarker (token whole : List Char) : Prop where
  shape : ∃ opening closing keyword, closingBracket opening = some closing ∧
    whole = opening :: (keyword ++ token) ++ [closing] ∧
      (∀ char ∈ keyword, isInner char) ∧
        ∀ rest, sourceKeyword (keyword ++ rest) = some rest
  filled : token ≠ []
  inner : ∀ char ∈ token, isInner char

/-- Whether a body is a token and its closing bracket. -/
def Closes (closing : Char) (body : List Char) : Prop :=
  body.head? ≠ some closing ∧ closing ∈ body

theorem takeWhile_closes_iff {closing : Char} {body : List Char} :
    body.takeWhile (· ≠ closing) ≠ [] ∧
        (body.takeWhile (· ≠ closing)).length < body.length ↔
      Closes closing body := by
  unfold Closes
  cases body with
  | nil => simp
  | cons head body =>
      by_cases same : head = closing
      · simp [same]
      · have inBody : (body.takeWhile (· ≠ closing)).length < body.length ↔
            closing ∈ body := by
          constructor
          · intro shorter
            by_contra missing
            have whole : body.takeWhile (· ≠ closing) = body := by
              rw [List.takeWhile_eq_self_iff]
              intro char member
              simp only [decide_not, Bool.not_eq_eq_eq_not, Bool.not_true,
                decide_eq_false_iff_not]
              rintro rfl
              exact missing member
            rw [whole] at shorter
            exact Nat.lt_irrefl _ shorter
          · intro member
            have prefixed := List.takeWhile_prefix
              (p := fun char => decide (char ≠ closing)) (l := body)
            apply lt_of_le_of_ne prefixed.length_le
            intro sameLength
            have whole := prefixed.eq_of_length sameLength
            rw [List.takeWhile_eq_self_iff] at whole
            have differs := whole closing member
            simp at differs
        rw [List.takeWhile_cons_of_pos (by simpa using same)]
        simp only [List.length_cons, Nat.succ_lt_succ_iff, ne_eq,
          List.cons_ne_nil, not_false_eq_true, true_and, List.head?_cons,
          Option.some.injEq, List.mem_cons, same]
        rw [inBody]
        have otherWay : closing ≠ head := fun equal => same equal.symm
        simp [otherWay]

theorem anySourceTokenAt_eq {char : Char} {text : List Char} :
    anySourceTokenAt (char :: text) =
      match closingBracket char, sourceKeyword text with
      | some closing, some body =>
          let token := body.takeWhile (· ≠ closing)
          if token ≠ [] ∧ token.length < body.length then
            some (token,
              1 + (text.length - body.length) + token.length + 1)
          else none
      | _, _ => none := rfl

theorem anySourceTokenAt_eq_none {char : Char} {text : List Char} :
    anySourceTokenAt (char :: text) = none ↔
      ∀ closing body, closingBracket char = some closing →
        sourceKeyword text = some body → ¬ Closes closing body := by
  rw [anySourceTokenAt_eq]
  constructor
  · intro missing closing body opens keyword closes
    rw [opens, keyword] at missing
    dsimp only at missing
    rw [if_pos (takeWhile_closes_iff.mpr closes)] at missing
    cases missing
  · intro open_
    split
    · next closing body opens keyword =>
        dsimp only
        rw [if_neg]
        rw [takeWhile_closes_iff]
        exact open_ closing body opens keyword
    · rfl

/-! ## Keywords -/

/-- The characters a keyword is spelled with are no brackets. -/
theorem prefixIgnoreCase_spec (letters : List Char)
    (plain : ∀ letter ∈ letters, ∀ char, matchesIgnoreCase letter char →
      isInner char) :
    ∀ {text rest : List Char}, prefixIgnoreCase letters text = some rest →
      ∃ spelled, text = spelled ++ rest ∧
        (∀ char ∈ spelled, isInner char) ∧
          ∀ other, prefixIgnoreCase letters (spelled ++ other) =
            some other := by
  induction letters with
  | nil =>
      intro text rest found
      cases found
      refine ⟨[], rfl, ?_, fun _ => rfl⟩
      intro char member
      cases member
  | cons letter letters induction =>
      intro text rest found
      cases text with
      | nil => cases found
      | cons char text =>
          rw [prefixIgnoreCase] at found
          split at found
          · next matched =>
              obtain ⟨spelled, rfl, inner, again⟩ := induction
                (fun letter member => plain letter
                  (List.mem_cons_of_mem _ member)) found
              refine ⟨char :: spelled, rfl, ?_, ?_⟩
              · intro other member
                rcases List.mem_cons.mp member with isChar | later
                · rw [isChar]
                  exact plain letter List.mem_cons_self char matched
                · exact inner other later
              · intro other
                rw [List.cons_append, prefixIgnoreCase, if_pos matched]
                exact again other
          · cases found

/-- The letters of both spellings of the keyword. -/
def keywordLetters : List Char :=
  "source:".toList ++ [Char.ofNat 0x6765, Char.ofNat 0x6E90, ':']

theorem isInner_of_not_bracket {char : Char}
    (notBracket : char ∉ ['[', ']', Char.ofNat 0x3010, Char.ofNat 0x3011]) :
    isInner char := by
  simp only [List.mem_cons, List.not_mem_nil, or_false, not_or]
    at notBracket
  obtain ⟨opening, closing, wideOpening, wideClosing⟩ := notBracket
  have openingCode : char.toNat ≠ 0x3010 := by
    intro code
    exact wideOpening (Char.toNat_inj.mp code)
  have closingCode : char.toNat ≠ 0x3011 := by
    intro code
    exact wideClosing (Char.toNat_inj.mp code)
  simp [isInner, opening, closing, openingCode, closingCode]

theorem matchesIgnoreCase_inner :
    ∀ letter ∈ keywordLetters, ∀ char, matchesIgnoreCase letter char →
      isInner char := by
  have noBracket : ∀ letter ∈ keywordLetters,
      ∀ bracket ∈ ['[', ']', Char.ofNat 0x3010, Char.ofNat 0x3011],
        matchesIgnoreCase letter bracket = false := by
    decide
  intro letter known char matched
  apply isInner_of_not_bracket
  intro bracket
  rw [noBracket letter known char bracket] at matched
  cases matched

/-- No character spells the first letters of both keywords. -/
theorem not_both_keywords {char : Char}
    (wide : matchesIgnoreCase (Char.ofNat 0x6765) char) :
    matchesIgnoreCase 's' char = false := by
  have first : char = Char.ofNat 0x6765 ∨
      char.toLower = Char.ofNat 0x6765 := by
    simpa [matchesIgnoreCase] using wide
  rcases first with rfl | lower
  · decide
  · have wideS : Char.ofNat 0x6765 ≠ 's' := by decide
    have notS : char ≠ 's' := by
      rintro rfl
      revert lower
      decide
    have notLong : char.toNat ≠ 0x17F := by
      intro code
      have isLong : char = Char.ofNat 0x17F := Char.toNat_inj.mp code
      rw [isLong] at lower
      revert lower
      decide
    simp [matchesIgnoreCase, notS, lower, notLong, wideS]

theorem prefixIgnoreCase_source_of_wide {text rest : List Char}
    (wide : prefixIgnoreCase [Char.ofNat 0x6765, Char.ofNat 0x6E90, ':'] text =
      some rest) : prefixIgnoreCase "source:".toList text = none := by
  cases text with
  | nil => cases wide
  | cons char text =>
      rw [prefixIgnoreCase] at wide
      split at wide
      · next matched =>
          have letters : "source:".toList = 's' :: "ource:".toList := rfl
          rw [letters, prefixIgnoreCase, not_both_keywords matched]
          rfl
      · cases wide

theorem sourceKeyword_spec {text rest : List Char}
    (found : sourceKeyword text = some rest) :
    ∃ spelled, text = spelled ++ rest ∧ (∀ char ∈ spelled, isInner char) ∧
      ∀ other, sourceKeyword (spelled ++ other) = some other := by
  unfold sourceKeyword at found
  split at found
  · next body isSource =>
      cases found
      obtain ⟨spelled, rfl, inner, again⟩ := prefixIgnoreCase_spec _
        (fun letter member => matchesIgnoreCase_inner letter
          (List.mem_append_left _ member)) isSource
      refine ⟨spelled, rfl, inner, ?_⟩
      intro other
      rw [sourceKeyword, again other]
  · obtain ⟨spelled, rfl, inner, again⟩ := prefixIgnoreCase_spec _
      (fun letter member => matchesIgnoreCase_inner letter
        (List.mem_append_right _ member)) found
    refine ⟨spelled, rfl, inner, ?_⟩
    intro other
    rw [sourceKeyword, prefixIgnoreCase_source_of_wide (again other)]
    exact again other

/-! ## Scanning the text of some pieces -/

/-- The markers are found as they stand. -/
def WellFormedPieces (pieces : List SourcePiece) : Prop :=
  ∀ token whole, .marker token whole ∈ pieces →
    WellFormedMarker token whole

theorem closingBracket_not_inner {opening closing : Char}
    (opens : closingBracket opening = some closing) :
    isInner opening = false ∧ isInner closing = false := by
  unfold closingBracket at opens
  split at opens
  · next isOpening =>
      cases opens
      rw [isOpening]
      decide
  · split at opens
    · next code =>
        cases opens
        have isOpening : opening = Char.ofNat 0x3010 :=
          Char.toNat_inj.mp code
        rw [isOpening]
        decide
    · cases opens

/-- The pieces after the letters of a keyword. -/
def keywordPieces : List Char → List SourcePiece → Option (List SourcePiece)
  | [], pieces => some pieces
  | letter :: letters, .plain char :: pieces =>
      if matchesIgnoreCase letter char then keywordPieces letters pieces
      else none
  | _ :: _, _ => none

/-- A rendering of pieces that keeps plain characters and starts a marker
with its opening bracket. -/
structure RendersPieces (render : SourcePiece → List Char)
    (pieces : List SourcePiece) : Prop where
  plain : ∀ char, render (.plain char) = [char]
  marker : ∀ token whole, .marker token whole ∈ pieces →
    ∃ opening rest, render (.marker token whole) = opening :: rest ∧
      isInner opening = false

theorem RendersPieces.tail {render : SourcePiece → List Char}
    {piece : SourcePiece} {pieces : List SourcePiece}
    (renders : RendersPieces render (piece :: pieces)) :
    RendersPieces render pieces :=
  { plain := renders.plain
    marker := fun token whole member =>
      renders.marker token whole (List.mem_cons_of_mem _ member) }

theorem prefixIgnoreCase_pieces {render : SourcePiece → List Char}
    (letters : List Char)
    (plain : ∀ letter ∈ letters, ∀ char, matchesIgnoreCase letter char →
      isInner char) :
    ∀ {pieces : List SourcePiece}, RendersPieces render pieces →
      prefixIgnoreCase letters (pieces.flatMap render) =
        (keywordPieces letters pieces).map (·.flatMap render) := by
  induction letters with
  | nil => exact fun _ => rfl
  | cons letter letters induction =>
      intro pieces renders
      cases pieces with
      | nil => rfl
      | cons piece pieces =>
          cases piece with
          | plain char =>
              rw [List.flatMap_cons, renders.plain, List.singleton_append,
                prefixIgnoreCase, keywordPieces]
              split
              · apply induction _ renders.tail
                intro letter member
                exact plain letter (List.mem_cons_of_mem _ member)
              · rfl
          | marker token whole =>
              obtain ⟨opening, rest, rendered, bracket⟩ :=
                renders.marker token whole List.mem_cons_self
              rw [List.flatMap_cons, rendered, List.cons_append,
                prefixIgnoreCase, if_neg]
              · rfl
              · intro matched
                have inner := plain letter List.mem_cons_self opening matched
                rw [bracket] at inner
                cases inner

/-- The pieces after a keyword. -/
def sourceKeywordPieces (pieces : List SourcePiece) :
    Option (List SourcePiece) :=
  match keywordPieces "source:".toList pieces with
  | some rest => some rest
  | none =>
      keywordPieces [Char.ofNat 0x6765, Char.ofNat 0x6E90, ':'] pieces

theorem sourceKeyword_pieces {render : SourcePiece → List Char}
    {pieces : List SourcePiece} (renders : RendersPieces render pieces) :
    sourceKeyword (pieces.flatMap render) =
      (sourceKeywordPieces pieces).map (·.flatMap render) := by
  have source := prefixIgnoreCase_pieces "source:".toList
    (fun letter member => matchesIgnoreCase_inner letter
      (List.mem_append_left _ member)) renders
  have wide := prefixIgnoreCase_pieces
    [Char.ofNat 0x6765, Char.ofNat 0x6E90, ':']
    (fun letter member => matchesIgnoreCase_inner letter
      (List.mem_append_right _ member)) renders
  rw [sourceKeyword, sourceKeywordPieces, source, wide]
  cases keywordPieces "source:".toList pieces with
  | none => rfl
  | some rest => rfl

theorem keywordPieces_suffix (letters : List Char) :
    ∀ {pieces rest : List SourcePiece},
      keywordPieces letters pieces = some rest → rest <:+ pieces := by
  induction letters with
  | nil =>
      intro pieces rest found
      cases found
      exact List.suffix_rfl
  | cons letter letters induction =>
      intro pieces rest found
      cases pieces with
      | nil => cases found
      | cons piece pieces =>
          cases piece with
          | plain char =>
              rw [keywordPieces] at found
              split at found
              · exact (induction found).trans (List.suffix_cons _ _)
              · cases found
          | marker token whole => cases found

theorem sourceKeywordPieces_suffix {pieces rest : List SourcePiece}
    (found : sourceKeywordPieces pieces = some rest) : rest <:+ pieces := by
  unfold sourceKeywordPieces at found
  split at found
  · next body isSource =>
      cases found
      exact keywordPieces_suffix _ isSource
  · exact keywordPieces_suffix _ found

theorem WellFormedMarker.text {token whole : List Char}
    (wellFormed : WellFormedMarker token whole) :
    ∃ opening inside closing, whole = opening :: (inside ++ [closing]) ∧
      (SourcePiece.marker token whole).brackets = [opening, closing] ∧
        closingBracket opening = some closing ∧
          ∀ char ∈ inside, isInner char := by
  obtain ⟨opening, closing, keyword, opens, rfl, inner, -⟩ :=
    wellFormed.shape
  refine ⟨opening, keyword ++ token, closing, rfl, ?_, opens, ?_⟩
  · have length : (opening :: (keyword ++ token) ++ [closing]).length - 1 =
        (opening :: (keyword ++ token)).length := by
      rw [List.length_append, List.length_singleton, Nat.add_sub_cancel]
    rw [SourcePiece.brackets, length, List.drop_left]
    rfl
  · intro char member
    rcases List.mem_append.mp member with inKeyword | inToken
    · exact inner char inKeyword
    · exact wellFormed.inner char inToken

theorem WellFormedPieces.rendersText {pieces : List SourcePiece}
    (wellFormed : WellFormedPieces pieces) :
    RendersPieces (·.text) pieces := by
  constructor
  case plain => exact fun _ => rfl
  case marker =>
    intro token whole member
    obtain ⟨opening, inside, closing, shape, -, opens, -⟩ :=
      (wellFormed token whole member).text
    exact ⟨opening, _, shape, (closingBracket_not_inner opens).1⟩

theorem WellFormedPieces.rendersBrackets {pieces : List SourcePiece}
    (wellFormed : WellFormedPieces pieces) :
    RendersPieces (·.brackets) pieces := by
  constructor
  case plain => exact fun _ => rfl
  case marker =>
    intro token whole member
    obtain ⟨opening, inside, closing, -, shape, opens, -⟩ :=
      (wellFormed token whole member).text
    exact ⟨opening, _, shape, (closingBracket_not_inner opens).1⟩

/-- Brackets are all that closes a body. -/
theorem closes_pieces_iff {pieces : List SourcePiece}
    (wellFormed : WellFormedPieces pieces) {closing : Char}
    (bracket : isInner closing = false) :
    Closes closing (piecesText pieces) ↔
      Closes closing (piecesSkeleton pieces) := by
  have members : closing ∈ piecesText pieces ↔
      closing ∈ piecesSkeleton pieces := by
    unfold piecesText piecesSkeleton
    rw [List.mem_flatMap, List.mem_flatMap]
    apply exists_congr
    intro piece
    apply and_congr_right
    intro member
    cases piece with
    | plain char => exact Iff.rfl
    | marker token whole =>
        obtain ⟨opening, inside, close, shape, brackets, -, inner⟩ :=
          (wellFormed token whole member).text
        have notInside : closing ∉ inside := by
          intro isInside
          have isInner := inner closing isInside
          rw [bracket] at isInner
          cases isInner
        rw [brackets, SourcePiece.text, shape]
        simp [notInside]
  have heads : (piecesText pieces).head? =
      (piecesSkeleton pieces).head? := by
    cases pieces with
    | nil => rfl
    | cons piece pieces =>
        cases piece with
        | plain char => rfl
        | marker token whole =>
            obtain ⟨opening, inside, close, shape, brackets, -⟩ :=
              (wellFormed token whole List.mem_cons_self).text
            unfold piecesText piecesSkeleton
            rw [List.flatMap_cons, List.flatMap_cons, brackets,
              SourcePiece.text, shape]
            rfl
  unfold Closes
  rw [members, heads]

/-- A well-formed marker is found in front of any text. -/
theorem WellFormedMarker.found {token whole : List Char}
    (wellFormed : WellFormedMarker token whole) (rest : List Char) :
    anySourceTokenAt (whole ++ rest) = some (token, whole.length) := by
  obtain ⟨opening, closing, keyword, opens, rfl, -, found⟩ :=
    wellFormed.shape
  have notInToken : ∀ char ∈ token, decide (char ≠ closing) = true := by
    intro char member
    rw [decide_eq_true_iff]
    rintro rfl
    have inner := wellFormed.inner char member
    rw [(closingBracket_not_inner opens).2] at inner
    cases inner
  have taken : (token ++ (closing :: rest)).takeWhile (· ≠ closing) =
      token := by
    rw [List.takeWhile_append_of_pos notInToken, List.takeWhile_cons_of_neg,
      List.append_nil]
    simp
  have shape : opening :: (keyword ++ token) ++ [closing] ++ rest =
      opening :: (keyword ++ (token ++ (closing :: rest))) := by
    simp [List.append_assoc]
  rw [shape, anySourceTokenAt_eq, opens, found]
  dsimp only
  rw [taken, if_pos]
  · simp only [List.length_append, List.length_cons, List.length_nil,
      Option.some.injEq, Prod.mk.injEq, true_and]
    omega
  · refine ⟨wellFormed.filled, ?_⟩
    rw [List.length_append, List.length_cons]
    omega

theorem sourceMatchesFrom_cons_eq_nil {char : Char} {text : List Char}
    (none : sourceMatchesFrom 0 (char :: text) = []) :
    anySourceTokenAt (char :: text) = Option.none ∧
      sourceMatchesFrom 0 text = [] := by
  rw [sourceMatchesFrom] at none
  split at none
  · cases none
  · next missing => exact ⟨missing, none⟩

/-- A text whose skeleton has no marker is cut into the pieces it was made
of. -/
theorem sourcePieces_piecesText {pieces : List SourcePiece}
    (wellFormed : WellFormedPieces pieces)
    (unjoined : sourceMatchesFrom 0 (piecesSkeleton pieces) = []) :
    sourcePieces (piecesText pieces) = pieces := by
  induction pieces with
  | nil => rfl
  | cons piece pieces induction =>
      have tailFormed : WellFormedPieces pieces := fun token whole member =>
        wellFormed token whole (List.mem_cons_of_mem _ member)
      cases piece with
      | plain char =>
          obtain ⟨missing, rest⟩ := sourceMatchesFrom_cons_eq_nil unjoined
          have noMarker :
              anySourceTokenAt (char :: piecesText pieces) = none := by
            rw [anySourceTokenAt_eq_none] at missing ⊢
            intro closing body opens keyword
            have inText := sourceKeyword_pieces tailFormed.rendersText
            have inSkeleton :=
              sourceKeyword_pieces tailFormed.rendersBrackets
            cases found : sourceKeywordPieces pieces with
            | none =>
                rw [piecesText, inText, found] at keyword
                cases keyword
            | some after =>
                rw [piecesText, inText, found] at keyword
                cases keyword
                rw [found] at inSkeleton
                have afterFormed : WellFormedPieces after :=
                  fun token whole member => tailFormed token whole
                    ((sourceKeywordPieces_suffix found).subset member)
                intro closes
                exact missing closing _ opens inSkeleton
                  ((closes_pieces_iff afterFormed
                    (closingBracket_not_inner opens).2).mp closes)
          have shape : piecesText (.plain char :: pieces) =
              char :: piecesText pieces := rfl
          rw [shape, sourcePieces, sourcePiecesFrom, noMarker]
          exact congrArg (SourcePiece.plain char :: ·)
            (induction tailFormed rest)
      | marker token whole =>
          have marker := wellFormed token whole List.mem_cons_self
          obtain ⟨opening, inside, closing, shape, brackets, -⟩ :=
            marker.text
          have skeleton : piecesSkeleton (.marker token whole :: pieces) =
              opening :: closing :: piecesSkeleton pieces := by
            unfold piecesSkeleton
            rw [List.flatMap_cons, brackets]
            rfl
          rw [skeleton] at unjoined
          have rest := (sourceMatchesFrom_cons_eq_nil
            (sourceMatchesFrom_cons_eq_nil unjoined).2).2
          have found := marker.found (piecesText pieces)
          have text : piecesText (.marker token whole :: pieces) =
              whole ++ piecesText pieces := rfl
          rw [text]
          rw [shape, List.cons_append] at found ⊢
          have taken :
              (opening :: (inside ++ [closing] ++ piecesText pieces)).take
                  (opening :: (inside ++ [closing])).length =
                opening :: (inside ++ [closing]) :=
            List.take_left
          rw [sourcePieces, sourcePiecesFrom, found]
          dsimp only
          rw [taken, sourcePiecesFrom_drop, List.length_cons,
            Nat.add_sub_cancel, List.drop_left, induction tailFormed rest]

/-! ## The pieces of a text -/

theorem anySourceTokenAt_spec {char : Char} {text token : List Char}
    {length : Nat}
    (found : anySourceTokenAt (char :: text) = some (token, length)) :
    ∃ closing keyword rest, closingBracket char = some closing ∧
      text = keyword ++ (token ++ closing :: rest) ∧
        (∀ inner ∈ keyword, isInner inner) ∧
          (∀ other, sourceKeyword (keyword ++ other) = some other) ∧
            token ≠ [] ∧ length = (char :: keyword ++ token).length + 1 := by
  rw [anySourceTokenAt_eq] at found
  split at found
  · next closing body opens keyword =>
      dsimp only at found
      split at found
      · next closes =>
          cases found
          obtain ⟨spelled, rfl, inner, again⟩ := sourceKeyword_spec keyword
          have taken := List.takeWhile_append_dropWhile
            (p := fun char => decide (char ≠ closing)) (l := body)
          have rest : ∃ rest, body.dropWhile (· ≠ closing) =
              closing :: rest := by
            cases dropped : body.dropWhile (· ≠ closing) with
            | nil =>
                rw [dropped, List.append_nil] at taken
                rw [taken] at closes
                exact (Nat.lt_irrefl _ closes.2).elim
            | cons head rest =>
                have nonempty : body.dropWhile (· ≠ closing) ≠ [] := by
                  rw [dropped]
                  exact List.cons_ne_nil _ _
                have stops := List.head_dropWhile_not _ nonempty
                simp only [dropped, List.head_cons] at stops
                have isClosing : head = closing := by
                  simpa using stops
                exact ⟨rest, by rw [isClosing]⟩
          obtain ⟨rest, dropped⟩ := rest
          refine ⟨closing, spelled, rest, opens, ?_, inner, again, closes.1,
            ?_⟩
          · rw [← dropped, taken]
          · simp only [List.length_append, List.length_cons]
            omega
      · cases found
  · cases found

/-- A marker whose token has no bracket is well formed. -/
theorem wellFormedMarker_of_mem {text token whole : List Char} :
    ∀ {skip}, .marker token whole ∈ sourcePiecesFrom skip text →
      (∀ char ∈ token, isInner char) → WellFormedMarker token whole := by
  induction text with
  | nil =>
      intro skip member
      cases skip <;> cases member
  | cons char text induction =>
      intro skip member inner
      cases skip with
      | succ skip => exact induction member inner
      | zero =>
          rw [sourcePiecesFrom] at member
          cases found : anySourceTokenAt (char :: text) with
          | none =>
              rw [found] at member
              dsimp only at member
              rcases List.mem_cons.mp member with isPlain | later
              · cases isPlain
              · exact induction later inner
          | some entry =>
              obtain ⟨foundToken, length⟩ := entry
              rw [found] at member
              dsimp only at member
              rcases List.mem_cons.mp member with isHere | later
              · cases isHere
                obtain ⟨closing, keyword, rest, opens, rfl, spelled, again,
                  filled, rfl⟩ := anySourceTokenAt_spec found
                refine ⟨⟨char, closing, keyword, opens, ?_, spelled, again⟩,
                  filled, inner⟩
                have shape :
                    char :: (keyword ++ (token ++ closing :: rest)) =
                      (char :: (keyword ++ token) ++ [closing]) ++ rest := by
                  simp [List.append_assoc]
                have length : (char :: keyword ++ token).length + 1 =
                    (char :: (keyword ++ token) ++ [closing]).length := by
                  simp only [List.length_append, List.length_cons,
                    List.length_nil]
                  omega
                rw [shape, length, List.take_left]
              · exact induction later inner

end CompetiScope
