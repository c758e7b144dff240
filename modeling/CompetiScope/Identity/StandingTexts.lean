import CompetiScope.Identity.TokenNormalisation

/-!
# Texts that stand for themselves

A closed text is cut into the same pieces whatever follows it: no marker
begins in it and ends behind it.  A standing text is closed before and after
its markers are normalised, so a marker behind standing texts is found in the
normalised whole.
-/

namespace CompetiScope

open Foundation

/-! ## Closed texts -/

/-- No marker begins in the text and ends behind it. -/
def Closed (text : List Char) : Prop :=
  ∀ more, sourcePieces (text ++ more) = sourcePieces text ++ sourcePieces more

theorem closed_nil : Closed [] :=
  fun _ => rfl

theorem Closed.append {first second : List Char} (left : Closed first)
    (right : Closed second) : Closed (first ++ second) := by
  intro more
  rw [List.append_assoc, left, right, left second, List.append_assoc]

theorem sourcePieces_of_plain {char : Char}
    (plain : closingBracket char = none) (text : List Char) :
    sourcePieces (char :: text) = .plain char :: sourcePieces text := by
  have missing : anySourceTokenAt (char :: text) = none := by
    rw [anySourceTokenAt_eq_none]
    intro closing body opens
    rw [plain] at opens
    cases opens
  rw [sourcePieces, sourcePiecesFrom, missing]
  rfl

theorem closed_cons_iff {char : Char} (plain : closingBracket char = none)
    {text : List Char} : Closed (char :: text) ↔ Closed text := by
  apply forall_congr'
  intro more
  rw [List.cons_append, sourcePieces_of_plain plain,
    sourcePieces_of_plain plain, List.cons_append, List.cons.injEq]
  exact and_iff_right rfl

theorem sourcePieces_of_marker {token whole : List Char}
    (wellFormed : WellFormedMarker token whole) (more : List Char) :
    sourcePieces (whole ++ more) =
      .marker token whole :: sourcePieces more := by
  have found := wellFormed.found more
  obtain ⟨opening, inside, closing, shape, -⟩ := wellFormed.text
  have taken : (whole ++ more).take whole.length = whole := List.take_left
  rw [shape, List.cons_append] at found taken ⊢
  rw [sourcePieces, sourcePiecesFrom, found]
  dsimp only
  rw [taken, sourcePiecesFrom_drop, List.length_cons, Nat.add_sub_cancel,
    List.drop_left]

/-- A well-formed marker is closed. -/
theorem closed_marker {token whole : List Char}
    (wellFormed : WellFormedMarker token whole) : Closed whole := by
  intro more
  have alone := sourcePieces_of_marker wellFormed []
  rw [List.append_nil] at alone
  rw [sourcePieces_of_marker wellFormed, alone]
  rfl

/-! ## Standing texts -/

section Standing

variable {evidence : List EvidenceRecord} {scopeIds : List String}

/-- The characters of the normalised text. -/
def normalisedChars (evidence : List EvidenceRecord)
    (scopeIds : List String) (text : List Char) : List Char :=
  piecesText ((sourcePieces text).flatMap
    (normalisedPieces evidence scopeIds))

theorem toList_normalizedReportMd_eq (text : String) :
    (normalizedReportMd evidence scopeIds text).toList =
      normalisedChars evidence scopeIds text.toList :=
  toList_normalizedReportMd

/-- The text is closed, and it is closed when it is normalised. -/
structure Standing (evidence : List EvidenceRecord) (scopeIds : List String)
    (text : List Char) : Prop where
  closed : Closed text
  normalised : Closed (normalisedChars evidence scopeIds text)

theorem normalisedChars_append {first : List Char} (closed : Closed first)
    (second : List Char) :
    normalisedChars evidence scopeIds (first ++ second) =
      normalisedChars evidence scopeIds first ++
        normalisedChars evidence scopeIds second := by
  unfold normalisedChars
  rw [closed, List.flatMap_append, piecesText, List.flatMap_append]
  rfl

theorem normalisedChars_plain {char : Char}
    (plain : closingBracket char = none) (text : List Char) :
    normalisedChars evidence scopeIds (char :: text) =
      char :: normalisedChars evidence scopeIds text := by
  unfold normalisedChars
  rw [sourcePieces_of_plain plain]
  rfl

theorem standing_nil : Standing evidence scopeIds [] :=
  ⟨closed_nil, closed_nil⟩

theorem Standing.append {first second : List Char}
    (left : Standing evidence scopeIds first)
    (right : Standing evidence scopeIds second) :
    Standing evidence scopeIds (first ++ second) := by
  refine ⟨left.closed.append right.closed, ?_⟩
  rw [normalisedChars_append left.closed]
  exact left.normalised.append right.normalised

theorem standing_cons_iff {char : Char} (plain : closingBracket char = none)
    {text : List Char} :
    Standing evidence scopeIds (char :: text) ↔
      Standing evidence scopeIds text := by
  constructor
  · rintro ⟨closed, normalised⟩
    rw [normalisedChars_plain plain, closed_cons_iff plain] at normalised
    exact ⟨(closed_cons_iff plain).mp closed, normalised⟩
  · rintro ⟨closed, normalised⟩
    refine ⟨(closed_cons_iff plain).mpr closed, ?_⟩
    rw [normalisedChars_plain plain, closed_cons_iff plain]
    exact normalised

/-- A text that opens no bracket stands for itself. -/
theorem standing_of_plain {text : List Char}
    (plain : ∀ char ∈ text, closingBracket char = none) :
    Standing evidence scopeIds text := by
  induction text with
  | nil => exact standing_nil
  | cons char text induction =>
      rw [standing_cons_iff (plain char List.mem_cons_self)]
      exact induction fun other member =>
        plain other (List.mem_cons_of_mem _ member)

theorem closingBracket_of_isSpace {char : Char} (space : isSpace char) :
    closingBracket char = none := by
  have inner := isInner_of_isSpace space
  cases opens : closingBracket char with
  | none => rfl
  | some closing =>
      rw [(closingBracket_not_inner opens).1] at inner
      cases inner

/-- White space in front may be left out. -/
theorem Standing.stripLeft {text : List Char}
    (standing : Standing evidence scopeIds text) :
    Standing evidence scopeIds (Foundation.stripLeft text) := by
  induction text with
  | nil => exact standing
  | cons char text induction =>
      by_cases space : isSpace char
      · have dropped : Foundation.stripLeft (char :: text) =
            Foundation.stripLeft text := by
          simp [Foundation.stripLeft, space]
        rw [dropped]
        exact induction ((standing_cons_iff
          (closingBracket_of_isSpace space)).mp standing)
      · have kept : Foundation.stripLeft (char :: text) = char :: text := by
          simp [Foundation.stripLeft, space]
        rw [kept]
        exact standing

/-- The canonical spelling of the marker of a token. -/
def tokenMarker (token : List Char) : List Char :=
  '[' :: ("source:".toList ++ token) ++ [']']

theorem wellFormed_tokenMarker {token : List Char}
    (valid : isValidSourceToken (String.ofList token)) :
    WellFormedMarker token (tokenMarker token) := by
  obtain ⟨filled, inner⟩ := isValidSourceToken_inner valid
  have spelled : ∀ char ∈ "source:".toList, isInner char := by
    decide
  exact ⟨⟨'[', ']', "source:".toList, rfl, rfl, spelled,
    sourceKeyword_source⟩, filled, inner⟩

/-- What is left of a valid marker is a well-formed marker. -/
theorem normalisedChars_marker {token : List Char}
    (valid : isValidSourceToken (String.ofList token))
    (canonical : ∀ item ∈ evidence, isValidSourceToken (reportToken item)) :
    ∃ found, keptMarker evidence scopeIds (token, tokenMarker token) =
        some found ∧
      WellFormedMarker found.1 found.2 ∧
        normalisedChars evidence scopeIds (tokenMarker token) = found.2 := by
  have formed := wellFormed_tokenMarker valid
  have pieces := sourcePieces_of_marker formed []
  rw [List.append_nil] at pieces
  have kept : ∀ found,
      keptMarker evidence scopeIds (token, tokenMarker token) = some found →
        normalisedChars evidence scopeIds (tokenMarker token) = found.2 := by
    intro found isKept
    unfold normalisedChars
    rw [pieces]
    show piecesText (normalisedPieces evidence scopeIds _ ++ []) = _
    rw [normalisedPieces_marker, isKept]
    exact List.append_nil _
  cases resolved : resolvedRecord evidence scopeIds token with
  | none =>
      have isKept := @keptMarker_of_unresolved _ _ _ (tokenMarker token) valid
        resolved
      exact ⟨_, isKept, formed, kept _ isKept⟩
  | some item =>
      have isKept := @keptMarker_of_resolved _ _ _ (tokenMarker token) _
        resolved
      have member := (mem_of_resolveEvidence
        (resolvedRecord_eq_some.mp resolved).2.1).1
      exact ⟨_, isKept, wellFormedMarker_recordMarker (canonical item member),
        kept _ isKept⟩

theorem standing_marker {token : List Char}
    (valid : isValidSourceToken (String.ofList token))
    (canonical : ∀ item ∈ evidence, isValidSourceToken (reportToken item)) :
    Standing evidence scopeIds (tokenMarker token) := by
  obtain ⟨found, -, formed, normalised⟩ :=
    @normalisedChars_marker _ scopeIds _ valid canonical
  refine ⟨closed_marker (wellFormed_tokenMarker valid), ?_⟩
  rw [normalised]
  exact closed_marker formed

/-- The marker of a record is found behind a standing text, once the whole is
normalised. -/
theorem recordMarker_mem_normalised {front more : List Char}
    (standing : Standing evidence scopeIds front) {token : List Char}
    {item : EvidenceRecord}
    (resolved : resolvedRecord evidence scopeIds token = some item)
    (canonical : ∀ item ∈ evidence, isValidSourceToken (reportToken item)) :
    recordMarker item ∈ sourceMatches (normalizedReportMd evidence scopeIds
      (String.ofList (front ++ (tokenMarker token ++ more)))) := by
  have valid := (resolvedRecord_eq_some.mp resolved).1
  obtain ⟨found, isKept, formed, normalised⟩ :=
    @normalisedChars_marker _ scopeIds _ valid canonical
  rw [keptMarker_of_resolved resolved, Option.some.injEq] at isKept
  subst isKept
  rw [mem_sourceMatches, toList_normalizedReportMd_eq, String.toList_ofList,
    normalisedChars_append standing.closed,
    normalisedChars_append (closed_marker (wellFormed_tokenMarker valid)),
    normalised, standing.normalised, sourcePieces_of_marker formed]
  exact List.mem_append_right _ List.mem_cons_self

end Standing

end CompetiScope
