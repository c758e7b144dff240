import Mathlib.Data.List.Basic

/-!
# Texts that are cut where a line starts a section

What starts a section is a test on the text from the start of a line.  When
the test only looks at that line, pieces of a text that are put together
again are cut at the same places.
-/

namespace Foundation

variable {starts : List Char → Bool}

/-- The text in front of the first section, and the sections. -/
def sectionsFrom (starts : List Char → Bool) :
    Bool → List Char → List Char × List (List Char)
  | _, [] => ([], [])
  | lineStart, char :: text =>
      let rest := sectionsFrom starts (char = '\n') text
      if lineStart && starts (char :: text) then
        ([], (char :: rest.1) :: rest.2)
      else (char :: rest.1, rest.2)

def EndsLine (text : List Char) : Prop :=
  text.getLast? = some '\n'

/-- A line follows the text. -/
def LineFollows (lineStart : Bool) (text : List Char) : Prop :=
  text = [] ∧ lineStart = true ∨ EndsLine text

/-- Whether a section starts is seen on whole lines. -/
def Linewise (starts : List Char → Bool) : Prop :=
  starts [] = false ∧ ∀ front rest, EndsLine front →
    starts (front ++ rest) = starts front

theorem sectionsFrom_flatten (text : List Char) : ∀ lineStart : Bool,
    (sectionsFrom starts lineStart text).1 ++
      (sectionsFrom starts lineStart text).2.flatten = text := by
  induction text with
  | nil => exact fun _ => rfl
  | cons char text induction =>
      intro lineStart
      have rest := induction (char = '\n')
      rw [sectionsFrom]
      split
      · rw [List.nil_append, List.flatten_cons, List.cons_append, rest]
      · rw [List.cons_append, rest]

theorem LineFollows.of_cons {lineStart : Bool} {char : Char}
    {text : List Char} (follows : LineFollows lineStart (char :: text)) :
    LineFollows (char = '\n') text ∧ EndsLine (char :: text) := by
  rcases follows with ⟨isEmpty, -⟩ | ends
  · cases isEmpty
  · refine ⟨?_, ends⟩
    cases text with
    | nil =>
        have newline : some char = some '\n' := ends
        exact .inl ⟨rfl, by simpa using newline⟩
    | cons second text => exact .inr ends

theorem LineFollows.cons {char : Char} {text : List Char}
    (follows : LineFollows (char = '\n') text) : EndsLine (char :: text) := by
  rcases follows with ⟨isEmpty, newline⟩ | ends
  · rw [isEmpty, of_decide_eq_true newline]
    rfl
  · cases text with
    | nil => cases ends
    | cons second text => exact ends

/-- A section that follows starts a new piece. -/
theorem sectionsFrom_append (linewise : Linewise starts)
    {rest : List Char} (begins : starts rest = true) (text : List Char) :
    ∀ lineStart : Bool, LineFollows lineStart text →
      sectionsFrom starts lineStart (text ++ rest) =
        ((sectionsFrom starts lineStart text).1,
          (sectionsFrom starts lineStart text).2 ++
            (sectionsFrom starts true rest).2) := by
  induction text with
  | nil =>
      intro lineStart follows
      rcases follows with ⟨-, isStart⟩ | ends
      · cases rest with
        | nil =>
            rw [linewise.1] at begins
            cases begins
        | cons char rest =>
            have cut : sectionsFrom starts true (char :: rest) = ([],
                (char :: (sectionsFrom starts (char = '\n') rest).1) ::
                  (sectionsFrom starts (char = '\n') rest).2) :=
              if_pos begins
            rw [isStart, List.nil_append, cut]
            rfl
      · cases ends
  | cons char text induction =>
      intro lineStart follows
      obtain ⟨later, ends⟩ := follows.of_cons
      have same := linewise.2 (char :: text) rest ends
      rw [List.cons_append] at same ⊢
      rw [sectionsFrom, sectionsFrom, same, induction _ later]
      dsimp only
      split
      · rfl
      · rfl

/-- The pieces of a text: the first has no section, the others are one
section each, and lines end between them. -/
structure Pieces (starts : List Char → Bool) (lineStart : Bool)
    (first : List Char) (sections : List (List Char)) : Prop where
  front : sectionsFrom starts lineStart first = (first, [])
  single : ∀ text ∈ sections,
    starts text = true ∧ sectionsFrom starts true text = ([], [text])
  follows : sections ≠ [] → LineFollows lineStart first
  ended : sections.Pairwise fun before _ => EndsLine before

theorem pieces_sectionsFrom (linewise : Linewise starts) (text : List Char) :
    ∀ lineStart : Bool,
      Pieces starts lineStart (sectionsFrom starts lineStart text).1
        (sectionsFrom starts lineStart text).2 := by
  induction text with
  | nil =>
      intro lineStart
      exact
        { front := rfl
          single := List.forall_mem_nil _
          follows := fun filled => absurd rfl filled
          ended := .nil }
  | cons char text induction =>
      intro lineStart
      have pieces := induction (char = '\n')
      have whole := @sectionsFrom_flatten starts text
        (char = '\n')
      rw [sectionsFrom]
      generalize sectionsFrom starts (char = '\n') text = rest at *
      obtain ⟨first, sections⟩ := rest
      dsimp only at pieces whole ⊢
      -- the first line tells whether a section starts here
      have same : starts (char :: first) = starts (char :: text) := by
        cases sections with
        | nil => rw [← whole, List.flatten_nil, List.append_nil]
        | cons second sections =>
            have ends := (pieces.follows (List.cons_ne_nil _ _)).cons
            have inLine := linewise.2 (char :: first)
              (second :: sections).flatten ends
            rw [← inLine, List.cons_append, whole]
      have front := pieces.front
      split
      · next isStart =>
          obtain ⟨-, begins⟩ := Bool.and_eq_true_iff.mp isStart
          refine
            { front := rfl
              single := List.forall_mem_cons.mpr ⟨⟨same.trans begins, ?_⟩,
                pieces.single⟩
              follows := fun _ => .inl ⟨rfl, (Bool.and_eq_true_iff.mp
                isStart).1⟩
              ended := List.pairwise_cons.mpr ⟨?_, pieces.ended⟩ }
          · rw [sectionsFrom, front, same, begins]
            rfl
          · intro second member
            exact (pieces.follows (List.ne_nil_of_mem member)).cons
      · next isStart =>
          refine
            { front := ?_
              single := pieces.single
              follows := fun filled => .inr (pieces.follows filled).cons
              ended := pieces.ended }
          rw [sectionsFrom, front, same]
          exact if_neg isStart

/-- The first of some sections starts their text. -/
theorem Pieces.starts_flatten (linewise : Linewise starts)
    {lineStart : Bool} {first second : List Char}
    {sections : List (List Char)}
    (pieces : Pieces starts lineStart first (second :: sections)) :
    starts (second :: sections).flatten = true := by
  have begins := (pieces.single second List.mem_cons_self).1
  cases sections with
  | nil => rwa [List.flatten_singleton]
  | cons third sections =>
      have ends := (List.pairwise_cons.mp pieces.ended).1 third
        List.mem_cons_self
      rw [List.flatten_cons, linewise.2 second _ ends]
      exact begins

/-- Pieces that are put together are cut again. -/
theorem Pieces.cut (linewise : Linewise starts)
    {sections : List (List Char)} : ∀ {lineStart : Bool}
      {first : List Char}, Pieces starts lineStart first sections →
      sectionsFrom starts lineStart (first ++ sections.flatten) =
        (first, sections) := by
  induction sections with
  | nil =>
      intro lineStart first pieces
      rw [List.flatten_nil, List.append_nil]
      exact pieces.front
  | cons second sections induction =>
      intro lineStart first pieces
      have begins := pieces.starts_flatten linewise
      have single := pieces.single second List.mem_cons_self
      obtain ⟨ends, ended⟩ := List.pairwise_cons.mp pieces.ended
      have rest : sectionsFrom starts true (second :: sections).flatten =
          ([], second :: sections) := by
        cases sections with
        | nil =>
            rw [List.flatten_singleton]
            exact single.2
        | cons third sections =>
            have tail : Pieces starts true [] (third :: sections) :=
              { front := rfl
                single := fun text member =>
                  pieces.single text (List.mem_cons_of_mem _ member)
                follows := fun _ => .inl ⟨rfl, rfl⟩
                ended := ended }
            have cut := induction tail
            rw [List.nil_append] at cut
            rw [List.flatten_cons, sectionsFrom_append linewise
              (tail.starts_flatten linewise) second true
              (.inr (ends third List.mem_cons_self)), single.2, cut]
            rfl
      rw [sectionsFrom_append linewise begins first lineStart
        (pieces.follows (List.cons_ne_nil _ _)), pieces.front, rest]
      rfl

/-- Some of the sections are pieces as well. -/
theorem Pieces.sublist {lineStart : Bool} {first : List Char}
    {sections others : List (List Char)}
    (pieces : Pieces starts lineStart first sections)
    (isSublist : others.Sublist sections) :
    Pieces starts lineStart first others :=
  { front := pieces.front
    single := fun text member =>
      pieces.single text (isSublist.subset member)
    follows := fun filled => pieces.follows fun isEmpty => filled (by
      rw [isEmpty] at isSublist
      exact List.sublist_nil.mp isSublist)
    ended := pieces.ended.sublist isSublist }

end Foundation
