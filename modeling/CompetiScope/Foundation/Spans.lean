import CompetiScope.Foundation.Blocks

/-!
# Spans of a text

A span is a stretch of places.  A window of a text is a span; trimming it
drops the white space at both ends.  Windows that go on in the text stay in
order when they are trimmed, and nothing visible is lost.
-/

namespace Foundation

structure Span where
  start : Nat
  stop : Nat
  deriving DecidableEq

namespace Span

def Holds (span : Span) (place : Nat) : Prop :=
  span.start ≤ place ∧ place < span.stop

def cut (text : List Char) (span : Span) : List Char :=
  slice text span.start span.stop

/-- The second window begins and ends later, and what both hold is not more
than `shared` places. -/
structure Leads (shared : Nat) (first second : Span) : Prop where
  start_lt : first.start < second.start
  stop_le : first.stop ≤ second.stop
  stop_le_start : first.stop ≤ second.start + shared

/-- The window without the white space at both ends. -/
def trimmed (text : List Char) (window : Span) : Span :=
  let before := ((window.cut text).takeWhile isSpace).length
  let shown := (stripChars (window.cut text)).length
  { start := window.start + before
    stop := window.start + before + shown }

end Span

/-- A character that is not white space. -/
def Visible (text : List Char) (place : Nat) : Prop :=
  ∃ char ∈ text[place]?, isSpace char = false

theorem visible_append_right {front text : List Char} {place : Nat}
    (behind : front.length ≤ place) :
    Visible (front ++ text) place ↔ Visible text (place - front.length) := by
  unfold Visible
  rw [List.getElem?_append_right behind]

theorem visible_append_left {text back : List Char} {place : Nat}
    (inside : place < text.length) :
    Visible (text ++ back) place ↔ Visible text place := by
  unfold Visible
  rw [List.getElem?_append_left inside]

theorem Blank.not_visible {text : List Char} (isBlank : Blank text)
    (place : Nat) : ¬ Visible text place := by
  intro visible
  obtain ⟨char, found, shown⟩ := visible
  have space := isBlank char (List.mem_of_getElem? found)
  rw [space] at shown
  contradiction

theorem slice_middle (front middle back : List Char) :
    slice (front ++ middle ++ back) front.length
      (front.length + middle.length) = middle := by
  unfold slice
  rw [← List.length_append, List.take_left, List.drop_left]

/-- A text around one of its windows. -/
theorem exists_around {text : List Char} {start stop : Nat}
    (order : start ≤ stop) (inside : stop ≤ text.length) :
    ∃ front back, front.length = start ∧
      front ++ slice text start stop ++ back = text := by
  refine ⟨text.take start, text.drop stop, ?_, ?_⟩
  · rw [List.length_take]
    omega
  · have first : text.take start ++ slice text start stop = text.take stop :=
      slice_append_slice text (Nat.zero_le start) order
    rw [first, List.take_append_drop]

/-- The two visible ends of a text without white space around it. -/
theorem Stripped.visible_ends {text : List Char} (isStripped : Stripped text)
    (filled : text ≠ []) :
    Visible text 0 ∧ Visible text (text.length - 1) := by
  obtain ⟨first, last⟩ := stripped_iff.mp isStripped
  constructor
  · refine ⟨text.head filled, ?_, first _ (List.head?_eq_some_head filled)⟩
    rw [← List.head?_eq_getElem?]
    exact List.head?_eq_some_head filled
  · refine ⟨text.getLast filled, ?_,
      last _ (List.getLast?_eq_some_getLast filled)⟩
    rw [← List.getLast?_eq_getElem?]
    exact List.getLast?_eq_some_getLast filled

/-- What a trimmed window is. -/
structure Trims (text : List Char) (window span : Span) : Prop where
  start_le : window.start ≤ span.start
  stop_le : span.stop ≤ window.stop
  filled : span.start < span.stop
  first : Visible text span.start
  last : Visible text (span.stop - 1)
  holds : ∀ place, window.Holds place → Visible text place → span.Holds place

section Trimmed

variable {text : List Char} {window : Span}

theorem cut_trimmed (inside : window.stop ≤ text.length)
    (shows : stripChars (window.cut text) ≠ []) :
    (window.trimmed text).cut text = stripChars (window.cut text) ∧
      Trims text window (window.trimmed text) := by
  have order : window.start ≤ window.stop := by
    by_contra late
    apply shows
    have empty : window.cut text = [] := by
      apply List.drop_eq_nil_of_le
      rw [List.length_take]
      omega
    rw [empty]
    rfl
  obtain ⟨front, back, frontLength, whole⟩ := exists_around order inside
  have long : (window.cut text).length = window.stop - window.start :=
    length_slice text inside
  have parts : (window.cut text).takeWhile isSpace ++
      (stripChars (window.cut text) ++
        (stripLeft (window.cut text)).rtakeWhile isSpace) =
      window.cut text := by
    have behind : stripChars (window.cut text) ++
        (stripLeft (window.cut text)).rtakeWhile isSpace =
        stripLeft (window.cut text) :=
      List.rdropWhile_append_rtakeWhile
    rw [behind]
    exact List.takeWhile_append_dropWhile
  have blankBefore : Blank ((window.cut text).takeWhile isSpace) :=
    fun char member => List.mem_takeWhile_imp member
  have blankAfter : Blank ((stripLeft (window.cut text)).rtakeWhile isSpace) :=
    fun char member => List.mem_rtakeWhile_imp member
  have isStripped := stripped_stripChars (window.cut text)
  have trimmedIs : window.trimmed text =
      { start := window.start + ((window.cut text).takeWhile isSpace).length
        stop := window.start +
          ((window.cut text).takeWhile isSpace).length +
          (stripChars (window.cut text)).length } :=
    rfl
  have wholeCut : front ++ window.cut text ++ back = text := whole
  rw [trimmedIs]
  generalize (window.cut text).takeWhile isSpace = before at *
  generalize (stripLeft (window.cut text)).rtakeWhile isSpace = after at *
  generalize stripChars (window.cut text) = shown at *
  rw [← parts] at wholeCut long
  have around : front ++ before ++ shown ++ (after ++ back) = text := by
    rw [← wholeCut]
    simp only [List.append_assoc]
  have length : (front ++ before).length = window.start + before.length := by
    rw [List.length_append, frontLength]
  rw [List.length_append, List.length_append] at long
  have some : 0 < shown.length := List.length_pos_iff.mpr shows
  have visible_iff : ∀ place, place < shown.length →
      (Visible text (window.start + before.length + place) ↔
        Visible shown place) := by
    intro place within
    rw [← around, List.append_assoc, visible_append_right (by omega), length,
      Nat.add_sub_cancel_left, visible_append_left within]
  obtain ⟨firstVisible, lastVisible⟩ := isStripped.visible_ends shows
  constructor
  · unfold Span.cut
    rw [← around, ← length]
    exact slice_middle (front ++ before) shown (after ++ back)
  · constructor
    case start_le => exact Nat.le_add_right _ _
    case stop_le =>
      change window.start + before.length + shown.length ≤ window.stop
      omega
    case filled =>
      change window.start + before.length <
        window.start + before.length + shown.length
      omega
    case first => exact (visible_iff 0 some).mpr firstVisible
    case last =>
      have place : window.start + before.length + shown.length - 1 =
          window.start + before.length + (shown.length - 1) := by omega
      change Visible text (window.start + before.length + shown.length - 1)
      rw [place]
      exact (visible_iff (shown.length - 1) (by omega)).mpr lastVisible
    case holds =>
      intro place held visible
      obtain ⟨from_start, before_stop⟩ := held
      by_contra outside
      have ends : place < window.start + before.length ∨
          window.start + before.length + shown.length ≤ place := by
        by_contra between
        apply outside
        constructor
        · change window.start + before.length ≤ place
          omega
        · change place < window.start + before.length + shown.length
          omega
      rw [← wholeCut, List.append_assoc,
        visible_append_right (by omega), frontLength,
        visible_append_left (by
          rw [List.length_append, List.length_append]
          omega)] at visible
      rcases ends with early | late
      · rw [visible_append_left (by omega)] at visible
        exact blankBefore.not_visible _ visible
      · rw [visible_append_right (by omega),
          visible_append_right (by omega)] at visible
        exact blankAfter.not_visible _ visible

end Trimmed

/-- No two white space characters next to each other. -/
def SingleSpaced (text : List Char) : Prop :=
  text.IsChain fun first second => isSpace first = false ∨ isSpace second = false

theorem Visible.lt_length {text : List Char} {place : Nat}
    (visible : Visible text place) : place < text.length := by
  obtain ⟨char, found, -⟩ := visible
  exact (List.getElem?_eq_some_iff.mp found).1

theorem SingleSpaced.visible {text : List Char} (single : SingleSpaced text)
    {place : Nat} (inside : place + 1 < text.length) :
    Visible text place ∨ Visible text (place + 1) := by
  have pair := List.isChain_iff_getElem.mp single place inside
  rcases pair with first | second
  · left
    exact ⟨_, List.getElem?_eq_getElem (Nat.lt_of_succ_lt inside), first⟩
  · right
    exact ⟨_, List.getElem?_eq_getElem inside, second⟩

/-- At most one white space character is trimmed at the front. -/
theorem Trims.start_le_succ {text : List Char} {window span : Span}
    (trims : Trims text window span) (single : SingleSpaced text) :
    span.start ≤ window.start + 1 := by
  by_contra later
  have inText := trims.first.lt_length
  have filled := trims.filled
  have inWindow := trims.stop_le
  have inside : window.start + 1 < text.length := by omega
  rcases single.visible inside with first | second
  · have held := trims.holds window.start ⟨by omega, by omega⟩ first
    have start_le := held.1
    omega
  · have held := trims.holds (window.start + 1) ⟨by omega, by omega⟩ second
    exact later held.1

/-- Trimmed windows keep their order. -/
theorem Trims.ordered {text : List Char} {first second : Span}
    {firstSpan secondSpan : Span} {shared : Nat}
    (leads : first.Leads shared second)
    (firstTrims : Trims text first firstSpan)
    (secondTrims : Trims text second secondSpan) :
    firstSpan.start ≤ secondSpan.start ∧ firstSpan.stop ≤ secondSpan.stop ∧
      firstSpan.stop ≤ secondSpan.start + shared := by
  have start_lt := leads.start_lt
  have stop_le := leads.stop_le
  have firstInside := firstTrims.stop_le
  have firstFilled := firstTrims.filled
  have secondAfter := secondTrims.start_le
  have secondFilled := secondTrims.filled
  refine ⟨?_, ?_, ?_⟩
  · by_contra later
    have held := firstTrims.holds secondSpan.start
      ⟨by omega, by omega⟩ secondTrims.first
    exact later held.1
  · by_contra later
    have held := secondTrims.holds (firstSpan.stop - 1)
      ⟨by omega, by omega⟩ firstTrims.last
    have before := held.2
    omega
  · have sharing := leads.stop_le_start
    omega

/-- The trimmed windows that show something, in the order of the windows. -/
def trimmedWindows (text : List Char) (windows : List Span) : List Span :=
  (windows.filter fun window => stripChars (window.cut text) ≠ []).map
    (Span.trimmed text)

section TrimmedWindows

variable {text : List Char} {windows : List Span}

theorem map_cut_trimmedWindows
    (inside : ∀ window ∈ windows, window.stop ≤ text.length) :
    (trimmedWindows text windows).map (Span.cut text) =
      (windows.map fun window => stripChars (window.cut text)).filter
        (· ≠ []) := by
  rw [List.filter_map, trimmedWindows, List.map_map]
  apply List.map_congr_left
  intro window member
  obtain ⟨member, shows⟩ := List.mem_filter.mp member
  exact (cut_trimmed (inside window member) (of_decide_eq_true shows)).1

theorem mem_trimmedWindows
    (inside : ∀ window ∈ windows, window.stop ≤ text.length) {span : Span}
    (member : span ∈ trimmedWindows text windows) :
    ∃ window ∈ windows, Trims text window span := by
  obtain ⟨window, shown, rfl⟩ := List.mem_map.mp member
  obtain ⟨member, shows⟩ := List.mem_filter.mp shown
  exact ⟨window, member,
    (cut_trimmed (inside window member) (of_decide_eq_true shows)).2⟩

/-- Nothing visible is lost. -/
theorem exists_mem_trimmedWindows
    (inside : ∀ window ∈ windows, window.stop ≤ text.length) {window : Span}
    (member : window ∈ windows) {place : Nat} (held : window.Holds place)
    (visible : Visible text place) :
    ∃ span ∈ trimmedWindows text windows, span.Holds place := by
  have shows : stripChars (window.cut text) ≠ [] := by
    intro nothing
    have isBlank : Blank (window.cut text) := blank_of_stripChars nothing
    have order : window.start ≤ window.stop :=
      Nat.le_of_lt (Nat.lt_of_le_of_lt held.1 held.2)
    obtain ⟨front, back, frontLength, whole⟩ :=
      exists_around order (inside window member)
    have long := @length_slice _ text window.start _ (inside window member)
    have from_start := held.1
    have before_stop := held.2
    rw [← whole, List.append_assoc, visible_append_right (by omega),
      frontLength, visible_append_left (by omega)] at visible
    exact isBlank.not_visible _ visible
  have trims := (cut_trimmed (inside window member) shows).2
  refine ⟨window.trimmed text, ?_, trims.holds place held visible⟩
  apply List.mem_map_of_mem
  exact List.mem_filter.mpr ⟨member, decide_eq_true shows⟩

/-- A relation of windows that trimming keeps. -/
theorem pairwise_trimmedWindows {ahead after : Span → Span → Prop}
    (inside : ∀ window ∈ windows, window.stop ≤ text.length)
    (keeps : ∀ first second firstSpan secondSpan, ahead first second →
      Trims text first firstSpan → Trims text second secondSpan →
        after firstSpan secondSpan)
    (ordered : windows.Pairwise ahead) :
    (trimmedWindows text windows).Pairwise after := by
  rw [trimmedWindows, List.pairwise_map]
  apply (ordered.sublist List.filter_sublist).imp_of_mem
  intro first second firstShown secondShown leads
  obtain ⟨firstMember, firstShows⟩ := List.mem_filter.mp firstShown
  obtain ⟨secondMember, secondShows⟩ := List.mem_filter.mp secondShown
  exact keeps first second _ _ leads
    (cut_trimmed (inside first firstMember) (of_decide_eq_true firstShows)).2
    (cut_trimmed (inside second secondMember)
      (of_decide_eq_true secondShows)).2

end TrimmedWindows

end Foundation
