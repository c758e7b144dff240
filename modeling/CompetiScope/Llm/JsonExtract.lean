import CompetiScope.Foundation.Blocks
import CompetiScope.Foundation.Json

/-!
# Extracting the JSON object of a response

A response is the object itself, holds it in a code fence, or has it behind
some prose.  The fence is found by a pattern that stops at the first closing
brace before a fence, wherever that brace stands.
-/

namespace CompetiScope

open Foundation

def openBrace : Char := '\x7b'

def closeBrace : Char := '\x7d'

/-- Three backticks. -/
def fence : List Char :=
  List.replicate 3 (Char.ofNat 96)

/-! ## The decoder -/

/-- `JSONDecoder.raw_decode`: the value a text opens with and where it stops.
An object is opened by a brace and ends with one, whatever stands behind. -/
structure JsonDecoder where
  rawDecode : List Char → Option (Json × Nat)
  within : ∀ text value stop, rawDecode text = some (value, stop) →
    stop ≤ text.length
  opens : ∀ text value stop, rawDecode text = some (value, stop) →
    (text.head? = some openBrace ↔ ∃ fields, value = .obj fields)
  closes : ∀ text fields stop, rawDecode text = some (.obj fields, stop) →
    (text.take stop).getLast? = some closeBrace
  delimited : ∀ text fields stop,
    rawDecode text = some (.obj fields, stop) →
      ∀ rest, rawDecode (text.take stop ++ rest) = some (.obj fields, stop)

/-- A serialisation of an object. -/
def JsonDecoder.Spells (decoder : JsonDecoder) (text : List Char)
    (fields : List (String × Json)) : Prop :=
  decoder.rawDecode text = some (.obj fields, text.length)

/-- The white space of JSON. -/
def isJsonSpace (char : Char) : Bool :=
  char = ' ' || char = '\t' || char = '\n' || char = '\r'

section Extraction

variable (decoder : JsonDecoder)

/-- `json.loads`. -/
def jsonLoads (text : List Char) : Option Json :=
  let rest := text.dropWhile isJsonSpace
  match decoder.rawDecode rest with
  | some (value, stop) =>
      if (rest.drop stop).all isJsonSpace then some value else none
  | none => none

/-- The `ValueError`s that are raised. -/
inductive JsonExtractionError where
  | decode
  | notAnObject
  | noObject
  deriving DecidableEq

/-- `loads_first_json_object`. -/
def loadsFirstJsonObject (content : List Char) :
    Except JsonExtractionError Json :=
  match decoder.rawDecode (stripChars content) with
  | some (.obj fields, _) => .ok (.obj fields)
  | some (_, _) => .error .notAnObject
  | none => .error .decode

/-- `.*?\}` up to the first brace with a fence behind it. -/
def upToFence : List Char → Option (List Char)
  | [] => none
  | char :: rest =>
      if char = closeBrace ∧ fence <+: rest.dropWhile isSpace then
        some [char]
      else (upToFence rest).map (char :: ·)

/-- What the braces of a fence hold. -/
def bracedGroup : List Char → Option (List Char)
  | [] => none
  | char :: rest =>
      if char = openBrace then (upToFence rest).map (char :: ·) else none

/-- `json` is skipped, if it is there. -/
def afterTag (text : List Char) : List Char :=
  if "json".toList <+: text then text.drop 4 else text

/-- A match of the pattern that begins here. -/
def fencedHere (text : List Char) : Option (List Char) :=
  if fence <+: text then
    bracedGroup ((afterTag (text.drop 3)).dropWhile isSpace)
  else none

/-- `re.search`: the group of the first match. -/
def fencedObject : List Char → Option (List Char)
  | [] => none
  | char :: rest =>
      match fencedHere (char :: rest) with
      | some group => some group
      | none => fencedObject rest

/-- `extract_json_object`. -/
def extractJsonObject (content : List Char) :
    Except JsonExtractionError Json :=
  let stripped := stripChars content
  if stripped.head? = some openBrace ∧
      stripped.getLast? = some closeBrace then
    match jsonLoads decoder stripped with
    | some value => .ok value
    | none => loadsFirstJsonObject decoder stripped
  else
    match fencedObject stripped with
    | some group => loadsFirstJsonObject decoder group
    | none =>
        match stripped.dropWhile (· ≠ openBrace) with
        | [] => .error .noObject
        | first :: rest => loadsFirstJsonObject decoder (first :: rest)

end Extraction

/-! ## Objects -/

section Objects

variable {decoder : JsonDecoder} {text : List Char}
  {fields : List (String × Json)}

namespace JsonDecoder.Spells

theorem head (spells : decoder.Spells text fields) :
    text.head? = some openBrace :=
  (decoder.opens _ _ _ spells).mpr ⟨fields, rfl⟩

theorem last (spells : decoder.Spells text fields) :
    text.getLast? = some closeBrace := by
  have closes := decoder.closes _ _ _ spells
  rw [List.take_length] at closes
  exact closes

theorem ne_nil (spells : decoder.Spells text fields) : text ≠ [] := by
  intro isEmpty
  have head := spells.head
  rw [isEmpty] at head
  cases head

theorem stripped (spells : decoder.Spells text fields) : Stripped text := by
  apply stripped_iff.mpr
  rw [spells.head, spells.last]
  constructor
  · intro char isHead
    rw [← Option.some.inj isHead]
    decide
  · intro char isLast
    rw [← Option.some.inj isLast]
    decide

/-- What stands behind an object is not read. -/
theorem rawDecode_append (spells : decoder.Spells text fields)
    (rest : List Char) :
    decoder.rawDecode (text ++ rest) = some (.obj fields, text.length) := by
  have reads := decoder.delimited _ _ _ spells rest
  rw [List.take_length] at reads
  exact reads

/-- An object in front of some text is found. -/
theorem loadsFirst (spells : decoder.Spells text fields)
    (rest : List Char) :
    loadsFirstJsonObject decoder (text ++ rest) = .ok (.obj fields) := by
  obtain ⟨before, after, isBefore, -, cut⟩ :=
    exists_stripChars_core spells.stripped spells.ne_nil [] rest
  rw [List.suffix_nil.mp isBefore, List.nil_append] at cut
  unfold loadsFirstJsonObject
  rw [cut, spells.rawDecode_append]

end JsonDecoder.Spells

/-- What is read as an object is a serialisation of it. -/
theorem JsonDecoder.spells_take {stop : Nat}
    (reads : decoder.rawDecode text = some (.obj fields, stop)) :
    decoder.Spells (text.take stop) fields := by
  have delimited := decoder.delimited _ _ _ reads []
  rw [List.append_nil] at delimited
  have length : (text.take stop).length = stop :=
    List.length_take_of_le (decoder.within _ _ _ reads)
  unfold JsonDecoder.Spells
  rw [delimited, length]

/-- The value is an object that stands in the text. -/
def StandsIn (decoder : JsonDecoder) (value : Json) (text : List Char) :
    Prop :=
  ∃ fields part, value = .obj fields ∧ part <:+: text ∧
    decoder.Spells part fields

theorem StandsIn.within {value : Json} {part : List Char}
    (stands : StandsIn decoder value part) (isPart : part <:+: text) :
    StandsIn decoder value text := by
  obtain ⟨fields, object, isObject, inside, spells⟩ := stands
  exact ⟨fields, object, isObject, inside.trans isPart, spells⟩

theorem stripChars_inside (text : List Char) : stripChars text <:+: text := by
  obtain ⟨before, after, -, -, whole⟩ := exists_stripChars text
  exact ⟨before, after, whole⟩

theorem standsIn_of_loadsFirst {value : Json}
    (found : loadsFirstJsonObject decoder text = .ok value) :
    StandsIn decoder value text := by
  unfold loadsFirstJsonObject at found
  split at found
  · next fields stop reads =>
      cases found
      exact ⟨fields, _, rfl,
        (List.take_prefix stop _).isInfix.trans (stripChars_inside text),
        JsonDecoder.spells_take reads⟩
  · cases found
  · cases found

theorem dropWhile_of_head {test : Char → Bool} {char : Char}
    (isHead : text.head? = some char) (fails : test char = false) :
    text.dropWhile test = text := by
  cases text with
  | nil => rfl
  | cons first rest =>
      cases isHead
      exact List.dropWhile_cons_of_neg (by simp [fails])

theorem standsIn_of_jsonLoads {value : Json}
    (opens : text.head? = some openBrace)
    (found : jsonLoads decoder text = some value) :
    StandsIn decoder value text := by
  unfold jsonLoads at found
  rw [dropWhile_of_head opens (by decide)] at found
  dsimp only at found
  split at found
  · next reads =>
      split at found
      · cases found
        obtain ⟨fields, rfl⟩ := (decoder.opens _ _ _ reads).mp opens
        exact ⟨fields, _, rfl, (List.take_prefix _ text).isInfix,
          JsonDecoder.spells_take reads⟩
      · cases found
  · cases found

end Objects

/-! ## Fences -/

section Fences

variable {text group : List Char}

theorem upToFence_front : ∀ {text group : List Char},
    upToFence text = some group → group <+: text
  | [], _, found => by cases found
  | char :: rest, group, found => by
      unfold upToFence at found
      split at found
      · cases found
        exact ⟨rest, rfl⟩
      · obtain ⟨part, isPart, rfl⟩ := Option.map_eq_some_iff.mp found
        exact List.cons_prefix_cons.mpr ⟨rfl, upToFence_front isPart⟩

theorem bracedGroup_front (found : bracedGroup text = some group) :
    group <+: text := by
  cases text with
  | nil => cases found
  | cons char rest =>
      rw [bracedGroup] at found
      split at found
      · obtain ⟨part, isPart, rfl⟩ := Option.map_eq_some_iff.mp found
        exact List.cons_prefix_cons.mpr ⟨rfl, upToFence_front isPart⟩
      · cases found

theorem afterTag_suffix (text : List Char) : afterTag text <:+ text := by
  unfold afterTag
  split
  · exact List.drop_suffix 4 text
  · exact List.suffix_refl text

theorem fencedHere_part (found : fencedHere text = some group) :
    group <:+: text := by
  unfold fencedHere at found
  split at found
  · have behind : (afterTag (text.drop 3)).dropWhile isSpace <:+ text :=
      ((List.dropWhile_suffix isSpace).trans (afterTag_suffix _)).trans
        (List.drop_suffix 3 text)
    exact (bracedGroup_front found).isInfix.trans behind.isInfix
  · cases found

theorem fencedObject_part : ∀ {text group : List Char},
    fencedObject text = some group → group <:+: text
  | [], _, found => by cases found
  | char :: rest, group, found => by
      unfold fencedObject at found
      split at found
      · next here =>
          cases found
          exact fencedHere_part here
      · exact (fencedObject_part found).trans
          (List.suffix_cons char rest).isInfix

end Fences

/-- What is returned stands in the response. -/
theorem standsIn_of_extracted {decoder : JsonDecoder} {content : List Char}
    {value : Json}
    (found : extractJsonObject decoder content = .ok value) :
    StandsIn decoder value content := by
  have stands : StandsIn decoder value (stripChars content) := by
    unfold extractJsonObject at found
    dsimp only at found
    split at found
    · next ends =>
        split at found
        · next loaded =>
            cases found
            exact standsIn_of_jsonLoads ends.1 loaded
        · exact standsIn_of_loadsFirst found
    · split at found
      · next group here =>
          exact (standsIn_of_loadsFirst found).within
            (fencedObject_part here)
      · split at found
        · cases found
        · next first rest isRest =>
            apply (standsIn_of_loadsFirst found).within
            rw [← isRest]
            exact (List.dropWhile_suffix _).isInfix
  exact stands.within (stripChars_inside content)

/-! ## Behind prose -/

section Prose

variable {decoder : JsonDecoder} {object : List Char}
  {fields : List (String × Json)}

/-- `find` of the first brace. -/
theorem dropWhile_toBrace {front : List Char} (plain : openBrace ∉ front)
    (rest : List Char) :
    (front ++ openBrace :: rest).dropWhile (· ≠ openBrace) =
      openBrace :: rest := by
  rw [List.dropWhile_append_of_pos]
  · exact List.dropWhile_cons_of_neg (by simp)
  · intro char member
    rw [decide_eq_true_iff]
    intro same
    rw [same] at member
    exact plain member

/-- The first object of a response without fenced objects is found; of one
with some, it has to be the first of those, unless braces are at both ends. -/
def ProseFits (decoder : JsonDecoder) (fields : List (String × Json))
    (stripped : List Char) : Prop :=
  (stripped.head? = some openBrace ∧ stripped.getLast? = some closeBrace) ∨
    ∀ group, fencedObject stripped = some group →
      loadsFirstJsonObject decoder group = .ok (.obj fields)

theorem extract_behind_iff (spells : decoder.Spells object fields)
    {front : List Char} (noBrace : openBrace ∉ front) (rest : List Char) :
    extractJsonObject decoder (front ++ object ++ rest) =
        .ok (.obj fields) ↔
      ProseFits decoder fields (stripChars (front ++ object ++ rest)) := by
  obtain ⟨before, after, isBefore, -, cut⟩ :=
    exists_stripChars_core spells.stripped spells.ne_nil front rest
  have plain : openBrace ∉ before :=
    fun member => noBrace (isBefore.subset member)
  unfold extractJsonObject ProseFits
  dsimp only
  rw [cut]
  by_cases ends : (before ++ object ++ after).head? = some openBrace ∧
      (before ++ object ++ after).getLast? = some closeBrace
  · rw [if_pos ends]
    apply iff_of_true _ (.inl ends)
    have empty : before = [] := by
      cases before with
      | nil => rfl
      | cons char before =>
          cases ends.1
          exact absurd List.mem_cons_self plain
    rw [empty, List.nil_append] at ends ⊢
    have loads : jsonLoads decoder (object ++ after) = some (.obj fields) ∨
        jsonLoads decoder (object ++ after) = none := by
      unfold jsonLoads
      rw [dropWhile_of_head ends.1 (by decide)]
      dsimp only
      rw [spells.rawDecode_append]
      dsimp only
      split
      · exact .inl rfl
      · exact .inr rfl
    rcases loads with loaded | failed
    · rw [loaded]
    · rw [failed]
      exact spells.loadsFirst after
  · rw [if_neg ends, or_iff_right ends]
    cases found : fencedObject (before ++ object ++ after) with
    | some group =>
        dsimp only
        constructor
        case mp =>
          intro extracted other same
          cases same
          exact extracted
        case mpr => exact fun fits => fits group rfl
    | none =>
        obtain ⟨rest, isObject⟩ : ∃ rest, object = openBrace :: rest :=
          List.head?_eq_some_iff.mp spells.head
        have behind : (before ++ object ++ after).dropWhile
            (· ≠ openBrace) = openBrace :: (rest ++ after) := by
          rw [isObject, List.append_assoc]
          exact dropWhile_toBrace plain (rest ++ after)
        have loaded := spells.loadsFirst after
        rw [isObject] at loaded
        rw [behind]
        apply iff_of_true
        · exact loaded
        · exact fun group same => by cases same

/-- The object alone. -/
theorem extract_object (spells : decoder.Spells object fields) :
    extractJsonObject decoder object = .ok (.obj fields) := by
  have found := (extract_behind_iff spells (List.not_mem_nil) []).mpr (by
    rw [List.nil_append, List.append_nil, spells.stripped]
    exact .inl ⟨spells.head, spells.last⟩)
  rw [List.nil_append, List.append_nil] at found
  exact found

end Prose

/-! ## In a fence -/

/-- A brace in the text has a fence behind it. -/
def ClosesEarly (text : List Char) : Prop :=
  ∃ front blank back, Blank blank ∧
    text = front ++ closeBrace :: (blank ++ fence ++ back)

section InFences

variable {decoder : JsonDecoder} {object : List Char}
  {fields : List (String × Json)}

theorem dropWhile_blank_fence {blank : List Char} (isBlank : Blank blank)
    (rest : List Char) :
    (blank ++ (fence ++ rest)).dropWhile isSpace = fence ++ rest := by
  rw [List.dropWhile_append_of_pos isBlank]
  exact List.dropWhile_cons_of_neg (by decide)

/-- The pattern stops at the first such brace, or before. -/
theorem upToFence_early {blank : List Char} (isBlank : Blank blank) :
    ∀ front back : List Char, ∃ part,
      upToFence (front ++ closeBrace :: (blank ++ (fence ++ back))) =
        some part ∧ part.length ≤ front.length + 1
  | [], back => by
      refine ⟨[closeBrace], ?_, Nat.le_refl 1⟩
      rw [List.nil_append, upToFence, if_pos]
      refine ⟨rfl, ?_⟩
      rw [dropWhile_blank_fence isBlank]
      exact List.prefix_append fence back
  | char :: front, back => by
      obtain ⟨part, found, short⟩ := upToFence_early isBlank front back
      rw [List.cons_append, upToFence]
      split
      · exact ⟨[char], rfl, by simp⟩
      · rw [found]
        exact ⟨char :: part, rfl, Nat.succ_le_succ short⟩

/-- A prefix without a character ends before its first place. -/
theorem prefix_of_notMem {part front back : List Char} {char : Char}
    (isPrefix : part <+: front ++ char :: back) (none : char ∉ part) :
    part <+: front := by
  rcases List.prefix_or_prefix_of_prefix isPrefix
      (List.prefix_append front (char :: back)) with inFront | longer
  · exact inFront
  · obtain ⟨rest, rfl⟩ := longer
    have behind := (List.prefix_append_right_inj front).mp isPrefix
    cases rest with
    | nil =>
        rw [List.append_nil]
    | cons first others =>
        obtain ⟨same, -⟩ := List.cons_prefix_cons.mp behind
        exact absurd (List.mem_append_right front
          (same ▸ List.mem_cons_self)) none

/-- A fence behind the white space of the rest of an object stands in it. -/
theorem exists_fence {body back : List Char}
    (opens : fence <+: (body ++ closeBrace :: back).dropWhile isSpace) :
    ∃ blank rest, Blank blank ∧ body = blank ++ fence ++ rest := by
  rw [List.dropWhile_append] at opens
  split at opens
  · rw [List.dropWhile_cons_of_neg (by decide)] at opens
    obtain ⟨same, -⟩ := List.cons_prefix_cons.mp opens
    exact absurd same (by decide)
  · obtain ⟨rest, isRest⟩ := prefix_of_notMem opens (by decide)
    refine ⟨body.takeWhile isSpace, rest,
      fun char member => List.mem_takeWhile_imp member, ?_⟩
    rw [List.append_assoc, isRest, List.takeWhile_append_dropWhile]

/-- Without such a brace the pattern stops at the end of the object. -/
theorem upToFence_whole {gap : List Char} (isBlank : Blank gap)
    (back : List Char) :
    ∀ body : List Char, ¬ ClosesEarly (body ++ [closeBrace]) →
      upToFence (body ++ closeBrace :: (gap ++ (fence ++ back))) =
        some (body ++ [closeBrace])
  | [], _ => by
      rw [List.nil_append, upToFence, if_pos]
      · rfl
      · refine ⟨rfl, ?_⟩
        rw [dropWhile_blank_fence isBlank]
        exact List.prefix_append fence back
  | char :: body, closed => by
      have later : ¬ ClosesEarly (body ++ [closeBrace]) := by
        intro early
        obtain ⟨front, blank, rest, blankIs, whole⟩ := early
        refine closed ⟨char :: front, blank, rest, blankIs, ?_⟩
        rw [List.cons_append, whole]
        rfl
      rw [List.cons_append, upToFence, if_neg,
        upToFence_whole isBlank back body later]
      · rfl
      · intro here
        obtain ⟨isBrace, opens⟩ := here
        obtain ⟨blank, rest, blankIs, isBody⟩ := exists_fence opens
        refine closed ⟨[], blank, rest ++ [closeBrace], blankIs, ?_⟩
        rw [isBrace, isBody]
        simp only [List.nil_append, List.cons_append, List.append_assoc]

/-- A match consumes no brace in front of its group. -/
theorem fencedHere_consumed {text group : List Char}
    (found : fencedHere text = some group) :
    ∃ consumed behind, text = consumed ++ behind ∧ openBrace ∉ consumed ∧
      bracedGroup behind = some group := by
  unfold fencedHere at found
  split at found
  · next opens =>
      obtain ⟨rest, rfl⟩ := opens
      have behindFence : (fence ++ rest).drop 3 = rest :=
        List.drop_left' rfl
      rw [behindFence] at found
      have tagged : ∃ tag, rest = tag ++ afterTag rest ∧ openBrace ∉ tag := by
        unfold afterTag
        split
        · next json =>
            obtain ⟨others, rfl⟩ := json
            refine ⟨"json".toList, ?_, by decide⟩
            rw [List.drop_left' (by decide)]
        · exact ⟨[], rfl, List.not_mem_nil⟩
      obtain ⟨tag, isRest, plainTag⟩ := tagged
      refine ⟨fence ++ (tag ++ (afterTag rest).takeWhile isSpace), _, ?_, ?_,
        found⟩
      · rw [List.append_assoc, List.append_assoc,
          List.takeWhile_append_dropWhile, ← isRest]
      · simp only [List.mem_append, not_or]
        refine ⟨by decide, plainTag, ?_⟩
        intro member
        have space := List.mem_takeWhile_imp member
        exact absurd space (by decide)
  · cases found

/-- Whatever match begins before the first brace, it reads from there. -/
theorem bracedGroup_of_fencedHere {front rest group : List Char}
    (plain : openBrace ∉ front)
    (found : fencedHere (front ++ openBrace :: rest) = some group) :
    bracedGroup (openBrace :: rest) = some group := by
  obtain ⟨consumed, behind, whole, plainConsumed, isGroup⟩ :=
    fencedHere_consumed found
  cases behind with
  | nil => cases isGroup
  | cons first others =>
      have opens : first = openBrace := by
        rw [bracedGroup] at isGroup
        split at isGroup
        · assumption
        · cases isGroup
      rw [opens] at whole isGroup
      have same := congrArg (List.dropWhile (· ≠ openBrace)) whole
      rw [dropWhile_toBrace plain, dropWhile_toBrace plainConsumed] at same
      rw [same]
      exact isGroup

theorem fencedObject_of_group {inner rest group : List Char}
    (found : fencedHere (inner ++ openBrace :: rest) = some group) :
    ∀ front : List Char, openBrace ∉ front ++ inner →
      fencedObject (front ++ (inner ++ openBrace :: rest)) = some group
  | [], _ => by
      rw [List.nil_append]
      cases whole : inner ++ openBrace :: rest with
      | nil => simp at whole
      | cons first others =>
          rw [whole] at found
          rw [fencedObject, found]
  | char :: front, plain => by
      have later : openBrace ∉ front ++ inner :=
        fun member => plain (List.mem_cons_of_mem char member)
      have isGroup := bracedGroup_of_fencedHere
        (fun member => plain (List.mem_append_right _ member)) found
      rw [List.cons_append, fencedObject]
      split
      · next other here =>
          rw [← List.cons_append, ← List.append_assoc] at here
          have isOther := bracedGroup_of_fencedHere plain here
          rw [← isOther, isGroup]
      · exact fencedObject_of_group found front later

/-- `json`, or nothing. -/
def IsTag (tag : List Char) : Prop :=
  tag = [] ∨ tag = "json".toList

theorem fencedHere_fence {tag gap : List Char} (isTag : IsTag tag)
    (isBlank : Blank gap) (rest : List Char) :
    fencedHere (fence ++ tag ++ gap ++ openBrace :: rest) =
      bracedGroup (openBrace :: rest) := by
  have behind : (gap ++ openBrace :: rest).dropWhile isSpace =
      openBrace :: rest := by
    rw [List.dropWhile_append_of_pos isBlank]
    exact List.dropWhile_cons_of_neg (by decide)
  have untagged : ¬ "json".toList <+: gap ++ openBrace :: rest := by
    intro json
    cases gap with
    | nil =>
        obtain ⟨same, -⟩ := List.cons_prefix_cons.mp json
        exact absurd same (by decide)
    | cons first others =>
        obtain ⟨same, -⟩ := List.cons_prefix_cons.mp json
        have space := isBlank first List.mem_cons_self
        rw [← same] at space
        exact absurd space (by decide)
  have skipped : afterTag (tag ++ (gap ++ openBrace :: rest)) =
      gap ++ openBrace :: rest := by
    unfold afterTag
    rcases isTag with rfl | rfl
    · rw [List.nil_append, if_neg untagged]
    · rw [if_pos (List.prefix_append _ _), List.drop_left' (by decide)]
  unfold fencedHere
  rw [List.append_assoc, List.append_assoc, if_pos (List.prefix_append _ _),
    List.drop_left' (by rfl), skipped, behind]

/-- An object is not read from a proper part of its text. -/
theorem loadsFirst_shorter (spells : decoder.Spells object fields)
    {group : List Char} (isPrefix : group <+: object)
    (shorter : group.length < object.length) :
    loadsFirstJsonObject decoder group ≠ .ok (.obj fields) := by
  intro found
  have front : stripChars group <+: object := by
    have left : stripLeft group = group := by
      cases group with
      | nil => rfl
      | cons first others =>
          obtain ⟨rest, rfl⟩ := isPrefix
          have opens := spells.head
          cases opens
          exact List.dropWhile_cons_of_neg (by decide)
    have cut : stripChars group <+: stripLeft group :=
      List.rdropWhile_prefix isSpace (stripLeft group)
    rw [left] at cut
    exact cut.trans isPrefix
  have short : (stripChars group).length ≤ group.length :=
    (stripChars_inside group).length_le
  unfold loadsFirstJsonObject at found
  split at found
  · next read stop reads =>
      cases found
      obtain ⟨rest, isObject⟩ := front
      have again := decoder.delimited _ _ _ reads
        ((stripChars group).drop stop ++ rest)
      rw [← List.append_assoc, List.take_append_drop, isObject, spells]
        at again
      have stops := decoder.within _ _ _ reads
      cases again
      omega
  · cases found
  · cases found

/-- An object in a fence, with text around it. -/
def inFence (before tag gap object blank after : List Char) : List Char :=
  before ++ (fence ++ tag ++ gap ++ object ++ blank ++ fence) ++ after

theorem extract_inFence_iff (spells : decoder.Spells object fields)
    {before tag gap blank : List Char} (plain : openBrace ∉ before)
    (isTag : IsTag tag) (isGap : Blank gap) (isBlank : Blank blank)
    (after : List Char) :
    extractJsonObject decoder
        (inFence before tag gap object blank after) = .ok (.obj fields) ↔
      ¬ ClosesEarly object := by
  have stripped : Stripped
      (fence ++ tag ++ gap ++ object ++ blank ++ fence) := by
    apply stripped_iff.mpr
    constructor
    · intro char isHead
      cases isHead
      decide
    · intro char isLast
      rw [List.getLast?_append_of_ne_nil _ (by decide)] at isLast
      cases isLast
      decide
  have filled : fence ++ tag ++ gap ++ object ++ blank ++ fence ≠ [] :=
    List.append_ne_nil_of_right_ne_nil _ (by decide)
  obtain ⟨front, back, isFront, -, cut⟩ :=
    exists_stripChars_core stripped filled before after
  obtain ⟨tail, isObject⟩ := List.head?_eq_some_iff.mp spells.head
  have plainInner : openBrace ∉ front ++ (fence ++ tag ++ gap) := by
    simp only [List.mem_append, not_or]
    refine ⟨fun member => plain (isFront.subset member),
      ⟨by decide, ?_⟩, ?_⟩
    · rcases isTag with rfl | rfl
      · exact List.not_mem_nil
      · decide
    · exact fun member => absurd (isGap _ member) (by decide)
  have text : front ++ (fence ++ tag ++ gap ++ object ++ blank ++ fence) ++
      back = front ++ ((fence ++ tag ++ gap) ++
        openBrace :: (tail ++ (blank ++ (fence ++ back)))) := by
    rw [isObject]
    simp only [List.append_assoc, List.cons_append]
  have opensPlain : (front ++ ((fence ++ tag ++ gap) ++
      openBrace :: (tail ++ (blank ++ (fence ++ back))))).head? ≠
        some openBrace := by
    intro opens
    rw [← List.append_assoc, List.head?_append_of_ne_nil] at opens
    · exact plainInner (List.mem_of_mem_head? opens)
    · exact List.append_ne_nil_of_right_ne_nil _ (by simp [fence])
  have found : ∀ group, upToFence (tail ++ (blank ++ (fence ++ back))) =
      some group → extractJsonObject decoder
        (inFence before tag gap object blank after) =
          loadsFirstJsonObject decoder (openBrace :: group) := by
    intro group isGroup
    have here := fencedHere_fence isTag isGap
      (tail ++ (blank ++ (fence ++ back)))
    rw [bracedGroup, if_pos rfl, isGroup, Option.map_some] at here
    unfold extractJsonObject inFence
    dsimp only
    rw [cut, text, if_neg (fun ends => opensPlain ends.1),
      fencedObject_of_group here front plainInner]
  by_cases early : ClosesEarly object
  · apply iff_of_false _ (not_not_intro early)
    obtain ⟨ahead, space, rest, isSpace, whole⟩ := early
    cases ahead with
    | nil =>
        have opens := spells.head
        rw [whole, List.nil_append, List.head?_cons] at opens
        exact absurd (Option.some.inj opens) (by decide)
    | cons first ahead =>
        have isTail : tail = ahead ++ closeBrace ::
            (space ++ (fence ++ rest)) := by
          rw [whole, List.cons_append, List.cons.injEq] at isObject
          rw [← isObject.2, List.append_assoc]
        obtain ⟨part, isPart, short⟩ := upToFence_early isSpace ahead
          (rest ++ (blank ++ (fence ++ back)))
        have isGroup : upToFence (tail ++ (blank ++ (fence ++ back))) =
            some part := by
          rw [isTail, ← isPart]
          simp only [List.append_assoc, List.cons_append]
        have longer : part.length < tail.length := by
          rw [isTail]
          simp only [List.length_append, List.length_cons, fence,
            List.length_replicate]
          omega
        have isPrefix : part <+: tail :=
          List.prefix_of_prefix_length_le (upToFence_front isGroup)
            (List.prefix_append _ _) longer.le
        rw [found part isGroup]
        apply loadsFirst_shorter spells
        · rw [isObject]
          exact List.cons_prefix_cons.mpr ⟨rfl, isPrefix⟩
        · rw [isObject]
          exact Nat.succ_lt_succ longer
  · apply iff_of_true _ early
    have last := spells.last
    have filledTail : tail ≠ [] := by
      intro isEmpty
      rw [isObject, isEmpty] at last
      exact absurd (Option.some.inj last) (by decide)
    have isTail : tail = tail.dropLast ++ [closeBrace] := by
      rw [isObject, List.getLast?_cons_of_ne_nil filledTail] at last
      exact (List.dropLast_append_getLast? closeBrace last).symm
    have closed : ¬ ClosesEarly (tail.dropLast ++ [closeBrace]) := by
      rw [← isTail]
      intro closes
      obtain ⟨ahead, space, rest, isSpace, whole⟩ := closes
      apply early
      refine ⟨openBrace :: ahead, space, rest, isSpace, ?_⟩
      rw [isObject, whole]
      rfl
    have isGroup := upToFence_whole isBlank back tail.dropLast closed
    rw [← List.singleton_append, ← List.append_assoc, ← isTail] at isGroup
    rw [found tail isGroup, ← isObject]
    have loaded := spells.loadsFirst []
    rw [List.append_nil] at loaded
    exact loaded

end InFences

/-- The object of a response: alone it is always found; in a fence unless a
brace inside it has a fence behind it; behind prose if no fenced object comes
first.  Whatever is returned stands in the response. -/
theorem extractJsonObject_exact (decoder : JsonDecoder) :
    (∀ object fields, decoder.Spells object fields →
      extractJsonObject decoder object = .ok (.obj fields)) ∧
    (∀ object fields, decoder.Spells object fields →
      ∀ before tag gap blank after, openBrace ∉ before → IsTag tag →
        Blank gap → Blank blank →
        (extractJsonObject decoder
            (inFence before tag gap object blank after) =
          .ok (.obj fields) ↔ ¬ ClosesEarly object)) ∧
    (∀ object fields, decoder.Spells object fields →
      ∀ front rest, openBrace ∉ front →
        (extractJsonObject decoder (front ++ object ++ rest) =
          .ok (.obj fields) ↔
            ProseFits decoder fields
              (stripChars (front ++ object ++ rest)))) ∧
    (∀ content value, extractJsonObject decoder content = .ok value →
      StandsIn decoder value content) :=
  ⟨fun _ _ spells => extract_object spells,
    fun _ _ spells _ _ _ _ after plain isTag isGap isBlank =>
      extract_inFence_iff spells plain isTag isGap isBlank after,
    fun _ _ spells _ rest plain => extract_behind_iff spells plain rest,
    fun _ _ found => standsIn_of_extracted found⟩

namespace JsonExtractExample

/-- Some texts of objects, none of which begins another one. -/
structure ObjectTable where
  texts : List (List Char)
  fields : List Char → List (String × Json)
  apart : ∀ first ∈ texts, ∀ second ∈ texts, first <+: second →
    first = second
  braced : ∀ text ∈ texts, text.head? = some openBrace ∧
    text.getLast? = some closeBrace

namespace ObjectTable

variable (table : ObjectTable)

def decode (text : List Char) : Option (Json × Nat) :=
  (table.texts.find? (·.isPrefixOf text)).map fun object =>
    (.obj (table.fields object), object.length)

theorem decode_eq_some {text : List Char} {value : Json} {stop : Nat}
    (reads : table.decode text = some (value, stop)) :
    ∃ object ∈ table.texts, object <+: text ∧
      value = .obj (table.fields object) ∧ stop = object.length := by
  obtain ⟨object, found, same⟩ := Option.map_eq_some_iff.mp reads
  cases same
  have isPrefix := List.find?_some found
  exact ⟨object, List.mem_of_find?_eq_some found,
    List.isPrefixOf_iff_prefix.mp isPrefix, rfl, rfl⟩

theorem decode_append {object : List Char} (member : object ∈ table.texts)
    (rest : List Char) : table.decode (object ++ rest) =
      some (.obj (table.fields object), object.length) := by
  have some : (table.texts.find? (·.isPrefixOf (object ++ rest))).isSome :=
    List.find?_isSome.mpr ⟨object, member,
      List.isPrefixOf_iff_prefix.mpr (List.prefix_append object rest)⟩
  obtain ⟨other, found⟩ := Option.isSome_iff_exists.mp some
  have isOther := List.mem_of_find?_eq_some found
  have matched := List.find?_some found
  have isPrefix := List.isPrefixOf_iff_prefix.mp matched
  have same : other = object := by
    rcases List.prefix_or_prefix_of_prefix isPrefix
        (List.prefix_append object rest) with shorter | longer
    · exact table.apart other isOther object member shorter
    · exact (table.apart object member other isOther longer).symm
  rw [decode, found, same]
  rfl

/-- The decoder that knows the objects of a table. -/
def decoder : JsonDecoder :=
  { rawDecode := table.decode
    within := by
      intro text value stop reads
      obtain ⟨object, _, isPrefix, _, rfl⟩ := table.decode_eq_some reads
      exact isPrefix.length_le
    opens := by
      intro text value stop reads
      obtain ⟨object, member, isPrefix, isValue, _⟩ :=
        table.decode_eq_some reads
      have opens := (table.braced object member).1
      obtain ⟨rest, rfl⟩ := isPrefix
      refine iff_of_true ?_ ⟨_, isValue⟩
      rw [List.head?_append, opens]
      rfl
    closes := by
      intro text fields stop reads
      obtain ⟨object, member, isPrefix, _, rfl⟩ :=
        table.decode_eq_some reads
      rw [← List.prefix_iff_eq_take.mp isPrefix]
      exact (table.braced object member).2
    delimited := by
      intro text fields stop reads rest
      obtain ⟨object, member, isPrefix, isValue, rfl⟩ :=
        table.decode_eq_some reads
      rw [← List.prefix_iff_eq_take.mp isPrefix, table.decode_append member,
        isValue] }

theorem spells {object : List Char} (member : object ∈ table.texts) :
    table.decoder.Spells object (table.fields object) := by
  have reads := table.decode_append member []
  rw [List.append_nil] at reads
  exact reads

end ObjectTable

/-- An object whose text has a brace before a fence. -/
def closing : List Char :=
  "\x7b\"a\":\"\x7d```\"\x7d".toList

/-- An object whose text is a fenced object. -/
def quoting : List Char :=
  "\x7b\"a\":\"```\x7b\x7d```\"\x7d".toList

def empty : List Char :=
  "\x7b\x7d".toList

def table : ObjectTable :=
  { texts := [closing, quoting, empty]
    fields := fun text =>
      if text = closing then [("a", .str "\x7d```")]
      else if text = quoting then [("a", .str "```\x7b\x7d```")]
      else []
    apart := by decide +kernel
    braced := by decide +kernel }

/-- One object is lost in its fence, the other one behind a word. -/
theorem fenced_objects_lost :
    (table.decoder.Spells closing (table.fields closing) ∧
      extractJsonObject table.decoder
        (inFence [] "json".toList ['\n'] closing ['\n'] []) ≠
          .ok (.obj (table.fields closing))) ∧
    (table.decoder.Spells quoting (table.fields quoting) ∧
      extractJsonObject table.decoder ("Here: ".toList ++ quoting ++ []) ≠
        .ok (.obj (table.fields quoting))) := by
  have isClosing : closing ∈ table.texts := List.mem_cons_self
  have isQuoting : quoting ∈ table.texts :=
    List.mem_cons_of_mem _ List.mem_cons_self
  refine ⟨⟨table.spells isClosing, ?_⟩, table.spells isQuoting, ?_⟩
  · have newline : Blank ['\n'] := by
      unfold Blank
      decide
    rw [Ne, extract_inFence_iff (table.spells isClosing) List.not_mem_nil
      (.inr rfl) newline newline, not_not]
    exact ⟨"\x7b\"a\":\"".toList, [], "\"\x7d".toList,
      List.forall_mem_nil _, by decide +kernel⟩
  · rw [Ne, extract_behind_iff (table.spells isQuoting) (by decide +kernel)]
    intro fits
    rcases fits with ends | fits
    · exact absurd ends.1 (by decide +kernel)
    · have found := fits empty (by decide +kernel)
      have loaded : loadsFirstJsonObject table.decoder empty =
          .ok (.obj []) := by
        have isEmpty : empty ∈ table.texts := by decide +kernel
        have loads := (table.spells isEmpty).loadsFirst []
        rw [List.append_nil] at loads
        exact loads
      rw [loaded] at found
      cases found

end JsonExtractExample

end CompetiScope
