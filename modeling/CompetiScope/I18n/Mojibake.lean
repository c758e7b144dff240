import CompetiScope.Foundation.Text

/-!
# Mojibake repair

Text that was decoded with the wrong code page is encoded again and decoded as
UTF-8.  Several characters of the broken text make one of the repaired text, so
a repair that changes a text makes it shorter.
-/

namespace CompetiScope

open Foundation

/-! ## UTF-8 -/

/-- A continuation byte. -/
def isTailByte (byte : Nat) : Bool :=
  0x80 ≤ byte && byte ≤ 0xBF

/-- The character at the front of a byte string, and its number of bytes. -/
def utf8CharAt : List Nat → Option (Char × Nat)
  | [] => none
  | first :: rest =>
      if first < 0x80 then some (Char.ofNat first, 1)
      else if 0xC2 ≤ first ∧ first ≤ 0xDF then
        match rest with
        | second :: _ =>
            if isTailByte second then
              some (Char.ofNat ((first - 0xC0) * 64 + (second - 0x80)), 2)
            else none
        | _ => none
      else if 0xE0 ≤ first ∧ first ≤ 0xEF then
        match rest with
        | second :: third :: _ =>
            let code := (first - 0xE0) * 4096 + (second - 0x80) * 64 +
              (third - 0x80)
            -- neither overlong nor a surrogate
            if isTailByte second ∧ isTailByte third ∧ 0x800 ≤ code ∧
                ¬ (0xD800 ≤ code ∧ code ≤ 0xDFFF) then
              some (Char.ofNat code, 3)
            else none
        | _ => none
      else if 0xF0 ≤ first ∧ first ≤ 0xF4 then
        match rest with
        | second :: third :: fourth :: _ =>
            let code := (first - 0xF0) * 262144 + (second - 0x80) * 4096 +
              (third - 0x80) * 64 + (fourth - 0x80)
            if isTailByte second ∧ isTailByte third ∧ isTailByte fourth ∧
                0x10000 ≤ code ∧ code ≤ 0x10FFFF then
              some (Char.ofNat code, 4)
            else none
        | _ => none
      else none

/-- `skip` bytes belong to the character already read. -/
def decodeUtf8From (skip : Nat) : List Nat → Option (List Char)
  | [] => if skip = 0 then some [] else none
  | byte :: bytes =>
      match skip with
      | skip + 1 => decodeUtf8From skip bytes
      | 0 =>
          match utf8CharAt (byte :: bytes) with
          | none => none
          | some (char, length) =>
              (decodeUtf8From (length - 1) bytes).map (char :: ·)

/-! ## Code pages -/

/-- `latin-1`. -/
def latin1Byte (char : Char) : Option Nat :=
  if char.toNat < 256 then some char.toNat else none

/-- The upper control area of `cp1252`, as code point and byte. -/
def cp1252Table : List (Nat × Nat) :=
  [(0x20AC, 0x80), (0x201A, 0x82), (0x0192, 0x83), (0x201E, 0x84),
    (0x2026, 0x85), (0x2020, 0x86), (0x2021, 0x87), (0x02C6, 0x88),
    (0x2030, 0x89), (0x0160, 0x8A), (0x2039, 0x8B), (0x0152, 0x8C),
    (0x017D, 0x8E), (0x2018, 0x91), (0x2019, 0x92), (0x201C, 0x93),
    (0x201D, 0x94), (0x2022, 0x95), (0x2013, 0x96), (0x2014, 0x97),
    (0x02DC, 0x98), (0x2122, 0x99), (0x0161, 0x9A), (0x203A, 0x9B),
    (0x0153, 0x9C), (0x017E, 0x9E), (0x0178, 0x9F)]

/-- `cp1252`. -/
def cp1252Byte (char : Char) : Option Nat :=
  if char.toNat < 0x80 ∨ (0xA0 ≤ char.toNat ∧ char.toNat < 256) then
    some char.toNat
  else (cp1252Table.find? fun entry => entry.1 = char.toNat).map Prod.snd

/-- `str.encode`. -/
def encodeText (encoding : Char → Option Nat) :
    List Char → Option (List Nat)
  | [] => some []
  | char :: text =>
      match encoding char, encodeText encoding text with
      | some byte, some bytes => some (byte :: bytes)
      | _, _ => none

/-- `_decode_mojibake`. -/
def decodeMojibake (encoding : Char → Option Nat) (text : List Char) :
    Option (List Char) :=
  (encodeText encoding text).bind (decodeUtf8From 0)

/-! ## Repair -/

def isControl (char : Char) : Bool :=
  0x80 ≤ char.toNat && char.toNat ≤ 0x9F

/-- `MOJIBAKE_MARKER_RE`. -/
def isMojibakeMarker (char : Char) : Bool :=
  isControl char ||
    char ∈ ['脙', '脗', '忙', '莽', '猫', '茅', '氓', '盲', '茂', '冒']

/-- `_mojibake_score`. -/
def mojibakeScore (text : List Char) : Nat :=
  text.countP isControl * 3 + text.countP isMojibakeMarker +
    text.countP (fun char => char.toNat = 0xFFFD) * 2

/-- The first text of the least score. -/
def leastScore : List (List Char) → Option (List Char)
  | [] => none
  | text :: texts =>
      match leastScore texts with
      | none => some text
      | some other =>
          if mojibakeScore other < mojibakeScore text then some other
          else some text

/-- `_best_full_repair`. -/
def bestFullRepair (text : List Char) : Option (List Char) :=
  (leastScore ([latin1Byte, cp1252Byte].filterMap fun encoding =>
    decodeMojibake encoding text)).filter fun best =>
      mojibakeScore best < mojibakeScore text

/-- A character of `MOJIBAKE_SEGMENT_RE`. -/
def isSegmentChar (char : Char) : Bool :=
  let code := char.toNat
  (0x80 ≤ code && code ≤ 0xFF) || code == 0x20AC ||
    (0x2018 ≤ code && code ≤ 0x201D) || code == 0x2022 || code == 0x2026 ||
    code == 0x2122

/-- `_repair_segment_match` of a run of segment characters. -/
def repairRun (run : List Char) : List Char :=
  if 2 ≤ run.length then (bestFullRepair run).getD run else run

/-- `MOJIBAKE_SEGMENT_RE.sub`, with the run that has been read. -/
def repairSegments (run : List Char) : List Char → List Char
  | [] => repairRun run
  | char :: text =>
      if isSegmentChar char then repairSegments (run ++ [char]) text
      else repairRun run ++ char :: repairSegments [] text

/-- `repair_mojibake_text`. -/
def repairMojibake (text : List Char) : List Char :=
  if mojibakeScore text < 2 then text
  else
    match bestFullRepair text with
    | some repaired => repaired
    | none => repairSegments [] text

/-! ## A repair makes a text shorter -/

/-- The second text is the first one or a shorter one. -/
def Shrinks (before after : List Char) : Prop :=
  after.length ≤ before.length ∧
    (after.length = before.length → after = before)

namespace Shrinks

theorem refl (text : List Char) : Shrinks text text :=
  ⟨Nat.le_refl _, fun _ => rfl⟩

theorem append {before after more others : List Char}
    (first : Shrinks before after) (second : Shrinks more others) :
    Shrinks (before ++ more) (after ++ others) := by
  have firstShorter := first.1
  have secondShorter := second.1
  constructor
  · rw [List.length_append, List.length_append]
    omega
  · intro same
    rw [List.length_append, List.length_append] at same
    rw [first.2 (by omega), second.2 (by omega)]

theorem length_lt {before after : List Char} (shrinks : Shrinks before after)
    (changed : after ≠ before) : after.length < before.length :=
  Nat.lt_of_le_of_ne shrinks.1 fun same => changed (shrinks.2 same)

end Shrinks

theorem utf8CharAt_length {byte : Nat} {bytes : List Nat} {char : Char}
    {length : Nat} (found : utf8CharAt (byte :: bytes) = some (char, length)) :
    1 ≤ length ∧ (length = 1 → byte < 0x80 ∧ char = Char.ofNat byte) := by
  unfold utf8CharAt at found
  dsimp only at found
  split at found
  · next ascii =>
      cases found
      exact ⟨Nat.le_refl 1, fun _ => ⟨ascii, rfl⟩⟩
  · have several : 2 ≤ length := by
      repeat' split at found
      all_goals simp only [Option.some.injEq, Prod.mk.injEq, reduceCtorEq]
        at found
      all_goals omega
    exact ⟨by omega, fun one => by omega⟩

/-- A byte string has at most as many characters, and as many only if every
byte is one. -/
theorem decodeUtf8From_length (bytes : List Nat) : ∀ (skip : Nat)
    (chars : List Char), decodeUtf8From skip bytes = some chars →
      chars.length + skip ≤ bytes.length ∧
        (chars.length = bytes.length →
          (∀ byte ∈ bytes, byte < 0x80) ∧ chars = bytes.map Char.ofNat) := by
  induction bytes with
  | nil =>
      intro skip chars decoded
      unfold decodeUtf8From at decoded
      split at decoded
      · next noSkip =>
          cases decoded
          subst noSkip
          exact ⟨Nat.le_refl 0, fun _ => ⟨nofun, rfl⟩⟩
      · cases decoded
  | cons byte bytes induction =>
      intro skip chars decoded
      cases skip with
      | succ skip =>
          have shorter := (induction skip chars decoded).1
          rw [List.length_cons]
          exact ⟨by omega, fun same => by omega⟩
      | zero =>
          unfold decodeUtf8From at decoded
          dsimp only at decoded
          split at decoded
          · cases decoded
          · next char length found =>
              rcases Option.map_eq_some_iff.mp decoded with
                ⟨rest, decodedRest, rfl⟩
              have spec := induction (length - 1) rest decodedRest
              have byteSpec := utf8CharAt_length found
              rw [List.length_cons, List.length_cons]
              refine ⟨by omega, ?_⟩
              intro same
              have ascii := byteSpec.2 (by omega)
              have asciiRest := spec.2 (by omega)
              refine ⟨?_, by rw [ascii.2, asciiRest.2, List.map_cons]⟩
              intro other member
              rcases List.mem_cons.mp member with rfl | later
              · exact ascii.1
              · exact asciiRest.1 other later

theorem latin1Byte_ascii {char : Char} {byte : Nat}
    (encoded : latin1Byte char = some byte) : char.toNat = byte := by
  unfold latin1Byte at encoded
  split at encoded
  · cases encoded
    rfl
  · cases encoded

theorem cp1252Byte_ascii {char : Char} {byte : Nat}
    (encoded : cp1252Byte char = some byte) (ascii : byte < 0x80) :
    char.toNat = byte := by
  unfold cp1252Byte at encoded
  split at encoded
  · cases encoded
    rfl
  · rcases Option.map_eq_some_iff.mp encoded with ⟨entry, found, rfl⟩
    have upper : ∀ entry ∈ cp1252Table, 0x80 ≤ entry.2 := by decide
    have isUpper := upper entry (List.mem_of_find?_eq_some found)
    omega

/-- One byte a character; the bytes are the characters where they are ASCII. -/
theorem encodeText_spec {encoding : Char → Option Nat}
    (ascii : ∀ char byte, encoding char = some byte → byte < 0x80 →
      char.toNat = byte)
    {text : List Char} {bytes : List Nat}
    (encoded : encodeText encoding text = some bytes) :
    bytes.length = text.length ∧
      ((∀ byte ∈ bytes, byte < 0x80) → bytes.map Char.ofNat = text) := by
  induction text generalizing bytes with
  | nil =>
      cases encoded
      exact ⟨rfl, fun _ => rfl⟩
  | cons char text induction =>
      unfold encodeText at encoded
      split at encoded
      · next byte others first rest =>
          cases encoded
          obtain ⟨sameLength, spelled⟩ := induction rest
          refine ⟨by rw [List.length_cons, List.length_cons, sameLength], ?_⟩
          intro allAscii
          have isByte := ascii char byte first
            (allAscii byte List.mem_cons_self)
          rw [List.map_cons, spelled fun other member =>
            allAscii other (List.mem_cons_of_mem _ member), ← isByte,
            Char.ofNat_toNat]
      · cases encoded

theorem decodeMojibake_shrinks {encoding : Char → Option Nat}
    (ascii : ∀ char byte, encoding char = some byte → byte < 0x80 →
      char.toNat = byte)
    {text repaired : List Char}
    (decoded : decodeMojibake encoding text = some repaired) :
    Shrinks text repaired := by
  rcases Option.bind_eq_some_iff.mp decoded with ⟨bytes, encoded, isText⟩
  obtain ⟨sameLength, spelled⟩ := encodeText_spec ascii encoded
  have spec := decodeUtf8From_length bytes 0 repaired isText
  constructor
  · rw [← sameLength]
    exact spec.1
  · intro same
    obtain ⟨allAscii, isAscii⟩ := spec.2 (same.trans sameLength.symm)
    rw [isAscii]
    exact spelled allAscii

theorem leastScore_mem {texts : List (List Char)} {least : List Char}
    (found : leastScore texts = some least) : least ∈ texts := by
  induction texts generalizing least with
  | nil => cases found
  | cons text texts induction =>
      unfold leastScore at found
      split at found
      · cases found
        exact List.mem_cons_self
      · next other foundOther =>
          split at found
          · cases found
            exact List.mem_cons_of_mem _ (induction foundOther)
          · cases found
            exact List.mem_cons_self

theorem bestFullRepair_shrinks {text repaired : List Char}
    (found : bestFullRepair text = some repaired) : Shrinks text repaired := by
  have isLeast := (Option.filter_eq_some_iff.mp found).1
  rcases List.mem_filterMap.mp (leastScore_mem isLeast) with
    ⟨encoding, known, decoded⟩
  rcases List.mem_cons.mp known with rfl | second
  · exact decodeMojibake_shrinks
      (fun _ _ encoded _ => latin1Byte_ascii encoded) decoded
  · rw [List.mem_singleton.mp second] at decoded
    exact decodeMojibake_shrinks
      (fun _ _ encoded ascii => cp1252Byte_ascii encoded ascii) decoded

theorem repairRun_shrinks (run : List Char) : Shrinks run (repairRun run) := by
  unfold repairRun
  split
  · cases found : bestFullRepair run with
    | none => exact .refl run
    | some repaired => exact bestFullRepair_shrinks found
  · exact .refl run

theorem repairSegments_shrinks (run text : List Char) :
    Shrinks (run ++ text) (repairSegments run text) := by
  induction text generalizing run with
  | nil =>
      rw [List.append_nil, repairSegments]
      exact repairRun_shrinks run
  | cons char text induction =>
      rw [repairSegments]
      split
      · have grown := induction (run ++ [char])
        rwa [List.append_assoc, List.singleton_append] at grown
      · exact (repairRun_shrinks run).append
          ((Shrinks.refl [char]).append (induction []))

theorem repairMojibake_shrinks (text : List Char) :
    Shrinks text (repairMojibake text) := by
  unfold repairMojibake
  split
  · exact .refl text
  · split
    · next repaired found => exact bestFullRepair_shrinks found
    · exact repairSegments_shrinks [] text

end CompetiScope
