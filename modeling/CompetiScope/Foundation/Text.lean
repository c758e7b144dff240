import Mathlib.Data.Finset.Basic
import Mathlib.Data.List.DropRight
import Mathlib.Data.Set.Finite.Basic

/-!
# Python text operations

Strings are handled as lists of code points.  The tables of the interpreter
that are too large to state (case folding, the alphanumeric and decimal
classes, the shortest representation of a float) are a class; its laws fix
the ASCII part, and every result holds for every table that meets them.
-/

namespace Foundation

/-- The interpreter tables used by text operations. -/
class PyRuntime where
  casefoldChar : Char → List Char
  isAlnum : Char → Bool
  isDecimal : Char → Bool
  floatRepr : Float → String
  /-- `sum` of floats; recent interpreters compensate the rounding. -/
  floatSum : List Float → Float
  casefoldChar_ascii : ∀ char : Char, char.toNat < 128 →
    casefoldChar char = [char.toLower]
  isAlnum_ascii : ∀ char : Char, char.toNat < 128 →
    isAlnum char = char.isAlphanum
  isDecimal_ascii : ∀ char : Char, char.toNat < 128 →
    isDecimal char = char.isDigit

/-- `str.lower`, whose table is too large to state as well. -/
class PyLowercase where
  lower : List Char → List Char
  lower_ascii : ∀ text : List Char, (∀ char ∈ text, char.toNat < 128) →
    lower text = text.map Char.toLower

/-- Quantifiers over the characters of a list are decided along the list. -/
instance (priority := high) decidableForallMemChar (test : Char → Prop)
    [DecidablePred test] (chars : List Char) :
    Decidable (∀ char ∈ chars, test char) :=
  List.decidableBAll test chars

instance (priority := high) decidableExistsMemChar (test : Char → Prop)
    [DecidablePred test] (chars : List Char) :
    Decidable (∃ char ∈ chars, test char) :=
  List.decidableBEx test chars

instance (priority := high) decidableExistsMemOptionChar (test : Char → Prop)
    [DecidablePred test] (char : Option Char) :
    Decidable (∃ value ∈ char, test value) :=
  Option.decidableExistsMem char

/-- Tables that are exact on ASCII text; used to evaluate examples. -/
@[reducible] def asciiRuntime : PyRuntime :=
  { casefoldChar := fun char => [char.toLower]
    isAlnum := Char.isAlphanum
    isDecimal := Char.isDigit
    floatRepr := fun value => toString value
    floatSum := fun values => values.foldl (· + ·) 0
    casefoldChar_ascii := fun _ _ => rfl
    isAlnum_ascii := fun _ _ => rfl
    isDecimal_ascii := fun _ _ => rfl }

instance lawfulText : LawfulBEq (List Char) :=
  inferInstance

instance lawfulTextPair : LawfulBEq (String × String) :=
  inferInstance

theorem isUpper_iff (char : Char) :
    char.isUpper = true ↔ 65 ≤ char.toNat ∧ char.toNat ≤ 90 := by
  show decide (char.val ≥ 'A'.val ∧ char.val ≤ 'Z'.val) = true ↔ _
  rw [decide_eq_true_iff, ge_iff_le, UInt32.le_iff_toNat_le,
    UInt32.le_iff_toNat_le]
  rfl

theorem isLower_iff (char : Char) :
    char.isLower = true ↔ 97 ≤ char.toNat ∧ char.toNat ≤ 122 := by
  show (decide (char.val ≥ 'a'.val) && decide (char.val ≤ 'z'.val)) = true ↔ _
  rw [Bool.and_eq_true, decide_eq_true_iff, decide_eq_true_iff, ge_iff_le,
    UInt32.le_iff_toNat_le, UInt32.le_iff_toNat_le]
  rfl

theorem isAlpha_eq (char : Char) :
    char.isAlpha = (char.isUpper || char.isLower) :=
  rfl

/-- Lower case moves the capital letters of ASCII only. -/
theorem toLower_eq {char letter : Char} (lower : char.toLower = letter) :
    char = letter ∨ 65 ≤ char.toNat ∧ char.toNat ≤ 90 ∧
      char.toNat + 32 = letter.toNat := by
  unfold Char.toLower at lower
  split at lower
  · next upper =>
      right
      have above : 65 ≤ char.val.toNat := UInt32.le_iff_toNat_le.mp upper.1
      have below : char.val.toNat ≤ 90 := UInt32.le_iff_toNat_le.mp upper.2
      refine ⟨above, below, ?_⟩
      rw [← lower]
      show char.val.toNat + 32 = (char.val + 32).toNat
      rw [UInt32.toNat_add]
      show char.val.toNat + 32 = (char.val.toNat + 32) % 2 ^ 32
      omega
  · exact .inl lower

/-- Lower case that is exact on ASCII text. -/
@[reducible] def asciiLowercase : PyLowercase :=
  { lower := List.map Char.toLower
    lower_ascii := fun _ _ => rfl }

/-- Code points with `str.isspace()`. -/
def isSpace (char : Char) : Bool :=
  let code := char.toNat
  (9 ≤ code && code ≤ 13) || (28 ≤ code && code ≤ 32) ||
    code == 0x85 || code == 0xA0 || code == 0x1680 ||
    (0x2000 ≤ code && code ≤ 0x200A) || code == 0x2028 || code == 0x2029 ||
    code == 0x202F || code == 0x205F || code == 0x3000

def stripLeft (text : List Char) : List Char :=
  text.dropWhile isSpace

def stripChars (text : List Char) : List Char :=
  (stripLeft (stripLeft text).reverse).reverse

/-- `str.strip()`. -/
def strip (text : String) : String :=
  String.ofList (stripChars text.toList)

/-- `str.rstrip()`. -/
def stripRight (text : String) : String :=
  String.ofList (stripLeft text.toList.reverse).reverse

/-- `" ".join(text.split())`. -/
def squeeze (text : String) : String :=
  String.intercalate " "
    (((text.toList.splitOnP isSpace).filter (· ≠ [])).map String.ofList)

/-- `needle in haystack`. -/
def hasInfix (needle : List Char) : List Char → Bool
  | [] => needle.isEmpty
  | char :: rest => needle.isPrefixOf (char :: rest) || hasInfix needle rest

theorem hasInfix_iff {needle text : List Char} :
    hasInfix needle text = true ↔ needle <:+: text := by
  induction text with
  | nil => rw [hasInfix, List.isEmpty_iff, List.infix_nil]
  | cons char text induction =>
      rw [hasInfix, Bool.or_eq_true, List.isPrefixOf_iff_prefix, induction,
        List.infix_cons_iff]

def contains (haystack needle : String) : Bool :=
  hasInfix needle.toList haystack.toList

def casefoldChars [PyRuntime] (text : List Char) : List Char :=
  text.flatMap PyRuntime.casefoldChar

/-- `str.casefold()`. -/
def casefold [PyRuntime] (text : String) : String :=
  String.ofList (casefoldChars text.toList)

/-- A `\w` character of a Unicode pattern. -/
def isWordChar [PyRuntime] (char : Char) : Bool :=
  PyRuntime.isAlnum char || char == '_'

/-- A prefix of a text without leading white space has none either. -/
private theorem stripLeft_of_prefix {text front : List Char}
    (isPrefix : front <+: stripLeft text) : stripLeft front = front := by
  cases front with
  | nil => rfl
  | cons head rest =>
      obtain ⟨tail, whole⟩ := isPrefix
      have idempotent : stripLeft (stripLeft text) = stripLeft text :=
        List.dropWhile_idempotent isSpace text
      have visible : isSpace head = false := by
        by_contra space
        have shorter : stripLeft (stripLeft text) =
            stripLeft (rest ++ tail) := by
          rw [← whole]
          simp [stripLeft, Bool.of_not_eq_false space]
        have bound : (stripLeft (rest ++ tail)).length ≤
            (rest ++ tail).length :=
          (List.dropWhile_suffix isSpace).length_le
        rw [← shorter, idempotent, ← whole] at bound
        simp only [List.cons_append, List.length_cons] at bound
        omega
      simp [stripLeft, visible]

private theorem stripChars_isPrefix (text : List Char) :
    stripChars text <+: stripLeft text :=
  List.rdropWhile_prefix isSpace (stripLeft text)

theorem stripChars_subset (text : List Char) : stripChars text ⊆ text := by
  intro char member
  have inReverse : char ∈ (stripLeft text).reverse :=
    (List.dropWhile_suffix isSpace).subset (List.mem_reverse.mp member)
  exact (List.dropWhile_suffix isSpace).subset (List.mem_reverse.mp inReverse)

/-- Stripping what has been stripped changes nothing. -/
theorem stripChars_stripChars (text : List Char) :
    stripChars (stripChars text) = stripChars text := by
  have left : stripLeft (stripChars text) = stripChars text :=
    stripLeft_of_prefix (stripChars_isPrefix text)
  calc stripChars (stripChars text)
      = (stripLeft (stripLeft (stripChars text)).reverse).reverse := rfl
    _ = (stripLeft (stripChars text).reverse).reverse := by rw [left]
    _ = stripChars text :=
      List.rdropWhile_idempotent isSpace (stripLeft text)

@[simp] theorem strip_strip (text : String) :
    strip (strip text) = strip text := by
  simp [strip, stripChars_stripChars]

private theorem strip_word (length : Nat) :
    strip (String.ofList (List.replicate (length + 1) 'x')) =
      String.ofList (List.replicate (length + 1) 'x') := by
  have noLeading : stripLeft (List.replicate (length + 1) 'x') =
      List.replicate (length + 1) 'x' := by
    have visible : isSpace 'x' = false := by decide
    simp [stripLeft, List.replicate_succ, visible]
  simp [strip, stripChars, noLeading]

/-- There is always another word without surrounding white space. -/
theorem exists_trimmed_not_mem (used : List String) :
    ∃ word, strip word = word ∧ word ≠ "" ∧ word ∉ used := by
  have injective : Function.Injective fun length : Nat =>
      String.ofList (List.replicate (length + 1) 'x') := by
    intro left right same
    have lists := String.ofList_injective same
    simpa using congrArg List.length lists
  obtain ⟨word, ⟨length, rfl⟩, fresh⟩ :=
    (Set.infinite_range_of_injective injective).exists_notMem_finset
      used.toFinset
  refine ⟨_, strip_word length, ?_, by simpa using fresh⟩
  simp [List.replicate_succ]

end Foundation
