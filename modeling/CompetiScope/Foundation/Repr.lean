import CompetiScope.Foundation.Json
import Mathlib.Algebra.Order.Ring.Rat

/-!
# Texts of decoded JSON values

`repr`, `str` and the truth value of what `json.loads` returns.  Which code
points are printable is a table of the interpreter, given as an argument.
-/

namespace Foundation

namespace Json

def apostrophe : Char := Char.ofNat 39

def hexDigits (width value : Nat) : List Char :=
  (List.range width).reverse.map fun place =>
    hexDigit (value / 16 ^ place % 16)

section

variable (isPrintable : Char → Bool)

/-- One code point of a `repr` whose quotation mark is `mark`. -/
def reprChar (mark char : Char) : List Char :=
  if char = mark ∨ char = '\\' then ['\\', char]
  else if char = '\t' then ['\\', 't']
  else if char = '\n' then ['\\', 'n']
  else if char = '\r' then ['\\', 'r']
  else if isPrintable char then [char]
  else if char.toNat < 256 then '\\' :: 'x' :: hexDigits 2 char.toNat
  else if char.toNat < 65536 then '\\' :: 'u' :: hexDigits 4 char.toNat
  else '\\' :: 'U' :: hexDigits 8 char.toNat

/-- `repr` of a string. -/
def reprText (text : String) : List Char :=
  let mark :=
    if apostrophe ∈ text.toList ∧ '"' ∉ text.toList then '"' else apostrophe
  mark :: (text.toList.flatMap (reprChar isPrintable mark) ++ [mark])

mutual

/-- `repr(value)`. -/
def repr [PyRuntime] : Json → List Char
  | .null => "None".toList
  | .bool true => "True".toList
  | .bool false => "False".toList
  | .int value => (toString value).toList
  | .float value => (PyRuntime.floatRepr value).toList
  | .str value => reprText isPrintable value
  | .arr items => '[' :: (separated (reprItems items) ++ [']'])
  | .obj fields => '\x7b' :: (separated (reprFields fields) ++ ['\x7d'])

def reprItems [PyRuntime] : List Json → List (List Char)
  | [] => []
  | item :: items => repr item :: reprItems items

def reprFields [PyRuntime] : List (String × Json) → List (List Char)
  | [] => []
  | (key, value) :: fields =>
      (reprText isPrintable key ++ [':', ' '] ++ repr value) ::
        reprFields fields

end

/-- `str(value)`. -/
def text [PyRuntime] : Json → String
  | .str value => value
  | value => String.ofList (repr isPrintable value)

end

/-- `bool(value)`. -/
def truthy : Json → Bool
  | .null => false
  | .bool value => value
  | .int value => value != 0
  | .float value => value != 0
  | .str value => value != ""
  | .arr items => !items.isEmpty
  | .obj fields => !fields.isEmpty

/-- `str(value or "")`. -/
def textOrEmpty [PyRuntime] (isPrintable : Char → Bool) :
    Option Json → String
  | none => ""
  | some value => if truthy value then text isPrintable value else ""

/-- `fields.get(key)`. -/
def fieldOf (key : String) (fields : List (String × Json)) : Option Json :=
  fields.lookup key

end Json

end Foundation
