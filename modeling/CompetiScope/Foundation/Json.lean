import CompetiScope.Foundation.Dict
import CompetiScope.Foundation.Text

/-!
# JSON values and their serialisation

The layout of `json.dumps(value, ensure_ascii=False)`: separators `", "` and
`": "`, escapes for quotes, backslashes and control characters only.
-/

namespace Foundation

inductive Json where
  | null
  | bool (value : Bool)
  | int (value : Int)
  | float (value : Float)
  | str (value : String)
  | arr (items : List Json)
  | obj (fields : List (String × Json))

namespace Json

def strings (values : List String) : Json :=
  .arr (values.map .str)

def hexDigit (value : Nat) : Char :=
  Char.ofNat (if value < 10 then 48 + value else 87 + value)

def escapeChar (char : Char) : List Char :=
  if char = '"' then ['\\', '"']
  else if char = '\\' then ['\\', '\\']
  else if char = '\n' then ['\\', 'n']
  else if char = '\r' then ['\\', 'r']
  else if char = '\t' then ['\\', 't']
  else if char.toNat = 8 then ['\\', 'b']
  else if char.toNat = 12 then ['\\', 'f']
  else if char.toNat < 32 then
    ['\\', 'u', '0', '0', hexDigit (char.toNat / 16),
      hexDigit (char.toNat % 16)]
  else [char]

def quote (text : String) : List Char :=
  '"' :: (text.toList.flatMap escapeChar ++ ['"'])

def separated : List (List Char) → List Char
  | [] => []
  | [item] => item
  | item :: items => item ++ [',', ' '] ++ separated items

mutual

def render [PyRuntime] : Json → List Char
  | .null => "null".toList
  | .bool true => "true".toList
  | .bool false => "false".toList
  | .int value => (toString value).toList
  | .float value => (PyRuntime.floatRepr value).toList
  | .str value => quote value
  | .arr items => '[' :: (separated (renderItems items) ++ [']'])
  | .obj fields => '\x7b' :: (separated (renderFields fields) ++ ['\x7d'])

def renderItems [PyRuntime] : List Json → List (List Char)
  | [] => []
  | item :: items => render item :: renderItems items

def renderFields [PyRuntime] : List (String × Json) → List (List Char)
  | [] => []
  | (key, value) :: fields =>
      (quote key ++ [':', ' '] ++ render value) :: renderFields fields

end

/-- `json.dumps(value, ensure_ascii=False)`. -/
def dumps [PyRuntime] (value : Json) : String :=
  String.ofList (render value)

end Json

end Foundation
