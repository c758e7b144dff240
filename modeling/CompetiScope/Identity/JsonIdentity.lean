import Mathlib.Data.List.Sort
import CompetiScope.Foundation.Json
import CompetiScope.Identity.StableIds

/-!
# Identifiers of JSON values

What `stable_digest` reads of texts, numbers, lists and mappings.
-/

namespace CompetiScope

open Foundation

section

variable [PyRuntime]

mutual

/-- `_identity_part` of a JSON value; a mapping is read in the order of its
keys. -/
def jsonIdentity : Json → String
  | .null => ""
  | .bool true => "True"
  | .bool false => "False"
  | .int value => toString value
  | .float value => PyRuntime.floatRepr value
  | .str value => strip value
  | .arr items => String.intercalate "," (itemIdentities items)
  | .obj fields =>
      String.intercalate ","
        (((fieldIdentities fields).insertionSort fun first second =>
          first.1 ≤ second.1).map fun field =>
            strip field.1 ++ "=" ++ field.2)

def itemIdentities : List Json → List String
  | [] => []
  | item :: items => jsonIdentity item :: itemIdentities items

def fieldIdentities : List (String × Json) → List (String × String)
  | [] => []
  | (key, value) :: fields =>
      (key, jsonIdentity value) :: fieldIdentities fields

end

/-- `stable_prefixed_id` of JSON values. -/
def stableJsonId (sha256Hex : String → String) (label : String)
    (parts : List Json) (length : Nat) : String :=
  let digest := sha256Hex (String.intercalate "|" (itemIdentities parts))
  label ++ "-" ++ String.ofList (digest.toList.take length)

end

end CompetiScope
