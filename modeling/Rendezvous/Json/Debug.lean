import Rendezvous.Json.Value
import Rendezvous.Text.Quoted

/-!
# Rendezvous.Json.Debug

JSON values as reports show them: each with a word for its kind.
-/

namespace Rendezvous.Json

mutual

/-- The text of a value in reports. -/
def Value.debug : Value → String
  | .null => "Null"
  | .bool b => "Bool(" ++ toString b ++ ")"
  | .number n => "Number(" ++ n.render ++ ")"
  | .text s => "String(" ++ Text.quoted s ++ ")"
  | .array items => "Array [" ++ String.intercalate ", " (debugItems items) ++ "]"
  | .object members =>
    "Object \x7b" ++ String.intercalate ", " (debugMembers members) ++ "\x7d"

/-- The texts of values in reports. -/
def debugItems : List Value → List String
  | [] => []
  | v :: rest => v.debug :: debugItems rest

/-- The texts of members in reports, each a key, a colon and a value. -/
def debugMembers : List (String × Value) → List String
  | [] => []
  | (k, v) :: rest => (Text.quoted k ++ ": " ++ v.debug) :: debugMembers rest

end

end Rendezvous.Json
