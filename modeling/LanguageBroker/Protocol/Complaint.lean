import LanguageBroker.Json
import LanguageBroker.Text.Quoted

/-!
What is said about a JSON value that stands where something else should be.
-/

namespace LanguageBroker.Json

/-- A value in a complaint: its kind, and the value itself if it is short. -/
def shownBriefly : Json → String
  | .null => "null"
  | .bool b => "boolean `" ++ (if b then "true" else "false") ++ "`"
  | .int n => "integer `" ++ toString n ++ "`"
  | .real x => "floating point `" ++ x.text ++ "`"
  | .str s => "string " ++ String.ofList (Text.shown s.toList)
  | .arr _ => "sequence"
  | .obj _ => "map"

/-- The complaint about a value of the wrong kind. -/
def complaint (expected : String) (v : Json) : String :=
  "invalid type: " ++ v.shownBriefly ++ ", expected " ++ expected

/-- The complaint about an object without a member that it must have. -/
def absenceComplaint (key : String) : String := "missing field `" ++ key ++ "`"

/-- The complaint about an array that stands for an object and has too few items. -/
def shortageComplaint (expected : String) (members given : Nat) : String :=
  "invalid length " ++ toString given ++ ", expected " ++ expected ++ " with "
    ++ toString members ++ (if members = 1 then " element" else " elements")

/-- The complaint about an array that stands for an object and has too many items. -/
def excessComplaint (given : Nat) : String :=
  "invalid length " ++ toString given ++ ", expected fewer elements in array"

/-- The items of an array, or what is wrong. -/
def readItems : Json → Except String (List Json)
  | .arr items => .ok items
  | other => .error (complaint "a sequence" other)

end LanguageBroker.Json
