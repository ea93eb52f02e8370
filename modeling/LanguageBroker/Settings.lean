import LanguageBroker.Json

/-!
The `python` section of the editor's settings. A section is an object with named members or an
array of the members in their fixed order; either way a missing member has its default, and one
malformed member makes the whole section the default.
-/

namespace LanguageBroker

/-- The full server to prefer when the simple one is not asked for. -/
inductive FullVariant
  /-- The self-contained server that can be downloaded. -/
  | a
  /-- The server that a separately installed package brings. -/
  | b
  deriving DecidableEq, Repr

/-- What the settings say for one resource. -/
structure Settings where
  useSimpleVariant : Bool := false
  /-- Run the full server from its local folder and download nothing. -/
  downloadDisabled : Bool := false
  fullVariant : FullVariant := .b
  pythonPath : Option String := none
  envFile : Option String := none
  extraPaths : List String := []
  typeshedPaths : List String := []
  cacheFolderPath : Option String := none
  lintIgnorePatterns : List String := []
  searchExclude : List (String × Bool) := []
  filesExclude : List (String × Bool) := []
  filesWatcherExclude : List (String × Bool) := []
  deriving DecidableEq, Repr

namespace Settings

/-- The section of the settings that the broker reads. -/
def sectionName : String := "python"

/-- The member names in the order of an array section. -/
def memberNames : List String :=
  ["useSimpleVariant", "downloadDisabled", "fullVariant", "pythonPath", "envFile", "extraPaths",
    "typeshedPaths", "cacheFolderPath", "lintIgnorePatterns", "searchExclude", "filesExclude",
    "filesWatcherExclude"]

/-- `"a"` or `"b"`, alone or as the only member of an object with the value null. -/
def readFullVariant : Json → Option FullVariant
  | .str "a" => some .a
  | .str "b" => some .b
  | .obj [("a", .null)] => some .a
  | .obj [("b", .null)] => some .b
  | _ => none

/-- A string, or null for none. -/
def readOptional : Json → Option (Option String)
  | .null => some none
  | .str s => some (some s)
  | _ => none

def readStrings : Json → Option (List String)
  | .arr items => items.mapM Json.text?
  | _ => none

/-- An object of booleans. -/
def readFlags : Json → Option (List (String × Bool))
  | .obj members => members.mapM fun m => m.2.bool?.map fun b => (m.1, b)
  | _ => none

/-- A member that may be missing: its default then, and nothing when it is malformed. -/
def readMember (read : Json → Option α) (fallback : α) : Option Json → Option α
  | some v => read v
  | none => some fallback

/-- A section from the values of its members, where `member i` is the one in place `i`. -/
def readMembers (member : Nat → Option Json) : Option Settings := do
  let useSimpleVariant ← readMember Json.bool? false (member 0)
  let downloadDisabled ← readMember Json.bool? false (member 1)
  let fullVariant ← readMember readFullVariant .b (member 2)
  let pythonPath ← readMember readOptional none (member 3)
  let envFile ← readMember readOptional none (member 4)
  let extraPaths ← readMember readStrings [] (member 5)
  let typeshedPaths ← readMember readStrings [] (member 6)
  let cacheFolderPath ← readMember readOptional none (member 7)
  let lintIgnorePatterns ← readMember readStrings [] (member 8)
  let searchExclude ← readMember readFlags [] (member 9)
  let filesExclude ← readMember readFlags [] (member 10)
  let filesWatcherExclude ← readMember readFlags [] (member 11)
  return { useSimpleVariant, downloadDisabled, fullVariant, pythonPath, envFile, extraPaths,
           typeshedPaths, cacheFolderPath, lintIgnorePatterns, searchExclude, filesExclude,
           filesWatcherExclude }

/-- A well-formed section. -/
def ofSection? : Json → Option Settings
  | .obj members => readMembers fun i => memberNames[i]?.bind fun name => members.lookup name
  | .arr items => if items.length ≤ memberNames.length then readMembers (items[·]?) else none
  | _ => none

/-- The settings in a document with a `python` member, or in the bare section. -/
def ofJson (v : Json) : Settings :=
  (ofSection? ((v.get? sectionName).getD v)).getD {}

def FullVariant.name : FullVariant → String
  | .a => "a"
  | .b => "b"

/-- The section as an object with all its members. -/
def toJson (s : Settings) : Json :=
  let flags (xs : List (String × Bool)) : Json := Json.object (xs.map fun x => (x.1, .bool x.2))
  Json.object
    [("useSimpleVariant", .bool s.useSimpleVariant), ("downloadDisabled", .bool s.downloadDisabled),
      ("fullVariant", .str (FullVariant.name s.fullVariant)),
      ("pythonPath", Json.ofOption .str s.pythonPath), ("envFile", Json.ofOption .str s.envFile),
      ("extraPaths", Json.ofStrings s.extraPaths),
      ("typeshedPaths", Json.ofStrings s.typeshedPaths),
      ("cacheFolderPath", Json.ofOption .str s.cacheFolderPath),
      ("lintIgnorePatterns", Json.ofStrings s.lintIgnorePatterns),
      ("searchExclude", flags s.searchExclude), ("filesExclude", flags s.filesExclude),
      ("filesWatcherExclude", flags s.filesWatcherExclude)]

end Settings

end LanguageBroker
