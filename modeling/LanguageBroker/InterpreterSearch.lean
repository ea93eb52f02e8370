import LanguageBroker.ProgramSearch

/-!
Which interpreter a resource is run with, and which version it is. The setting counts first, then
a given default, then the usual names on the search path. An interpreter is asked for its version
once, whatever it answers.
-/

namespace LanguageBroker

/-- What a program wrote before it ended. -/
structure ProgramOutput where
  succeeded : Bool
  out : List UInt8
  err : List UInt8
  deriving Repr

namespace InterpreterSearch

/-- The names looked for on the search path. -/
def usualNames : List String := ["python3", "python"]

/-- The word in front of a version. -/
def versionMark : List Char := "Python ".toList

/-- The version that a text states: what follows the mark on the first line that begins with it. -/
def parseVersion (text : List Char) : Option String :=
  let stated (line : List Char) : Option (List Char) :=
    Text.stripFront versionMark (Text.trim line)
  match (Text.splitAll '\n' text).findSome? stated with
  | some rest =>
    let version := Text.trim rest
    if version.isEmpty then none else some (String.ofList version)
  | none => none

/-- The version in a program's output. Some interpreters state it on the error stream. -/
def statedVersion (o : ProgramOutput) : Option String :=
  if o.succeeded then parseVersion (Text.decodeLossy (o.out ++ o.err)) else none

/-- The versions found so far. -/
abbrev Known := List (Path × Option String)

/-- The interpreter's path. -/
def locate (settings : Settings) (usual : Option Path) (files : FileTree)
    (searchPath : Option String) : Option Path :=
  match settings.pythonPath.filter fun p => !(Text.trim p.toList).isEmpty with
  | some p => some (Path.ofString p)
  | none =>
    match usual with
    | some p => some p
    | none => usualNames.findSome? fun name =>
        ProgramSearch.find? files searchPath files.current (Path.ofString name)

/-- Can the program of that name be run? A name without a separator is looked up. -/
def canRun (files : FileTree) (searchPath : Option String) (name : Path) : Bool :=
  if name.bytes.contains Path.separator then files.isProgram name
  else ((ProgramSearch.candidates searchPath files.current name).any files.isProgram)

/-- The interpreter at a path, and the versions known afterwards. `run` says what the program
writes when it is asked. -/
def identify (run : Path → Option ProgramOutput) (known : Known) (path : Path) :
    Interpreter × Known :=
  match known.find? fun entry => entry.1.sameAs path with
  | some (_, version) => (⟨path.text, version⟩, known)
  | none =>
    let version := (run path).bind statedVersion
    (⟨path.text, version⟩, (path, version) :: known)

end InterpreterSearch

end LanguageBroker
