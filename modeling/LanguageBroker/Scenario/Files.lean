import LanguageBroker.Environment
import LanguageBroker.InterpreterSearch
import LanguageBroker.Json.Reader
import LanguageBroker.Scenario.Script
import LanguageBroker.Scenario.Steps

/-!
Scenarios with files. They lie in a scratch directory, which a mark stands for wherever it is
written.
-/

namespace LanguageBroker.Scenario

namespace Scratch

/-- Stands for the scratch directory in scenarios. -/
def mark : List Char := "$DIR".toList

/-- Where the scratch directory lies. -/
def place : List Char := "/tmp/broker-scratch".toList

mutual

/-- Replaces one text by another in all strings of a value. -/
def replaceText (old new : List Char) : Json → Json
  | .str s => .str (String.ofList (Text.replaceAll old new s.toList))
  | .arr items => .arr (replaceItems old new items)
  | .obj members => .obj (replaceMembers old new members)
  | v => v

def replaceItems (old new : List Char) : List Json → List Json
  | [] => []
  | v :: rest => replaceText old new v :: replaceItems old new rest

def replaceMembers (old new : List Char) : List (String × Json) → List (String × Json)
  | [] => []
  | (k, v) :: rest =>
    (String.ofList (Text.replaceAll old new k.toList), replaceText old new v)
      :: replaceMembers old new rest

end

/-- Stands for the program of obedient servers. -/
def serverMark : List Char := "$SERVER".toList

/-- Where the program of obedient servers lies. -/
def serverPlace : List Char := "/tmp/broker-scratch-server".toList

/-- Answers a scenario that names the scratch directory. -/
def inside (run : Json → Json) (v : Json) : Json :=
  replaceText place mark (replaceText serverPlace serverMark (run (replaceText mark place v)))

def directory : Path := Path.ofString (String.ofList place)

/-- The names that lead to a path. -/
def namesTo (p : Path) : List (List UInt8) := p.components.filter (! ·.isEmpty)

/-- The scratch directory with nothing in it. -/
def empty : FileTree :=
  let server := Path.ofString (String.ofList serverPlace)
  { (FileTree.insert {} (namesTo directory) .directory).insert (namesTo server) (.file [] true) with
    current := directory }

/-- Puts a node into the scratch directory. -/
def add (files : FileTree) (name : String) (node : FileNode) : FileTree :=
  files.insert (namesTo (directory.join (Path.ofString name))) node

/-- The bytes that pairs of hexadecimal digits stand for. -/
def unhex : List Char → List UInt8
  | a :: b :: rest =>
    UInt8.ofNat ((Json.hexValue? a).getD 0 * 16 + (Json.hexValue? b).getD 0) :: unhex rest
  | _ => []

/-- The bytes of a text or of hexadecimal digits. -/
def readBytes (v : Json) : List UInt8 :=
  match textMember? "hex" v with
  | some digits => unhex digits.toList
  | none => Text.encode (textMember "text" v).toList

/-- A file or a directory. -/
def readNode (v : Json) : FileNode :=
  match v with
  | .str text => .file (Text.encode text.toList) false
  | v =>
    if boolMember "dir" v then .directory
    else .file (readBytes v) (boolMember "executable" v)

/-- The files of a scenario. -/
def readFiles (v : Json) : FileTree :=
  let members := ((v.get? "files").bind Json.members?).getD []
  members.foldl (fun files m => add files m.1 (readNode m.2))
    empty

/-- A search path from its directories. -/
def readSearchPath (v : Json) : String := ":".intercalate (readTexts (valueMember "search_path" v))

end Scratch

/-- The environment of a resource. -/
def environmentIn (v : Json) : Json :=
  let host := (Script.ofJson v).host
  let resource := (v.get? "resource").bind readUri
  let process := Script.readEnvironment (valueMember "process_env" v)
  match Environment.forFolder process (Scratch.readFiles v) (host.settings resource)
      (host.folderFor resource) with
  | .ok env => Json.object (env.map fun entry => (entry.1, .str entry.2))
  | .error reason => failure "Environment" reason

/-- Is a server's program there? -/
def installationIn (v : Json) : Json :=
  let installation : Installation :=
    { programs := readByVariant Json.text? (valueMember "programs" v)
      searchPath := some (Scratch.readSearchPath v) }
  match installation.check (Scratch.readFiles v) (readVariant (valueMember "variant" v))
      ((v.get? "folder").bind readFolder) with
  | .ok () => Json.object [("ok", .bool true)]
  | .error e => writeInstallError e

/-- What every interpreter does when it is asked for its version. -/
def readOutput (v : Json) : ProgramOutput :=
  { succeeded := (((v.get? "code").bind Json.int?).getD 0) % 256 = 0
    out := Text.encode (textMember "stdout" v).toList
    err := Text.encode (textMember "stderr" v).toList }

def writeInterpreter : Option Interpreter → Json :=
  Json.ofOption fun i =>
    Json.object [("path", .str i.path), ("version", Json.ofOption .str i.version)]

/-- Which interpreters are found, step by step. -/
def interpretersIn (v : Json) : Json :=
  let files := (readTexts (valueMember "interpreters" v)).foldl
    (fun files name => Scratch.add files name (.file [] true)) Scratch.empty
  let searchPath := some (Scratch.readSearchPath v)
  let usual := (textMember? "default" v).map Path.ofString
  let step (known : InterpreterSearch.Known) (_ : Nat) (s : Json) :
      InterpreterSearch.Known × Json :=
    let settings : Settings := { pythonPath := textMember? "python_path" s }
    match InterpreterSearch.locate settings usual files searchPath with
    | none => (known, .null)
    | some path =>
      let run (p : Path) : Option ProgramOutput :=
        if InterpreterSearch.canRun files searchPath p then
          some (readOutput (valueMember "output" s))
        else none
      let (found, known) := InterpreterSearch.identify run known path
      (known, writeInterpreter (some found))
  runSteps step [] (listMember "steps" v)

end LanguageBroker.Scenario
