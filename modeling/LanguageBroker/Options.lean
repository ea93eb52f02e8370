import LanguageBroker.DocumentFilter
import LanguageBroker.Host

/-!
What a server is started with: the documents it answers for, its workspace folder and a payload
whose form depends on the server. The inputs of the payload that can change while the server
runs are kept apart, so that a change of them can be noticed.
-/

namespace LanguageBroker

/-- What a server is started with. -/
structure Options where
  selector : List DocumentFilter
  folder : Option Folder
  payload : Json
  deriving Repr

/-- The inputs of a payload that are compared to notice changes. -/
structure Inputs where
  modules : String := ""
  excluded : List String := []
  typesheds : List String := []
  extraPaths : List String := []
  deriving DecidableEq, Repr

namespace Options

/-- Excluded from analysis whatever the settings say. -/
def usualExcludes : List String := ["**/Lib/**", "**/site-packages/**"]

/-- The patterns that are switched on and look like paths or globs. -/
def enabledGlobs (flags : List (String × Bool)) : List String :=
  (flags.filter fun f => f.2 && f.1.toList.any fun c => c == '*' || c == '/').map (·.1)

def excluded (s : Settings) : List String :=
  usualExcludes ++ enabledGlobs s.searchExclude ++ enabledGlobs s.filesExclude
    ++ enabledGlobs s.filesWatcherExclude ++ s.lintIgnorePatterns.filter (! ·.isEmpty)

/-- The name of the folder of type stubs that a server brings along. -/
def typeshedName : String := "Typeshed"

/-- The configured stubs, else those that the server brings along. -/
def typesheds (s : Settings) (serverFolder : Option Path) : List String :=
  if s.typeshedPaths.isEmpty then
    match serverFolder with
    | some folder => [(folder.join (Path.ofString typeshedName)).text]
    | none => []
  else s.typeshedPaths

/-- The inputs as the settings have them now; the directories of modules are given. -/
def inputs (h : Host) (variant : Variant) (resource : Option Uri) (modules : String) : Inputs :=
  let s := h.settings resource
  { modules
    excluded := excluded s
    typesheds := typesheds s (h.serverFolder variant)
    extraPaths := s.extraPaths }

/-- Extra paths, then the directories of modules, then that of the interpreter. -/
def searchPaths (s : Settings) (modules : String) (interpreter : Interpreter) : List String :=
  let listed := ((Text.splitAll ':' modules.toList).filter (! ·.isEmpty)).map String.ofList
  let own := match (Path.ofString interpreter.path).parent? with
    | some directory => if directory.bytes.isEmpty then [] else [directory.text]
    | none => []
  s.extraPaths ++ listed ++ own

/-- The language that servers answer for. -/
def languageId : String := "python"

/-- The directory that a folder stands for in a pattern. -/
def folderRoot (folder : Folder) : List Char :=
  let root := match folder.uri.toPath? with
    | some path => path.text
    | none => folder.uri.path.text
  (root.toList.reverse.dropWhile (· = '/')).reverse

/-- Files and unsaved documents of the language. A server beside others answers for the files of
its own folder only. -/
def selectorFor (folder : Option Folder) (amongOthers : Bool) : List DocumentFilter :=
  let pattern := match folder with
    | some f => if amongOthers then
        some (String.ofList (folderRoot f ++ DocumentFilter.belowMark)) else none
    | none => none
  [{ language := some languageId, scheme := some "file", pattern },
    { language := some languageId, scheme := some "untitled" }]

/-- The payload of the self-contained full server. -/
def fullPayload (s : Settings) (i : Inputs) (interpreter : Interpreter) : Json :=
  let properties := Json.objectOfSome
    [("InterpreterPath", some (.str interpreter.path)),
      ("Version", interpreter.version.map .str)]
  Json.object
    [("interpreter", Json.object [("properties", properties)]),
      ("searchPaths", Json.ofStrings (searchPaths s i.modules interpreter)),
      ("typeStubSearchPaths", Json.ofStrings i.typesheds),
      ("cacheFolderPath",
        Json.ofOption .str (s.cacheFolderPath.filter fun p => !p.isEmpty)),
      ("excludeFiles", Json.ofStrings i.excluded),
      ("testEnvironment", .bool false)]

/-- The payload of the simple server. -/
def simplePayload (s : Settings) (interpreter : Interpreter) : Json :=
  Json.object
    [("workspace", Json.object
      [("extraPaths", Json.ofStrings s.extraPaths),
        ("environmentPath", .str interpreter.path)])]

/-- The payload. The second full server asks for its settings itself. -/
def payloadFor (variant : Variant) (s : Settings) (i : Inputs) (interpreter : Interpreter) : Json :=
  match variant with
  | .fullA => fullPayload s i interpreter
  | .fullB => Json.object []
  | .simple => simplePayload s interpreter

/-- The options for a scope as things are now, and the inputs they were made from. -/
def make (h : Host) (variant : Variant) (scope : Scope) : Except OptionsError (Options × Inputs) :=
  match h.modules scope.resource with
  | .error e => .error e
  | .ok modules =>
    let i := inputs h variant scope.resource modules
    let folder := h.folderFor scope.resource
    let amongOthers := h.folders.length > 1 && variant.isFull
    .ok ({ selector := selectorFor folder amongOthers, folder,
           payload := payloadFor variant (h.settings scope.resource) i scope.interpreter }, i)

end Options

end LanguageBroker
