import LanguageBroker.Error
import LanguageBroker.FileTree

/-!
Finding programs. A name without a separator is looked up in the directories of a search path,
the first that holds a program of that name winning; a name with one is a path. Both the
directories and the path may be relative to a given place.
-/

namespace LanguageBroker.ProgramSearch

/-- How the home directory is written, which is not searched. -/
def homeMark : List UInt8 := Text.encode ['~']

/-- The directories of a search path, which are separated by colons. -/
def directories (searchPath : String) : List Path :=
  ((Text.splitAll ':' searchPath.toList).map fun d => Path.ofString (String.ofList d)).filter
    fun d => d.components.head? ≠ some homeMark

/-- Does a program's name say where it lies? -/
def hasPlace (name : Path) : Bool := name.components.length > 1

/-- The paths at which a program may lie, best first. -/
def candidates (searchPath : Option String) (place name : Path) : List Path :=
  if hasPlace name then [name.seenFrom place]
  else
    match searchPath with
    | some s => (directories s).map fun d => (d.seenFrom place).join name
    | none => []

/-- The program of that name. -/
def find? (files : FileTree) (searchPath : Option String) (place name : Path) : Option Path :=
  (candidates searchPath place name).find? files.isProgram

end LanguageBroker.ProgramSearch

namespace LanguageBroker

/-- The servers' programs and the path to look for them on. -/
structure Installation where
  programs : Variant → Option String
  searchPath : Option String

/-- Is the program of a server there? One with a place in its name is looked for in the scope's
folder. -/
def Installation.check (i : Installation) (files : FileTree) (variant : Variant)
    (folder : Option Folder) : Except InstallError Unit :=
  match i.programs variant with
  | none => .error (.notInstalled variant.name)
  | some program =>
    let place := (folder.bind (·.uri.toPath?)).getD files.current
    match ProgramSearch.find? files i.searchPath place (Path.ofString program) with
    | some _ => .ok ()
    | none => .error (.notInstalled program)

end LanguageBroker
