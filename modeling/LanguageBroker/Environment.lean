import LanguageBroker.EnvFile
import LanguageBroker.EnvFile.Assignment
import LanguageBroker.FileTree

/-!
The environment of a resource: that of the process, overlaid with the assignments of the folder's
environment file. Values of the file win, but the two search paths keep the process's entries
behind the file's.
-/

namespace LanguageBroker

/-- The variables of an environment, each name once. -/
abbrev Environment := List (String × String)

namespace Environment

/-- The variable that lists the directories of modules. -/
def modulePath : String := "PYTHONPATH"

/-- The variable that lists the directories of programs. -/
def programPath : String := "PATH"

/-- The value of a variable, if it is set. -/
def value? (env : Environment) (name : String) : Option String := env.lookup name

/-- Sets a variable. -/
def put (env : Environment) (name value : String) : Environment :=
  (name, value) :: env.filter fun entry => entry.1 ≠ name

/-- The value that an assignment gives a variable. -/
def merged (env : Environment) (name value : String) : String :=
  match env.value? name with
  | some old =>
    if (name == modulePath || name == programPath) && !old.isEmpty && !value.isEmpty then
      value ++ ":" ++ old
    else value
  | none => value

/-- Makes one assignment of a file. -/
def assign (env : Environment) (entry : String × String) : Environment :=
  env.put entry.1 (env.merged entry.1 entry.2)

/-- Makes the assignments of a file in their order. -/
def overlay (env : Environment) (entries : List (String × String)) : Environment :=
  entries.foldl assign env

/-- The environment of a resource in the given folder. A file that is not there changes nothing. -/
def forFolder (process : Environment) (files : FileTree) (settings : Settings)
    (folder : Option Folder) : Except String Environment :=
  match (EnvFile.path? settings folder).bind files.content? with
  | none => .ok process
  | some bytes =>
    match EnvFile.assignments process bytes with
    | .ok entries => .ok (overlay process entries)
    | .error fault => .error fault.message

/-- The directories that the modules of a resource may lie in. -/
def modules (env : Environment) : String := (env.value? modulePath).getD ""

end Environment

end LanguageBroker
