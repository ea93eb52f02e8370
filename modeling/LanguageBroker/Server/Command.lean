import LanguageBroker.ProgramSearch

/-!
The command that a server is launched with, and what keeps it from being launched.
-/

namespace LanguageBroker

structure ServerCommand where
  program : String
  args : List String := []
  /-- The directory that the server works in, if it is not the broker's. -/
  directory : Option Path := none
  deriving Repr

/-- What keeps a program from being launched. -/
inductive LaunchFault
  | missing
  | forbidden
  | notDirectory
  deriving DecidableEq, Repr

def LaunchFault.message : LaunchFault → String
  | .missing => "No such file or directory (os error 2)"
  | .forbidden => "Permission denied (os error 13)"
  | .notDirectory => "Not a directory (os error 20)"

namespace ServerCommand

/-- The directory that the server would work in. -/
def workplace (c : ServerCommand) (files : FileTree) : Except LaunchFault Path :=
  match c.directory with
  | none => .ok files.current
  | some directory =>
    match files.find? directory with
    | some .directory => .ok (files.current.join directory)
    | some (.file ..) => .error .notDirectory
    | none => .error .missing

/-- Looks for the program. What stands in its place may be no program. -/
def findProgram (c : ServerCommand) (files : FileTree) (searchPath : Option String) (place : Path) :
    Except LaunchFault Unit :=
  let name := Path.ofString c.program
  if c.program.isEmpty then .error .missing
  else if (ProgramSearch.find? files searchPath place name).isSome then .ok ()
  else if (ProgramSearch.candidates searchPath place name).any fun p => (files.find? p).isSome then
    .error .forbidden
  else .error .missing

/-- Can the server be launched? -/
def check (c : ServerCommand) (files : FileTree) (searchPath : Option String) :
    Except BackendError Unit :=
  match (c.workplace files).bind (c.findProgram files searchPath) with
  | .ok () => .ok ()
  | .error fault => .error (.spawn c.program fault.message)

end ServerCommand

end LanguageBroker
