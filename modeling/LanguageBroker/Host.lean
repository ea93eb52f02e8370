import LanguageBroker.Environment
import LanguageBroker.Error

/-!
What the broker's surroundings answer at one moment: the editor, the environment, the search for
interpreters and the platform. Everything that can change later is asked again when it is needed.
-/

namespace LanguageBroker

structure Host where
  /-- The open workspace folders. -/
  folders : List Folder
  settings : Option Uri → Settings
  /-- The environment of a resource, or why it cannot be read. -/
  environment : Option Uri → Except String Environment
  /-- The active interpreter of a resource, if there is one, or why that cannot be found out. -/
  interpreter : Option Uri → Except String (Option Interpreter)
  /-- Can the platform run a full server? -/
  isSupported : FullVariant → Bool
  /-- Does an experiment prefer the simple server? -/
  prefersSimple : Bool
  /-- Is a server's program there, for a scope in that folder? -/
  install : Variant → Option Folder → Except InstallError Unit
  /-- Where a server is installed. -/
  serverFolder : Variant → Option Path
  /-- Can servers of the variant be made at all? -/
  isRegistered : Variant → Bool
  /-- How long changes have to rest before they are acted on, in milliseconds. -/
  quietTime : Nat

namespace Host

/-- The folder that a resource lies in. -/
def folderFor (h : Host) (resource : Option Uri) : Option Folder :=
  Workspace.folderFor h.folders resource

/-- The directories of a resource's modules. -/
def modules (h : Host) (resource : Option Uri) : Except OptionsError String :=
  match h.environment resource with
  | .ok env => .ok env.modules
  | .error reason => .error (.environment reason)

end Host

/-- Changes that matter are acted on after one second of rest. -/
def Host.usualQuietTime : Nat := 1000

end LanguageBroker
