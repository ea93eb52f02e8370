import LanguageBroker.Scope

/-!
The open workspace folders, and which of them a resource lies in. A folder contains the URIs that
equal it or continue it behind a slash; trailing slashes of the folder make no difference.
-/

namespace LanguageBroker

namespace Folder

/-- A folder's text without trailing slashes. -/
def base (folder : Uri) : List Char :=
  (folder.text.toList.reverse.dropWhile (· = '/')).reverse

/-- Does the folder contain the resource? -/
def contains (folder resource : Uri) : Bool :=
  match Text.stripFront (base folder) resource.text.toList with
  | some [] => true
  | some (c :: _) => c = '/'
  | none => false

end Folder

namespace Workspace

/-- The later of two folders unless the earlier one's URI is longer. -/
def longer (best : Option Folder) (f : Folder) : Option Folder :=
  match best with
  | some b => if b.uri.text.utf8ByteSize > f.uri.text.utf8ByteSize then some b else some f
  | none => some f

/-- The containing folder with the longest URI; of equally long ones the last. -/
def folderFor (folders : List Folder) (resource : Option Uri) : Option Folder :=
  match resource with
  | none => none
  | some r => (folders.filter fun f => Folder.contains f.uri r).foldl longer none

/-- Opens the folders whose URI is not open yet. -/
def add (folders : List Folder) : List Folder → List Folder
  | [] => folders
  | f :: rest =>
    if folders.any fun g => g.uri = f.uri then add folders rest else add (folders ++ [f]) rest

/-- Closes the folders with the given URIs. -/
def remove (folders removed : List Folder) : List Folder :=
  folders.filter fun f => ! removed.any fun r => r.uri = f.uri

end Workspace

/-- The folders and settings that the editor last reported. -/
structure EditorState where
  folders : List Folder := []
  settings : Settings := {}
  deriving Repr

/-- Replaces the settings, and says whether that changed anything. -/
def EditorState.setSettings (e : EditorState) (s : Settings) : EditorState × Bool :=
  if e.settings = s then (e, false) else ({ e with settings := s }, true)

/-- The settings sections that a configuration change touches. -/
structure ConfigurationChange where
  sections : List String
  deriving DecidableEq, Repr

/-- Did the section or a part of it change? -/
def ConfigurationChange.affects (c : ConfigurationChange) (name : String) : Bool :=
  c.sections.any fun changed =>
    match Text.stripFront name.toList changed.toList with
    | some [] => true
    | some (d :: _) => d = '.'
    | none => false

end LanguageBroker
