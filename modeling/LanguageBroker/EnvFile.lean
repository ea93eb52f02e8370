import LanguageBroker.Workspace

/-!
Where the environment file of a workspace folder lies: at the configured place, in which the
folder may be named by a variable, or under the usual name in the folder itself.
-/

namespace LanguageBroker.EnvFile

/-- The name looked for in a folder that configures none. -/
def usualName : String := ".env"

/-- Stands for the folder's path in a configured place. -/
def folderVariable : List Char := ['$', '{'] ++ "workspaceFolder".toList ++ ['}']

/-- The configured place, unless it is blank. -/
def configured? (settings : Settings) : Option (List Char) :=
  settings.envFile.bind fun s =>
    let place := Text.trim s.toList
    if place.isEmpty then none else some place

/-- The environment file that applies to a folder. A relative place counts from the folder, and
without a folder only an absolute place that does not name it can be found. -/
def path? (settings : Settings) (folder : Option Folder) : Option Path :=
  let root := folder.bind (·.uri.toPath?)
  match configured? settings with
  | none => root.map (·.join (Path.ofString usualName))
  | some place =>
    match root with
    | some root =>
      let expanded := Text.replaceAll folderVariable root.text.toList place
      some (root.join (Path.ofString (String.ofList expanded)))
    | none =>
      if Text.contains folderVariable place then none
      else
        let path := Path.ofString (String.ofList place)
        if path.isAbsolute then some path else none

end LanguageBroker.EnvFile
