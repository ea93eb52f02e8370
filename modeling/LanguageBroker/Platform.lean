import LanguageBroker.Path
import LanguageBroker.Settings

/-!
What depends on the machine: which full servers it can run, and where the broker keeps its data.
-/

namespace LanguageBroker.Platform

/-- Can the machine run the full server? The self-contained one is built for one processor only. -/
def isSupported (os arch : String) (full : FullVariant) : Bool :=
  let osOk := os == "linux" || os == "macos" || os == "windows"
  let archOk := match full with
    | .a => arch == "x86_64"
    | .b => arch == "x86_64" || arch == "aarch64"
  osOk && archOk

/-- The broker's name. -/
def brokerName : String := "python-ls-broker"

/-- The broker's version. -/
def brokerVersion : String := "0.1.0"

/-- The file that the broker logs to. -/
def logFileName : String := brokerName ++ ".log"

/-- The broker's data directory, from the configured data home and the home directory. -/
def dataDirectory (dataHome home : Option String) : Path :=
  let base := match dataHome, home with
    | some d, _ => Path.ofString d
    | none, some h => (Path.ofString h).join (Path.ofString ".local/share")
    | none, none => Path.ofString "."
  base.join (Path.ofString brokerName)

end LanguageBroker.Platform
