import LanguageBroker.DocumentFilter
import LanguageBroker.Error
import LanguageBroker.Rpc
import LanguageBroker.Telemetry

/-!
How the outcome of a scenario is written down.
-/

namespace LanguageBroker.Scenario

/-- A failure: the name of its kind and its sentence. -/
def failure (kind message : String) : Json :=
  Json.object [("error", .str kind), ("message", .str message)]

def backendKind : BackendError → String
  | .spawn .. => "Spawn"
  | .io _ => "Io"
  | .json _ => "Json"
  | .frame _ => "Frame"
  | .rejected .. => "Rejected"
  | .connectionClosed => "ConnectionClosed"
  | .notStarted => "NotStarted"
  | .start _ => "Start"

def optionsKind : OptionsError → String
  | .notInitialized => "NotInitialized"
  | .environment _ => "Environment"

def managerKind : ManagerError → String
  | .alreadyStarted => "AlreadyStarted"
  | .disposed => "Disposed"
  | .options cause => optionsKind cause
  | .backend cause => backendKind cause

def installKind : InstallError → String
  | .notInstalled _ => "NotInstalled"
  | .failed .. => "InstallFailed"

def activationKind : ActivationError → String
  | .noInterpreter _ => "NoRuntime"
  | .interpreter _ => "Runtime"
  | .noBackend _ => "NoBackend"
  | .install cause => installKind cause
  | .start .. => "ActivationStart"
  | .aborted _ => "Aborted"

def writeBackendError (e : BackendError) : Json := failure (backendKind e) e.message

def writeOptionsError (e : OptionsError) : Json := failure (optionsKind e) e.message

def writeManagerError (e : ManagerError) : Json := failure (managerKind e) e.message

def writeInstallError (e : InstallError) : Json := failure (installKind e) e.message

def writeActivationError (e : ActivationError) : Json := failure (activationKind e) e.message

def writeCallResult : CallResult → Json
  | .ok (some v) => Json.object [("value", v)]
  | .ok none => Json.object [("none", .bool true)]
  | .error e => Json.object [("error", .str "Rpc"), ("rpc", e.toJson)]

def writeFolder : Option Folder → Json := Json.ofOption Folder.toJson

def writeSelector (filters : List DocumentFilter) : Json := .arr (filters.map DocumentFilter.toJson)

/-- The members of an event. -/
def eventMembers (e : TelemetryEvent) : List (String × Json) :=
  [("name", .str e.name), ("measures", e.measuresJson), ("properties", e.propertiesJson)]

def writeEvent (e : TelemetryEvent) : Json := Json.object (eventMembers e)

end LanguageBroker.Scenario
