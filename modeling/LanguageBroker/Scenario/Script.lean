import LanguageBroker.Scenario.Reading
import LanguageBroker.Scenario.Writing
import LanguageBroker.Provider
import LanguageBroker.Site

/-!
Scripted surroundings: their answers are written down beforehand and can be replaced while a
scenario runs.
-/

namespace LanguageBroker.Scenario

structure Script where
  folders : List Folder := []
  settings : Settings := {}
  /-- Settings of single resources; the empty name stands for none. -/
  settingsFor : List (String × Settings) := []
  env : Environment := []
  envFor : List (String × Environment) := []
  envError : Option String := none
  /-- Interpreters of single resources; a star stands for all others. -/
  interpreters : List (String × Except String (Option Interpreter)) := []
  supported : FullVariant → Bool := fun _ => true
  prefersSimple : Bool := false
  install : Variant → Option InstallError := fun _ => none
  plan : Variant → Plan := fun _ => {}
  quietTime : Nat := Host.usualQuietTime
  serverFolder : Variant → Option Path := fun _ => none
  registered : List Variant := Variant.all

namespace Script

/-- The name under which a resource is listed. -/
def resourceName (resource : Option Uri) : String := (resource.map Uri.text).getD ""

def host (s : Script) : Host :=
  { folders := s.folders
    settings := fun r => (s.settingsFor.lookup (resourceName r)).getD s.settings
    environment := fun r =>
      match s.envError with
      | some reason => .error reason
      | none => .ok ((s.envFor.lookup (resourceName r)).getD s.env)
    interpreter := fun r =>
      ((s.interpreters.lookup (resourceName r)).orElse fun _ => s.interpreters.lookup "*").getD
        (.ok none)
    isSupported := s.supported
    prefersSimple := s.prefersSimple
    install := fun v _ =>
      match s.install v with
      | some e => .error e
      | none => .ok ()
    serverFolder := s.serverFolder
    isRegistered := fun v => s.registered.contains v
    quietTime := s.quietTime }

def readEnvironment (v : Json) : Environment :=
  (v.members?.getD []).filterMap fun m => m.2.text?.map fun t => (m.1, t)

def readEntries (read : Json → α) (v : Json) : List (String × α) :=
  (v.members?.getD []).map fun m => (m.1, read m.2)

def readInterpreterAnswer (v : Json) : Except String (Option Interpreter) :=
  match textMember? "error" v with
  | some reason => .error reason
  | none => .ok (readInterpreter v)

def readInstall (v : Json) (variant : Variant) : Option InstallError :=
  match v.get? variant.name with
  | none => none
  | some e =>
    match textMember? "missing" e, textMember? "failed" e with
    | some name, _ => some (.notInstalled name)
    | none, some reason => some (.failed variant reason)
    | none, none => none

def readFailure (v : Json) : Option BackendError := (v.members?).map fun _ => readBackendError v

/-- The answers to the methods that are listed, and the usual one to all others. -/
def readReplies (v : Json) (method : Method) : CallResult :=
  match v.get? method.name with
  | some r => readReply r
  | none => Plan.usualReply method

/-- Replaces one part of a plan. -/
def editPlan (p : Plan) (part : String × Json) : Plan :=
  match part with
  | ("create_fail", v) => { p with createFailure := readFailure v }
  | ("start_delay_ms", v) => { p with startDelay := v.nat?.getD 0 }
  | ("fail", v) => { p with startFailure := readFailure v }
  | ("version", v) => { p with version := v.text? }
  | ("dispose_delay_ms", v) => { p with disposeDelay := v.nat?.getD 0 }
  | ("call_delay_ms", v) => { p with callDelay := v.nat?.getD 0 }
  | ("replies", v) => { p with reply := readReplies v }
  | _ => p

def setPlan (plan : Variant → Plan) (variant : Variant) (p : Plan) : Variant → Plan :=
  fun v => if v = variant then p else plan v

def readPlans (v : Json) : Variant → Plan := fun variant =>
  (((v.get? variant.name).bind Json.members?).getD []).foldl editPlan {}

/-- Replaces one part of a script. -/
def edit (s : Script) (part : String × Json) : Script :=
  match part with
  | ("folders", v) => { s with folders := readFolders v }
  | ("settings", v) => { s with settings := Settings.ofJson v }
  | ("settings_for", v) => { s with settingsFor := readEntries Settings.ofJson v }
  | ("env", v) => { s with env := readEnvironment v }
  | ("env_for", v) => { s with envFor := readEntries readEnvironment v }
  | ("env_error", v) => { s with envError := v.text? }
  | ("runtimes", v) => { s with interpreters := readEntries readInterpreterAnswer v }
  | ("supported", v) => { s with supported := readSupported (some v) }
  | ("prefers_simple", v) => { s with prefersSimple := v.bool?.getD false }
  | ("installer", v) => { s with install := readInstall v }
  | ("backends", v) => { s with plan := readPlans v }
  | ("backend", v) =>
    let variant := readVariant (valueMember "variant" v)
    { s with plan := setPlan s.plan variant ((v.members?.getD []).foldl editPlan (s.plan variant)) }
  | _ => s

/-- Replaces the parts that a value names. -/
def update (s : Script) (v : Json) : Script := (v.members?.getD []).foldl edit s

/-- Reads one of the parts that stay as they are. -/
def fix (s : Script) (part : String × Json) : Script :=
  match part with
  | ("debounce_ms", v) => { s with quietTime := v.nat?.getD Host.usualQuietTime }
  | ("server_folders", v) =>
    { s with serverFolder := readByVariant (fun f => f.text?.map Path.ofString) v }
  | ("registered", v) => { s with registered := (readTexts v).map Variant.ofName }
  | _ => s

/-- The script of a scenario. -/
def ofJson (v : Json) : Script :=
  let members := v.members?.getD []
  members.foldl fix (members.foldl edit {})

/-- The site at the beginning. -/
def site (s : Script) : Site := { host := s.host, plan := fun name => s.plan name.variant }

/-- The announcements of a step, in order. -/
def readEvents (step : Json) : List WorkspaceEvent :=
  let times := ((step.get? "times").bind Json.nat?).getD 1
  match textMember "event" step with
  | "settings" => List.replicate times (.settings ⟨readTexts (valueMember "sections" step)⟩)
  | "environment" => List.replicate times .environment
  | "runtime" => List.replicate times .interpreter
  | _ => []

end Script

/-- A site surrounded by a new script. -/
def rescript (s : Site) (script : Script) : Site :=
  { s with host := script.host, plan := script.site.plan }

end LanguageBroker.Scenario
