import LanguageBroker.Scenario.Files
import LanguageBroker.Scenario.Intercepting
import LanguageBroker.Scenario.Peer
import LanguageBroker.Server
import LanguageBroker.Server.Command

/-!
Scenarios of one server and the process at the far end. Every step is over when nothing happens
any more.
-/

namespace LanguageBroker.Scenario

/-- A server with its peer. -/
structure Conversation where
  clock : Clock := {}
  server : Server
  peer : Peer
  source : SettingsSource
  /-- Can a process be launched? -/
  launch : Except BackendError Unit := .ok ()

namespace Conversation

/-- The number of every process. -/
def processId : Nat := 1

/-- The server does something, and the peer hears of it. -/
def act (c : Conversation) (duty : Server.Duty) : Conversation :=
  match c.server.act c.source c.clock duty with
  | (server, none) => { c with server }
  | (server, some message) =>
    let (peer, bytes) := c.peer.hear message
    let wire := server.wire.feed bytes
    { c with peer, server := { server with wire := if peer.isGone then wire.hangUp else wire } }

def schedule : Schedule Conversation Server.Duty where
  agents c := c.server.duties
  isReady c := c.server.isReady c.clock
  act := act
  deadline c := c.server.deadline
  clock c := c.clock
  setClock c clock := { c with clock }

/-- Starts the server. -/
def start (c : Conversation) (options : Options) : Conversation :=
  schedule.exhaust { c with
    peer := c.peer.renew
    server := c.server.start (c.launch.map fun _ => processId) options }

def dispose (c : Conversation) : Conversation :=
  schedule.exhaust { c with server := c.server.dispose c.clock }

end Conversation

namespace Conversing

/-- A log line without its time. -/
def writeSight : Server.Sight → Option LogLine
  | .remark name method =>
    some ⟨0, name, Json.object
      [("who", .str name), ("what", .str "addon"), ("method", .str method.name)]⟩
  | _ => none

/-- What the editor was asked or told. -/
def writeEditorSight : Server.Sight → Option Json
  | .asked items => some (Json.object [("configuration", .arr (items.map (·.toJson)))])
  | .published params => some (Json.object [("diagnostics", params)])
  | _ => none

/-- An event without its duration. -/
def writeReport : Server.Sight → Option Json
  | .reported e =>
    some (writeEvent { e with measures := e.measures.filter fun m => m.1 ≠ "duration" })
  | _ => none

def readOptions (v : Json) : Options :=
  { selector := readSelector (valueMember "selector" v)
    folder := readFolder (valueMember "folder" v)
    payload := valueMember "init" v }

/-- Takes a step, and tells how it has ended. -/
def perform (c : Conversation) (v : Json) : Conversation × Json :=
  match v.get? "start", (textMember? "call" v).bind Method.ofName? with
  | some options, _ =>
    let c := c.start (readOptions options)
    match c.server.startResult with
    | some (.error e) => (c, writeBackendError e)
    | _ => (c, .null)
  | none, some method =>
    let (server, number) := c.server.call c.clock { method, params := valueMember "params" v }
    let c := Conversation.schedule.exhaust { c with server }
    (c, Json.ofOption writeCallResult (c.server.result? number))
  | none, none => (c.dispose, .null)

def step (c : Conversation) (_ : Nat) (v : Json) : Conversation × Json :=
  let (c, result) := perform { c with server := { c.server with sights := [] } } v
  let lines := c.server.sights.filterMap writeSight
  (c, Json.object
    ([("result", result), ("connected", .bool c.server.middleware.connected)]
      ++ (if lines.isEmpty then [] else [("log", writeLog lines)])
      ++ listIfAny "telemetry" (c.server.sights.filterMap writeReport)
      ++ listIfAny "host" (c.server.sights.filterMap writeEditorSight)))

/-- The command of a scenario. -/
def readCommand (v : Json) : ServerCommand :=
  { program := (textMember? "program" v).getD (String.ofList Scratch.serverPlace)
    directory := (textMember? "cwd" v).map Path.ofString }

def run (v : Json) : Json :=
  let server := valueMember "server" v
  let variant := readVariant (valueMember "variant" v)
  let host := (Script.ofJson v).host
  let initial : Conversation :=
    { server := { middleware := { variant }, chain := Addon.readChain v }
      peer := .ofJson server
      source :=
        { editor := fun _ => readConfigurationAnswer (valueMember "host_answer" v)
          host := if boolMember "sources" v then some fun _ => host else none }
      launch := (readCommand server).check (Scratch.readFiles v) none }
  let (c, entries) := foldSteps step initial (listMember "steps" v)
  Json.object
    [("variant", .str variant.name), ("steps", .arr entries),
      ("server_got", .arr (Peer.shown c.dispose.peer.got))]

end Conversing

end LanguageBroker.Scenario
