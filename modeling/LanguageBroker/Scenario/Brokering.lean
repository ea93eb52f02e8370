import LanguageBroker.Scenario.Conversing
import LanguageBroker.Scenario.Editing

/-!
Scenarios of a broker and its editor whose servers are processes. The broker goes on as its
schedule says, and whatever it does with a server is then done with that server's process.
-/

namespace LanguageBroker.Scenario

/-- A call is handed to the process and answered. -/
def Conversation.deliver (c : Conversation) (method : Method) (params : Json) :
    Conversation × CallResult :=
  match c.server.dispatch { method, params } with
  | (server, .inl result) => (Conversation.schedule.exhaust { c with server }, result)
  | (server, .inr h) =>
    let c := Conversation.schedule.exhaust { c with server }
    (c, (c.server.answer? h).getD (.ok none))

namespace Brokering

structure State where
  session : Editor.Session
  /-- The conversations that servers of each variant begin with. -/
  fresh : List (Variant × Conversation)
  running : List (BackendName × Conversation) := []
  /-- What processes were sent, by variant. -/
  got : List (Variant × Json) := []
  /-- How much of the journal has been acted on. -/
  followed : Nat := 0
  /-- What processes made the editor hear. -/
  heard : List Json := []

namespace State

def site (s : State) : Site := s.session.broker.site

def setSite (s : State) (site : Site) : State :=
  { s with session := { s.session with broker := { s.session.broker with site } } }

/-- Any options; how a start ends does not depend on them. -/
def anyOptions : Options := ⟨[], none, .null⟩

/-- How a server behaves whose conversation stands so. -/
def planOf (c : Conversation) : Plan :=
  let begun := c.start anyOptions
  match begun.server.startResult with
  | some (.error e) => { startFailure := some e }
  | _ => { version := begun.server.middleware.version }

def plan (s : State) (name : BackendName) : Plan :=
  match s.running.lookup name, s.fresh.lookup name.variant with
  | some c, _ => { reply := fun method => (c.deliver method .null).2 }
  | none, some c => planOf c
  | none, none => {}

/-- What the editor hears of a conversation. -/
def editorMessage : Server.Sight → Option Json
  | .asked items => some (Editor.outgoing Server.settingsMethod
      (Json.object [("items", .arr (items.map (·.toJson)))]))
  | .published params => some (Editor.outgoing Method.publishDiagnostics.name params)
  | _ => none

def report? : Server.Sight → Option TelemetryEvent
  | .reported e => some e
  | _ => none

/-- A conversation has gone on. -/
def update (s : State) (name : BackendName) (before after : Conversation) : State :=
  let came := after.peer.got.drop before.peer.got.length
  let sights := after.server.sights.drop before.server.sights.length
  let s := s.setSite ((sights.filterMap report?).foldl Site.emit s.site)
  { s with
    running := (name, after) :: s.running.filter fun r => r.1 ≠ name
    got := s.got ++ came.map fun m => (name.variant, m)
    heard := s.heard ++ sights.filterMap editorMessage }

/-- A call is delivered. The gate of the process is that of the server. -/
def deliver (s : State) (name : BackendName) (c : Conversation) (method : Method) (params : Json) :
    State :=
  match s.site.backends.findIdx? fun b => b.name = name with
  | none => s
  | some b =>
    let middleware := ((s.site.backend? b).map (·.middleware)).getD c.server.middleware
    let before := { c with server := { c.server with middleware } }
    let after := (before.deliver method params).1
    let site := s.site.modifyMiddleware b fun _ => after.server.middleware
    (s.setSite site).update name before after

/-- A server's conversation, in the present surroundings. -/
def conversation? (s : State) (name : BackendName) : Option Conversation :=
  (s.running.lookup name).map fun c =>
    { c with source := { c.source with host := some fun _ => s.site.host } }

/-- What happened to a server happens to its process. -/
def follow (s : State) : Happening → State
  | .backend name .create =>
    match s.fresh.lookup name.variant with
    | some c => { s with running := (name, c) :: s.running }
    | none => s
  | .backend name event =>
    match s.conversation? name, event with
    | some c, .start options => s.update name c (c.start options)
    | some c, .dispose => s.update name c c.dispose
    | some c, .call method params => s.deliver name c method params
    | _, _ => s
  | _ => s

/-- Follows all that is new in the journal. -/
def followAll (s : State) : State :=
  let news := s.site.journal.drop s.followed
  if news.isEmpty then s
  else
    let s := (news.map (·.2)).foldl follow { s with followed := s.site.journal.length }
    s.setSite { s.site with plan := s.plan }

end State

def schedule : Schedule State Editor.Session.Agent where
  agents s := s.session.agents
  isReady s := s.session.isReady
  act s a := { s with session := s.session.act a }.followAll
  deadline s := s.session.deadline
  since s := s.session.since
  clock s := Editing.sessionSchedule.clock s.session
  setClock s clock := { s with session := Editing.sessionSchedule.setClock s.session clock }

/-- What the editor answers when it is asked for settings. -/
def readSettingsAnswer (v : Json) : Except RpcError (List Json) :=
  match v.get? "error" with
  | some e => .error (readRpcError e)
  | none =>
    match v.readItems with
    | .ok items => .ok items
    | .error fault => .error (.unreadable fault)

/-- The machine that the broker runs on, and what the editor has reported. -/
def surroundings (v : Json) (editor : EditorState) : Host :=
  let files := Scratch.readFiles v
  let environment := Script.readEnvironment (valueMember "process_env" v)
  let servers := valueMember "servers" v
  let installation : Installation :=
    { programs := readByVariant (fun s => some (Conversing.readCommand s).program) servers
      searchPath := environment.value? Environment.programPath }
  let python := InterpreterSearch.locate editor.settings
    ((textMember? "python" v).map Path.ofString) files (environment.value? Environment.programPath)
  { folders := editor.folders
    settings := fun _ => editor.settings
    environment := fun resource =>
      Environment.forFolder environment files editor.settings
        (Workspace.folderFor editor.folders resource)
    interpreter := fun _ => .ok (python.map fun p => ⟨p.text, none⟩)
    isSupported := Platform.isSupported "linux" "x86_64"
    prefersSimple := false
    install := fun variant folder => installation.check files variant folder
    serverFolder :=
      readByVariant (fun f => f.text?.map Path.ofString) (valueMember "server_folders" v)
    isRegistered := fun variant => (servers.get? variant.name).isSome
    quietTime := Host.usualQuietTime }

/-- The conversations of the servers of a scenario. -/
def readServers (v : Json) : List (Variant × Conversation) :=
  let answers := valueMember "client_answers" v
  Variant.all.filterMap fun variant =>
    ((valueMember "servers" v).get? variant.name).map fun server =>
      (variant,
        { server := { middleware := { variant } }
          peer := .ofJson server
          source := ⟨fun _ => readSettingsAnswer (valueMember Server.settingsMethod answers), none⟩
          launch := (Conversing.readCommand server).check (Scratch.readFiles v) none })

/-- A message comes from the editor. -/
def step (s : State) (n : Nat) (v : Json) : State × Json :=
  let s := schedule.tick s
  match Editor.Message.ofJson? v with
  | none => (s, .null)
  | some m =>
    let s := schedule.rest { s with session := s.session.receive n m }
    let response := (s.session.responses.lookup n).map fun r => writeResponse r.2
    (s, response.getD .null)

/-- A message to the editor, with the names of measures in the place of their values. -/
def shownMessage (m : Json) : Json :=
  match m.path? ["params", "measures"], m.get? "method" with
  | some (.obj measures), some (.str "telemetry/event") =>
    Editor.outgoing "telemetry/event" (match valueMember "params" m with
      | .obj params =>
        .obj (Json.insertMember "measures" (Json.ofStrings (measures.map (·.1))) params)
      | other => other)
  | _, _ => m

/-- All messages to the editor, sorted. -/
def messages (s : State) : List Json :=
  let all := s.session.sent ++ s.heard
    ++ s.site.telemetry.map (fun e => Editor.telemetryMessage e.2)
    ++ s.site.prompts.map Editor.missingNotice
  (all.map shownMessage).mergeSort fun a b => a.compact ≤ b.compact

def run (v : Json) : Json :=
  let editor : EditorState := { settings := Settings.ofJson (valueMember "settings" v) }
  let host := surroundings v editor
  let session : Editor.Session :=
    { broker := { site := { host, plan := fun _ => {} } }, editor, surroundings := surroundings v }
  let state : State := { session, fresh := readServers v }
  let state := state.setSite { state.site with plan := state.plan }
  let (s, answers) := foldSteps step state (listMember "steps" v)
  let servers := ((valueMember "servers" v).members?.getD []).map fun m =>
    (m.1, Json.arr (Peer.shown (s.got.filterMap fun g =>
      if g.1 = Variant.ofName m.1 then some g.2 else none)))
  Json.object
    [("answers", .arr answers), ("client", .arr (messages s)), ("servers", Json.object servers)]

end Brokering

end LanguageBroker.Scenario
