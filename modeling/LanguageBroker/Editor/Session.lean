import LanguageBroker.Broker.Agent
import LanguageBroker.Editor.Capabilities
import LanguageBroker.Editor.Duty
import LanguageBroker.Editor.Message
import LanguageBroker.Protocol.Abilities

/-!
The broker in the service of one editor. Every message is handled on its own: a call for a server
finds the server of its document and is delivered there, news about the workspace change what
servers are told, and the end of the session disposes of everything.
-/

namespace LanguageBroker.Editor

/-- How far a session has come. -/
inductive Phase
  | fresh
  | ready
  | shutDown
  | exited
  deriving DecidableEq, Repr

/-- How far the handling of a message has come. -/
inductive Handler.Stage
  /-- The server of a call's document is being found. -/
  | finding (errand : ErrandId) (method : Method) (params : Json)
  /-- A notification is on its way to the server. -/
  | delivering (errand : ErrandId)
  /-- A request is on its way to the server, also if the editor gives it up. -/
  | handedOver (errand : ErrandId) (method : Method) (params : Json)
  /-- Activations are being disposed of. -/
  | sweeping (errand : ErrandId)

/-- The errand that a stage waits for. -/
def Handler.Stage.errand : Handler.Stage → ErrandId
  | .finding e _ _ | .delivering e | .handedOver e _ _ | .sweeping e => e

/-- A message that is being handled. -/
structure Handler where
  number : Nat
  id : Option Json
  stage : Handler.Stage

structure Session where
  broker : Broker
  editor : EditorState := {}
  /-- What the surroundings are, given what the editor has reported. -/
  surroundings : EditorState → Host
  phase : Phase := .fresh
  /-- The document of the last call that named one. -/
  lastDocument : Option Uri := none
  /-- Does the editor report changes of files when asked to? -/
  canWatchFiles : Bool := false
  handlers : List Handler := []
  /-- Errands that go on by themselves. -/
  background : List ErrandId := []
  /-- What has become of messages, by their numbers. -/
  responses : List (Nat × Time × Response) := []
  /-- The messages sent to the editor. -/
  sent : List Json := []

namespace Session

/-- The surroundings are looked at again. -/
def refresh (s : Session) : Session :=
  { s with broker := { s.broker with
      site := { s.broker.site with host := s.surroundings s.editor } } }

def send (s : Session) (message : Json) : Session := { s with sent := s.sent ++ [message] }

def respond (s : Session) (number : Nat) (r : Response) : Session :=
  { s with responses := s.responses ++ [(number, s.broker.site.clock.now, r)] }

/-- Answers a request; nothing is answered to a notification, nor where an extension of the
protocol is unknown. -/
def answer (s : Session) (number : Nat) (id : Option Json) (result : Except RpcError Json) :
    Session :=
  match id, result with
  | none, _ => s.respond number .nothing
  | some id, .error e =>
    s.respond number (if isUnknownExtension e then .nothing else .answer id (.error e))
  | some id, result => s.respond number (.answer id result)

def handle (s : Session) (h : Handler) : Session := { s with handlers := s.handlers ++ [h] }

/-- Is a request of that id being handled? -/
def isPending (s : Session) (id : Json) : Bool :=
  s.handlers.any fun (h : Handler) => h.id == some id

/-! The beginning. -/

def readFolder? (v : Json) : Option Folder :=
  match ((v.get? "uri").bind Json.text?).bind Uri.parse?, (v.get? "name").bind Json.text? with
  | some uri, some name => some ⟨uri, name⟩
  | _, _ => none

def readFolders (v : Option Json) : List Folder :=
  ((v.bind Json.items?).getD []).filterMap readFolder?

/-- The folders that the editor opens with: those it lists, or else its root. -/
def openingFolders (params : Json) : List Folder :=
  let root := ((params.get? "rootUri").bind Json.text?).bind Uri.parse?
  match params.get? "workspaceFolders", root with
  | some list, _ => readFolders (some list)
  | none, some root => [⟨root, root.lastSegment?.getD ""⟩]
  | none, none => []

/-- What the broker tells about itself. -/
def introduction : Json :=
  Json.object
    [("capabilities", capabilities),
      ("serverInfo", Json.object
        [("name", .str Platform.brokerName), ("version", .str Platform.brokerVersion)])]

/-- Settings come along with the greeting if they hold the broker's section. -/
def openingSettings? (params : Json) : Option Settings :=
  (params.get? "initializationOptions").bind fun options =>
    (options.get? Settings.sectionName).map fun _ => Settings.ofJson options

/-- The session begins. -/
def commence (s : Session) (params : Json) : Session :=
  let s := s.send (logMessage "LSP server initializing")
  let editor := { s.editor with folders := openingFolders params }
  let editor := match openingSettings? params with
    | some settings => (editor.setSettings settings).1
    | none => editor
  let canWatchFiles := ((params.path?
    ["capabilities", "workspace", "didChangeWatchedFiles", "dynamicRegistration"]).bind
      Json.bool?).getD false
  { s with editor, canWatchFiles, phase := .ready }.refresh

def greet (s : Session) (number : Nat) (m : Message) : Session :=
  if s.phase ≠ .fresh then s.answer number m.id (.error invalidRequest)
  else
    match m.id, m.params.bind Shape.greeting.read with
    | none, _ => s.respond number .nothing
    | some id, none => s.answer number (some id) (.error (.invalidParams "malformed parameters"))
    | some id, some params => (s.commence params).respond number (.answer id (.ok introduction))

/-! The end. -/

/-- A request is given up. A call that was handed over goes on, but is told so. -/
def abandon (s : Session) (h : Handler) : Session :=
  let broker := match h.stage with
    | .handedOver e _ _ => s.broker.cancelErrand e
    | stage => s.broker.forgetErrand stage.errand
  { s with broker, handlers := s.handlers.filter fun x => x.number ≠ h.number }.answer h.number h.id
    (.error canceled)

/-- What the editor tells of a request that it gives up. -/
def cancellation : Shape := .record [Shape.must "id" Shape.numberOrText]

/-- The editor gives up a request. -/
def cancel (s : Session) (number : Nat) (m : Message) : Session :=
  if m.id.isSome then s.answer number m.id (.error invalidRequest)
  else
    let given := match (m.params.bind cancellation.read).bind (·.get? "id") with
      | some id => s.handlers.filter fun (h : Handler) => h.id == some id
      | none => []
    (given.foldl abandon s).respond number .nothing

def exit (s : Session) (number : Nat) : Session :=
  let s := (s.handlers.filter fun (h : Handler) => h.id.isSome).foldl abandon s
  { s with phase := .exited }.respond number .nothing

/-- The error for a request that comes too early or too late. -/
def phaseError : Phase → RpcError
  | .fresh => notInitialized
  | _ => invalidRequest

/-- Begins to dispose of activations. -/
def sweep (s : Session) (number : Nat) (id : Option Json) (kind : Sweep) : Session :=
  let (broker, e) := s.broker.entrust (.sweep kind)
  { s with broker }.handle ⟨number, id, .sweeping e⟩

def shutDown (s : Session) (number : Nat) (m : Message) : Session :=
  if s.phase ≠ .ready then s.answer number m.id (.error (phaseError s.phase))
  else
    let s := { s with phase := .shutDown }
    match m.id, m.params with
    | none, _ => s.respond number .nothing
    | some id, params =>
      if s.isPending id then s.respond number (.answer id (.error invalidRequest))
      else if params.isSome then
        s.respond number (.answer id (.error (.invalidParams "unexpected parameters")))
      else s.sweep number (some id) .everything

/-! Calls and news. -/

/-- A call for a server. What names no document goes where the last call went. -/
def route (s : Session) (number : Nat) (id : Option Json) (method : Method) (params : Json) :
    Session :=
  let named := if method.isResolve then none else Method.document? params
  let document := named.orElse fun _ => s.lastDocument
  let (broker, e) := s.broker.entrust (.find document none)
  { s with broker, lastDocument := document }.handle ⟨number, id, .finding e method params⟩

/-- The name of the environment file to watch. -/
def watchedName (settings : Settings) : String :=
  match settings.envFile.bind fun p => (Path.ofString p).fileName? with
  | some name => Path.text ⟨name⟩
  | none => EnvFile.usualName

/-- The editor is ready: the first folder's server is started. -/
def warm (s : Session) : Session :=
  let s := s.send (logMessage "LSP server initialized")
  let s := if s.canWatchFiles then s.send (watchMessage (watchedName s.editor.settings)) else s
  let (broker, e) := s.broker.entrust (.find (s.editor.folders.head?.map (·.uri)) none)
  { s with broker, background := s.background ++ [e] }

/-- Folders are closed and opened. -/
def changeFolders (s : Session) (number : Nat) (params : Json) : Session :=
  let removed := readFolders (params.path? ["event", "removed"])
  let added := readFolders (params.path? ["event", "added"])
  let folders := Workspace.add (Workspace.remove s.editor.folders removed) added
  ({ s with editor := { s.editor with folders } }.refresh).sweep number none .folders

def announce (s : Session) (e : WorkspaceEvent) : Session := { s with broker := s.broker.hear e }

/-- Announces what follows from a change of settings. -/
def announceSettings (s : Session) (before : Settings) (given : Json) : Session :=
  let keys := (given.members?.getD []).map fun m => Settings.sectionName ++ "." ++ m.1
  let s := s.announce (.settings ⟨Settings.sectionName :: keys⟩)
  let s := if s.editor.settings.pythonPath ≠ before.pythonPath then s.announce .interpreter else s
  if s.editor.settings.envFile ≠ before.envFile then s.announce .environment else s

/-- Settings have changed, if they hold the broker's section. -/
def changeSettings (s : Session) (params : Json) : Session :=
  match params.path? ["settings", Settings.sectionName] with
  | none => s
  | some given =>
    match s.editor.setSettings (Settings.ofJson given) with
    | (_, false) => s
    | (editor, true) => ({ s with editor }.refresh).announceSettings s.editor.settings given

/-- Is a document the environment file of its folder? -/
def isEnvironmentFile (s : Session) (uri : Uri) : Bool :=
  let folder := Workspace.folderFor s.editor.folders (some uri)
  match uri.toPath?, EnvFile.path? s.editor.settings folder with
  | some path, some file => file.sameAs path
  | _, _ => false

/-- Files have changed. -/
def changeFiles (s : Session) (params : Json) : Session :=
  let changed := (((params.get? "changes").bind Json.items?).getD []).filterMap fun c =>
    ((c.get? "uri").bind Json.text?).bind Uri.parse?
  if changed.any s.isEnvironmentFile then s.announce .environment else s

/-- Does what the editor asks for. -/
def serve (s : Session) (number : Nat) (id : Option Json) (params : Json) : Duty → Session
  | .initialized => s.warm.respond number .nothing
  | .folders => s.changeFolders number params
  | .configuration => (s.changeSettings params).respond number .nothing
  | .watchedFiles => (s.changeFiles params).respond number .nothing
  | .route method => s.route number id method params
  | .unserved .. => s.answer number id (.error .methodNotFound)

/-- A message for a session that is ready. -/
def accept (s : Session) (number : Nat) (m : Message) (duty : Duty) : Session :=
  if s.phase ≠ .ready then s.answer number m.id (.error (phaseError s.phase))
  else if m.id.any s.isPending then s.answer number m.id (.error invalidRequest)
  else if m.id.isSome ∧ duty.isNotification then s.answer number m.id (.error invalidRequest)
  else if m.id.isNone ∧ ¬ duty.isNotification then s.respond number .nothing
  else
    match m.params.bind duty.params.read with
    | none => s.answer number m.id (.error (.invalidParams "malformed parameters"))
    | some params => s.serve number m.id params duty

/-- A method that the protocol does not know. -/
def refuse (s : Session) (number : Nat) (m : Message) : Session :=
  s.answer number m.id (.error (unknownMethod m.method))

/-- A message comes from the editor. -/
def receive (s : Session) (number : Nat) (m : Message) : Session :=
  if s.phase = .exited then s.respond number .exited
  else
    match m.method, Duty.ofName? m.method with
    | "initialize", _ => s.greet number m
    | "shutdown", _ => s.shutDown number m
    | "exit", _ => s.exit number
    | "$/cancelRequest", _ => s.cancel number m
    | _, some duty => s.accept number m duty
    | _, none => s.refuse number m

end Session

end LanguageBroker.Editor
