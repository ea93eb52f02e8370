import LanguageBroker.Editor.Agent
import LanguageBroker.Scenario.Report
import LanguageBroker.Scenario.Steps
import LanguageBroker.Schedule

/-!
Scenarios of a broker and its editor.
-/

namespace LanguageBroker.Scenario

/-- Error messages of these codes are not written. -/
def isWordless (code : Int) : Bool := code = -32603 || code = -32602

def writeEditorError (e : RpcError) : Json :=
  Json.objectOfSome
    [("code", some (.int e.code)),
      ("message", if isWordless e.code then none else some (.str e.message)), ("data", e.data)]

def writeResponse : Editor.Response → Json
  | .nothing => .null
  | .answer id (.ok v) => Json.object [Connection.versionMember, ("id", id), ("result", v)]
  | .answer id (.error e) =>
    Json.object [Connection.versionMember, ("id", id), ("error", writeEditorError e)]
  | .exited => Json.object [("error", .str "Exited")]

namespace Editing

structure State where
  script : Script
  session : Editor.Session

/-- The script, with folders and settings as the editor has reported them. -/
def surroundings (script : Script) (editor : EditorState) : Host :=
  { script.host with folders := editor.folders, settings := fun _ => editor.settings }

/-- The schedule of any session. -/
def sessionSchedule : Schedule Editor.Session Editor.Session.Agent where
  agents := Editor.Session.agents
  isReady := Editor.Session.isReady
  act := Editor.Session.act
  deadline := Editor.Session.deadline
  since := Editor.Session.since
  clock s := s.broker.clock
  setClock s clock := { s with broker := s.broker.setClock clock }

def perform (s : State) (step : Nat) (v : Json) : State :=
  match CommonStep.ofJson? v with
  | some (.sleep n) => { s with session := sessionSchedule.sleep n s.session }
  | some (.script change) =>
    let script := s.script.update change
    let broker := { s.session.broker with site := rescript s.session.broker.site script }
    { script
      session := { s.session with broker, surroundings := surroundings script }.refresh }
  | some (.events list) => { s with session := list.foldl Editor.Session.announce s.session }
  | none =>
    match (v.get? "send").bind Editor.Message.ofJson? with
    | some m => { s with session := s.session.receive step m }
    | none => s

def step (s : State) (n : Nat) (v : Json) : State × Json :=
  let before := { s.session with responses := [], sent := [] }
  let s := perform { s with session := sessionSchedule.tick before } n v
  let session := sessionSchedule.rest s.session
  let done := session.responses.map fun r => ⟨r.1, r.2.1, writeResponse r.2.2⟩
  ({ s with session }, Json.object
    (writeCompletions done ++ observations before.broker.site session.broker.site
      ++ listIfAny "client" session.sent
      ++ [("keys", Json.ofStrings (session.broker.keys.map (·.text)))]))

def run (v : Json) : Json :=
  let script := Script.ofJson v
  let editor : EditorState := { settings := script.settings }
  let session : Editor.Session :=
    { broker := { site := script.site }, editor, surroundings := surroundings script }
  runSteps step { script, session := session.refresh } (listMember "steps" v)

end Editing

end LanguageBroker.Scenario
