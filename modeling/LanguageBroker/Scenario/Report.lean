import LanguageBroker.Scenario.Writing
import LanguageBroker.Site

/-!
How what has happened at a site since the last report is written down.
-/

namespace LanguageBroker.Scenario

def writeOptions (o : Options) : Json :=
  Json.object
    [("selector", writeSelector o.selector), ("folder", writeFolder o.folder), ("init", o.payload)]

/-- What happened to a server, and the details. -/
def writeBackendEvent : BackendEvent → List (String × Json)
  | .create => [("what", .str "create")]
  | .start options => [("what", .str "start"), ("options", writeOptions options)]
  | .started => [("what", .str "started")]
  | .failed => [("what", .str "failed")]
  | .dispose => [("what", .str "dispose")]
  | .disposed => [("what", .str "disposed")]
  | .call method params => [("what", .str "call"), ("method", .str method.name), ("params", params)]
  | .cancelled method => [("what", .str "cancelled"), ("method", .str method.name)]
  | .dropped method => [("what", .str "dropped"), ("method", .str method.name)]

/-- One line of a log, and the names by which lines of one time are sorted. -/
structure LogLine where
  time : Time
  group : String
  json : Json

def LogLine.le (a b : LogLine) : Bool :=
  a.time < b.time || (a.time = b.time && decide (a.group ≤ b.group))

/-- A line of the log. -/
def logLine (time : Time) (who group : String) (members : List (String × Json)) : LogLine :=
  ⟨time, group, Json.object ([("t", Json.ofNat time), ("who", .str who)] ++ members)⟩

def writeHappening : Time × Happening → LogLine
  | (time, .asked variant key) =>
    let who := variant.name ++ "@" ++ key.text
    logLine time who who [("what", .str "ensure_available")]
  | (time, .backend name event) => logLine time name.text name.kind (writeBackendEvent event)

/-- Lines by time and then by who wrote them. -/
def writeLog (lines : List LogLine) : Json := .arr ((lines.mergeSort LogLine.le).map (·.json))

/-- A list member, left out when it is empty. -/
def listIfAny (key : String) (items : List Json) : List (String × Json) :=
  if items.isEmpty then [] else [(key, .arr items)]

def writeTimedEvent : Time × TelemetryEvent → Json
  | (time, e) => Json.object (eventMembers e ++ [("t", Json.ofNat time)])

/-- The observations between two states of a site. -/
def observations (before after : Site) : List (String × Json) :=
  let lines := (after.journal.drop before.journal.length).map writeHappening
  (if lines.isEmpty then [] else [("log", writeLog lines)])
    ++ listIfAny "telemetry" ((after.telemetry.drop before.telemetry.length).map writeTimedEvent)
    ++ listIfAny "prompts" ((after.prompts.drop before.prompts.length).map fun v => .str v.name)

/-- A call that has ended: the step that made it, when it ended, and its result. -/
structure Completion where
  step : Nat
  time : Time
  result : Json

/-- The calls that ended, in the order of the steps that made them. -/
def writeCompletions (done : List Completion) : List (String × Json) :=
  listIfAny "done" ((done.mergeSort fun a b => a.step ≤ b.step).map fun c =>
    Json.object [("id", Json.ofNat c.step), ("t", Json.ofNat c.time), ("result", c.result)])

end LanguageBroker.Scenario
