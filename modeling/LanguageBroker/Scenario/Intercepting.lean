import LanguageBroker.Middleware.Configuration
import LanguageBroker.Middleware.Findings
import LanguageBroker.Scenario.Addon
import LanguageBroker.Scenario.Report
import LanguageBroker.Scenario.Steps
import LanguageBroker.Schedule

/-!
Scenarios of one middleware whose server answers every call as the step that makes it says.
-/

namespace LanguageBroker.Scenario

def readConfigurationItem (v : Json) : ConfigurationItem :=
  ⟨(v.get? "scopeUri").bind readUri, textMember? "section" v⟩

/-- The editor's answer to questions about settings. -/
def readConfigurationAnswer (v : Json) : Except RpcError (List Json) :=
  match v with
  | .arr values => .ok values
  | v => .error (readRpcError (valueMember "error" v))

/-- A log line for what is to be seen of a passing call. -/
def sightLine (now : Time) : Passage.Sight → LogLine
  | .remark name method =>
    logLine now name name [("what", .str "addon"), ("method", .str method.name)]
  | .reached call =>
    logLine now "~backend" "~backend"
      ([("what", .str "terminal"), ("method", .str call.method.name), ("params", call.params)]
        ++ if call.cancelled then [("cancelled", .bool true)] else [])

namespace Intercepting

/-- A call that has not ended. -/
structure Pending where
  step : Nat
  passage : Passage
  delay : Nat
  reply : CallResult
  /-- Is its result kept to itself? -/
  isSilent : Bool

structure State where
  script : Script
  site : Site
  middleware : Middleware
  chain : List (Interceptor Flow)
  /-- Are answers about settings added to? -/
  augments : Bool
  pending : List Pending := []
  log : List LogLine := []
  done : List Completion := []
  /-- What the editor was asked. -/
  asked : List Json := []

namespace State

def finish (s : State) (p : Pending) (result : CallResult) : State :=
  let (middleware, event) := p.passage.leave s.middleware s.site.clock.now result
  let site := match event with
    | some e => s.site.emit e
    | none => s.site
  let written := if p.isSilent then .null else writeCallResult result
  { s with
    middleware, site
    pending := s.pending.filter fun q => q.step ≠ p.step
    done := s.done ++ [⟨p.step, s.site.clock.now, written⟩] }

def pending? (s : State) (step : Nat) : Option Pending := s.pending.find? fun p => p.step = step

def isReady (s : State) (step : Nat) : Bool :=
  (s.pending? step).any fun p => p.passage.result?.isSome || p.passage.canStep s.site.clock

def act (s : State) (step : Nat) : State :=
  match s.pending? step with
  | none => s
  | some p =>
    match p.passage.result? with
    | some result => s.finish p result
    | none =>
      let (passage, sight) := p.passage.step s.site.clock fun _ => (p.delay, p.reply)
      { s with
        pending := s.pending.map fun q => if q.step = step then { q with passage } else q
        log := s.log ++ (sight.map (sightLine s.site.clock.now)).toList }

end State

def schedule : Schedule State Nat where
  agents s := s.pending.map (·.step)
  isReady := State.isReady
  act := State.act
  deadline s step := (s.pending? step).bind (·.passage.due)
  clock s := s.site.clock
  setClock s clock := { s with site := { s.site with clock } }

/-- A call comes. -/
def enter (s : State) (step : Nat) (call : Call) (v : Json) (isSilent : Bool) : State :=
  { s with pending := s.pending ++
      [{ step, isSilent
         passage := .enter s.middleware s.chain s.site.clock.now call
         delay := natMember "delay_ms" v
         reply := readReply (valueMember "reply" v) }] }

/-- The step is over with that result. -/
def conclude (s : State) (step : Nat) (result : Json) : State :=
  { s with done := s.done ++ [⟨step, s.site.clock.now, result⟩] }

/-- A server publishes what it found in a document. -/
def publish (s : State) (step : Nat) (found v : Json) : State :=
  match Findings.read? found with
  | some params => enter s step { method := .publishDiagnostics, params } v true
  | none => conclude s step .null

/-- A server asks about settings. -/
def configure (s : State) (step : Nat) (items : List ConfigurationItem)
    (reply : Except RpcError (List Json)) : State :=
  let host := if s.augments then some fun _ => s.site.host else none
  let result := (Configuration.answer host items reply).map fun values => some (.arr values)
  { conclude s step (writeCallResult result) with
    asked := s.asked ++ [Json.object [("configuration", .arr (items.map (·.toJson)))]] }

def perform (s : State) (step : Nat) (v : Json) : State :=
  match CommonStep.ofJson? v with
  | some (.sleep n) => schedule.sleep n s
  | some (.script change) =>
    let script := s.script.update change
    { s with script, site := rescript s.site script }
  | some (.events _) => s
  | none =>
    let called := (textMember? "call" v).bind Method.ofName?
    match called, v.get? "diagnostics", v.get? "configuration" with
    | some method, _, _ =>
      enter s step
        { method, params := valueMember "params" v, cancelled := boolMember "cancelled" v } v false
    | none, some found, _ => publish s step found v
    | none, none, some items =>
      configure s step ((items.items?.getD []).map readConfigurationItem)
        (readConfigurationAnswer (valueMember "answer" v))
    | none, none, none =>
      match v.get? "version", v.get? "selector" with
      | some version, _ => { s with middleware := { s.middleware with version := version.text? } }
      | none, some selector =>
        { s with middleware := { s.middleware with selector := readSelector selector } }
      | none, none =>
        if (v.get? "connect").isSome then { s with middleware := s.middleware.connect }
        else { s with middleware := s.middleware.disconnect }

def step (s : State) (n : Nat) (v : Json) : State × Json :=
  let s := { s with log := [], done := [], asked := [] }
  let after := schedule.rest (perform (schedule.tick s) n v)
  (after, Json.object
    (writeCompletions after.done
      ++ (if after.log.isEmpty then [] else [("log", writeLog after.log)])
      ++ observations s.site after.site ++ listIfAny "host" after.asked
      ++ [("connected", .bool after.middleware.connected)]))

def run (v : Json) : Json :=
  let script := Script.ofJson v
  runSteps step
    { script
      site := script.site
      middleware :=
        { variant := readVariant (valueMember "variant" v)
          table := readTable (listMember "table" v)
          limits := readLimits (v.get? "limits") }
      chain := Addon.readChain v
      augments := boolMember "sources" v }
    (listMember "steps" v)

end Intercepting

end LanguageBroker.Scenario
