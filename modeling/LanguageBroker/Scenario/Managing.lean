import LanguageBroker.Delivery
import LanguageBroker.Manager
import LanguageBroker.Scenario.Report
import LanguageBroker.Scenario.Steps
import LanguageBroker.Schedule

/-!
Scenarios of one manager.
-/

namespace LanguageBroker.Scenario.Managing

/-- What is written about an operation when it ends. -/
inductive Kind
  | plain
  | inspect
  | call (method : Method) (params : Json)

/-- What an operation waits for. -/
inductive Wait
  | job (j : JobId)
  | server (d : Delivery)

/-- An operation that has not ended. -/
structure Pending where
  step : Nat
  kind : Kind
  wait : Wait

structure State where
  script : Script
  site : Site
  manager : Manager
  pending : List Pending := []
  done : List Completion := []

namespace State

def finish (s : State) (p : Pending) (result : Json) : State :=
  { s with
    pending := s.pending.filter fun q => q.step ≠ p.step
    done := s.done ++ [⟨p.step, s.site.clock.now, result⟩] }

/-- Lets an operation wait for something else. -/
def await (s : State) (p : Pending) (wait : Wait) : State :=
  { s with pending := s.pending.map fun q => if q.step = p.step then { q with wait } else q }

def writeInstance (s : State) (b : Option BackendId) : Json :=
  match b.bind s.site.backend? with
  | none => .null
  | some x =>
    Json.object
      [("instance", .str x.name.text), ("variant", .str x.name.variant.name),
        ("connected", .bool x.middleware.connected)]

/-- The job of an operation is done. -/
def conclude (s : State) (p : Pending) (outcome : Job.Outcome) : State :=
  match p.kind, outcome with
  | .plain, .failed e => s.finish p (writeManagerError e)
  | .plain, _ => s.finish p .null
  | .inspect, .found b => s.finish p (s.writeInstance b)
  | .inspect, _ => s.finish p .null
  | .call method params, .found (some b) =>
    match s.site.beginCall b method params with
    | (site, .inl result) => { s with site }.finish p (writeCallResult result)
    | (site, .inr d) => { s with site }.await p (.server d)
  | .call .., _ => s.finish p (Json.object [("no_instance", .bool true)])

inductive Agent
  | duty (d : Manager.Duty)
  | operation (step : Nat)
  deriving DecidableEq

def pending? (s : State) (step : Nat) : Option Pending := s.pending.find? fun p => p.step = step

def isReady (s : State) : Agent → Bool
  | .duty d => s.manager.isReady s.site.clock d
  | .operation step =>
    match s.pending? step with
    | some { wait := .job j, .. } =>
      s.manager.isMoving s.site.clock j || (s.manager.outcome? j).isSome
    | some { wait := .server d, .. } => s.site.clock.reached d.due
    | none => false

def deadline (s : State) : Agent → Option Deadline
  | .duty d => s.manager.deadline d
  | .operation step =>
    match s.pending? step with
    | some { wait := .job j, .. } => s.manager.jobDeadline j
    | some { wait := .server d, .. } => some d.due
    | none => none

def act (s : State) : Agent → State
  | .duty d =>
    let (manager, site) := s.manager.act s.site d
    { s with manager, site }
  | .operation step =>
    match s.pending? step with
    | some p =>
      match p.wait with
      | .job j =>
        match s.manager.outcome? j with
        | some outcome => { s with manager := s.manager.forget j }.conclude p outcome
        | none =>
          let (manager, site) := s.manager.act s.site (.job j)
          { s with manager, site }
      | .server d =>
        let (site, result) := s.site.endCall d
        { s with site }.finish p (writeCallResult result)
    | none => s

end State

def schedule : Schedule State State.Agent where
  agents s := Manager.duties.map .duty ++ s.pending.map fun p => .operation p.step
  isReady := State.isReady
  act := State.act
  deadline := State.deadline
  clock s := s.site.clock
  setClock s clock := { s with site := { s.site with clock } }

/-- Takes on an operation. -/
def undertake (s : State) (step : Nat) (task : Job.Task) (kind : Kind) : State :=
  let (manager, j) := s.manager.ask task
  { s with manager, pending := s.pending ++ [⟨step, kind, .job j⟩] }

def perform (s : State) (step : Nat) (v : Json) : State :=
  match CommonStep.ofJson? v with
  | some (.sleep n) => schedule.sleep n s
  | some (.script change) =>
    let script := s.script.update change
    { s with script, site := rescript s.site script }
  | some (.events list) => { s with manager := list.foldl Manager.hear s.manager }
  | none =>
    match v.get? "start", (v.get? "call").bind (·.text?) with
    | some scope, _ => undertake s step (.start (readScope scope)) .plain
    | none, some name =>
      match Method.ofName? name with
      | some method => undertake s step .lookUp (.call method (valueMember "params" v))
      | none => s
    | none, none =>
      if (v.get? "restart_now").isSome then undertake s step .restart .plain
      else if (v.get? "dispose").isSome then undertake s step .dispose .plain
      else if (v.get? "instance").isSome then undertake s step .lookUp .inspect
      else { s with manager := s.manager.restart s.site.clock }

def step (s : State) (n : Nat) (v : Json) : State × Json :=
  let s := { s with done := [] }
  let after := schedule.rest (perform (schedule.tick s) n v)
  (after, Json.object
    (writeCompletions after.done ++ observations s.site after.site
      ++ [("disposed", .bool after.manager.disposed)]))

def run (v : Json) : Json :=
  let script := Script.ofJson v
  runSteps step
    { script, site := script.site, manager := .new (readVariant (valueMember "variant" v)) }
    (listMember "steps" v)

end LanguageBroker.Scenario.Managing
