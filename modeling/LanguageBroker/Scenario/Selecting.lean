import LanguageBroker.Broker.Agent
import LanguageBroker.Scenario.Report
import LanguageBroker.Scenario.Steps
import LanguageBroker.Schedule

/-!
Scenarios of one broker whose callers come and go.
-/

namespace LanguageBroker.Scenario.Selecting

/-- What is written about an operation when it ends. -/
inductive Kind
  /-- The record that was found, which is kept for later. -/
  | record
  /-- Only a failure. -/
  | failure
  /-- Nothing at all. -/
  | nothing
  | scope
  | call
  | details (record : Record)
  | keys

/-- An operation that has not ended. -/
structure Pending where
  step : Nat
  kind : Kind
  errand : ErrandId

structure State where
  script : Script
  broker : Broker
  pending : List Pending := []
  /-- The records found, by the steps that asked for them. -/
  records : List (Nat × Record) := []
  /-- The managers written about, in the order in which they came up. -/
  numbered : List ManagerId := []
  done : List Completion := []

namespace State

/-- Gives a manager a number, if it has none. -/
def number (s : State) (m : ManagerId) : State :=
  if s.numbered.contains m then s else { s with numbered := s.numbered ++ [m] }

def recordMembers (s : State) (r : Record) : List (String × Json) :=
  [("variant", .str r.variant.name), ("manager", Json.ofNat (s.numbered.idxOf r.manager)),
    ("disposed", .bool (s.broker.isDisposed r.manager))]

/-- A record in words. -/
def shownRecord (s : State) (r : Record) : String :=
  let variant := match r.variant with
    | .simple => "Simple"
    | .fullA => "FullA"
    | .fullB => "FullB"
  "ActivationRecord \x7b variant: " ++ variant ++ ", disposed: "
    ++ (if s.broker.isDisposed r.manager then "true" else "false") ++ " \x7d"

def writeDetails (s : State) (r : Record) (server : Option BackendId) : Json :=
  let server := server.bind s.broker.site.backend?
  Json.object (s.recordMembers r ++
    [("instance", Json.ofOption (fun x => .str x.name.text) server),
      ("connected", Json.ofOption (fun x => .bool x.middleware.connected) server),
      ("debug", .str (s.shownRecord r))])

def writeScope (s : State) (scope : Scope) : Json :=
  Json.object
    [("resource", Json.ofOption (fun u => .str u.text) scope.resource),
      ("folder", writeFolder scope.folder),
      ("runtime", Json.object
        [("path", .str scope.interpreter.path),
          ("version", Json.ofOption .str scope.interpreter.version)]),
      ("key", .str scope.key.text), ("cached", .bool (s.broker.isCached scope.key))]

def writeKeys (keys : List ScopeKey) : Json := Json.ofStrings ((ScopeKey.sorted keys).map (·.text))

/-- What is written about the end of an operation. -/
def conclude (s : State) (p : Pending) (outcome : Errand.Outcome) : State × Json :=
  match p.kind, outcome with
  | .nothing, _ => (s, .null)
  | _, .failed cause => (s, writeActivationError cause)
  | .record, .found r =>
    let s := { s with
      records := (p.step, r) :: s.records
      broker := { s.broker with held := r.manager :: s.broker.held } }.number r.manager
    (s, Json.object (s.recordMembers r))
  | .scope, .located scope => (s, s.writeScope scope)
  | .call, .answered result => (s, writeCallResult result)
  | .details r, .running server =>
    let s := s.number r.manager
    (s, s.writeDetails r server)
  | .keys, .swept keys => (s, writeKeys keys)
  | _, _ => (s, .null)

def finish (s : State) (p : Pending) (outcome : Errand.Outcome) : State :=
  let (s, result) := s.conclude p outcome
  { s with
    pending := s.pending.filter fun q => q.step ≠ p.step
    done := s.done ++ [⟨p.step, s.broker.site.clock.now, result⟩] }

inductive Agent
  | broker (a : Broker.Agent)
  | operation (step : Nat)
  deriving DecidableEq

def pending? (s : State) (step : Nat) : Option Pending := s.pending.find? fun p => p.step = step

def isReady (s : State) : Agent → Bool
  | .broker a => s.broker.isReady a
  | .operation step => (s.pending? step).any fun p => s.broker.canAwaitErrand p.errand

def act (s : State) : Agent → State
  | .broker a => { s with broker := s.broker.act a }
  | .operation step =>
    match s.pending? step with
    | none => s
    | some p =>
      match s.broker.awaitErrand p.errand with
      | (broker, none) => { s with broker := broker.tidy }
      | (broker, some outcome) =>
        let s := { s with broker }.finish p outcome
        { s with broker := s.broker.tidy }

def deadline (s : State) : Agent → Option Deadline
  | .broker a => s.broker.deadline a
  | .operation step => (s.pending? step).bind fun p => s.broker.errandDeadline p.errand

def since (s : State) : Agent → Nat
  | .broker a => s.broker.since a
  | .operation step => ((s.pending? step).map fun p => s.broker.errandSince p.errand).getD 0

end State

def schedule : Schedule State State.Agent where
  agents s := s.broker.agents.map .broker ++ s.pending.map fun p => .operation p.step
  isReady := State.isReady
  act := State.act
  deadline := State.deadline
  since := State.since
  clock s := s.broker.clock
  setClock s clock := { s with broker := s.broker.setClock clock }

/-- Takes on an operation. -/
def undertake (s : State) (step : Nat) (task : Errand.Task) (kind : Kind) : State :=
  let (broker, e) := s.broker.entrust task
  { s with broker, pending := s.pending ++ [⟨step, kind, e⟩] }

/-- An operation on a record that an earlier step found. -/
def withRecord (s : State) (step : Nat) (v : Json) (k : Record → State) : State :=
  match ((v.get? "record").bind Json.nat?).bind fun n => s.records.lookup n with
  | some r => k r
  | none =>
    { s with done := s.done ++
        [⟨step, s.broker.site.clock.now, Json.object [("no_record", .bool true)]⟩] }

/-- The task of a step that names a resource. -/
def resourceTask? (v : Json) : Option (Errand.Task × Kind) :=
  let interpreter := (v.get? "runtime").bind readInterpreter
  match v.get? "get", v.get? "handle", v.get? "activate", v.get? "scope_for" with
  | some r, _, _, _ => some (.find (readUri r) interpreter, .record)
  | none, some r, _, _ => some (.prepare (readUri r) interpreter, .failure)
  | none, none, some r, _ => some (.find (readUri r) none, .nothing)
  | none, none, none, some r => some (.locate (readUri r) interpreter, .scope)
  | none, none, none, none => none

/-- The sweep that a step asks for. -/
def sweep? (v : Json) : Option (Sweep × Kind) :=
  if (v.get? "remove_stale_scopes").isSome then some (.folders, .keys)
  else if (v.get? "remove_stale_runtimes").isSome then some (.interpreters, .keys)
  else if (v.get? "dispose").isSome then some (.everything, .nothing)
  else none

def perform (s : State) (step : Nat) (v : Json) : State :=
  match CommonStep.ofJson? v with
  | some (.sleep n) => schedule.sleep n s
  | some (.script change) =>
    let script := s.script.update change
    { s with script, broker := { s.broker with site := rescript s.broker.site script } }
  | some (.events list) => { s with broker := list.foldl Broker.hear s.broker }
  | none =>
    match resourceTask? v, sweep? v, (textMember? "call" v).bind Method.ofName? with
    | some (task, kind), _, _ => undertake s step task kind
    | none, some (kind, written), _ => undertake s step (.sweep kind) written
    | none, none, some method =>
      withRecord s step v fun r =>
        undertake s step (.deliver r method (valueMember "params" v)) .call
    | none, none, none => withRecord s step v fun r => undertake s step (.inspect r) (.details r)

def step (s : State) (n : Nat) (v : Json) : State × Json :=
  let s := { s with done := [] }
  let after := schedule.rest (perform (schedule.tick s) n v)
  (after, Json.object
    (writeCompletions after.done ++ observations s.broker.site after.broker.site
      ++ [("keys", State.writeKeys after.broker.keys)]))

def run (v : Json) : Json :=
  let script := Script.ofJson v
  runSteps step { script, broker := { site := script.site } } (listMember "steps" v)

end LanguageBroker.Scenario.Selecting
