import LanguageBroker.Errand

/-!
The broker: the managers it made, its activations and the keys they are cached under, the simple
server that scopes share, the errands on their way, and the watch for changes of interpreters.
Here is what all its parts use; how activations and errands go on is told in modules of their own.
-/

namespace LanguageBroker

/-- Who waits for the shared simple server. -/
inductive Broker.Ticket
  | activation (a : ActivationId)
  | errand (e : ErrandId)
  deriving DecidableEq, Repr

/-- The watch for changes of interpreters. Every change leads to a sweep, one after the other. -/
structure InterpreterWatch where
  news : Inbox Unit := {}
  sweep : Option ErrandId := none

structure Broker where
  site : Site
  managers : List Manager := []
  activations : List Activation := []
  cache : List (ScopeKey × ActivationId) := []
  /-- The simple server in use. -/
  simple : Option Record := none
  /-- Who waits for the simple server, and before them who has got hold of it. -/
  simpleLine : List Broker.Ticket := []
  /-- Was the user told that a server is missing? -/
  prompted : Bool := false
  watch : Option InterpreterWatch := some {}
  errands : List Errand := []
  nextErrand : ErrandId := 0
  /-- The managers that somebody outside holds on to. -/
  held : List ManagerId := []

namespace Broker

/-! Managers and their jobs. -/

/-- Makes a manager. -/
def newManager (b : Broker) (variant : Variant) : Broker × ManagerId :=
  ({ b with managers := b.managers ++ [.new variant] }, b.managers.length)

/-- A job for a manager. -/
def ask (b : Broker) (m : ManagerId) (task : Job.Task) : Broker × JobId :=
  match b.managers[m]? with
  | none => (b, 0)
  | some x =>
    let (x, j) := x.ask task
    ({ b with managers := b.managers.set m x }, j)

/-- A manager does one of its duties. -/
def stepManager (b : Broker) (m : ManagerId) (duty : Manager.Duty) : Broker :=
  match b.managers[m]? with
  | none => b
  | some x =>
    let (x, site) := x.act b.site duty
    { b with managers := b.managers.set m x, site }

def outcome? (b : Broker) (m : ManagerId) (j : JobId) : Option Job.Outcome :=
  (b.managers[m]?).bind (·.outcome? j)

/-- Can whoever waits for a job go on? -/
def canAwait (b : Broker) (m : ManagerId) (j : JobId) : Bool :=
  match b.managers[m]? with
  | none => false
  | some x => (x.outcome? j).isSome || x.isMoving b.site.clock j

/-- Forgets a job, also one that is not done. -/
def forgetJob (b : Broker) (m : ManagerId) (j : JobId) : Broker :=
  { b with managers := b.managers.modify m fun x => x.forget j }

/-- Takes a job one step further, or puts it away when it is done. -/
def await (b : Broker) (m : ManagerId) (j : JobId) : Broker × Option Job.Outcome :=
  match b.outcome? m j with
  | some outcome => (b.forgetJob m j, some outcome)
  | none => (b.stepManager m (.job j), none)

def jobDeadline (b : Broker) (job : ManagerId × JobId) : Option Deadline :=
  (b.managers[job.1]?).bind (·.jobDeadline job.2)

def isDisposed (b : Broker) (m : ManagerId) : Bool :=
  match b.managers[m]? with
  | some x => x.disposed
  | none => true

/-! Activations and the cache. -/

/-- Puts an activation at a stage. -/
def putActivation (b : Broker) (a : ActivationId) (stage : Activation.Stage) : Broker :=
  { b with activations := b.activations.modify a fun x => { x with stage } }

/-- The end of an activation is seen. -/
def observe (b : Broker) (a : ActivationId) : Broker :=
  { b with activations := b.activations.modify a fun x => { x with observed := true } }

def result? (b : Broker) (a : ActivationId) : Option (Except ActivationError Record) :=
  (b.activations[a]?).bind (·.result?)

/-- The record of an activation that succeeded. -/
def record? (b : Broker) (a : ActivationId) : Option Record := (b.activations[a]?).bind (·.record?)

/-- The cached keys, sorted. -/
def keys (b : Broker) : List ScopeKey := ScopeKey.sorted (b.cache.map (·.1))

def isCached (b : Broker) (key : ScopeKey) : Bool := (b.cache.lookup key).isSome

/-- The activation for a scope: the cached one, or a new one. -/
def entry (b : Broker) (scope : Scope) : Broker × ActivationId :=
  match b.cache.lookup scope.key with
  | some a => (b, a)
  | none =>
    let a := b.activations.length
    ({ b with
        activations := b.activations ++ [{ scope }]
        cache := b.cache ++ [(scope.key, a)] }, a)

/-- Takes keys out of the cache. -/
def evict (b : Broker) (stale : List ScopeKey) : Broker :=
  { b with cache := b.cache.filter fun c => ! stale.contains c.1 }

/-- Does an activation whose end was seen and that is still cached use the manager? -/
def isInUse (b : Broker) (m : ManagerId) : Bool :=
  b.cache.any fun c =>
    match b.activations[c.2]? with
    | some a => a.observed && a.record?.any fun r => r.manager = m
    | none => false

/-! The shared simple server. -/

/-- Joins the line for the simple server. -/
def joinLine (b : Broker) (t : Ticket) : Broker := { b with simpleLine := b.simpleLine ++ [t] }

/-- Lets go of the simple server, or of one's place in the line. -/
def leaveLine (b : Broker) (t : Ticket) : Broker :=
  { b with simpleLine := b.simpleLine.filter (· ≠ t) }

def isFirst (b : Broker) (t : Ticket) : Bool := b.simpleLine.head? == some t

/-! Errands. -/

def errand? (b : Broker) (e : ErrandId) : Option Errand := b.errands.find? fun x => x.id = e

/-- Takes on an errand. -/
def entrust (b : Broker) (task : Errand.Task) : Broker × ErrandId :=
  ({ b with
      errands := b.errands ++ [{ id := b.nextErrand, task }]
      nextErrand := b.nextErrand + 1 }, b.nextErrand)

/-- Puts an errand at a stage. -/
def putErrand (b : Broker) (e : ErrandId) (stage : Errand.Stage) : Broker :=
  { b with
    errands := b.errands.map fun x =>
      if x.id = e then { x with stage, since := b.site.clock.steps } else x }

def finish (b : Broker) (e : ErrandId) (outcome : Errand.Outcome) : Broker :=
  b.putErrand e (.done outcome)

/-- How an errand has ended. -/
def errandOutcome? (b : Broker) (e : ErrandId) : Option Errand.Outcome :=
  match b.errand? e with
  | some { stage := .done outcome, .. } => some outcome
  | _ => none

/-- Forgets an errand, also one that is not done. -/
def forgetErrand (b : Broker) (e : ErrandId) : Broker :=
  let b := match (b.errand? e).bind (·.stage.job?) with
    | some (m, j) => b.forgetJob m j
    | none => b
  { b.leaveLine (.errand e) with errands := b.errands.filter fun x => x.id ≠ e }

/-- The caller gives an errand up. A call on its way is told so. -/
def cancelErrand (b : Broker) (e : ErrandId) : Broker :=
  { b with errands := b.errands.map fun x => if x.id = e then { x with cancelled := true } else x }

/-! Managers that nobody can reach any more stop watching their surroundings. -/

/-- Does an activation hold on to a manager? One that has ended does so while it is cached or
waited for. -/
def isHeldBy (b : Broker) (m : ManagerId) (a : ActivationId) : Bool :=
  match b.activations[a]? with
  | none => false
  | some x =>
    match x.stage with
    | .settled (.ok record) =>
      record.manager = m && (b.cache.any (fun c => c.2 = a)
        || b.errands.any fun e => e.stage.activations.contains a)
    | .concluding (.ok record) => record.manager = m
    | stage => stage.job?.any fun job => job.1 = m

def isReachable (b : Broker) (m : ManagerId) : Bool :=
  b.held.contains m || b.simple.any (fun r => r.manager = m)
    || b.errands.any (fun e => e.managers.contains m)
    || (List.range b.activations.length).any (b.isHeldBy m)

/-- Silences the managers out of reach. A manager at work is silenced when it has ended. -/
def tidy (b : Broker) : Broker :=
  { b with
    managers := b.managers.zipIdx.map fun x =>
      if x.1.jobs.isEmpty && ! b.isReachable x.2 then x.1.silence else x.1 }

/-- Hears an announcement of the surroundings. -/
def hear (b : Broker) (e : WorkspaceEvent) : Broker :=
  { b with
    managers := b.managers.map (·.hear e)
    watch := b.watch.map fun w =>
      match e with
      | .interpreter => { w with news := w.news.push WorkspaceEvent.capacity () }
      | _ => w }

end Broker

end LanguageBroker
