import LanguageBroker.Provider
import LanguageBroker.Site

/-!
The life of the one server of a scope. Starting, restarting, disposing of and asking for the server
are jobs that take turns on one slot, in the order in which they come for it; the one at the head
of the line has it. Changes of the options are gathered and lead to one restart.

A job goes from stage to stage. Between two stages anything else may happen, so every stage looks
again at what may have changed.
-/

namespace LanguageBroker

/-- A job's number. Zero is the restart that changes of the options lead to. -/
abbrev JobId := Nat

/-- What a job is to do. -/
inductive Job.Task
  | start (scope : Scope)
  | restart
  | lookUp
  | dispose
  deriving DecidableEq, Repr

/-- How a job has ended. -/
inductive Job.Outcome
  | finished
  | failed (cause : ManagerError)
  /-- The server in the slot. -/
  | found (backend : Option BackendId)
  deriving DecidableEq, Repr

/-- How far a job has come. -/
inductive Job.Stage
  /-- Nothing is done yet. -/
  | fresh
  /-- A first start binds the options to its scope. -/
  | binding (scope : Scope)
  /-- Waits for the slot, or has just got it. -/
  | queued
  /-- The server in the slot shuts down before its successor is made. -/
  | retiring (backend : BackendId) (due : Deadline)
  /-- The options are worked out and a server is made. -/
  | launching (scope : Scope)
  | starting (backend : BackendId) (due : Deadline) (options : Options)
  /-- A server that did not start shuts down. -/
  | discarding (backend : BackendId) (due : Deadline) (cause : ManagerError)
  /-- A server that is not wanted any more shuts down. -/
  | withdrawing (backend : BackendId) (due : Deadline)
  | done (outcome : Job.Outcome)

/-- The time that a stage waits for. -/
def Job.Stage.deadline : Job.Stage → Option Deadline
  | .retiring _ due | .starting _ due _ | .discarding _ due _ | .withdrawing _ due => some due
  | _ => none

structure Job where
  id : JobId
  task : Job.Task
  stage : Job.Stage := .fresh

structure Manager where
  variant : Variant
  started : Bool := false
  disposed : Bool := false
  scope : Option Scope := none
  provider : Provider
  /-- Announced changes of the options that were not passed on yet. -/
  changes : Option (Inbox Unit) := none
  /-- Gathers changes. There is one from the first start to the disposal. -/
  restarter : Option Debouncer := none
  /-- The jobs that wait for the slot, and before them the one that has it. -/
  line : List JobId := []
  slot : Option BackendId := none
  jobs : List Job := []
  nextJob : JobId := 1

namespace Manager

def new (variant : Variant) : Manager := { variant, provider := { variant } }

def job? (m : Manager) (j : JobId) : Option Job := m.jobs.find? fun x => x.id = j

/-- The restart that changes lead to. -/
def restartJob : JobId := 0

/-- Puts a job at a stage. -/
def put (m : Manager) (j : JobId) (stage : Job.Stage) : Manager :=
  { m with jobs := m.jobs.map fun x => if x.id = j then { x with stage } else x }

/-- Sends a job for the slot. -/
def enqueue (m : Manager) (j : JobId) : Manager := { m with line := m.line ++ [j] }

/-- Takes a job out of the line. -/
def leave (m : Manager) (j : JobId) : Manager := { m with line := m.line.filter (· ≠ j) }

/-- Ends a job and lets the next one have the slot. -/
def finish (m : Manager) (j : JobId) (outcome : Job.Outcome) : Manager :=
  (m.leave j).put j (.done outcome)

/-- Takes on a job. -/
def ask (m : Manager) (task : Job.Task) : Manager × JobId :=
  ({ m with jobs := m.jobs ++ [{ id := m.nextJob, task }], nextJob := m.nextJob + 1 }, m.nextJob)

/-- Forgets a job, also one that is not done. -/
def forget (m : Manager) (j : JobId) : Manager :=
  { m.leave j with jobs := m.jobs.filter fun x => x.id ≠ j }

/-- How a job has ended. -/
def outcome? (m : Manager) (j : JobId) : Option Job.Outcome :=
  match m.job? j with
  | some { stage := .done outcome, .. } => some outcome
  | _ => none

/-- Asks for a restart after a time of rest. Without a start it means nothing. -/
def restart (m : Manager) (clock : Clock) : Manager :=
  { m with restarter := m.restarter.map (·.trigger clock) }

/-- So many changes wait to be passed on. -/
def changeCapacity : Nat := 16

/-- Announces changes of the options. -/
def announce (m : Manager) (count : Nat) : Manager :=
  { m with
    changes := m.changes.map fun b =>
      (List.replicate count ()).foldl (Inbox.push changeCapacity) b }

/-- Hears an announcement of the surroundings. -/
def hear (m : Manager) (e : WorkspaceEvent) : Manager := { m with provider := m.provider.hear e }

/-- Stops everything that runs without a job. A restart on its way goes on. -/
def silence (m : Manager) : Manager :=
  { m with provider := m.provider.dispose, changes := none, restarter := none }

/-- Can a job take its next step? -/
def canStep (m : Manager) (clock : Clock) (job : Job) : Bool :=
  match job.stage with
  | .fresh | .binding _ | .launching _ => true
  | .queued => m.line.head? == some job.id
  | .retiring _ due | .starting _ due _ | .discarding _ due _ | .withdrawing _ due =>
    clock.reached due
  | .done _ => false

/-- A job that has not begun takes its first step. -/
def beginJob (m : Manager) (s : Site) (job : Job) : Manager × Site :=
  match job.task with
  | .start scope =>
    if m.disposed then (m.finish job.id (.failed .disposed), s)
    else if m.started then (m.finish job.id (.failed .alreadyStarted), s)
    else ({ m with started := true, scope := some scope }.put job.id (.binding scope), s)
  | .restart => ((m.enqueue job.id).put job.id .queued, s)
  | .lookUp => ((m.enqueue job.id).put job.id .queued, s)
  | .dispose =>
    if m.disposed then (m.finish job.id .finished, s)
    else (({ m.silence with disposed := true }.enqueue job.id).put job.id .queued, s)

/-- A first start binds the options and goes for the slot. -/
def bindOptions (m : Manager) (s : Site) (job : Job) (scope : Scope) : Manager × Site :=
  match m.provider.bindScope s.host scope with
  | (provider, .error e) => ({ m with provider }.finish job.id (.failed (.options e)), s)
  | (provider, .ok ()) =>
    let m := { m with
      provider, changes := some {}, restarter := some ⟨s.host.quietTime, .idle⟩ }
    ((m.enqueue job.id).put job.id .queued, s)

/-- A job has got the slot. -/
def enter (m : Manager) (s : Site) (job : Job) : Manager × Site :=
  match job.task with
  | .start scope => (m.put job.id (.launching scope), s)
  | .restart =>
    if m.disposed then (m.finish job.id .finished, s)
    else match m.scope, m.slot with
      | none, _ => (m.finish job.id .finished, s)
      | some scope, none => (m.put job.id (.launching scope), s)
      | some _, some b =>
        let (s, due) := s.beginDispose b
        ({ m with slot := none }.put job.id (.retiring b due), s)
  | .lookUp => (m.finish job.id (.found m.slot), s)
  | .dispose =>
    match m.slot with
    | none => (m.finish job.id .finished, s)
    | some b =>
      let (s, due) := s.beginDispose b
      (({ m with slot := none }.leave job.id).put job.id (.withdrawing b due), s)

/-- Works out the options, makes a server and starts it. -/
def launch (m : Manager) (s : Site) (job : Job) (scope : Scope) : Manager × Site :=
  match m.provider.options s.host with
  | (provider, .error e) => ({ m with provider }.finish job.id (.failed (.options e)), s)
  | (provider, .ok options) =>
    let m := { m with provider }
    match s.create m.variant scope with
    | (s, .error e) => (m.finish job.id (.failed (.backend e)), s)
    | (s, .ok b) =>
      let (s, due) := s.beginStart b options
      (m.put job.id (.starting b due options), s)

/-- A server has come up or has failed to. -/
def arrive (m : Manager) (s : Site) (job : Job) (b : BackendId) (options : Options) :
    Manager × Site :=
  match s.endStart b options with
  | (s, .error e) =>
    let (s, due) := s.beginDispose b
    (m.put job.id (.discarding b due (.backend e)), s)
  | (s, .ok ()) =>
    if m.disposed then
      let (s, due) := s.beginDispose b
      (m.put job.id (.withdrawing b due), s)
    else ({ m with slot := some b }.finish job.id .finished, s)

/-- A job whose server was not wanted any more is over. -/
def withdrawn (m : Manager) (job : Job) : Manager :=
  match job.task with
  | .dispose => m.finish job.id .finished
  | _ => m.finish job.id (.failed .disposed)

/-- A job takes its next step. -/
def stepJob (m : Manager) (s : Site) (job : Job) : Manager × Site :=
  match job.stage with
  | .fresh => m.beginJob s job
  | .binding scope => m.bindOptions s job scope
  | .queued => m.enter s job
  | .retiring b _ =>
    match m.scope with
    | some scope => (m.put job.id (.launching scope), s.endDispose b)
    | none => (m.finish job.id .finished, s.endDispose b)
  | .launching scope => m.launch s job scope
  | .starting b _ options => m.arrive s job b options
  | .discarding b _ cause => (m.finish job.id (.failed cause), s.endDispose b)
  | .withdrawing b _ => (m.withdrawn job, s.endDispose b)
  | .done _ => (m, s)

/-- What a manager does on its own or for somebody who waits. -/
inductive Duty
  | options (duty : Provider.Duty)
  /-- Passes changes of the options on. -/
  | forward
  /-- Restarts when changes have rested. -/
  | restart
  | job (id : JobId)
  deriving DecidableEq, Repr

/-- The duties that are not jobs. -/
def duties : List Duty :=
  [.options .listen, .restart, .forward, .options .checkSettings, .options .checkEnvironment]

/-- Is a job done, or can it take a step? -/
def isMoving (m : Manager) (clock : Clock) (j : JobId) : Bool :=
  match m.job? j with
  | some job => m.canStep clock job
  | none => false

/-- Is there something to do? -/
def isReady (m : Manager) (clock : Clock) : Duty → Bool
  | .options duty => m.provider.isReady clock duty
  | .forward => match m.changes with
    | some b => !b.isEmpty
    | none => false
  | .restart =>
    match m.job? restartJob with
    | some job => m.canStep clock job || (m.outcome? restartJob).isSome
    | none => m.restarter.any (·.isDue clock)
  | .job j => m.isMoving clock j

/-- Begins a restart that is due, takes it further, or puts it away. -/
def stepRestart (m : Manager) (s : Site) : Manager × Site :=
  match m.job? restartJob with
  | none =>
    ({ m with
        restarter := m.restarter.map (·.startRun)
        jobs := m.jobs ++ [{ id := restartJob, task := .restart }] }, s)
  | some job =>
    match job.stage with
    | .done _ =>
      ({ m.forget restartJob with restarter := m.restarter.map (·.finish s.clock) }, s)
    | _ => m.stepJob s job

/-- Does it. -/
def act (m : Manager) (s : Site) : Duty → Manager × Site
  | .options duty =>
    let (provider, count) := m.provider.act s.host s.clock duty
    ({ m with provider }.announce count, s)
  | .forward => ({ m.restart s.clock with changes := m.changes.map fun _ => {} }, s)
  | .restart => m.stepRestart s
  | .job j =>
    match m.job? j with
    | some job => m.stepJob s job
    | none => (m, s)

/-- The time that a job waits for. -/
def jobDeadline (m : Manager) (j : JobId) : Option Deadline :=
  (m.job? j).bind (·.stage.deadline)

/-- The time that a duty waits for. -/
def deadline (m : Manager) : Duty → Option Deadline
  | .options duty => m.provider.deadline duty
  | .forward => none
  | .restart =>
    match m.job? restartJob with
    | some _ => m.jobDeadline restartJob
    | none => m.restarter.bind (·.due?)
  | .job j => m.jobDeadline j

end Manager

end LanguageBroker
