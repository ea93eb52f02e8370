import LanguageBroker.Broker

/-!
How an errand goes on. A sweep first takes the keys that are out of date out of the cache, then
waits for the evicted activations and disposes of what they found, each manager once. The shared
simple server is spared while another cached activation uses it.
-/

namespace LanguageBroker.Broker

/-- The scope of a resource, bound to the given interpreter or else to the active one. -/
def locate (h : Host) (resource : Option Uri) (interpreter : Option Interpreter) :
    Except ActivationError Scope :=
  let bound (i : Interpreter) : Scope := ⟨resource, h.folderFor resource, i⟩
  match interpreter with
  | some i => .ok (bound i)
  | none =>
    match h.interpreter resource with
    | .error reason => .error (.interpreter reason)
    | .ok none => .error (.noInterpreter ((resource.map Uri.text).getD ""))
    | .ok (some i) => .ok (bound i)

/-- Does a key name a folder that is not open? -/
def isClosed (folders : List Folder) (key : ScopeKey) : Bool :=
  !key.folder.isEmpty && folders.all fun f => f.uri.text != key.folder

/-- Takes keys out of the cache and goes on to their activations. -/
def beginEviction (b : Broker) (e : ErrandId) (stale : List ScopeKey) : Broker :=
  let present := stale.filter b.isCached
  let entries := present.filterMap fun key => b.cache.lookup key
  (b.evict present).putErrand e (.gathering entries [] present)

/-- An errand's first step. -/
def beginErrand (b : Broker) (e : ErrandId) : Errand.Task → Broker
  | .locate resource interpreter =>
    match locate b.site.host resource interpreter with
    | .error cause => b.finish e (.failed cause)
    | .ok scope => b.finish e (.located scope)
  | .prepare resource interpreter =>
    match locate b.site.host resource interpreter with
    | .error cause => b.finish e (.failed cause)
    | .ok scope =>
      let (b, a) := b.entry scope
      b.finish e (.prepared a)
  | .find resource interpreter =>
    match locate b.site.host resource interpreter with
    | .error cause => b.finish e (.failed cause)
    | .ok scope =>
      let (b, a) := b.entry scope
      b.putErrand e (.awaiting a)
  | .deliver record _ _ | .inspect record =>
    let (b, j) := b.ask record.manager .lookUp
    b.putErrand e (.asking record.manager j)
  | .sweep .folders => b.beginEviction e (b.keys.filter (isClosed b.site.host.folders))
  | .sweep .interpreters => b.putErrand e (.surveying b.keys [] [])
  | .sweep .everything =>
    let b := match b.watch.bind (·.sweep) with
      | some sweep => b.forgetErrand sweep
      | none => b
    { b with watch := none }.beginEviction e b.keys

/-- The path of the interpreter that is active for a folder; nothing where that cannot be found
out. -/
def activePath (h : Host) (folder : String) : Option String :=
  match h.interpreter (Uri.parse? folder) with
  | .ok interpreter => interpreter.map (·.path)
  | .error _ => none

/-- A sweep looks at one key. It is out of date if its folder has another interpreter now. -/
def survey (b : Broker) (e : ErrandId) (key : ScopeKey) (left : List ScopeKey)
    (active : List (String × Option String)) (stale : List ScopeKey) : Broker :=
  let active := match active.lookup key.folder with
    | some _ => active
    | none => (key.folder, activePath b.site.host key.folder) :: active
  let stale := match (active.lookup key.folder).bind id with
    | some current => if current ≠ key.interpreter then stale ++ [key] else stale
    | none => stale
  b.putErrand e (.surveying left active stale)

/-- What an evicted activation found is added, unless another one found the same. -/
def gather (b : Broker) (a : ActivationId) (records : List Record) : List Record :=
  match b.record? a with
  | some record =>
    if records.any fun r => r.manager = record.manager then records else records ++ [record]
  | none => records

/-- A manager is to be disposed of. -/
def beginDisposal (b : Broker) (e : ErrandId) (m : ManagerId) (left : List Record)
    (evicted : List ScopeKey) : Broker :=
  let (b, j) := b.ask m .dispose
  b.putErrand e (.disposing m j left evicted)

/-- A sweep turns to what an evicted activation found. -/
def release (b : Broker) (e : ErrandId) (record : Record) (left : List Record)
    (evicted : List ScopeKey) : Broker :=
  if record.variant = .simple then
    if b.isInUse record.manager then b.putErrand e (.releasing left evicted)
    else (b.joinLine (.errand e)).putErrand e (.queuedSimple record left evicted)
  else b.beginDisposal e record.manager left evicted

/-- The simple server is not the shared one any more, and can be disposed of. -/
def dropSimple (b : Broker) (e : ErrandId) (record : Record) : Broker :=
  { b.leaveLine (.errand e) with
    simple := b.simple.filter fun r => r.manager ≠ record.manager }

/-- The manager has told its server. -/
def reach (b : Broker) (e : ErrandId) (server : Option BackendId) : Errand.Task → Broker
  | .deliver _ method params =>
    match server with
    | none => b.finish e (.answered (.ok none))
    | some server =>
      match b.site.beginCall server method params with
      | (site, .inl result) => { b with site }.finish e (.answered result)
      | (site, .inr d) => { b with site }.putErrand e (.serving d)
  | _ => b.finish e (.running server)

/-- Can an errand take a step? -/
def canRun (b : Broker) (e : ErrandId) : Bool :=
  match b.errand? e with
  | none => false
  | some x =>
    match x.stage with
    | .fresh | .surveying .. | .releasing .. => true
    | .awaiting a => (b.result? a).isSome
    | .asking m j => b.canAwait m j
    | .serving d => b.site.clock.reached d.due || x.cancelled
    | .gathering (a :: _) _ _ => (b.result? a).isSome
    | .gathering [] _ _ => true
    | .queuedSimple .. => b.isFirst (.errand e)
    | .disposing m j _ _ => b.canAwait m j
    | .done _ => false

/-- An errand takes its next step. -/
def stepErrand (b : Broker) (e : ErrandId) : Broker :=
  match b.errand? e with
  | none => b
  | some x =>
    match x.stage with
    | .fresh => b.beginErrand e x.task
    | .awaiting a =>
      let b := b.observe a
      match b.result? a with
      | some (.ok record) => b.finish e (.found record)
      | some (.error cause) => b.finish e (.failed cause)
      | none => b
    | .asking m j =>
      match b.await m j with
      | (b, none) => b
      | (b, some (.found server)) => b.reach e server x.task
      | (b, some _) => b.reach e none x.task
    | .serving d =>
      let (site, result) :=
        if b.site.clock.reached d.due then b.site.endCall d else b.site.cancelCall d
      { b with site }.finish e (.answered result)
    | .surveying [] _ stale => b.beginEviction e stale
    | .surveying (key :: left) active stale => b.survey e key left active stale
    | .gathering [] records evicted => b.putErrand e (.releasing records evicted)
    | .gathering (a :: left) records evicted =>
      let b := b.observe a
      b.putErrand e (.gathering left (b.gather a records) evicted)
    | .releasing [] evicted => b.finish e (.swept evicted)
    | .releasing (record :: left) evicted => b.release e record left evicted
    | .queuedSimple record left evicted =>
      (b.dropSimple e record).beginDisposal e record.manager left evicted
    | .disposing m j left evicted =>
      match b.await m j with
      | (b, none) => b
      | (b, some _) => b.putErrand e (.releasing left evicted)
    | .done _ => b

/-- The time that an errand waits for. -/
def errandDeadline (b : Broker) (e : ErrandId) : Option Deadline :=
  match b.errand? e with
  | some { stage := .serving d, .. } => some d.due
  | some x => x.stage.job?.bind b.jobDeadline
  | none => none

/-- The step at which an errand began to wait. -/
def errandSince (b : Broker) (e : ErrandId) : Nat :=
  match b.errandDeadline e with
  | some d => d.setAt
  | none => ((b.errand? e).map (·.since)).getD 0

end LanguageBroker.Broker
