import LanguageBroker.Editor.Agent
import LanguageBroker.Proofs.ErrandTurns
import LanguageBroker.Proofs.RespectedJobs

/-!
A session whose messages are handled one step at a time, and everything that can happen to it, in
any order. The one who polls the handlers polls one of them after the other: each goes on until it
has to wait. It polls them for the first time in the order in which their messages came, and those
that wait for one activation go on in the order in which they came to it. All else that the
broker does goes on in between as it likes. Moves that are not possible change nothing, so every
list of moves is a run.
-/

namespace LanguageBroker.Editor

/-- A call has come to the activation that it is routed to. -/
structure Coming where
  number : Nat
  activation : ActivationId
  method : Method
  params : Json
  /-- Had it to wait for its interpreter? -/
  suspended : Bool

/-- How a notification ends that has not to wait any longer. -/
inductive Ending
  /-- There is no server to find. -/
  | failed (cause : ActivationError)
  /-- No server runs. -/
  | unserved
  /-- The server's middleware does not let it pass. -/
  | withheld (server : BackendId)
  /-- The server is told. -/
  | told (server : BackendId)
  deriving DecidableEq, Repr

/-- A notification has come to its end, and that much was written meanwhile. -/
structure Passing where
  number : Nat
  ending : Ending
  news : List (Time × Happening)

namespace Session

/-- The session when one more step is counted. -/
def ticked (s : Session) : Session := { s with broker := s.broker.ticked }

/-- The session in other surroundings. -/
def inHost (s : Session) (host : Host) : Session := { s with broker := s.broker.inHost host }

/-- How far the handling of a message has come. -/
def stage? (s : Session) (number : Nat) : Option Handler.Stage :=
  (s.handler? number).map fun h => h.stage

/-- How far a message has come that looks for its activation. -/
def finding? (s : Session) (number : Nat) : Option Errand.Stage :=
  match s.stage? number with
  | some (.finding e _ _) => s.broker.errandStage? e
  | _ => none

/-- Has the scope of the message to be worked out? -/
def isUnresolved (s : Session) (number : Nat) : Bool := (s.finding? number).any (·.isFresh)

/-- The activation that a message waits for. -/
def awaited? (s : Session) (number : Nat) : Option ActivationId :=
  match s.finding? number with
  | some (.awaiting a) => some a
  | _ => none

/-- A message comes to its activation between one state and another. -/
def coming? (s t : Session) (number : Nat) (suspended : Bool) : Option Coming :=
  match s.awaited? number, t.awaited? number, t.stage? number with
  | none, some a, some (.finding _ method params) => some ⟨number, a, method, params, suspended⟩
  | _, _, _ => none

/-- How a call ends that was told which server there is. -/
def endingAt (s : Site) (method : Method) (params : Json) : Job.Outcome → Ending
  | .found (some b) =>
    if (s.backend? b).any (·.middleware.passes method params) then .told b else .withheld b
  | _ => .unserved

/-- How a notification ends in its next step, if it does. -/
def ending? (s : Session) (number : Nat) : Option Ending :=
  match s.stage? number with
  | some (.finding e method _) =>
    match s.broker.errandOutcome? e with
    | some (.failed cause) => if method.isNotification then some (.failed cause) else none
    | _ => none
  | some (.delivering e) =>
    match s.broker.post? e with
    | some (.deliver _ method params, .asking m j) =>
      (s.broker.outcome? m j).map (endingAt s.broker.site method params)
    | _ => none
  | _ => none

end Session

/-- A session and what its handlers have come to. -/
structure Reception where
  session : Session
  /-- So many messages were received, and this is the number of the next one. -/
  received : Nat := 0
  /-- The messages that wait for an interpreter. -/
  suspended : List Nat := []
  /-- The message that was polled last, if it does not have to wait. -/
  turn : Option Nat := none
  /-- The calls that came to their activations, in this order. -/
  came : List Coming := []
  /-- The notifications that have come to an end, in this order. -/
  passed : List Passing := []

namespace Reception

inductive Move
  /-- The editor sends a message. -/
  | receive (message : Message)
  /-- The broker does something on its own. -/
  | broker (agent : Broker.Agent)
  /-- A call goes on that was handed over. -/
  | background (e : ErrandId)
  /-- A message is handled one step further. -/
  | poll (number : Nat)
  /-- A message that is polled for the first time has to wait for its interpreter. -/
  | suspend (number : Nat)
  /-- The interpreter is known, and its search has seen these surroundings. -/
  | resolve (number : Nat) (host : Host)
  | wait (duration : Nat)
  | announce (event : WorkspaceEvent)
  /-- The surroundings answer differently from now on, and servers behave differently. -/
  | change (surroundings : EditorState → Host) (plan : BackendName → Plan)

/-- A session that nobody has used. -/
def opening (editor : EditorState) (surroundings : EditorState → Host)
    (plan : BackendName → Plan) (clock : Clock) : Reception where
  session := { broker := .opening (surroundings editor) plan clock, editor, surroundings }

/-- Was the handler of the message never polled? -/
def isNew (r : Reception) (number : Nat) : Bool :=
  r.session.isUnresolved number && !r.suspended.contains number

/-- Those who wait for an activation go on in the order in which they came to it. -/
def isNext (r : Reception) (number : Nat) : Bool :=
  (r.session.awaited? number).all fun a =>
    (r.came.find? fun c => r.session.awaited? c.number = some a).all fun c => c.number = number

/-- Can the handling of the message go on? -/
def mayGo (r : Reception) (number : Nat) : Bool :=
  !r.suspended.contains number && r.session.isReady (.handler number) && r.isNext number

/-- Nobody else is in the middle of a turn. -/
def isFree (r : Reception) (number : Nat) : Bool :=
  r.turn.all fun n => n = number || !r.mayGo n

/-- No message that came earlier is still to be polled for the first time. -/
def isOldest (r : Reception) (number : Nat) : Bool :=
  (List.range number).all fun n => !r.isNew n

/-- Can the message be polled? -/
def canPoll (r : Reception) (number : Nat) : Bool :=
  r.mayGo number && r.isFree number && (!r.isNew number || r.isOldest number)

/-- The handling of a message goes one step further in the given surroundings. -/
def poll (r : Reception) (number : Nat) (host : Host) : Reception :=
  let session := (((r.session.ticked.inHost host).act (.handler number)).inHost
    r.session.broker.site.host)
  let news := session.broker.site.journal.drop r.session.broker.site.journal.length
  let r := { r with
    session
    suspended := r.suspended.filter (· ≠ number)
    came := r.came
      ++ (r.session.coming? session number (r.suspended.contains number)).toList
    passed := r.passed ++ (r.session.ending? number).toList.map (Passing.mk number · news) }
  { r with turn := if r.mayGo number then some number else none }

def move (r : Reception) : Move → Reception
  | .receive message =>
    { r with
      session := r.session.ticked.receive r.received message
      received := r.received + 1 }
  | .broker agent =>
    if agent ∈ r.session.broker.agents ∧ r.session.broker.isReady agent then
      { r with session := r.session.ticked.act (.broker agent) }
    else r
  | .background e =>
    if e ∈ r.session.background ∧ r.session.isReady (.background e) then
      { r with session := r.session.ticked.act (.background e) }
    else r
  | .poll number => if r.canPoll number then r.poll number r.session.broker.site.host else r
  | .suspend number =>
    if r.isNew number ∧ r.isOldest number ∧ r.isFree number then
      { r with suspended := r.suspended ++ [number], turn := none }
    else r
  | .resolve number host =>
    if number ∈ r.suspended ∧ r.session.isUnresolved number ∧ r.isFree number then
      r.poll number host
    else r
  | .wait duration =>
    { r with session := { r.session with
        broker := r.session.broker.setClock
          (r.session.broker.clock.set (r.session.broker.clock.now + duration)) } }
  | .announce event => { r with session := r.session.announce event }
  | .change surroundings plan =>
    { r with session :=
        ({ r.session with
          surroundings
          broker := { r.session.broker with
            site := { r.session.broker.site with plan } } } : Session).refresh }

def run (r : Reception) (moves : List Move) : Reception := moves.foldl move r

@[simp] theorem run_nil (r : Reception) : r.run [] = r := rfl

@[simp] theorem run_cons (r : Reception) (next : Move) (moves : List Move) :
    r.run (next :: moves) = (r.move next).run moves := rfl

theorem run_append (r : Reception) (before after : List Move) :
    r.run (before ++ after) = (r.run before).run after := List.foldl_append ..

/-- What every move keeps holds in every run. -/
theorem run_induction {P : Reception → Prop} (keeps : ∀ r next, P r → P (r.move next))
    {r : Reception} (start : P r) (moves : List Move) : P (r.run moves) := by
  induction moves generalizing r with
  | nil => exact start
  | cons next moves ih => exact ih (keeps r next start)

end Reception

end LanguageBroker.Editor
