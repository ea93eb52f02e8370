import LanguageBroker.Broker.Agent
import LanguageBroker.Proofs.ManagerPhases

/-!
A broker and everything that can happen to it, in any order and one step at a time: its agents and
the errands of its callers go on, callers come, give up and go, time passes, announcements are
heard and the surroundings change. Moves that are not possible change nothing, so every list of
moves is a run.
-/

namespace LanguageBroker.Broker

/-- Has an activation given the records that the task names? -/
def knows (b : Broker) : Errand.Task → Bool
  | .deliver record _ _ | .inspect record => b.activations.any fun x => x.record? == some record
  | _ => true

/-- Is the errand the watch's own? -/
def isWatched (b : Broker) (e : ErrandId) : Bool := b.watch.any fun w => w.sweep == some e

/-- Is the errand about to look for the activation of a resource? -/
def isLooking (b : Broker) (e : ErrandId) : Bool :=
  match b.errand? e with
  | some { stage := .fresh, task := .find .., .. } => true
  | some { stage := .fresh, task := .prepare .., .. } => true
  | _ => false

inductive Move
  | agent (a : Agent)
  /-- Whoever waits for an errand takes it further. -/
  | errand (e : ErrandId)
  /-- An errand looks for an activation after its scope was worked out in other surroundings. -/
  | enter (e : ErrandId) (host : Host)
  /-- Somebody asks for something. -/
  | entrust (task : Errand.Task)
  /-- Whoever asked has heard the end of an errand, or does not wait for it any longer. -/
  | drop (e : ErrandId)
  | cancel (e : ErrandId)
  | hear (event : WorkspaceEvent)
  | wait (duration : Nat)
  /-- The surroundings answer differently from now on, and servers behave differently. -/
  | change (host : Host) (plan : BackendName → Plan)
  /-- Other managers are held on to from outside. -/
  | hold (held : List ManagerId)

/-- A broker that nobody has used. -/
def opening (host : Host) (plan : BackendName → Plan) (clock : Clock) : Broker :=
  { site := { clock, host, plan } }

/-- The broker when one more step is counted. -/
def ticked (b : Broker) : Broker := b.setClock b.clock.tick

/-- The broker in other surroundings. -/
def inHost (b : Broker) (host : Host) : Broker := { b with site := { b.site with host } }

def move (b : Broker) : Move → Broker
  | .agent a => if b.isReady a then b.ticked.act a else b
  | .errand e => if b.canRun e && !b.isWatched e then (b.ticked.stepErrand e).tidy else b
  | .enter e host =>
    if b.isLooking e then (((b.inHost host).stepErrand e).inHost b.site.host).tidy else b
  | .entrust task => if b.knows task then (b.entrust task).1 else b
  | .drop e => if b.isWatched e then b else (b.forgetErrand e).tidy
  | .cancel e => b.cancelErrand e
  | .hear event => b.hear event
  | .wait duration => b.setClock (b.clock.set (b.clock.now + duration))
  | .change host plan => { b with site := { b.site with host, plan } }
  | .hold held => { b with held }

def run (b : Broker) (moves : List Move) : Broker := moves.foldl move b

@[simp] theorem run_nil (b : Broker) : b.run [] = b := rfl

@[simp] theorem run_cons (b : Broker) (next : Move) (moves : List Move) :
    b.run (next :: moves) = (b.move next).run moves := rfl

theorem run_append (b : Broker) (before after : List Move) :
    b.run (before ++ after) = (b.run before).run after := List.foldl_append ..

/-- What every move keeps holds in every run. -/
theorem run_induction {P : Broker → Prop} (keeps : ∀ b next, P b → P (b.move next)) {b : Broker}
    (start : P b) (moves : List Move) : P (b.run moves) := by
  induction moves generalizing b with
  | nil => exact start
  | cons next moves ih => exact ih (keeps b next start)

/-- The surroundings in which a move takes its step. -/
def lookout (b : Broker) : Move → Host
  | .enter _ host => host
  | _ => b.site.host

/-- What a sweep makes of what evicted activations have found. -/
inductive Sight
  /-- It sees no use of a simple server. -/
  | unused (m : ManagerId)
  /-- It has got hold of a simple server and disposes of it. -/
  | dropped (m : ManagerId)
  /-- It is given up before everything is disposed of. -/
  | lost

/-- What an errand makes of the simple server in its next step. -/
def sight? (b : Broker) (e : ErrandId) : Option Sight :=
  match b.errand? e with
  | some { stage := .releasing (r :: _) _, .. } =>
    if r.variant = .simple ∧ b.isInUse r.manager = false then some (.unused r.manager) else none
  | some { stage := .queuedSimple r _ _, .. } =>
    if b.isFirst (.errand e) then some (.dropped r.manager) else none
  | _ => none

/-- The errand that a move takes further. -/
def turn? (b : Broker) : Move → Option ErrandId
  | .errand e => if b.isWatched e then none else some e
  | .agent .watch => b.watch.bind (·.sweep)
  | _ => none

def sightOf? (b : Broker) (next : Move) : Option Sight := (b.turn? next).bind b.sight?

end LanguageBroker.Broker

namespace LanguageBroker

/-! What matters of a stage. -/

/-- Was no manager made yet? -/
def Activation.Stage.isEarly : Activation.Stage → Bool
  | .fresh | .installing _ | .launchingFull _ => true
  | _ => false

/-- The manager whose first start is on its way, and the start. -/
def Activation.Stage.starts? : Activation.Stage → Option (ManagerId × JobId)
  | .startingFull _ m j | .startingSimple m j => some (m, j)
  | _ => none

/-- The manager whose first start has failed, and its disposal. -/
def Activation.Stage.settles? : Activation.Stage → Option (ManagerId × JobId)
  | .cleaningFull _ m j _ | .cleaningSimple m j _ => some (m, j)
  | _ => none

/-- What the activation has found, as soon as that is known. -/
def Activation.Stage.record? : Activation.Stage → Option Record
  | .concluding (.ok record) | .settled (.ok record) => some record
  | _ => none

/-- Does the activation wait for the simple server or have hold of it? -/
def Activation.Stage.isLined : Activation.Stage → Bool
  | .queuedSimple | .startingSimple .. | .cleaningSimple .. => true
  | _ => false

/-- The full server that the activation tries to get. -/
def Activation.Stage.tries? : Activation.Stage → Option Variant
  | .installing variant | .launchingFull variant | .startingFull variant _ _
  | .cleaningFull variant _ _ _ => some variant
  | _ => none

/-- What the errand is to dispose of, if it is still out of date then. -/
def Errand.Stage.records : Errand.Stage → List Record
  | .gathering _ records _ => records
  | .releasing left _ => left
  | .queuedSimple record left _ => record :: left
  | .disposing _ _ left _ => left
  | _ => []

/-- The evicted activations that the errand waits for. -/
def Errand.Stage.evicted : Errand.Stage → List ActivationId
  | .gathering left _ _ => left
  | _ => []

/-- Is the errand in line for the simple server? -/
def Errand.Stage.isLined : Errand.Stage → Bool
  | .queuedSimple .. => true
  | _ => false

/-- Is there something left that the errand is to dispose of or waits for to do so? -/
def Errand.Stage.isLaden : Errand.Stage → Bool
  | .disposing .. => true
  | stage => !stage.records.isEmpty || !stage.evicted.isEmpty

/-- The record that a task is about. -/
def Errand.Task.record? : Errand.Task → Option Record
  | .deliver record _ _ | .inspect record => some record
  | _ => none

/-- Is the errand on its way without waiting for an activation or for the simple server? -/
def Errand.Stage.isBusy : Errand.Stage → Bool
  | .awaiting _ | .queuedSimple .. | .done _ => false
  | _ => true

/-- Does the errand still look for what is out of date? -/
def Errand.Stage.isSeeking : Errand.Stage → Bool
  | .fresh | .surveying .. => true
  | _ => false

/-- The keys that the errand has taken out of the cache. -/
def Errand.Stage.keys? : Errand.Stage → Option (List ScopeKey)
  | .gathering _ _ evicted | .releasing _ evicted | .queuedSimple _ _ evicted
  | .disposing _ _ _ evicted | .done (.swept evicted) => some evicted
  | _ => none

/-- A step of an errand that neither finds nor evicts nor disposes of anything. -/
structure Errand.Stage.Passes (old new : Errand.Stage) : Prop where
  records : new.records.Sublist old.records
  evicted : new.evicted ⊆ old.evicted
  waited : old.evicted = []
  busy : old.isBusy
  keys : ∀ {evicted}, old.keys? = some evicted → new.keys? = some evicted
  still : new.isLined = false
  jobs : new.job? = none

end LanguageBroker

namespace LanguageBroker.Broker

/-- The sweep that ends when the errand begins to sweep everything out. -/
def endsWatch? (b : Broker) (e : ErrandId) : Option ErrandId :=
  match b.errand? e with
  | some { stage := .fresh, task := .sweep .everything, .. } => b.watch.bind (·.sweep)
  | _ => none

/-- The errand that a move puts away, however far it has come. -/
def ends? (b : Broker) : Move → Option ErrandId
  | .drop e => if b.isWatched e then none else some e
  | next => (b.turn? next).bind b.endsWatch?

/-- Is a sweep given up before everything is disposed of? -/
def givesUp (b : Broker) (next : Move) : Bool :=
  ((b.ends? next).bind b.errand?).any (·.stage.isLaden)

/-- What becomes in a move of what evicted activations have found. -/
def fate? (b : Broker) (next : Move) : Option Sight :=
  if b.givesUp next then some .lost else b.sightOf? next

theorem sightOf?_of_fate? {b : Broker} {next : Move} {sight : Sight}
    (fate : b.fate? next = some sight) (other : sight ≠ .lost) : b.sightOf? next = some sight := by
  unfold fate? at fate
  split at fate
  · exact absurd (Option.some.inj fate).symm other
  · exact fate

end LanguageBroker.Broker
