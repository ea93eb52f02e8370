import LanguageBroker.Broker.Activating
import LanguageBroker.Broker.Running

/-!
What the broker does on its own: it watches for changes of interpreters, takes activations
further and lets managers do their duties. Errands are taken further by those who wait for them.
-/

namespace LanguageBroker.Broker

inductive Agent
  | watch
  | activation (a : ActivationId)
  | manager (m : ManagerId) (duty : Manager.Duty)
  deriving DecidableEq, Repr

def agents (b : Broker) : List Agent :=
  .watch :: ((List.range b.activations.length).map .activation
    ++ (List.range b.managers.length).flatMap fun m => Manager.duties.map (.manager m))

/-- Can whoever waits for an errand go on? -/
def canAwaitErrand (b : Broker) (e : ErrandId) : Bool := (b.errandOutcome? e).isSome || b.canRun e

/-- Takes an errand one step further, or puts it away when it is done. -/
def awaitErrand (b : Broker) (e : ErrandId) : Broker × Option Errand.Outcome :=
  match b.errandOutcome? e with
  | some outcome => (b.forgetErrand e, some outcome)
  | none => (b.stepErrand e, none)

/-- Is there something to do? -/
def isReady (b : Broker) : Agent → Bool
  | .watch =>
    match b.watch with
    | none => false
    | some { sweep := some e, .. } => b.canAwaitErrand e
    | some { news, .. } => !news.isEmpty
  | .activation a => b.canActivate a
  | .manager m duty => (b.managers[m]?).any fun x => x.isReady b.site.clock duty

/-- The watch turns to the next change, or takes its sweep further. -/
def stepWatch (b : Broker) : Broker :=
  match b.watch with
  | none => b
  | some { news, sweep := none } =>
    let (b, e) := b.entrust (.sweep .interpreters)
    { b with watch := some { news := news.pop, sweep := some e } }
  | some { news, sweep := some e } =>
    match b.awaitErrand e with
    | (b, none) => b
    | (b, some _) => { b with watch := some { news, sweep := none } }

/-- Does it. -/
def act (b : Broker) : Agent → Broker
  | .watch => b.stepWatch.tidy
  | .activation a => (b.stepActivation a).tidy
  | .manager m duty => (b.stepManager m duty).tidy

/-- The time that an agent waits for. -/
def deadline (b : Broker) : Agent → Option Deadline
  | .watch => (b.watch.bind (·.sweep)).bind b.errandDeadline
  | .activation a => b.activationDeadline a
  | .manager m duty => (b.managers[m]?).bind (·.deadline duty)

/-- The step at which an agent began to wait. -/
def since (b : Broker) : Agent → Nat
  | .watch => ((b.watch.bind (·.sweep)).map b.errandSince).getD 0
  | a => ((b.deadline a).map (·.setAt)).getD 0

def clock (b : Broker) : Clock := b.site.clock

def setClock (b : Broker) (clock : Clock) : Broker := { b with site := { b.site with clock } }

end LanguageBroker.Broker
