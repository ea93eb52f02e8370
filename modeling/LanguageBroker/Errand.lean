import LanguageBroker.Activation
import LanguageBroker.Delivery

/-!
What callers ask of the broker: to find the server of a resource, to deliver a call, or to sweep
out activations that are out of date.
-/

namespace LanguageBroker

/-- An errand's number. -/
abbrev ErrandId := Nat

/-- Which activations are out of date. -/
inductive Sweep
  /-- Those of folders that are not open any more. -/
  | folders
  /-- Those bound to an interpreter other than the active one of their folder. -/
  | interpreters
  | everything
  deriving DecidableEq, Repr

/-- What an errand is to do. A resource's interpreter may be given along. -/
inductive Errand.Task
  /-- Works out the scope of a resource. -/
  | locate (resource : Option Uri) (interpreter : Option Interpreter)
  /-- Sees to it that there is an activation for a resource, and does not wait for its end. -/
  | prepare (resource : Option Uri) (interpreter : Option Interpreter)
  /-- Finds what serves a resource. -/
  | find (resource : Option Uri) (interpreter : Option Interpreter)
  | deliver (record : Record) (method : Method) (params : Json)
  /-- Finds the server that runs. -/
  | inspect (record : Record)
  | sweep (kind : Sweep)

/-- How an errand has ended. -/
inductive Errand.Outcome
  | located (scope : Scope)
  | prepared (activation : ActivationId)
  | found (record : Record)
  | failed (cause : ActivationError)
  | answered (result : CallResult)
  | running (server : Option BackendId)
  | swept (evicted : List ScopeKey)

/-- How far an errand has come. -/
inductive Errand.Stage
  | fresh
  /-- Waits for an activation. -/
  | awaiting (activation : ActivationId)
  /-- Asks a manager for its server. -/
  | asking (manager : ManagerId) (job : JobId)
  | serving (delivery : Delivery)
  /-- Looks at cached keys one by one. The active interpreters of the folders seen so far are
  known. -/
  | surveying (left : List ScopeKey) (active : List (String × Option String))
      (stale : List ScopeKey)
  /-- Waits for evicted activations one by one. -/
  | gathering (left : List ActivationId) (records : List Record) (evicted : List ScopeKey)
  /-- Disposes of what evicted activations found, one by one. -/
  | releasing (left : List Record) (evicted : List ScopeKey)
  /-- Waits for the shared simple server to let go of it. -/
  | queuedSimple (record : Record) (left : List Record) (evicted : List ScopeKey)
  | disposing (manager : ManagerId) (job : JobId) (left : List Record) (evicted : List ScopeKey)
  | done (outcome : Errand.Outcome)

structure Errand where
  id : ErrandId
  task : Errand.Task
  stage : Errand.Stage := .fresh
  /-- The step at which it came to the stage. -/
  since : Nat := 0
  /-- Has the caller given up? -/
  cancelled : Bool := false

namespace Errand

/-- The job that a stage waits for. -/
def Stage.job? : Stage → Option (ManagerId × JobId)
  | .asking m j | .disposing m j _ _ => some (m, j)
  | _ => none

/-- The activations that a stage keeps an eye on. -/
def Stage.activations : Stage → List ActivationId
  | .awaiting a => [a]
  | .gathering left _ _ => left
  | _ => []

/-- The managers that an errand holds on to. -/
def managers (e : Errand) : List ManagerId :=
  (match e.task with
    | .deliver record _ _ | .inspect record => [record.manager]
    | _ => [])
  ++ match e.stage with
    | .gathering _ records _ => records.map (·.manager)
    | .releasing left _ => left.map (·.manager)
    | .queuedSimple record left _ => record.manager :: left.map (·.manager)
    | .disposing m _ left _ => m :: left.map (·.manager)
    | _ => []

end Errand

end LanguageBroker
