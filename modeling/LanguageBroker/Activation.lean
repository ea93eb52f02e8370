import LanguageBroker.Activation.Choice
import LanguageBroker.Manager

/-!
One activation: the attempt to get a server for a scope. The full server is tried first where it
is chosen, and the simple one, which all scopes share, where the full one fails or is not wanted.
-/

namespace LanguageBroker

/-- A manager's place in the list of those made. -/
abbrev ManagerId := Nat

/-- An activation's place in the list of those begun. -/
abbrev ActivationId := Nat

/-- What serves a scope. -/
structure Record where
  variant : Variant
  manager : ManagerId
  deriving DecidableEq, Repr

/-- How far an activation has come. -/
inductive Activation.Stage
  | fresh
  /-- Somebody is asked whether the full server's program is there. -/
  | installing (variant : Variant)
  /-- The full server is about to be started. -/
  | launchingFull (variant : Variant)
  | startingFull (variant : Variant) (manager : ManagerId) (job : JobId)
  /-- The manager of a full server that did not start is disposed of. -/
  | cleaningFull (variant : Variant) (manager : ManagerId) (job : JobId) (cause : ActivationError)
  /-- Waits for the shared simple server, or has just got hold of it. -/
  | queuedSimple
  | startingSimple (manager : ManagerId) (job : JobId)
  /-- The manager of a simple server that did not start is disposed of. -/
  | cleaningSimple (manager : ManagerId) (job : JobId) (cause : ActivationError)
  /-- The end is known and the simple server is let go of, but nobody was told. -/
  | concluding (result : Except ActivationError Record)
  | settled (result : Except ActivationError Record)

/-- The job that a stage waits for. -/
def Activation.Stage.job? : Activation.Stage → Option (ManagerId × JobId)
  | .startingFull _ m j | .cleaningFull _ m j _ | .startingSimple m j | .cleaningSimple m j _ =>
    some (m, j)
  | _ => none

structure Activation where
  scope : Scope
  began : Time := 0
  stage : Activation.Stage := .fresh
  /-- Has anybody who waited for the end seen it? -/
  observed : Bool := false

namespace Activation

/-- How the activation has ended. -/
def result? (a : Activation) : Option (Except ActivationError Record) :=
  match a.stage with
  | .settled result => some result
  | _ => none

/-- The record of an activation that succeeded. -/
def record? (a : Activation) : Option Record :=
  match a.stage with
  | .settled (.ok record) => some record
  | _ => none

end Activation

end LanguageBroker
