import LanguageBroker.Clock

/-!
A trigger with a quiet window: the action runs once no trigger has come for the whole window.
Triggers that come while it runs are answered by one further run, whose window opens when the
running one ends. Closing the debouncer abandons a run that has not begun.
-/

namespace LanguageBroker

/-- What a debouncer waits for. -/
inductive Debouncer.Phase
  | idle
  /-- Triggered; the action runs at `due` unless another trigger comes before. -/
  | waiting (due : Deadline)
  /-- The action runs; `again` tells whether a trigger has come meanwhile. -/
  | busy (again : Bool)
  | closed
  deriving DecidableEq, Repr

structure Debouncer where
  window : Nat
  phase : Debouncer.Phase := .idle
  deriving DecidableEq, Repr

namespace Debouncer

def trigger (d : Debouncer) (clock : Clock) : Debouncer :=
  match d.phase with
  | .idle => { d with phase := .waiting (clock.after d.window) }
  | .waiting _ => { d with phase := .waiting (clock.after d.window) }
  | .busy _ => { d with phase := .busy true }
  | .closed => d

/-- The time at which the action may begin. -/
def due? (d : Debouncer) : Option Deadline :=
  match d.phase with
  | .waiting due => some due
  | _ => none

/-- May the action begin? -/
def isDue (d : Debouncer) (clock : Clock) : Bool := d.due?.any clock.reached

/-- The action begins. -/
def startRun (d : Debouncer) : Debouncer := { d with phase := .busy false }

/-- The action has ended. -/
def finish (d : Debouncer) (clock : Clock) : Debouncer :=
  match d.phase with
  | .busy true => { d with phase := .waiting (clock.after d.window) }
  | .busy false => { d with phase := .idle }
  | _ => d

/-- Gives up what has not begun. -/
def close (d : Debouncer) : Debouncer := { d with phase := .closed }

end Debouncer

end LanguageBroker
