import LanguageBroker.Debouncer
import LanguageBroker.Scenario.Report
import LanguageBroker.Scenario.Steps
import LanguageBroker.Schedule

/-!
Scenarios of one debouncer, whose action takes a fixed time.
-/

namespace LanguageBroker.Scenario.Debouncing

/-- A debouncer with its clock and what its action has logged. -/
structure State where
  clock : Clock := {}
  debouncer : Debouncer
  duration : Nat
  /-- When the running action ends. -/
  ending : Option Deadline := none
  runs : Nat := 0
  log : List LogLine := []

namespace State

def write (s : State) (what : String) : State :=
  let line := logLine s.clock.now "run" "run" [("what", .str what), ("n", Json.ofNat s.runs)]
  { s with log := s.log ++ [line] }

/-- Does the action begin, or end? -/
def isReady (s : State) (_ : Unit) : Bool :=
  match s.ending with
  | some t => s.clock.reached t
  | none => s.debouncer.isDue s.clock

def act (s : State) (_ : Unit) : State :=
  match s.ending with
  | some _ => { s.write "end" with ending := none, debouncer := s.debouncer.finish s.clock }
  | none =>
    { { s with runs := s.runs + 1 }.write "begin" with
      ending := some (s.clock.after s.duration)
      debouncer := s.debouncer.startRun }

end State

def schedule : Schedule State Unit where
  agents _ := [()]
  isReady := State.isReady
  act := State.act
  deadline s _ := s.ending.orElse fun _ => s.debouncer.due?
  clock := State.clock
  setClock s clock := { s with clock }

def step (s : State) (_ : Nat) (v : Json) : State × Json :=
  let s := schedule.tick { s with log := [] }
  let s := match (v.get? "trigger").bind Json.nat?, v.get? "drop", CommonStep.ofJson? v with
    | some n, _, _ => (List.replicate n ()).foldl (fun s _ =>
        { s with debouncer := s.debouncer.trigger s.clock }) s
    | none, some _, _ => { s with debouncer := s.debouncer.close }
    | none, none, some (.sleep n) => schedule.sleep n s
    | none, none, _ => s
  let s := schedule.rest s
  (s, Json.object (if s.log.isEmpty then [] else [("log", writeLog s.log)]))

def run (v : Json) : Json :=
  runSteps step
    { debouncer := ⟨natMember "window_ms" v, .idle⟩, duration := natMember "action_ms" v }
    (listMember "steps" v)

end LanguageBroker.Scenario.Debouncing
