import LanguageBroker.Scenario.Script

/-!
The steps that scenarios have in common: the clock goes on, a part of the script is replaced, or
the surroundings announce something.
-/

namespace LanguageBroker.Scenario

/-- A step of any scenario. -/
inductive CommonStep
  | sleep (duration : Nat)
  | script (change : Json)
  | events (list : List WorkspaceEvent)

/-- Reads a step, if it is one that all scenarios have. -/
def CommonStep.ofJson? (step : Json) : Option CommonStep :=
  match (step.get? "sleep").bind Json.nat?, step.get? "set", step.get? "event" with
  | some n, _, _ => some (.sleep n)
  | none, some change, _ => some (.script change)
  | none, none, some _ => some (.events (Script.readEvents step))
  | none, none, none => none

/-- Takes the steps of a scenario one after the other. Each gets its number. -/
def foldSteps (step : σ → Nat → Json → σ × Json) (initial : σ) (steps : List Json) :
    σ × List Json :=
  let (state, answers) := steps.zipIdx.foldl (fun (acc : σ × List Json) s =>
    let (state, answer) := step acc.1 s.2 s.1
    (state, answer :: acc.2)) (initial, [])
  (state, answers.reverse)

/-- The answers to the steps of a scenario. -/
def runSteps (step : σ → Nat → Json → σ × Json) (initial : σ) (steps : List Json) : Json :=
  .arr (foldSteps step initial steps).2

end LanguageBroker.Scenario
