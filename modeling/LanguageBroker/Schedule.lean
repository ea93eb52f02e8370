import LanguageBroker.Clock

/-!
Systems of agents that take steps one at a time, and one fair schedule for them. An agent whose
turn it is goes on until it has to wait, agents have their turns in the order in which they became
ready, and the clock goes on only when no agent is ready.
-/

namespace LanguageBroker

/-- A system with states `σ` and agents `α`. -/
structure Schedule (σ α : Type) where
  /-- The agents of a state, those that came first at the front. -/
  agents : σ → List α
  /-- Can the agent take a step now? -/
  isReady : σ → α → Bool
  act : σ → α → σ
  /-- The time that the agent waits for, if it does. -/
  deadline : σ → α → Option Deadline
  /-- The step at which the agent began to wait. -/
  since : σ → α → Nat := fun s a =>
    match deadline s a with
    | some d => d.setAt
    | none => 0
  clock : σ → Clock
  setClock : σ → Clock → σ

namespace Schedule

/-- The state with one more step counted. -/
def tick (m : Schedule σ α) (s : σ) : σ := m.setClock s (m.clock s).tick

/-- One step of any agent that is ready, or the passing of time. -/
inductive Step (m : Schedule σ α) : σ → σ → Prop
  | act {s : σ} {a : α} (mem : a ∈ m.agents s) (ready : m.isReady s a) :
      Step m s (m.act (m.tick s) a)
  | wait {s : σ} {t : Time} (le : (m.clock s).now ≤ t) : Step m s (m.setClock s ((m.clock s).set t))

/-- No system of the scenarios takes more steps than this at one time. -/
def stepLimit : Nat := 100000

/-- The agents that are ready and do not stand in the line yet. Those that have waited longest
come first. -/
def arrivals [BEq α] (m : Schedule σ α) (s : σ) (line : List α) : List α :=
  ((m.agents s).filter fun a => m.isReady s a && ! line.contains a).mergeSort
    fun a b => m.since s a ≤ m.since s b

/-- Turns for the agents in line, and for those that join it, until it is empty. The agent at the
head goes on until it has to wait. -/
def serve [BEq α] (m : Schedule σ α) : Nat → σ → List α → σ
  | 0, s, _ => s
  | _ + 1, s, [] => s
  | fuel + 1, s, a :: line =>
    if m.isReady s a then
      let s := m.act (m.tick s) a
      serve m fuel s (a :: line ++ m.arrivals s (a :: line))
    else serve m fuel s line

/-- All that can happen without time passing. -/
def rest [BEq α] (m : Schedule σ α) (s : σ) : σ := m.serve stepLimit s (m.arrivals s [])

/-- The times after now at which something falls due. -/
def dues (m : Schedule σ α) (s : σ) : List Time :=
  (((m.agents s).filterMap (m.deadline s)).map (·.time)).filter fun t => (m.clock s).now < t

/-- The first time after now, and not after `limit`, at which something falls due. -/
def nextDue (m : Schedule σ α) (s : σ) (limit : Time) : Option Time :=
  ((m.dues s).filter (· ≤ limit)).min?

/-- Lets the clock go on to `target`, with all that falls due on the way. -/
def waitUntil [BEq α] (m : Schedule σ α) (target : Time) : Nat → σ → σ
  | 0, s => s
  | fuel + 1, s =>
    match m.nextDue s target with
    | some t => waitUntil m target fuel (m.rest (m.setClock s ((m.clock s).set t)))
    | none => m.rest (m.setClock s ((m.clock s).set target))

/-- All that happens in the next `duration` milliseconds. -/
def sleep [BEq α] (m : Schedule σ α) (duration : Nat) (s : σ) : σ :=
  m.waitUntil ((m.clock s).now + duration) stepLimit (m.rest s)

/-- Lets the clock go on for as long as something falls due. -/
def waitAll [BEq α] (m : Schedule σ α) : Nat → σ → σ
  | 0, s => s
  | fuel + 1, s =>
    match (m.dues s).min? with
    | some t => waitAll m fuel (m.rest (m.setClock s ((m.clock s).set t)))
    | none => s

/-- All that will ever happen. -/
def exhaust [BEq α] (m : Schedule σ α) (s : σ) : σ := m.waitAll stepLimit (m.rest (m.tick s))

end Schedule

end LanguageBroker
