/-!
Time as the broker sees it: milliseconds that pass between steps, and the count of the steps
themselves, which orders what falls due at one time.
-/

namespace LanguageBroker

/-- Milliseconds since the beginning. -/
abbrev Time := Nat

structure Clock where
  now : Time := 0
  /-- The number of steps taken so far. -/
  steps : Nat := 0
  deriving DecidableEq, Repr

/-- A time to wait for. Of two that are equal, the one set in the earlier step comes first. -/
structure Deadline where
  time : Time
  setAt : Nat
  deriving DecidableEq, Repr

namespace Clock

/-- The deadline that lies so many milliseconds ahead. -/
def after (c : Clock) (delay : Nat) : Deadline := ⟨c.now + delay, c.steps⟩

/-- Has the time come? -/
def reached (c : Clock) (d : Deadline) : Bool := d.time ≤ c.now

/-- One more step is taken. -/
def tick (c : Clock) : Clock := { c with steps := c.steps + 1 }

/-- The clock at a later time. -/
def set (c : Clock) (t : Time) : Clock := { c with now := t }

end Clock

end LanguageBroker
