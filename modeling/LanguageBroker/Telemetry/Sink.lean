import LanguageBroker.Telemetry

/-!
Where events go. A sink may fail to take an event; whoever sends it notes that in the log and goes
on as if nothing had happened.
-/

namespace LanguageBroker

/-- A sink that remembers things of type `σ`. -/
structure TelemetrySink (σ : Type) where
  emit : σ → TelemetryEvent → σ × Except String Unit

namespace TelemetrySink

/-- The warning that an event was not taken. -/
def warning (event : TelemetryEvent) (cause : String) : String :=
  "Failed to send telemetry event " ++ event.name ++ ": " ++ cause

/-- Hands an event to the sink. A failure becomes a warning. -/
def send (sink : TelemetrySink σ) (memory : σ) (event : TelemetryEvent) : σ × Option String :=
  match sink.emit memory event with
  | (memory, .ok ()) => (memory, none)
  | (memory, .error cause) => (memory, some (warning event cause))

end TelemetrySink

end LanguageBroker
