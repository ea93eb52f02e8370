import LanguageBroker.DocumentFilter
import LanguageBroker.Rpc
import LanguageBroker.Scope
import LanguageBroker.Telemetry
import LanguageBroker.Telemetry.CaptureWindow

/-!
What stands between the broker and one server: a gate that is open while the server is ready, the
selector of its documents, and the reports on calls that it has answered.
-/

namespace LanguageBroker

structure Middleware where
  variant : Variant
  table : MethodTable := .usual
  limits : CaptureLimits := .usual
  connected : Bool := false
  version : Option String := none
  selector : List DocumentFilter := []
  window : CaptureWindow := {}

namespace Middleware

def connect (w : Middleware) : Middleware := { w with connected := true }

def disconnect (w : Middleware) : Middleware := { w with connected := false }

/-- Does a call pass? The gate has to be open, unless the method goes around it, and the document
has to be one of the server's. Other calls are answered with nothing. -/
def passes (w : Middleware) (method : Method) (params : Json) : Bool :=
  (method.bypassesGate || w.connected) && DocumentFilter.claims w.selector params

/-- The version that reports name while the server has not told its own. -/
def unknownVersion : String := "unknown"

/-- The report on a call of `method` that began at `start` and ended at `now`. -/
def report (w : Middleware) (method : Method) (start now : Nat) (result : Option Json) :
    TelemetryEvent :=
  let event : TelemetryEvent :=
    { name := w.variant.requestEvent
      measures := [("duration", ((now - start : Nat) : Int))]
      properties :=
        [("lsVersion", w.version.getD unknownVersion), ("method", method.telemetryName)] }
  match (w.table.rule method).measure with
  | some measure =>
    (measure.of (result.getD .null)).foldl (fun e m => e.withMeasure m.1 (m.2 : Nat)) event
  | none => event

/-- A call has ended. It is reported if the server was reached, the call did not fail, its method
is reported at all, and the rate limit allows it. -/
def settle (w : Middleware) (method : Method) (start now : Nat) (reached : Bool)
    (result : CallResult) : Middleware × Option TelemetryEvent :=
  match result, (w.table.rule method).debounce with
  | .ok value, some debounce =>
    if reached then
      let (window, taken) := w.window.offer method debounce start w.limits
      ({ w with window }, if taken then some (w.report method start now value) else none)
    else (w, none)
  | _, _ => (w, none)

end Middleware

end LanguageBroker
