import LanguageBroker.Method

/-!
The rate limit on reports: at most `limit` of them in one window, and two of one method more than
that method's debounce apart. Times are counted in any one unit and may go backwards; a window
opens at the first call that asks and at every later call beyond its end.
-/

namespace LanguageBroker

/-- The length of a window and the number of reports it has room for. -/
structure CaptureLimits where
  window : Nat
  limit : Nat
  deriving DecidableEq, Repr

/-- One hundred reports an hour, in milliseconds. -/
def CaptureLimits.usual : CaptureLimits := ⟨3600000, 100⟩

/-- The current window and when each method was last reported. -/
structure CaptureWindow where
  start : Option Nat := none
  sent : Nat := 0
  last : List (Method × Nat) := []
  deriving Repr

namespace CaptureWindow

/-- Is there no window that covers `now`? -/
def expired (w : CaptureWindow) (now : Nat) (limits : CaptureLimits) : Bool :=
  match w.start with
  | none => true
  | some t => now > t + limits.window

/-- The window in force at `now`: a new and empty one if there was none. -/
def current (w : CaptureWindow) (now : Nat) (limits : CaptureLimits) : CaptureWindow :=
  if w.expired now limits then { w with start := some now, sent := 0 } else w

/-- Was the method last reported at most `debounce` before `now`, or even after it? -/
def tooSoon (w : CaptureWindow) (method : Method) (debounce now : Nat) : Bool :=
  match w.last.lookup method with
  | some t => now - t ≤ debounce
  | none => false

/-- Notes a report. -/
def record (w : CaptureWindow) (method : Method) (now : Nat) : CaptureWindow :=
  { w with
    sent := w.sent + 1
    last := (method, now) :: w.last.filter fun entry => entry.1 ≠ method }

/-- May a call of `method` that began at `now` be reported? If so it is noted. -/
def offer (w : CaptureWindow) (method : Method) (debounce now : Nat) (limits : CaptureLimits) :
    CaptureWindow × Bool :=
  let w := w.current now limits
  if w.sent ≥ limits.limit then (w, false)
  else if w.tooSoon method debounce now then (w, false)
  else (w.record method now, true)

end CaptureWindow

end LanguageBroker
