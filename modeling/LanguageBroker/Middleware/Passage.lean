import LanguageBroker.Clock
import LanguageBroker.Middleware
import LanguageBroker.Middleware.Chain

/-!
The way of a call through the middleware of a server: past the interceptors, to the server, and
back. Other calls may be on their way at the same time.
-/

namespace LanguageBroker

/-- What becomes of a call. -/
inductive Flow
  | ended (result : CallResult)
  /-- Somebody on the way makes a remark about the call. -/
  | remark (name : String) (method : Method) (rest : Flow)
  | pause (duration : Nat) (rest : Flow)
  /-- The server is reached with a call, and goes on with its answer. -/
  | reach (call : Call) (rest : CallResult → Flow)

namespace Flow

/-- Goes on when a flow has ended. -/
def andThen : Flow → (CallResult → Flow) → Flow
  | ended result, k => k result
  | remark name method rest, k => remark name method (rest.andThen k)
  | pause duration rest, k => pause duration (rest.andThen k)
  | reach call rest, k => reach call fun result => (rest result).andThen k

/-- The server itself. -/
def server (call : Call) : Flow := reach call ended

/-- Changes the result. -/
def map (f : CallResult → CallResult) (flow : Flow) : Flow := flow.andThen fun r => ended (f r)

end Flow

/-- A call on its way. -/
structure Passage where
  method : Method
  start : Time
  flow : Flow
  /-- Was the server reached? -/
  reached : Bool := false
  /-- When a pause ends, or the server answers. -/
  due : Option Deadline := none

/-- What is to be seen of a step. -/
inductive Passage.Sight
  | remark (name : String) (method : Method)
  | reached (call : Call)

namespace Passage

/-- A call comes to the middleware. One that does not pass is answered with nothing. -/
def enter (w : Middleware) (chain : List (Interceptor Flow)) (now : Time) (call : Call) : Passage :=
  { method := call.method
    start := now
    flow := if w.passes call.method call.params then Interceptor.compose chain Flow.server call
      else .ended (.ok none) }

/-- How the call has ended. -/
def result? (p : Passage) : Option CallResult :=
  match p.flow with
  | .ended result => some result
  | _ => none

/-- Can the call go on? -/
def canStep (p : Passage) (clock : Clock) : Bool :=
  match p.flow, p.due with
  | .ended _, _ => false
  | _, some due => clock.reached due
  | _, none => true

/-- The call that has got through and that the server is to answer. -/
def atServer? (p : Passage) : Option Call :=
  match p.flow with
  | .reach call _ => some call
  | _ => none

/-- The server has answered. -/
def resume (p : Passage) (result : CallResult) : Passage :=
  match p.flow with
  | .reach _ rest => { p with flow := rest result, reached := true, due := none }
  | _ => p

/-- The next step on the way to the server or back. -/
def walk (p : Passage) (clock : Clock) : Passage × Option Sight :=
  match p.flow, p.due with
  | .remark name method rest, _ => ({ p with flow := rest }, some (.remark name method))
  | .pause duration _, none => ({ p with due := some (clock.after duration) }, none)
  | .pause _ rest, some _ => ({ p with flow := rest, due := none }, none)
  | _, _ => (p, none)

/-- The next step. The server answers as `serve` says, after so many milliseconds. -/
def step (p : Passage) (clock : Clock) (serve : Call → Nat × CallResult) : Passage × Option Sight :=
  match p.atServer?, p.due with
  | some call, none =>
    ({ p with reached := true, due := some (clock.after (serve call).1) }, some (.reached call))
  | some call, some _ => (p.resume (serve call).2, none)
  | none, _ => p.walk clock

/-- The call is over, and the middleware may report it. -/
def leave (p : Passage) (w : Middleware) (now : Time) (result : CallResult) :
    Middleware × Option TelemetryEvent :=
  w.settle p.method p.start now p.reached result

end Passage

end LanguageBroker
