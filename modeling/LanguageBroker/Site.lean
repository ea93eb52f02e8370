import LanguageBroker.Backend
import LanguageBroker.Clock

/-!
The place where the broker works: the clock, the surroundings, the servers made so far and the
record of all that has happened.
-/

namespace LanguageBroker

/-- A server's place in the list of those made. -/
abbrev BackendId := Nat

structure Site where
  clock : Clock := {}
  host : Host
  /-- How a server behaves at present. -/
  plan : BackendName → Plan
  backends : List Backend := []
  /-- The servers asked for, those that could not be made included. -/
  asked : List (Variant × ScopeKey) := []
  /-- What has happened, the latest last. -/
  journal : List (Time × Happening) := []
  telemetry : List (Time × TelemetryEvent) := []
  /-- The servers that the user was told are missing. -/
  prompts : List Variant := []

namespace Site

/-- Writes down what happens now. -/
def note (s : Site) (h : Happening) : Site := { s with journal := s.journal ++ [(s.clock.now, h)] }

/-- Sends a telemetry event. -/
def emit (s : Site) (e : TelemetryEvent) : Site :=
  { s with telemetry := s.telemetry ++ [(s.clock.now, e)] }

def backend? (s : Site) (b : BackendId) : Option Backend := s.backends[b]?

/-- Changes a server's middleware. -/
def modifyMiddleware (s : Site) (b : BackendId) (f : Middleware → Middleware) : Site :=
  { s with backends := s.backends.modify b fun x => { x with middleware := f x.middleware } }

/-- Writes down what happens to a server. -/
def noteBackend (s : Site) (b : BackendId) (e : BackendEvent) : Site :=
  match s.backend? b with
  | some x => s.note (.backend x.name e)
  | none => s

/-- Makes a server for a scope, unless its plan is to fail. -/
def create (s : Site) (variant : Variant) (scope : Scope) :
    Site × Except BackendError BackendId :=
  let key := scope.key
  let name : BackendName := ⟨variant, key, s.asked.count (variant, key) + 1⟩
  let plan := s.plan name
  let s := { s with asked := s.asked ++ [(variant, key)] }.note (.backend name .create)
  match plan.createFailure with
  | some e => (s, .error e)
  | none =>
    ({ s with backends := s.backends ++ [⟨name, plan, { variant }⟩] }, .ok s.backends.length)

/-- Starts a server, and says when it will be done. -/
def beginStart (s : Site) (b : BackendId) (options : Options) : Site × Deadline :=
  let delay := ((s.backend? b).map (·.plan.startDelay)).getD 0
  (s.noteBackend b (.start options), s.clock.after delay)

/-- The start of a server is done: it is connected, or it has failed. -/
def endStart (s : Site) (b : BackendId) (options : Options) : Site × Except BackendError Unit :=
  match s.backend? b with
  | none => (s, .ok ())
  | some x =>
    match x.plan.startFailure with
    | some e => (s.noteBackend b .failed, .error e)
    | none =>
      ((s.noteBackend b .started).modifyMiddleware b fun w =>
        { w with
          version := x.plan.version
          selector := options.selector
          connected := true },
        .ok ())

/-- Disposes of a server, and says when that will be done. Its gate closes at once. -/
def beginDispose (s : Site) (b : BackendId) : Site × Deadline :=
  ((s.modifyMiddleware b (·.disconnect)).noteBackend b .dispose,
    s.clock.after (((s.backend? b).map (·.plan.disposeDelay)).getD 0))

/-- A server is gone. One that took no time needs no notice. -/
def endDispose (s : Site) (b : BackendId) : Site :=
  match s.backend? b with
  | some x => if x.plan.disposeDelay = 0 then s else s.noteBackend b .disposed
  | none => s

/-- A call has ended: the middleware of its server may report it. -/
def settleCall (s : Site) (b : BackendId) (method : Method) (start : Time) (result : CallResult) :
    Site :=
  match s.backend? b with
  | none => s
  | some x =>
    let (w, event) := x.middleware.settle method start s.clock.now true result
    let s := s.modifyMiddleware b fun _ => w
    match event with
    | some e => s.emit e
    | none => s

end Site

end LanguageBroker
