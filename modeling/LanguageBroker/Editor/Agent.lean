import LanguageBroker.Editor.Session

/-!
How a session goes on: the broker works, messages are handled, and calls that were handed over are
delivered whether or not anybody waits for them.
-/

namespace LanguageBroker.Editor.Session

inductive Agent
  | broker (a : Broker.Agent)
  | handler (number : Nat)
  | background (e : ErrandId)
  deriving DecidableEq, Repr

def agents (s : Session) : List Agent :=
  s.broker.agents.map .broker ++ s.handlers.map (fun h => .handler h.number)
    ++ s.background.map .background

def handler? (s : Session) (number : Nat) : Option Handler :=
  s.handlers.find? fun h => h.number = number

/-- Puts a handler at a stage. -/
def put (s : Session) (number : Nat) (stage : Handler.Stage) : Session :=
  { s with handlers := s.handlers.map fun h => if h.number = number then { h with stage } else h }

/-- A message has been handled. -/
def conclude (s : Session) (h : Handler) (result : Except RpcError Json) : Session :=
  { s with handlers := s.handlers.filter fun x => x.number ≠ h.number }.answer h.number h.id result

/-- What the editor is told of a server's answer. An item that was to be completed and was not is
handed back as it came. -/
def answerOf (method : Method) (params : Json) : CallResult → Except RpcError Json
  | .error e => .error e
  | .ok none | .ok (some .null) => .ok (if method.isResolve then params else .null)
  | .ok (some v) =>
    match method.answer.read v with
    | some w => .ok w
    | none => .error (.internal "malformed answer")

/-- The server of a call's document is found, or there is none. -/
def deliver (s : Session) (h : Handler) (method : Method) (params : Json) :
    Errand.Outcome → Session
  | .found record =>
    let (broker, e) := s.broker.entrust (.deliver record method params)
    let s := { s with broker }
    if method.isNotification then s.put h.number (.delivering e)
    else { s with background := s.background ++ [e] }.put h.number (.handedOver e method params)
  | _ => s.conclude h (answerOf method params (.ok none))

/-- Does anybody wait for an errand of the background? -/
def isAwaited (s : Session) (e : ErrandId) : Bool :=
  s.handlers.any fun h =>
    match h.stage with
    | .handedOver d _ _ => d = e
    | _ => false

/-- A handler takes its next step. -/
def stepHandler (s : Session) (h : Handler) : Session :=
  match h.stage with
  | .finding e method params =>
    match s.broker.awaitErrand e with
    | (broker, none) => { s with broker }
    | (broker, some outcome) => { s with broker }.deliver h method params outcome
  | .delivering e | .sweeping e =>
    match s.broker.awaitErrand e with
    | (broker, none) => { s with broker }
    | (broker, some _) => { s with broker }.conclude h (.ok .null)
  | .handedOver e method params =>
    match s.broker.errandOutcome? e with
    | some (.answered result) =>
      { s with
        broker := s.broker.forgetErrand e
        background := s.background.filter (· ≠ e) }.conclude h (answerOf method params result)
    | _ => s

/-- An errand of the background is taken further, or forgotten when it is done. -/
def stepBackground (s : Session) (e : ErrandId) : Session :=
  match s.broker.errandOutcome? e with
  | some _ =>
    { s with broker := s.broker.forgetErrand e, background := s.background.filter (· ≠ e) }
  | none => { s with broker := s.broker.stepErrand e }

/-- Is there something to do? -/
def isReady (s : Session) : Agent → Bool
  | .broker a => s.broker.isReady a
  | .handler number =>
    (s.handler? number).any fun h =>
      match h.stage with
      | .handedOver e _ _ => (s.broker.errandOutcome? e).isSome
      | stage => s.broker.canAwaitErrand stage.errand
  | .background e =>
    match s.broker.errandOutcome? e with
    | some _ => !s.isAwaited e
    | none => s.broker.canRun e

def tidy (s : Session) : Session := { s with broker := s.broker.tidy }

/-- Does it. -/
def act (s : Session) : Agent → Session
  | .broker a => { s with broker := s.broker.act a }
  | .handler number => (((s.handler? number).map s.stepHandler).getD s).tidy
  | .background e => (s.stepBackground e).tidy

/-- The time that an agent waits for. -/
def deadline (s : Session) : Agent → Option Deadline
  | .broker a => s.broker.deadline a
  | .handler number =>
    match s.handler? number with
    | some { stage := .handedOver .., .. } => none
    | some h => s.broker.errandDeadline h.stage.errand
    | none => none
  | .background e => s.broker.errandDeadline e

/-- The step at which an agent began to wait. -/
def since (s : Session) : Agent → Nat
  | .broker a => s.broker.since a
  | .handler number => ((s.handler? number).map fun h => s.broker.errandSince h.stage.errand).getD 0
  | .background e => s.broker.errandSince e

end LanguageBroker.Editor.Session
