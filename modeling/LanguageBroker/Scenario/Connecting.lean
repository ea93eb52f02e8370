import LanguageBroker.Scenario.Report
import LanguageBroker.Scenario.Steps
import LanguageBroker.Schedule
import LanguageBroker.Wire

/-!
Scenarios of one connection to a server that does as it is told.
-/

namespace LanguageBroker.Scenario.Connecting

/-- How the handler answers a method, and after how many milliseconds. -/
structure Handling where
  delay : Nat
  reply : CallResult

/-- What an operation waits for. -/
inductive Wait
  /-- The request is not sent yet. -/
  | sending (params : Json)
  | response (id : RequestId)

/-- A request that has not ended. -/
structure Pending where
  step : Nat
  method : String
  wait : Wait
  cancelled : Bool

/-- A server's request that is being answered. -/
structure Handled where
  number : Nat
  id : Json
  method : String
  params : Json
  /-- When the answer will be ready; nothing before the handler has begun. -/
  due : Option Deadline := none

structure State where
  clock : Clock := {}
  handlers : List (String × Handling)
  wire : Wire := {}
  serverGot : List Json := []
  /-- When the handler is done with a notification. The reader waits for it. -/
  busy : Option Deadline := none
  handled : List Handled := []
  nextHandled : Nat := 0
  pending : List Pending := []
  log : List LogLine := []
  done : List Completion := []

namespace State

def logCall (s : State) (what method : String) (params : Json) : State :=
  let line := logLine s.clock.now "handler" "handler"
    [("what", .str what), ("method", .str method), ("params", params)]
  { s with log := s.log ++ [line] }

def delayOf (s : State) (method : String) : Nat := ((s.handlers.lookup method).map (·.delay)).getD 0

/-- The handler's answer to a server's request. -/
def replyTo (s : State) (method : String) : Except RpcError Json :=
  match s.handlers.lookup method with
  | none => .error .methodNotFound
  | some h =>
    match h.reply with
    | .ok v => .ok (v.getD .null)
    | .error e => .error e

def finish (s : State) (p : Pending) (result : CallResult) : State :=
  { s with
    pending := s.pending.filter fun q => q.step ≠ p.step
    done := s.done ++ [⟨p.step, s.clock.now, writeCallResult result⟩] }

/-- Changes the connection. -/
def connect (s : State) (connection : Connection) : State :=
  { s with wire := { s.wire with connection } }

/-- A request is sent, given up, or has its end. -/
def stepPending (s : State) (p : Pending) : State :=
  match p.wait with
  | .sending params =>
    match s.wire.connection.request p.method params with
    | (connection, .error e) => (s.connect connection).finish p (.error e)
    | (connection, .ok id) =>
      { s.connect connection with
        pending := s.pending.map fun q =>
          if q.step = p.step then { q with wait := .response id } else q }
  | .response id =>
    match s.wire.connection.answer? id with
    | some result => (s.connect (s.wire.connection.take id)).finish p (result.map some)
    | none =>
      (s.connect (s.wire.connection.cancel id)).finish p
        (.error (Connection.givenUp p.method))

/-- The reader takes in what the server has written next. -/
def stepReader (s : State) : State :=
  match s.busy with
  | some _ => { s with busy := none }
  | none =>
    let (wire, incoming) := s.wire.read
    let s := { s with wire }
    match incoming with
    | some (.request id method params) =>
      { s with
        handled := s.handled ++ [⟨s.nextHandled, id, method, params, none⟩]
        nextHandled := s.nextHandled + 1 }
    | some (.notification method params) =>
      { s.logCall "notification" method params with
        busy := some (s.clock.after (s.delayOf method)) }
    | _ => s

def stepWriter (s : State) : State :=
  let (wire, message) := s.wire.write
  { s with wire, serverGot := s.serverGot ++ message.toList }

/-- The handler begins with a server's request, or answers it. -/
def stepHandled (s : State) (h : Handled) : State :=
  match h.due with
  | none =>
    { s.logCall "request" h.method h.params with
      handled := s.handled.map fun x =>
        if x.number = h.number then { x with due := some (s.clock.after (s.delayOf h.method)) }
        else x }
  | some _ =>
    { s.connect (s.wire.connection.post (Connection.replyMessage h.id (s.replyTo h.method))) with
      handled := s.handled.filter fun x => x.number ≠ h.number }

inductive Agent
  | reader
  | writer
  | handler (number : Nat)
  | request (step : Nat)
  deriving DecidableEq

def pending? (s : State) (step : Nat) : Option Pending := s.pending.find? fun p => p.step = step

def handled? (s : State) (number : Nat) : Option Handled :=
  s.handled.find? fun h => h.number = number

def isReady (s : State) : Agent → Bool
  | .reader =>
    match s.busy with
    | some d => s.wire.connection.reads && s.clock.reached d
    | none => s.wire.hasInput
  | .writer => s.wire.hasOutput
  | .handler number =>
    match s.handled? number with
    | some { due := some d, .. } => s.clock.reached d
    | some { due := none, .. } => true
    | none => false
  | .request step =>
    match s.pending? step with
    | some { wait := .sending _, .. } => true
    | some { wait := .response id, cancelled, .. } =>
      cancelled || (s.wire.connection.answer? id).isSome
    | none => false

def act (s : State) : Agent → State
  | .reader => s.stepReader
  | .writer => s.stepWriter
  | .handler number => ((s.handled? number).map s.stepHandled).getD s
  | .request step => ((s.pending? step).map s.stepPending).getD s

def deadline (s : State) : Agent → Option Deadline
  | .reader => s.busy
  | .handler number => (s.handled? number).bind (·.due)
  | _ => none

end State

def schedule : Schedule State State.Agent where
  agents s := .reader :: .writer :: (s.handled.map (fun h => .handler h.number)
    ++ s.pending.map fun p => .request p.step)
  isReady := State.isReady
  act := State.act
  deadline := State.deadline
  clock := State.clock
  setClock s clock := { s with clock }

def serverWrites (s : State) (bytes : List UInt8) : State := { s with wire := s.wire.feed bytes }

def perform (s : State) (step : Nat) (v : Json) : State :=
  let params := valueMember "params" v
  match (v.get? "sleep").bind Json.nat?, textMember? "request" v, textMember? "notify" v with
  | some n, _, _ => schedule.sleep n s
  | none, some method, _ =>
    { s with pending := s.pending ++ [⟨step, method, .sending params, boolMember "cancelled" v⟩] }
  | none, none, some method =>
    let (connection, result) := s.wire.connection.notify method params
    let written := match result with
      | .ok () => .null
      | .error e => writeBackendError e
    { s.connect connection with done := s.done ++ [⟨step, s.clock.now, written⟩] }
  | none, none, none =>
    match (v.get? "cancel").bind Json.nat?, v.get? "send", textMember? "send_raw" v with
    | some n, _, _ =>
      { s with
        pending := s.pending.map fun p =>
          if p.step = n then { p with cancelled := true } else p }
    | none, some message, _ => serverWrites s (Frame.write message)
    | none, none, some text => serverWrites s (Text.encode text.toList)
    | none, none, none =>
      if (v.get? "server_closes_output").isSome then
        { s with wire := { s.wire with inputEnded := true } }
      else if (v.get? "server_closes_input").isSome then
        { s with wire := { s.wire with serverReads := false } }
      else { s.connect s.wire.connection.close with busy := none }

def step (s : State) (n : Nat) (v : Json) : State × Json :=
  let s := { s with log := [], serverGot := [], done := [] }
  let s := schedule.rest (perform (schedule.tick s) n v)
  (s, Json.object
    (writeCompletions s.done ++ (if s.log.isEmpty then [] else [("log", writeLog s.log)])
      ++ listIfAny "server_got" s.serverGot ++ [("closed", .bool s.wire.connection.isClosed)]))

def readHandling (v : Json) : Handling := ⟨natMember "delay_ms" v, readReply v⟩

def run (v : Json) : Json :=
  let handlers := ((v.get? "handlers").bind Json.members?).getD []
  runSteps step { handlers := handlers.map fun h => (h.1, readHandling h.2) } (listMember "steps" v)

end LanguageBroker.Scenario.Connecting
