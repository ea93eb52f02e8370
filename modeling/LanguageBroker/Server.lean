import LanguageBroker.Middleware.Configuration
import LanguageBroker.Middleware.Findings
import LanguageBroker.Middleware.Passage
import LanguageBroker.Server.Greeting
import LanguageBroker.Wire

/-!
A server that runs in a process of its own, and the broker's conversation with it: a greeting and
its answer, calls, and a farewell. The gate of the middleware is open from the answer to the
greeting to the farewell. What the server says unasked goes through the middleware to the editor.
-/

namespace LanguageBroker

/-- How far a conversation has come. -/
inductive Server.Stage
  /-- No process runs. -/
  | idle
  /-- The server was greeted and has not answered. -/
  | greeting (request : RequestId) (options : Options)
  | running
  /-- The server was asked to shut down and has until then to agree. -/
  | leaving (request : RequestId) (due : Deadline)
  /-- The server was told to exit. -/
  | departing

/-- What is to be seen of a conversation. -/
inductive Server.Sight
  /-- Somebody on the way of a call made a remark about it. -/
  | remark (name : String) (method : Method)
  /-- The editor was asked about settings. -/
  | asked (items : List ConfigurationItem)
  /-- The editor was told what the server has found. -/
  | published (params : Json)
  | reported (event : TelemetryEvent)

/-- A request to a server: the process it went to, and its number there. -/
structure Server.Handle where
  launch : Nat
  id : RequestId

/-- A call on its way through the middleware. -/
structure Server.Visit where
  number : Nat
  passage : Passage
  /-- The request that it has led to. -/
  request : Option Server.Handle := none
  /-- Has the caller given up? -/
  cancelled : Bool := false

/-- A request of the server's that was not answered yet. -/
structure Server.Question where
  number : Nat
  id : Json
  method : String
  params : Json

structure Server where
  middleware : Middleware
  chain : List (Interceptor Flow) := []
  stage : Server.Stage := .idle
  wire : Wire := {}
  /-- How many processes there have been. -/
  launches : Nat := 0
  visits : List Server.Visit := []
  nextVisit : Nat := 0
  /-- How calls have ended. -/
  results : List (Nat × CallResult) := []
  /-- Findings on their way to the editor. The reader waits for them. -/
  findings : Option Passage := none
  questions : List Server.Question := []
  nextQuestion : Nat := 0
  /-- How the last start has ended; nothing while it goes on. -/
  startResult : Option (Except BackendError Unit) := none
  /-- What was to be seen, the latest last. -/
  sights : List Server.Sight := []

namespace Server

/-- Replaces the connection. -/
def reconnect (s : Server) (connection : Connection) : Server :=
  { s with wire := { s.wire with connection } }

def see (s : Server) (sights : List Sight) : Server := { s with sights := s.sights ++ sights }

def seePassage (s : Server) : Option Passage.Sight → Server
  | some (.remark name method) => s.see [.remark name method]
  | _ => s

/-- Ends the conversation. -/
def close (s : Server) : Server :=
  { s.reconnect s.wire.connection.close with stage := .idle, findings := none }

/-! The beginning and the end of a conversation. -/

/-- The method that greets. -/
def greetingMethod : String := "initialize"

def failStart (s : Server) (cause : BackendError) : Server :=
  { s.close with startResult := some (.error cause) }

/-- A process was launched, or could not be. A launched one is greeted. -/
def start (s : Server) (launch : Except BackendError Nat) (options : Options) : Server :=
  match s.stage, launch with
  | .running, _ => { s with startResult := some (.error (.start "already running")) }
  | _, .error cause => { s with startResult := some (.error cause) }
  | _, .ok processId =>
    let (connection, sent) :=
      Connection.request {} greetingMethod (Greeting.params options processId)
    let s := { s with wire := { connection }, launches := s.launches + 1, startResult := none }
    match sent with
    | .ok id => { s with stage := .greeting id options }
    | .error e => s.failStart (.rejected greetingMethod e.message)

/-- The greeting is answered: the server is told that it can begin, and the gate opens. -/
def endGreeting (s : Server) (options : Options) : Except RpcError Json → Server
  | .error e => s.failStart (.rejected greetingMethod e.message)
  | .ok answer =>
    let s := { s with middleware :=
      { s.middleware with version := Greeting.version? answer, selector := options.selector } }
    match s.wire.connection.notify "initialized" (Json.object []) with
    | (_, .error cause) => s.failStart cause
    | (connection, .ok ()) =>
      { s.reconnect connection with
        stage := .running
        middleware := s.middleware.connect
        startResult := some (.ok ()) }

/-- So many milliseconds a server has to agree to shut down. -/
def patience : Nat := 2000

/-- The gate closes, and a server that runs is asked to shut down. -/
def dispose (s : Server) (clock : Clock) : Server :=
  let s := { s with middleware := s.middleware.disconnect }
  match s.stage with
  | .running =>
    match s.wire.connection.request "shutdown" .null with
    | (connection, .ok id) =>
      { s.reconnect connection with stage := .leaving id (clock.after patience) }
    | (_, .error _) => s.close
  | _ => s

/-- The server has agreed to shut down, or has not. One that agreed is told to exit. -/
def endLeaving (s : Server) : Option (Except RpcError Json) → Server
  | some (.ok _) =>
    { s.reconnect (s.wire.connection.notify "exit" .null).1 with stage := .departing }
  | _ => s.close

/-- Can the conversation go on? -/
def canProceed (s : Server) (clock : Clock) : Bool :=
  match s.stage with
  | .greeting id _ => (s.wire.connection.answer? id).isSome
  | .leaving id due => (s.wire.connection.answer? id).isSome || clock.reached due
  | .departing => true
  | .idle | .running => false

/-- The conversation goes on. -/
def proceed (s : Server) : Server :=
  match s.stage with
  | .greeting id options =>
    match s.wire.connection.answer? id with
    | some result => (s.reconnect (s.wire.connection.take id)).endGreeting options result
    | none => s
  | .leaving id _ => s.endLeaving (s.wire.connection.answer? id)
  | .departing => s.close
  | .idle | .running => s

/-! Calls. -/

/-- A call comes to the middleware. Its result will be found under the number. -/
def call (s : Server) (clock : Clock) (c : Call) : Server × Nat :=
  ({ s with
      visits := s.visits ++
        [{ number := s.nextVisit, passage := .enter s.middleware s.chain clock.now c }]
      nextVisit := s.nextVisit + 1 }, s.nextVisit)

/-- The caller gives a call up. -/
def giveUp (s : Server) (number : Nat) : Server :=
  { s with
    visits := s.visits.map fun v =>
      if v.number = number then { v with cancelled := true } else v }

def result? (s : Server) (number : Nat) : Option CallResult := s.results.lookup number

/-- Hands a call to the process. Only a request has an answer to wait for. -/
def dispatch (s : Server) (c : Call) : Server × (CallResult ⊕ Handle) :=
  match s.stage with
  | .running =>
    if c.method.isNotification then
      match s.wire.connection.notify c.method.name c.params with
      | (connection, .ok ()) => (s.reconnect connection, .inl (.ok none))
      | (_, .error e) => (s, .inl (.error (.internal e.message)))
    else
      match s.wire.connection.request c.method.name c.params with
      | (connection, .ok id) => (s.reconnect connection, .inr ⟨s.launches, id⟩)
      | (connection, .error e) => (s.reconnect connection, .inl (.error e))
  | _ => (s, .inl (.error .internalError))

/-- The end of a request, once it has one. A process that has gone answers nothing any more. -/
def answer? (s : Server) (h : Handle) : Option CallResult :=
  if h.launch = s.launches then
    (s.wire.connection.answer? h.id).map fun result => result.map some
  else some (.error .connectionClosed)

/-- A request's end has been looked at. -/
def take (s : Server) (h : Handle) : Server :=
  if h.launch = s.launches then s.reconnect (s.wire.connection.take h.id) else s

/-- Gives a request up and tells the process. -/
def cancel (s : Server) (h : Handle) : Server :=
  if h.launch = s.launches then s.reconnect (s.wire.connection.cancel h.id) else s

def putVisit (s : Server) (v : Visit) : Server :=
  { s with visits := s.visits.map fun x => if x.number = v.number then v else x }

/-- A call has come to its end. -/
def endVisit (s : Server) (clock : Clock) (v : Visit) (result : CallResult) : Server :=
  let (middleware, event) := v.passage.leave s.middleware clock.now result
  { s with
    middleware
    visits := s.visits.filter fun x => x.number ≠ v.number
    results := s.results ++ [(v.number, result)] }.see (event.map Sight.reported).toList

/-- Can a call go on? -/
def canVisit (s : Server) (clock : Clock) (v : Visit) : Bool :=
  match v.passage.result?, v.passage.atServer?, v.request with
  | some _, _, _ => true
  | none, some _, some h => v.cancelled || (s.answer? h).isSome
  | none, some _, none => true
  | none, none, _ => v.passage.canStep clock

/-- A call takes its next step. -/
def stepVisit (s : Server) (clock : Clock) (v : Visit) : Server :=
  match v.passage.result?, v.passage.atServer?, v.request with
  | some result, _, _ => s.endVisit clock v result
  | none, some c, none =>
    match s.dispatch c with
    | (s, .inl result) => s.putVisit { v with passage := v.passage.resume result }
    | (s, .inr h) => s.putVisit { v with request := some h }
  | none, some c, some h =>
    match s.answer? h with
    | some result =>
      (s.take h).putVisit { v with passage := v.passage.resume result, request := none }
    | none =>
      let result := .error (Connection.givenUp c.method.name)
      (s.cancel h).putVisit { v with passage := v.passage.resume result, request := none }
  | none, none, _ =>
    let (passage, sight) := v.passage.walk clock
    (s.putVisit { v with passage }).seePassage sight

/-! What the server says unasked. -/

/-- A notification arrives. Findings are passed on and all else is ignored. -/
def hear (s : Server) (clock : Clock) (method : String) (params : Json) : Server :=
  if method = Method.publishDiagnostics.name then
    match Findings.read? params with
    | some params =>
      let call : Call := { method := .publishDiagnostics, params }
      { s with findings := some (.enter s.middleware s.chain clock.now call) }
    | none => s
  else s

/-- The editor gets findings, if they still can be read. -/
def publish (s : Server) (params : Json) : Server × CallResult :=
  match Shape.publishedDiagnostics.read params with
  | some params => (s.see [.published params], .ok none)
  | none => (s, .error (.invalidParams "malformed parameters"))

/-- Findings take their next step on the way to the editor. -/
def stepFindings (s : Server) (clock : Clock) (p : Passage) : Server :=
  match p.result?, p.atServer? with
  | some result, _ =>
    let (middleware, event) := p.leave s.middleware clock.now result
    { s with middleware, findings := none }.see (event.map Sight.reported).toList
  | none, some c =>
    let (s, result) := s.publish c.params
    { s with findings := some (p.resume result) }
  | none, none =>
    let (passage, sight) := p.walk clock
    { s with findings := some passage }.seePassage sight

/-- The reader takes in what comes next. -/
def stepReader (s : Server) (clock : Clock) : Server :=
  match s.findings with
  | some p => s.stepFindings clock p
  | none =>
    let (wire, incoming) := s.wire.read
    let s := { s with wire }
    match incoming with
    | some (.request id method params) =>
      { s with
        questions := s.questions ++ [⟨s.nextQuestion, id, method, params⟩]
        nextQuestion := s.nextQuestion + 1 }
    | some (.notification method params) => s.hear clock method params
    | _ => s

/-- The method by which servers ask about settings. -/
def settingsMethod : String := "workspace/configuration"

/-- Requests that are only acknowledged. -/
def formalities : List String :=
  ["client/registerCapability", "client/unregisterCapability", "window/workDoneProgress/create"]

/-- The answer to a request of the server's, and what the editor was asked for it. -/
def reply (source : SettingsSource) (method : String) (params : Json) :
    Except RpcError Json × Option (List ConfigurationItem) :=
  if method = settingsMethod then
    match ConfigurationItem.readAll params with
    | .ok items => ((source.answer items).map .arr, some items)
    | .error fault => (.error (.invalidParams fault), none)
  else if formalities.contains method then (.ok .null, none)
  else (.error .methodNotFound, none)

/-- A request of the server's is answered. -/
def stepQuestion (s : Server) (source : SettingsSource) (q : Question) : Server :=
  let (result, asked) := reply source q.method q.params
  { s.reconnect (s.wire.connection.post (Connection.replyMessage q.id result)) with
    questions := s.questions.filter fun x => x.number ≠ q.number }.see
      (asked.map Sight.asked).toList

/-! All that goes on at once. -/

inductive Duty
  | reader
  | writer
  | question (number : Nat)
  | conversation
  | visit (number : Nat)
  deriving DecidableEq, Repr

def duties (s : Server) : List Duty :=
  .reader :: .writer :: (s.questions.map (fun q => .question q.number)
    ++ .conversation :: s.visits.map fun v => .visit v.number)

def visit? (s : Server) (number : Nat) : Option Visit := s.visits.find? fun v => v.number = number

def question? (s : Server) (number : Nat) : Option Question :=
  s.questions.find? fun q => q.number = number

/-- Is there something to do? -/
def isReady (s : Server) (clock : Clock) : Duty → Bool
  | .reader =>
    match s.findings with
    | some p => p.result?.isSome || p.canStep clock
    | none => s.wire.hasInput
  | .writer => s.wire.hasOutput
  | .question number => (s.question? number).isSome
  | .conversation => s.canProceed clock
  | .visit number => (s.visit? number).any (s.canVisit clock)

/-- Does it. The writer hands a message to the process. -/
def act (s : Server) (source : SettingsSource) (clock : Clock) : Duty → Server × Option Json
  | .reader => (s.stepReader clock, none)
  | .writer =>
    let (wire, message) := s.wire.write
    ({ s with wire }, message)
  | .question number => (((s.question? number).map (s.stepQuestion source)).getD s, none)
  | .conversation => (s.proceed, none)
  | .visit number => (((s.visit? number).map (s.stepVisit clock)).getD s, none)

/-- The time that a duty waits for. -/
def deadline (s : Server) : Duty → Option Deadline
  | .reader => s.findings.bind (·.due)
  | .conversation =>
    match s.stage with
    | .leaving _ due => some due
    | _ => none
  | .visit number => (s.visit? number).bind (·.passage.due)
  | .writer | .question _ => none

end Server

end LanguageBroker
