import LanguageBroker.Frame
import LanguageBroker.Rpc

/-!
The broker's end of a connection to one server. Requests get numbers and wait in a table until a
response with their number arrives, until they are given up, or until the table is closed; once
closed it stays so. What is to be written waits in a queue for the writer.
-/

namespace LanguageBroker

/-- A request's number. -/
abbrev RequestId := Nat

/-- What a message from a server is. -/
inductive Incoming
  | response (id : Int) (body : Json)
  | request (id : Json) (method : String) (params : Json)
  | notification (method : String) (params : Json)

namespace Incoming

/-- A message with a method is a request or a notification, one with only a number a response.
Anything else is ignored. -/
def ofJson? (message : Json) : Option Incoming :=
  let params := (message.get? "params").getD .null
  match message.get? "id", (message.get? "method").bind Json.text? with
  | some id, some method => some (.request id method params)
  | none, some method => some (.notification method params)
  | some (.int n), none => if RpcError.isCode n then some (.response n message) else none
  | some _, none => none
  | none, none => none

end Incoming

structure Connection where
  nextId : RequestId := 1
  /-- Is the table of waiting requests closed? -/
  isShut : Bool := false
  waiting : List RequestId := []
  /-- The responses that arrived and were not looked at yet. -/
  arrived : List (RequestId × Json) := []
  /-- The messages to be written. -/
  queue : List Json := []
  /-- Does the writer still take messages? -/
  writes : Bool := true
  /-- Does the reader still read? -/
  reads : Bool := true

namespace Connection

/-! The messages of the protocol. -/

def versionMember : String × Json := ("jsonrpc", .str "2.0")

def requestMessage (id : RequestId) (method : String) (params : Json) : Json :=
  Json.object [versionMember, ("id", Json.ofNat id), ("method", .str method), ("params", params)]

def notificationMessage (method : String) (params : Json) : Json :=
  Json.object [versionMember, ("method", .str method), ("params", params)]

/-- The notice that a request was given up. -/
def cancelMessage (id : RequestId) : Json :=
  notificationMessage "$/cancelRequest" (Json.object [("id", Json.ofNat id)])

/-- The answer to a server's request. -/
def replyMessage (id : Json) : Except RpcError Json → Json
  | .ok result => Json.object [versionMember, ("id", id), ("result", result)]
  | .error e => Json.object [versionMember, ("id", id), ("error", e.toJson)]

/-- What a response says. An error that cannot be read is an internal one. -/
def resultOf (body : Json) : Except RpcError Json :=
  match body.get? "error" with
  | some e => .error ((RpcError.ofJson? e).getD RpcError.internalError)
  | none => .ok ((body.get? "result").getD .null)

/-! The broker's side. -/

/-- Queues a message, unless the writer has stopped. -/
def post (c : Connection) (message : Json) : Connection :=
  if c.writes then { c with queue := c.queue ++ [message] } else c

/-- Sends a request. It fails at once when nothing can be sent or answered any more. -/
def request (c : Connection) (method : String) (params : Json) :
    Connection × Except RpcError RequestId :=
  let id := c.nextId
  let c := { c with nextId := id + 1 }
  if c.isShut || !c.writes then (c, .error .connectionClosed)
  else ({ c with waiting := c.waiting ++ [id] }.post (requestMessage id method params), .ok id)

def notify (c : Connection) (method : String) (params : Json) :
    Connection × Except BackendError Unit :=
  if c.writes then (c.post (notificationMessage method params), .ok ())
  else (c, .error .connectionClosed)

/-- The end of a request, once it has one. -/
def answer? (c : Connection) (id : RequestId) : Option (Except RpcError Json) :=
  match c.arrived.lookup id with
  | some body => some (resultOf body)
  | none => if c.waiting.contains id then none else some (.error .connectionClosed)

/-- A request's end has been looked at. -/
def take (c : Connection) (id : RequestId) : Connection :=
  { c with arrived := c.arrived.filter fun a => a.1 ≠ id }

/-- How a request ends that was given up. -/
def givenUp (method : String) : RpcError := .cancelled (method ++ " was cancelled")

/-- Gives a request up and tells the server. -/
def cancel (c : Connection) (id : RequestId) : Connection :=
  { c with waiting := c.waiting.filter (· ≠ id) }.post (cancelMessage id)

/-- Closes the table of waiting requests. -/
def shut (c : Connection) : Connection := { c with isShut := true, waiting := [] }

/-- Stops reading and writing. -/
def close (c : Connection) : Connection :=
  { c.shut with reads := false, writes := false, queue := [] }

def isClosed (c : Connection) : Bool := !c.reads || !c.writes

/-! The reader and the writer. -/

/-- A response arrives. Only a waiting request takes it. -/
def deliver (c : Connection) (id : Int) (body : Json) : Connection :=
  let n := id.toNat
  if id ≥ 0 && c.waiting.contains n then
    { c with waiting := c.waiting.filter (· ≠ n), arrived := c.arrived ++ [(n, body)] }
  else c

/-- The reader takes a message in. Requests and notifications are for the handler. -/
def receive (c : Connection) (message : Json) : Connection × Option Incoming :=
  match Incoming.ofJson? message with
  | some (.response id body) => (c.deliver id body, none)
  | other => (c, other)

/-- The server's output has ended, or cannot be read. -/
def endInput (c : Connection) : Connection := { c.shut with reads := false }

/-- The writer takes the next message. -/
def next? (c : Connection) : Option (Json × Connection) :=
  match c.queue with
  | [] => none
  | message :: rest => some (message, { c with queue := rest })

/-- A message could not be written. The writer stops. -/
def endOutput (c : Connection) : Connection := { c with writes := false, queue := [] }

end Connection

end LanguageBroker
