import LanguageBroker.Connection
import LanguageBroker.Platform
import LanguageBroker.Scope
import LanguageBroker.Telemetry

/-!
Messages between the broker and the editor: those it receives as they are read, those it sends as
they are written, and the answers to requests.
-/

namespace LanguageBroker.Editor

/-- A message from the editor. A request has an id. -/
structure Message where
  id : Option Json := none
  method : String
  params : Option Json := none

/-- Reads a message. The method that is not named is one without a name, which nobody knows. -/
def Message.ofJson? (v : Json) : Option Message :=
  ((v.get? "method").getD (.str "")).text?.map fun method =>
    { id := v.get? "id", method, params := v.get? "params" }

/-- What becomes of a message from the editor. -/
inductive Response
  /-- Notifications have no answer. -/
  | nothing
  | answer (id : Json) (result : Except RpcError Json)
  /-- The editor has told the broker to leave. -/
  | exited

/-- The broker is not ready for requests. -/
def notInitialized : RpcError := ⟨-32002, "Server not initialized", none⟩

def invalidRequest : RpcError := ⟨-32600, "Invalid request", none⟩

/-- The editor gave a request up. -/
def canceled : RpcError := .cancelled "Canceled"

/-- There is no such method. -/
def unknownMethod (method : String) : RpcError :=
  { RpcError.methodNotFound with data := some (.str method) }

/-- Is a method unknown that belongs to an extension of the protocol? -/
def isUnknownExtension (e : RpcError) : Bool :=
  match e.data with
  | some (.str method) => e.code == RpcError.methodNotFound.code && method.startsWith "$/"
  | _ => false

/-- A message to the editor. -/
def outgoing (method : String) (params : Json) : Json :=
  Json.object [("method", .str method), ("params", params)]

/-- A line for the editor's log. -/
def logMessage (text : String) : Json :=
  outgoing "window/logMessage" (Json.object [("type", .int 3), ("message", .str text)])

/-- Tells the user that a server is missing. -/
def missingNotice (variant : Variant) : Json :=
  outgoing "window/showMessage" (Json.object
    [("type", .int 2),
      ("message", .str ("The " ++ variant.name ++ " language server is not installed; "
        ++ "using the simple analyzer instead."))])

/-- Hands a telemetry event on. -/
def telemetryMessage (e : TelemetryEvent) : Json :=
  outgoing "telemetry/event" (Json.object
    [("eventName", .str e.name), ("measures", e.measuresJson), ("properties", e.propertiesJson)])

/-- Asks the editor to report changes of the files of that name. -/
def watchMessage (fileName : String) : Json :=
  let watchers := Json.arr [Json.object [("globPattern", .str ("**/" ++ fileName))]]
  outgoing "client/registerCapability" (Json.object
    [("registrations", .arr [Json.object
      [("id", .str (Platform.brokerName ++ "/env-file")),
        ("method", .str "workspace/didChangeWatchedFiles"),
        ("registerOptions", Json.object [("watchers", watchers)])]])])

end LanguageBroker.Editor
