import LanguageBroker.Options
import LanguageBroker.Platform

/-!
The greeting that opens the conversation with a server, and what is looked at in its answer.
-/

namespace LanguageBroker.Greeting

/-- What the broker can do for servers. -/
def abilities : Json :=
  Json.object
    [("workspace", Json.object [("configuration", .bool true), ("workspaceFolders", .bool true)]),
      ("textDocument", Json.object
        [("synchronization", Json.object
          [("dynamicRegistration", .bool false), ("willSave", .bool true),
            ("willSaveWaitUntil", .bool true), ("didSave", .bool true)]),
          ("completion", Json.object
            [("completionItem", Json.object [("snippetSupport", .bool true)])]),
          ("hover", Json.object [("contentFormat", Json.ofStrings ["markdown", "plaintext"])]),
          ("publishDiagnostics", Json.object [("relatedInformation", .bool true)])])]

/-- The parameters of the greeting. A server is told of one folder or of none. -/
def params (o : Options) (processId : Nat) : Json :=
  Json.object
    [("processId", Json.ofNat processId),
      ("clientInfo", Json.object
        [("name", .str Platform.brokerName), ("version", .str Platform.brokerVersion)]),
      ("rootUri", Json.ofOption (fun f => .str f.uri.text) o.folder),
      ("workspaceFolders", Json.ofOption (fun f => .arr [f.toJson]) o.folder),
      ("initializationOptions", o.payload),
      ("capabilities", abilities)]

/-- The version that a server tells. -/
def version? (answer : Json) : Option String :=
  (answer.path? ["serverInfo", "version"]).bind Json.text?

end LanguageBroker.Greeting
