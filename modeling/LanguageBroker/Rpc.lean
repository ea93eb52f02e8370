import LanguageBroker.Json

/-!
Answers to protocol calls: an error with a code, or a value that may be absent.
-/

namespace LanguageBroker

/-- An error as the protocol writes it. -/
structure RpcError where
  code : Int
  message : String
  data : Option Json := none
  deriving Repr, BEq

namespace RpcError

/-- Something went wrong on the way, for the given reason. -/
def internal (message : String) : RpcError := ⟨-32603, message, none⟩

def internalError : RpcError := internal "Internal error"

def methodNotFound : RpcError := ⟨-32601, "Method not found", none⟩

def invalidParams (message : String) : RpcError := ⟨-32602, message, none⟩

/-- The other side is gone. -/
def connectionClosed : RpcError := internal "Connection to server closed"

/-- An answer of the other side cannot be read. -/
def unreadable (message : String) : RpcError := ⟨-32700, message, none⟩

/-- The caller gave the request up. -/
def cancelled (message : String) : RpcError := ⟨-32800, message, none⟩

def toJson (e : RpcError) : Json :=
  Json.objectOfSome
    [("code", some (.int e.code)), ("message", some (.str e.message)), ("data", e.data)]

/-- Does a code fit 64 bits? -/
def isCode (n : Int) : Bool := -9223372036854775808 ≤ n && n < 9223372036854775808

/-- Reads the parts of an error. -/
def ofParts? (code message : Json) (data : Option Json) : Option RpcError :=
  match code, message with
  | .int n, .str m => if isCode n then some ⟨n, m, data⟩ else none
  | _, _ => none

/-- An error's `data`, where null counts as absent. -/
def given? : Json → Option Json
  | .null => none
  | v => some v

/-- Reads an error object without unknown members, or the array of its three parts. -/
def ofJson? : Json → Option RpcError
  | .obj members =>
    if members.all fun m => m.1 == "code" || m.1 == "message" || m.1 == "data" then
      match members.lookup "code", members.lookup "message" with
      | some code, some message =>
        ofParts? code message ((members.lookup "data").bind given?)
      | _, _ => none
    else none
  | .arr [code, message, data] => ofParts? code message (given? data)
  | _ => none

end RpcError

/-- The outcome of a call. Notifications and suppressed calls give no value. -/
abbrev CallResult := Except RpcError (Option Json)

end LanguageBroker
