import LanguageBroker.DocumentFilter
import LanguageBroker.Error
import LanguageBroker.Method
import LanguageBroker.Rpc
import LanguageBroker.Telemetry.CaptureWindow

/-!
How the parts of a scenario are written down: folders, interpreters, scopes, filters, replies and
failures as JSON values. What is missing or malformed counts as absent.
-/

namespace LanguageBroker.Scenario

/-- The member of a value, with null counting as absent. -/
def member? (key : String) (v : Json) : Option Json :=
  (v.get? key).bind fun m => if m.isNull then none else some m

def textMember? (key : String) (v : Json) : Option String := (v.get? key).bind Json.text?

def textMember (key : String) (v : Json) : String := (textMember? key v).getD ""

def natMember (key : String) (v : Json) : Nat := ((v.get? key).bind Json.nat?).getD 0

def boolMember (key : String) (v : Json) : Bool := ((v.get? key).bind Json.bool?).getD false

/-- The items of a list member; none when it is missing. -/
def listMember (key : String) (v : Json) : List Json := ((v.get? key).bind Json.items?).getD []

/-- The member, or null. -/
def valueMember (key : String) (v : Json) : Json := (v.get? key).getD .null

def readUri (v : Json) : Option Uri := v.text?.bind Uri.parse?

def readTexts (v : Json) : List String := (v.items?.getD []).filterMap Json.text?

/-- A URI, which names its folder `folder`, or an object with the name. -/
def readFolder : Json → Option Folder
  | .str s => (Uri.parse? s).map fun uri => ⟨uri, "folder"⟩
  | v => ((v.get? "uri").bind readUri).map fun uri => ⟨uri, textMember "name" v⟩

def readFolders (v : Json) : List Folder := (v.items?.getD []).filterMap readFolder

/-- A path or an object with path and version. -/
def readInterpreter : Json → Option Interpreter
  | .str s => some ⟨s, none⟩
  | v => (textMember? "path" v).map fun p => ⟨p, textMember? "version" v⟩

def readScope (v : Json) : Scope :=
  { resource := (v.get? "resource").bind readUri
    folder := (v.get? "folder").bind readFolder
    interpreter := ((v.get? "runtime").bind readInterpreter).getD ⟨"", none⟩ }

def readFilter (v : Json) : DocumentFilter :=
  { language := textMember? "language" v
    scheme := textMember? "scheme" v
    pattern := textMember? "pattern" v }

def readSelector (v : Json) : List DocumentFilter := (v.items?.getD []).map readFilter

def readVariant (v : Json) : Variant := .ofName (v.text?.getD "")

/-- An object of values for some of the variants. -/
def readByVariant (read : Json → Option α) (v : Json) : Variant → Option α :=
  fun variant => (v.get? variant.name).bind read

def readFullVariant : Json → FullVariant
  | .str "a" => .a
  | _ => .b

/-- One answer for both full servers, or an object with one for each; yes where it is missing. -/
def readSupported (v : Option Json) (full : FullVariant) : Bool :=
  match v with
  | some (.bool b) => b
  | some v => ((v.get? (Settings.FullVariant.name full)).bind Json.bool?).getD true
  | none => true

def readRpcError (v : Json) : RpcError :=
  ⟨((v.get? "code").bind Json.int?).getD 0, textMember "message" v, v.get? "data"⟩

/-- A value, an error, or nothing. -/
def readReply (v : Json) : CallResult :=
  match v.get? "value", member? "error" v with
  | some value, _ => .ok (some value)
  | none, some e => .error (readRpcError e)
  | none, none => .ok none

/-- A failure of a server. -/
def readBackendError (v : Json) : BackendError :=
  let reason := textMember "message" v
  match textMember "kind" v with
  | "Spawn" => .spawn (textMember "program" v) reason
  | "Io" => .io reason
  | "Frame" => .frame reason
  | "Rejected" => .rejected (textMember "method" v) reason
  | "ConnectionClosed" => .connectionClosed
  | "NotStarted" => .notStarted
  | _ => .start reason

/-- A failure to bring a server up. -/
def readManagerError (v : Json) : ManagerError :=
  match textMember "kind" v with
  | "AlreadyStarted" => .alreadyStarted
  | "Disposed" => .disposed
  | "NotInitialized" => .options .notInitialized
  | "Environment" => .options (.environment (textMember "message" v))
  | _ => .backend (readBackendError v)

/-- The methods and rules of a table, after the edits to the usual one. -/
def readTable (edits : List Json) : MethodTable :=
  edits.foldl (fun table edit =>
    let method? (name : String) : Option Method := (textMember? name edit).bind Method.ofName?
    match method? "set", method? "clear" with
    | some m, _ => table.setDebounce m (some (natMember "ms" edit))
    | none, some m => table.setDebounce m none
    | none, none => table) .usual

/-- Limits with the window in milliseconds. -/
def readLimits (v : Option Json) : CaptureLimits :=
  match v with
  | some v => if v.isNull then .usual else ⟨natMember "window_ms" v, natMember "limit" v⟩
  | none => .usual

end LanguageBroker.Scenario
