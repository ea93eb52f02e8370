import LanguageBroker.Host
import LanguageBroker.Protocol.Complaint
import LanguageBroker.Rpc

/-!
Answers to a server's questions about settings. The editor's answer is passed on, and where the
question was about the broker's own section the interpreter and the directories of modules are
added to it.
-/

namespace LanguageBroker

/-- One question: a section of the settings, perhaps for a resource. -/
structure ConfigurationItem where
  resource : Option Uri := none
  name : Option String := none
  deriving Repr

namespace ConfigurationItem

def toJson (item : ConfigurationItem) : Json :=
  Json.objectOfSome
    [("scopeUri", item.resource.map fun u => .str u.text), ("section", item.name.map .str)]

/-- The resource that a question names. -/
def readResource : Json → Except String (Option Uri)
  | .null => .ok none
  | .str s =>
    match Uri.parse s with
    | .ok uri => .ok (some uri)
    | .error fault => .error (fault.message ++ ": " ++ String.ofList (Text.shown s.toList))
  | other => .error (Json.complaint "a string representing an URL" other)

/-- The section that a question names. -/
def readName : Json → Except String (Option String)
  | .null => .ok none
  | .str s => .ok (some s)
  | other => .error (Json.complaint "a string" other)

/-- What a question is called in complaints. -/
def title : String := "struct ConfigurationItem"

/-- One question, or what is wrong with it. It may also be an array of its two members. -/
def read : Json → Except String ConfigurationItem
  | .obj members => do
    let resource ← readResource ((members.lookup "scopeUri").getD .null)
    let name ← readName ((members.lookup "section").getD .null)
    return ⟨resource, name⟩
  | .arr [] => .error (Json.shortageComplaint title 2 0)
  | .arr [resource] => do
    let _ ← readResource resource
    .error (Json.shortageComplaint title 2 1)
  | .arr (resource :: name :: others) => do
    let resource ← readResource resource
    let name ← readName name
    if others.isEmpty then return ⟨resource, name⟩
    else .error (Json.excessComplaint (others.length + 2))
  | other => .error (Json.complaint title other)

/-- A list of questions. -/
def readItems (items : Json) : Except String (List ConfigurationItem) := do
  (← items.readItems).mapM read

/-- What the questions together are called in complaints. -/
def allTitle : String := "struct ConfigurationParams"

/-- The questions that a server asks, or what is wrong with them. -/
def readAll : Json → Except String (List ConfigurationItem)
  | .obj members =>
    match members.lookup "items" with
    | none => .error (Json.absenceComplaint "items")
    | some items => readItems items
  | .arr [] => .error (Json.shortageComplaint allTitle 1 0)
  | .arr (items :: others) => do
    let items ← readItems items
    if others.isEmpty then return items else .error (Json.excessComplaint (others.length + 1))
  | other => .error (Json.complaint allTitle other)

end ConfigurationItem

namespace Configuration

/-- The member that names the interpreter. -/
def interpreterMember : String := "pythonPath"

/-- The member that lists the directories of modules. -/
def modulesMember : String := "_envPYTHONPATH"

/-- What is added to a section. What cannot be found out is left out. -/
def additions (h : Host) (resource : Option Uri) : List (String × Json) :=
  let interpreter := match h.interpreter resource with
    | .ok (some i) => [(interpreterMember, .str i.path)]
    | _ => []
  let modules := match h.modules resource with
    | .ok modules => if modules.isEmpty then [] else [(modulesMember, .str modules)]
    | .error _ => []
  interpreter ++ modules

/-- A section with members added. Null counts as empty, and what is no object is left alone. -/
def extend (value : Json) (members : List (String × Json)) : Json :=
  let into (own : List (String × Json)) : Json :=
    .obj (members.foldl (fun acc m => Json.insertMember m.1 m.2 acc) own)
  match value with
  | .null => into []
  | .obj own => into own
  | other => other

/-- The answer to one question. -/
def augment (h : Host) (item : ConfigurationItem) (value : Json) : Json :=
  if item.name = some Settings.sectionName then extend value (additions h item.resource) else value

/-- The answers to all questions, taken up one after the other: `h i` is what the surroundings say
when it is the turn of the question in place `i`. Superfluous answers stay as they are. -/
def augmentAll (h : Nat → Host) : List ConfigurationItem → List Json → List Json
  | item :: items, value :: values =>
    augment (h 0) item value :: augmentAll (fun i => h (i + 1)) items values
  | _, values => values

/-- What a server is told. Without a host nothing is added. -/
def answer (host : Option (Nat → Host)) (items : List ConfigurationItem)
    (reply : Except RpcError (List Json)) : Except RpcError (List Json) :=
  match reply, host with
  | .error e, _ => .error e
  | .ok values, none => .ok values
  | .ok values, some h => .ok (augmentAll h items values)

end Configuration

/-- Where answers about settings come from. -/
structure SettingsSource where
  /-- The editor's answer. -/
  editor : List ConfigurationItem → Except RpcError (List Json)
  /-- What answers are added to from, if they are, at the turn of each question. -/
  host : Option (Nat → Host) := none

/-- The answer to a server's questions. -/
def SettingsSource.answer (s : SettingsSource) (items : List ConfigurationItem) :
    Except RpcError (List Json) :=
  Configuration.answer s.host items (s.editor items)

end LanguageBroker
