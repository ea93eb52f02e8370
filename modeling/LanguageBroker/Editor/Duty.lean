import LanguageBroker.Protocol.Calls

/-!
What the editor can ask of a broker that is ready: calls that are passed on to servers, news about
the workspace, and methods of the protocol that the broker knows but does not serve.
-/

namespace LanguageBroker.Editor

open Shape

inductive Duty
  | initialized
  | folders
  | configuration
  | watchedFiles
  /-- A call for a server. -/
  | route (method : Method)
  /-- A known method that is not served. -/
  | unserved (isNotification : Bool) (params : Shape)

namespace Duty

def isNotification : Duty → Bool
  | .initialized | .folders | .configuration | .watchedFiles => true
  | .route method => method.isNotification
  | .unserved isNotification _ => isNotification

/-- The shape of the parameters. -/
def params : Duty → Shape
  | .initialized => .record []
  | .folders => .record [must "event" (.record
      [must "added" (.list Shape.folder), must "removed" (.list Shape.folder)])]
  | .configuration => .record [must "settings" .any]
  | .watchedFiles => .record
    [must "changes" (.list (.record [must "uri" .uri, must "type" integer]))]
  | .route method => method.params
  | .unserved _ params => params

/-- A place in a document, and reports on the way. -/
def place : Shape := .object (placeMembers ++ progressMembers)

/-- A document, and reports on the way. -/
def wholeDocument : Shape := .object (document :: progressMembers)

/-- A document and a part of it, and reports on the way. -/
def documentPart : Shape := .object (document :: must "range" range :: progressMembers)

/-- An item that was handed out before. Items of the two hierarchies have tags of their own
kinds. -/
def knownItem (tags : Shape) : Shape := .object (must "item" (.record
  [must "name" .text, must "kind" integer, may "tags" tags, may "detail" .text, must "uri" .uri,
    must "range" range, must "selectionRange" range, may "data" .any]) :: progressMembers)

def callItem : Shape := knownItem (.list integer)

def typeItem : Shape := knownItem integer

/-- A hint between the characters of a line. -/
def inlayHint : Shape := .record
  [must "position" position, must "label" (.choice [.text, .list (.record
      [must "value" .text, may "tooltip" documentation, may "location" location,
        may "command" command])]),
    may "kind" integer, may "textEdits" (.list textEdit), may "tooltip" documentation,
    may "paddingLeft" .bool, may "paddingRight" .bool, may "data" .any]

def color : Shape := .record
  [must "red" .number, must "green" .number, must "blue" .number, must "alpha" .number]

/-- A symbol, perhaps without its place in the document. -/
def partialSymbol : Shape := .record
  [must "name" .text, must "kind" integer, may "tags" (.list integer),
    may "containerName" .text, must "location" (.choice [location, .record [must "uri" .uri]]),
    may "data" .any]

/-- Files that are created or deleted. -/
def files : Shape := .record [must "files" (.list (.record [must "uri" .text]))]

def renamedFiles : Shape :=
  .record [must "files" (.list (.record [must "oldUri" .text, must "newUri" .text]))]

/-- The methods that are not served, with the shapes of their parameters. -/
def unservedRequests : List (String × Shape) :=
  [("textDocument/typeDefinition", place), ("textDocument/implementation", place),
    ("textDocument/prepareCallHierarchy", .object (placeMembers ++ [workDoneMember])),
    ("callHierarchy/incomingCalls", callItem), ("callHierarchy/outgoingCalls", callItem),
    ("textDocument/prepareTypeHierarchy", .object (placeMembers ++ [workDoneMember])),
    ("typeHierarchy/supertypes", typeItem), ("typeHierarchy/subtypes", typeItem),
    ("textDocument/foldingRange", wholeDocument),
    ("textDocument/selectionRange",
      .object (document :: must "positions" (.list position) :: progressMembers)),
    ("textDocument/semanticTokens/full", wholeDocument),
    ("textDocument/semanticTokens/full/delta",
      .object (document :: must "previousResultId" .text :: progressMembers)),
    ("textDocument/semanticTokens/range", documentPart),
    ("textDocument/inlineValue", .object
      [workDoneMember, document, must "range" range, must "context" (.record
        [must "frameId" integer, must "stoppedLocation" range])]),
    ("textDocument/inlayHint", .object [workDoneMember, document, must "range" range]),
    ("inlayHint/resolve", inlayHint),
    ("textDocument/moniker", place),
    ("textDocument/diagnostic", .object (document :: may "identifier" .text
      :: may "previousResultId" .text :: progressMembers)),
    ("workspace/diagnostic", .object (may "identifier" .text :: must "previousResultIds"
      (.list (.record [must "uri" .uri, must "value" .text])) :: progressMembers)),
    ("codeAction/resolve", codeAction), ("textDocument/documentColor", wholeDocument),
    ("textDocument/colorPresentation",
      .object (document :: must "color" color :: must "range" range :: progressMembers)),
    ("textDocument/linkedEditingRange", .object (placeMembers ++ [workDoneMember])),
    ("workspaceSymbol/resolve", partialSymbol),
    ("workspace/willCreateFiles", files), ("workspace/willRenameFiles", renamedFiles),
    ("workspace/willDeleteFiles", files),
    ("workspace/executeCommand", .object [must "command" .text,
      ("arguments", .omissible, .list .any), workDoneMember])]

def unservedNotifications : List (String × Shape) :=
  [("workspace/didCreateFiles", files), ("workspace/didRenameFiles", renamedFiles),
    ("workspace/didDeleteFiles", files)]

/-- The call that a method name stands for. Diagnostics go the other way. -/
def routed? (name : String) : Option Method :=
  (Method.ofName? name).filter (· ≠ .publishDiagnostics)

def ofName? (name : String) : Option Duty :=
  match name with
  | "initialized" => some .initialized
  | "workspace/didChangeWorkspaceFolders" => some .folders
  | "workspace/didChangeConfiguration" => some .configuration
  | "workspace/didChangeWatchedFiles" => some .watchedFiles
  | _ =>
    match routed? name, unservedRequests.lookup name, unservedNotifications.lookup name with
    | some method, _, _ => some (.route method)
    | none, some shape, _ => some (.unserved false shape)
    | none, none, some shape => some (.unserved true shape)
    | none, none, none => none

end Duty

end LanguageBroker.Editor
