import LanguageBroker.Protocol.Places

/-!
The shapes of what editors and servers hand each other about documents: edits, commands,
completions, symbols, links and the like.
-/

namespace LanguageBroker.Shape

def textEdit : Shape := .record [must "range" range, must "newText" .text]

def insertReplaceEdit : Shape := .record
  [must "newText" .text, must "insert" range, must "replace" range]

def command : Shape := .record
  [must "title" .text, must "command" .text, may "arguments" (.list .any)]

def markup : Shape := .record
  [must "kind" (.word ["plaintext", "markdown"]), must "value" .text]

/-- A text, plain or marked up. -/
def documentation : Shape := .choice [.text, markup]

/-- A text in a language, or without one. -/
def markedText : Shape :=
  .choice [.text, .record [must "language" .text, must "value" .text]]

def hover : Shape := .record
  [must "contents" (.choice [markedText, .list markedText, markup]), may "range" range]

def completionItem : Shape := .record
  [must "label" .text,
    may "labelDetails" (.record [may "detail" .text, may "description" .text]),
    may "kind" integer, may "detail" .text, may "documentation" documentation,
    may "deprecated" .bool, may "preselect" .bool, may "sortText" .text,
    may "filterText" .text, may "insertText" .text, may "insertTextFormat" integer,
    may "insertTextMode" integer,
    may "textEdit" (.choice [textEdit, insertReplaceEdit]),
    may "additionalTextEdits" (.list textEdit), may "command" command,
    may "commitCharacters" (.list .text), may "data" .any,
    may "tags" (.list integer)]

def completions : Shape := .choice
  [.list completionItem,
    .record [must "isIncomplete" .bool, must "items" (.list completionItem)]]

def signature : Shape := .record
  [must "label" .text, may "documentation" documentation,
    may "parameters" (.list (.record
      [must "label" (.choice [.text, .tuple [natural, natural]]),
        may "documentation" documentation])),
    may "activeParameter" natural]

def signatureHelp : Shape := .record
  [must "signatures" (.list signature), may "activeSignature" natural,
    may "activeParameter" natural]

def locationLink : Shape := .record
  [may "originSelectionRange" range, must "targetUri" .uri, must "targetRange" range,
    must "targetSelectionRange" range]

/-- Where something is defined: a place, or places, or links to places. -/
def destinations : Shape := .choice [location, .list location, .list locationLink]

def highlight : Shape := .record [must "range" range, may "kind" integer]

def symbolInformation : Shape := .record
  [must "name" .text, must "kind" integer, may "tags" (.list integer),
    may "deprecated" .bool, must "location" location, may "containerName" .text]

/-- A symbol with the symbols inside it, so many levels deep. -/
def documentSymbol : Nat → Shape
  | 0 => .choice []
  | depth + 1 => .record
    [must "name" .text, may "detail" .text, must "kind" integer,
      may "tags" (.list integer), may "deprecated" .bool, must "range" range,
      must "selectionRange" range, may "children" (.list (documentSymbol depth))]

/-- No value is nested deeper than messages can be. -/
def nestingLimit : Nat := 128

def documentSymbols : Shape :=
  .choice [.list symbolInformation, .list (documentSymbol nestingLimit)]

def codeLens : Shape := .record
  [must "range" range, may "command" command, may "data" .any]

def documentLink : Shape := .record
  [must "range" range, may "target" .uri, may "tooltip" .text, may "data" .any]

/-- The edits of one document. -/
def documentEdit : Shape := .record
  [must "textDocument" (.record [must "uri" .uri, ("version", .nullable, integer)]),
    must "edits" (.list textEdit)]

/-- What is done to a file. -/
def fileOperation : Shape := .choice
  [.record
      [must "kind" (.tag "create" 0), must "uri" .uri,
        may "options" (.record [may "overwrite" .bool, may "ignoreIfExists" .bool]),
        may "annotationId" .text],
    .record
      [must "kind" (.tag "rename" 1), must "oldUri" .uri, must "newUri" .uri,
        may "options" (.record [may "overwrite" .bool, may "ignoreIfExists" .bool]),
        may "annotationId" .text],
    .record
      [must "kind" (.tag "delete" 2), must "uri" .uri,
        may "options" (.record
          [may "recursive" .bool, may "ignoreIfNotExists" .bool,
            may "annotationId" .text])]]

def workspaceEdit : Shape := .record
  [may "changes" (.byUri (.list textEdit)),
    may "documentChanges"
      (.choice [.list documentEdit, .list (.choice [fileOperation, documentEdit])]),
    may "changeAnnotations" (.openObject [] (.record
      [must "label" .text, may "needsConfirmation" .bool, may "description" .text]))]

def codeAction : Shape := .record
  [must "title" .text, may "kind" .text, may "diagnostics" (.list diagnostic),
    may "edit" workspaceEdit, may "command" command, may "isPreferred" .bool,
    may "disabled" (.record [must "reason" .text]), may "data" .any]

/-- What a server says about a place that may be renamed. -/
def renameTarget : Shape := .choice
  [range, .object [must "range" range, must "placeholder" .text],
    .object [must "defaultBehavior" .bool]]

def folder : Shape := .record [must "uri" .uri, must "name" .text]

end LanguageBroker.Shape
