import LanguageBroker.Method
import LanguageBroker.Protocol.Items

/-!
The shapes of the parameters and the answers of every method that is passed on to a server, and
which document each call is about.
-/

namespace LanguageBroker

namespace Shape

def document : String × Need × Shape :=
  must "textDocument" (.record [must "uri" .uri])

/-- The members that name a place in a document. -/
def placeMembers : List (String × Need × Shape) := [document, must "position" position]

/-- The members by which a caller asks for reports on the way. -/
def progressMembers : List (String × Need × Shape) :=
  [may "workDoneToken" numberOrText, may "partialResultToken" numberOrText]

def workDoneMember : String × Need × Shape := may "workDoneToken" numberOrText

def formattingOptions : Shape := .openObject
  [must "tabSize" natural, must "insertSpaces" .bool,
    may "trimTrailingWhitespace" .bool, may "insertFinalNewline" .bool,
    may "trimFinalNewlines" .bool]
  (.choice [.bool, integer, .text])

def triggerMembers : List (String × Need × Shape) :=
  [must "triggerKind" integer, may "triggerCharacter" .text]

end Shape

namespace Method

open Shape

/-- The shape of a call's parameters. -/
def params : Method → Shape
  | .didOpen => .record [must "textDocument" (.record
      [must "uri" .uri, must "languageId" .text, must "version" integer,
        must "text" .text])]
  | .didClose => .record [document]
  | .didChange => .record
    [must "textDocument" (.record [must "uri" .uri, must "version" integer]),
      must "contentChanges" (.list (.record
        [may "range" range, may "rangeLength" natural, must "text" .text]))]
  | .didSave => .record [document, may "text" .text]
  | .willSave | .willSaveWaitUntil => .record [document, must "reason" integer]
  | .completion => .object
    (placeMembers ++ progressMembers ++ [may "context" (.record triggerMembers)])
  | .completionResolve => completionItem
  | .hover => .object (placeMembers ++ [workDoneMember])
  | .signatureHelp => .object (placeMembers ++ [workDoneMember, may "context" (.record
      (triggerMembers
        ++ [must "isRetrigger" .bool, may "activeSignatureHelp" Shape.signatureHelp]))])
  | .definition | .declaration | .documentHighlight => .object (placeMembers ++ progressMembers)
  | .references => .object (placeMembers ++ progressMembers
      ++ [must "context" (.record [must "includeDeclaration" .bool])])
  | .documentSymbol | .codeLens | .documentLink => .object (document :: progressMembers)
  | .workspaceSymbol => .object (progressMembers ++ [must "query" .text])
  | .codeAction => .object (progressMembers ++ [document, must "range" range,
      must "context" (.record
        [must "diagnostics" (.list diagnostic), may "only" (.list .text),
          may "triggerKind" integer])])
  | .codeLensResolve => Shape.codeLens
  | .formatting => .object [document, must "options" formattingOptions, workDoneMember]
  | .rangeFormatting => .object
    [document, must "range" range, must "options" formattingOptions, workDoneMember]
  | .onTypeFormatting => .object
    (placeMembers ++ [must "ch" .text, must "options" formattingOptions])
  | .rename => .object (placeMembers ++ [must "newName" .text, workDoneMember])
  | .prepareRename => .record placeMembers
  | .documentLinkResolve => Shape.documentLink
  | .publishDiagnostics => publishedDiagnostics

/-- The shape of an answer that is not null. -/
def answer : Method → Shape
  | .willSaveWaitUntil | .formatting | .rangeFormatting | .onTypeFormatting => .list textEdit
  | .completion => completions
  | .completionResolve => completionItem
  | .hover => Shape.hover
  | .signatureHelp => Shape.signatureHelp
  | .definition | .declaration => destinations
  | .references => .list location
  | .documentHighlight => .list highlight
  | .documentSymbol => documentSymbols
  | .workspaceSymbol => .list symbolInformation
  | .codeAction => .list (.choice [command, Shape.codeAction])
  | .codeLens => .list Shape.codeLens
  | .codeLensResolve => Shape.codeLens
  | .rename => workspaceEdit
  | .prepareRename => renameTarget
  | .documentLink => .list Shape.documentLink
  | .documentLinkResolve => Shape.documentLink
  | .didOpen | .didClose | .didChange | .didSave | .willSave | .publishDiagnostics => .any

/-- Does a call ask to complete an item that it hands along? -/
def isResolve : Method → Bool
  | .completionResolve | .codeLensResolve | .documentLinkResolve => true
  | _ => false

/-- The document that a call names. -/
def document? (params : Json) : Option Uri :=
  ((params.path? ["textDocument", "uri"]).bind Json.text?).bind Uri.parse?

end Method

end LanguageBroker
