import LanguageBroker.Protocol.Items

/-!
The shape of an editor's greeting: who it is, what it works on, and what it is able to do. The
broker looks at little of it, but a greeting with a malformed part is refused.
-/

namespace LanguageBroker.Shape

def flag (name : String) : String × Need × Shape := may name .bool

/-- Can a feature be registered later? -/
def dynamic : String × Need × Shape := flag "dynamicRegistration"

/-- A feature of which only that is told. -/
def plainFeature : Shape := .record [dynamic]

/-- Can the other side ask to compute something anew? -/
def refreshing : Shape := .record [flag "refreshSupport"]

/-- The values that are known. -/
def knownValues (value : Shape) : Shape := .record [may "valueSet" (.list value)]

def mustKnowValues (value : Shape) : Shape := .record [must "valueSet" (.list value)]

/-- The tags that are known, or just whether there are any. -/
def knownTags : Shape := .choice [.bool, mustKnowValues integer]

/-- The members of an item that can be filled in later. -/
def resolvable : Shape := .record [must "properties" (.list .text)]

def markupKinds : Shape := .list (.word ["plaintext", "markdown"])

def workspaceAbilities : Shape := .record
  [flag "applyEdit",
    may "workspaceEdit" (.record
      [flag "documentChanges",
        may "resourceOperations" (.list (.word ["create", "rename", "delete"])),
        may "failureHandling"
          (.word ["abort", "transactional", "textOnlyTransactional", "undo"]),
        flag "normalizesLineEndings",
        may "changeAnnotationSupport" (.record [flag "groupsOnLabel"])]),
    may "didChangeConfiguration" plainFeature,
    may "didChangeWatchedFiles" (.record [dynamic, flag "relativePatternSupport"]),
    may "symbol" (.record
      [dynamic, may "symbolKind" (knownValues integer), may "tagSupport" knownTags,
        may "resolveSupport" resolvable]),
    may "executeCommand" plainFeature, flag "workspaceFolders", flag "configuration",
    may "semanticTokens" refreshing, may "codeLens" refreshing,
    may "fileOperations" (.record
      [dynamic, flag "didCreate", flag "willCreate", flag "didRename", flag "willRename",
        flag "didDelete", flag "willDelete"]),
    may "inlineValue" refreshing, may "inlayHint" refreshing, may "diagnostic" refreshing]

def completionAbilities : Shape := .record
  [dynamic,
    may "completionItem" (.record
      [flag "snippetSupport", flag "commitCharactersSupport",
        may "documentationFormat" markupKinds, flag "deprecatedSupport",
        flag "preselectSupport", may "tagSupport" knownTags, flag "insertReplaceSupport",
        may "resolveSupport" resolvable,
        may "insertTextModeSupport" (mustKnowValues integer), flag "labelDetailsSupport"]),
    may "completionItemKind" (knownValues integer), flag "contextSupport",
    may "insertTextMode" integer,
    may "completionList" (.record [may "itemDefaults" (.list .text)])]

def signatureHelpAbilities : Shape := .record
  [dynamic,
    may "signatureInformation" (.record
      [may "documentationFormat" markupKinds,
        may "parameterInformation" (.record [flag "labelOffsetSupport"]),
        flag "activeParameterSupport"]),
    flag "contextSupport"]

def documentSymbolAbilities : Shape := .record
  [dynamic, may "symbolKind" (knownValues integer), flag "hierarchicalDocumentSymbolSupport",
    may "tagSupport" knownTags]

/-- Going to where something is defined. -/
def jumpAbilities : Shape := .record [dynamic, flag "linkSupport"]

def codeActionAbilities : Shape := .record
  [dynamic,
    may "codeActionLiteralSupport"
      (.record [must "codeActionKind" (mustKnowValues .text)]),
    flag "isPreferredSupport", flag "disabledSupport", flag "dataSupport",
    may "resolveSupport" resolvable, flag "honorsChangeAnnotations"]

def semanticTokenAbilities : Shape := .record
  [dynamic,
    must "requests" (.record
      [flag "range", may "full" (.choice [.bool, .object [flag "delta"]])]),
    must "tokenTypes" (.list .text), must "tokenModifiers" (.list .text),
    must "formats" (.list .text), flag "overlappingTokenSupport",
    flag "multilineTokenSupport", flag "serverCancelSupport", flag "augmentsSyntaxTokens"]

def foldingAbilities : Shape := .record
  [dynamic, may "rangeLimit" natural, flag "lineFoldingOnly",
    may "foldingRangeKind" (knownValues (.word ["comment", "imports", "region"])),
    may "foldingRange" (.record [flag "collapsedText"])]

def documentAbilities : Shape := .record
  [may "synchronization" (.record
      [dynamic, flag "willSave", flag "willSaveWaitUntil", flag "didSave"]),
    may "completion" completionAbilities,
    may "hover" (.record [dynamic, may "contentFormat" markupKinds]),
    may "signatureHelp" signatureHelpAbilities, may "references" plainFeature,
    may "documentHighlight" plainFeature, may "documentSymbol" documentSymbolAbilities,
    may "formatting" plainFeature, may "rangeFormatting" plainFeature,
    may "onTypeFormatting" plainFeature, may "declaration" jumpAbilities,
    may "definition" jumpAbilities, may "typeDefinition" jumpAbilities,
    may "implementation" jumpAbilities, may "codeAction" codeActionAbilities,
    may "codeLens" plainFeature,
    may "documentLink" (.record [dynamic, flag "tooltipSupport"]),
    may "colorProvider" plainFeature,
    may "rename" (.record
      [dynamic, flag "prepareSupport", may "prepareSupportDefaultBehavior" integer,
        flag "honorsChangeAnnotations"]),
    may "publishDiagnostics" (.record
      [flag "relatedInformation", may "tagSupport" knownTags, flag "versionSupport",
        flag "codeDescriptionSupport", flag "dataSupport"]),
    may "foldingRange" foldingAbilities, may "selectionRange" plainFeature,
    may "linkedEditingRange" plainFeature, may "callHierarchy" plainFeature,
    may "semanticTokens" semanticTokenAbilities, may "moniker" plainFeature,
    may "typeHierarchy" plainFeature, may "inlineValue" plainFeature,
    may "inlayHint" (.record [dynamic, may "resolveSupport" resolvable]),
    may "diagnostic" (.record [dynamic, flag "relatedDocumentSupport"])]

def windowAbilities : Shape := .record
  [flag "workDoneProgress",
    may "showMessage" (.record
      [may "messageActionItem" (.record [flag "additionalPropertiesSupport"])]),
    may "showDocument" (.record [must "support" .bool])]

def generalAbilities : Shape := .record
  [may "regularExpressions" (.record [must "engine" .text, may "version" .text]),
    may "markdown" (.record
      [must "parser" .text, may "version" .text, may "allowedTags" (.list .text)]),
    may "staleRequestSupport" (.record
      [must "cancel" .bool, must "retryOnContentModified" (.list .text)]),
    may "positionEncodings" (.list .text)]

/-- What an editor is able to do. -/
def abilities : Shape := .record
  [may "workspace" workspaceAbilities, may "textDocument" documentAbilities,
    may "notebookDocument" (.record
      [must "synchronization" (.record [dynamic, flag "executionSummarySupport"])]),
    may "window" windowAbilities, may "general" generalAbilities, may "experimental" .any]

/-- An editor's greeting. -/
def greeting : Shape := .record
  [may "processId" natural, may "rootPath" .text, may "rootUri" .uri,
    may "initializationOptions" .any, must "capabilities" abilities,
    may "trace" (.word ["off", "messages", "verbose"]),
    may "workspaceFolders" (.list folder),
    may "clientInfo" (.record [must "name" .text, may "version" .text]), may "locale" .text]

end LanguageBroker.Shape
