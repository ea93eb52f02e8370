import LanguageBroker.Json

/-!
What the broker tells the editor it can do.
-/

namespace LanguageBroker.Editor

private def provides : Json := .bool true

/-- The capabilities, whatever servers are installed. -/
def capabilities : Json :=
  let characters (cs : List String) : Json := Json.object [("triggerCharacters", Json.ofStrings cs)]
  Json.object
    [("textDocumentSync", Json.object
        [("openClose", provides), ("change", .int 2), ("willSave", provides),
          ("willSaveWaitUntil", provides), ("save", provides)]),
      ("completionProvider", Json.object
        [("resolveProvider", provides), ("triggerCharacters", Json.ofStrings ["."])]),
      ("hoverProvider", provides),
      ("signatureHelpProvider", characters ["(", ","]),
      ("declarationProvider", provides),
      ("definitionProvider", provides),
      ("referencesProvider", provides),
      ("documentHighlightProvider", provides),
      ("documentSymbolProvider", provides),
      ("workspaceSymbolProvider", provides),
      ("codeActionProvider", provides),
      ("codeLensProvider", Json.object [("resolveProvider", provides)]),
      ("documentFormattingProvider", provides),
      ("documentRangeFormattingProvider", provides),
      ("documentOnTypeFormattingProvider",
        Json.object [("firstTriggerCharacter", .str "\n")]),
      ("renameProvider", Json.object [("prepareProvider", provides)]),
      ("documentLinkProvider", Json.object [("resolveProvider", provides)]),
      ("workspace", Json.object
        [("workspaceFolders", Json.object
          [("supported", provides), ("changeNotifications", provides)])])]

end LanguageBroker.Editor
