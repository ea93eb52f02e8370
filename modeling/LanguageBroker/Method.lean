import LanguageBroker.Json

/-!
The protocol methods that pass through the middleware, and the table that says for which of them
a finished call is reported, how far apart the reports have to be, and what they measure.
-/

namespace LanguageBroker

inductive Method
  | didOpen
  | didClose
  | didChange
  | didSave
  | willSave
  | willSaveWaitUntil
  | completion
  | completionResolve
  | hover
  | signatureHelp
  | definition
  | declaration
  | references
  | documentHighlight
  | documentSymbol
  | workspaceSymbol
  | codeAction
  | codeLens
  | codeLensResolve
  | formatting
  | rangeFormatting
  | onTypeFormatting
  | rename
  | prepareRename
  | documentLink
  | documentLinkResolve
  | publishDiagnostics
  deriving DecidableEq, Repr, Inhabited

namespace Method

/-- Every method, in the order of tables. -/
def all : List Method :=
  [.didOpen, .didClose, .didChange, .didSave, .willSave, .willSaveWaitUntil, .completion,
    .completionResolve, .hover, .signatureHelp, .definition, .declaration, .references,
    .documentHighlight, .documentSymbol, .workspaceSymbol, .codeAction, .codeLens,
    .codeLensResolve, .formatting, .rangeFormatting, .onTypeFormatting, .rename, .prepareRename,
    .documentLink, .documentLinkResolve, .publishDiagnostics]

/-- The name on the wire. -/
def name : Method → String
  | .didOpen => "textDocument/didOpen"
  | .didClose => "textDocument/didClose"
  | .didChange => "textDocument/didChange"
  | .didSave => "textDocument/didSave"
  | .willSave => "textDocument/willSave"
  | .willSaveWaitUntil => "textDocument/willSaveWaitUntil"
  | .completion => "textDocument/completion"
  | .completionResolve => "completionItem/resolve"
  | .hover => "textDocument/hover"
  | .signatureHelp => "textDocument/signatureHelp"
  | .definition => "textDocument/definition"
  | .declaration => "textDocument/declaration"
  | .references => "textDocument/references"
  | .documentHighlight => "textDocument/documentHighlight"
  | .documentSymbol => "textDocument/documentSymbol"
  | .workspaceSymbol => "workspace/symbol"
  | .codeAction => "textDocument/codeAction"
  | .codeLens => "textDocument/codeLens"
  | .codeLensResolve => "codeLens/resolve"
  | .formatting => "textDocument/formatting"
  | .rangeFormatting => "textDocument/rangeFormatting"
  | .onTypeFormatting => "textDocument/onTypeFormatting"
  | .rename => "textDocument/rename"
  | .prepareRename => "textDocument/prepareRename"
  | .documentLink => "textDocument/documentLink"
  | .documentLinkResolve => "documentLink/resolve"
  | .publishDiagnostics => "textDocument/publishDiagnostics"

/-- The method of that name. -/
def ofName? (s : String) : Option Method := all.find? fun m => m.name == s

/-- Does the method expect no answer? -/
def isNotification : Method → Bool
  | .didOpen | .didClose | .didChange | .didSave | .willSave | .publishDiagnostics => true
  | _ => false

/-- May the call reach a backend that has not reported ready? Documents can be opened and closed
before that. -/
def bypassesGate : Method → Bool
  | .didOpen | .didClose => true
  | _ => false

/-- The name in telemetry: dots for slashes. -/
def telemetryName (m : Method) : String :=
  m.name.map fun c => if c = '/' then '.' else c

end Method

/-- What a report of a finished call measures besides its duration. -/
inductive Measure
  /-- The number of items of a bare item list or of an object's `items`. -/
  | itemCount
  deriving DecidableEq, Repr

/-- The measures that `m` takes from a result. -/
def Measure.of : Measure → Json → List (String × Nat)
  | .itemCount, result =>
    match (result.items?).orElse fun _ => (result.get? "items").bind Json.items? with
    | some items => [("resultLength", items.length)]
    | none => []

/-- How calls of one method are reported. Without a debounce they are not reported at all. -/
structure CaptureRule where
  /-- Two reports are more than this many milliseconds apart. -/
  debounce : Option Nat := none
  measure : Option Measure := none
  deriving DecidableEq, Repr

/-- A rule for every method. -/
structure MethodTable where
  rule : Method → CaptureRule

namespace MethodTable

/-- The debounce for calls that are made often while typing: five minutes. -/
def frequent : Nat := 300000

/-- The debounce for calls that are made now and then: one minute. -/
def rare : Nat := 60000

/-- The rule that holds for a method unless a table is edited. -/
def usualRule : Method → CaptureRule
  | .completion => { debounce := some frequent, measure := some .itemCount }
  | .completionResolve | .hover | .signatureHelp | .documentSymbol | .codeAction | .codeLens
  | .codeLensResolve | .publishDiagnostics => { debounce := some frequent }
  | .definition | .declaration | .references | .workspaceSymbol | .rename | .prepareRename =>
    { debounce := some rare }
  | _ => {}

def usual : MethodTable := ⟨usualRule⟩

/-- The table with the debounce of one method replaced. -/
def setDebounce (t : MethodTable) (m : Method) (debounce : Option Nat) : MethodTable :=
  ⟨fun n => if n = m then { t.rule n with debounce } else t.rule n⟩

/-- The methods whose calls are reported. -/
def captured (t : MethodTable) : List Method :=
  Method.all.filter fun m => (t.rule m).debounce.isSome

end MethodTable

end LanguageBroker
