import LanguageBroker.Settings
import LanguageBroker.Uri.Parser

/-!
Server variants, interpreters, workspace folders and scopes. A scope is a resource bound to an
interpreter; its key, the folder's URI and the interpreter's path, decides which activation
serves it.
-/

namespace LanguageBroker

/-- The three kinds of language server, of which one serves a scope. -/
inductive Variant
  /-- The light fallback, which every scope can share. -/
  | simple
  | fullA
  | fullB
  deriving DecidableEq, Repr, Inhabited

namespace Variant

def all : List Variant := [.simple, .fullA, .fullB]

def isFull : Variant → Bool
  | .simple => false
  | _ => true

def name : Variant → String
  | .simple => "simple"
  | .fullA => "full-a"
  | .fullB => "full-b"

/-- The variant of that name; every unknown name stands for the simple one. -/
def ofName : String → Variant
  | "full-a" => .fullA
  | "full-b" => .fullB
  | _ => .simple

/-- The name of the telemetry event for one request. -/
def requestEvent : Variant → String
  | .simple => "jedi_language_server.request"
  | .fullA => "python_language_server.request"
  | .fullB => "language_server.request"

end Variant

def FullVariant.toVariant : FullVariant → Variant
  | .a => .fullA
  | .b => .fullB

/-- The interpreter that a scope is bound to. -/
structure Interpreter where
  path : String
  version : Option String := none
  deriving DecidableEq, Repr

/-- An open workspace folder. -/
structure Folder where
  uri : Uri
  name : String
  deriving DecidableEq, Repr

namespace Folder

def toJson (f : Folder) : Json :=
  Json.object [("uri", .str f.uri.text), ("name", .str f.name)]

end Folder

/-- What an activation is cached under. The folder part is empty without a folder. -/
structure ScopeKey where
  folder : String
  interpreter : String
  deriving DecidableEq, Repr, Inhabited

namespace ScopeKey

def of (folder : Option Folder) (interpreter : Interpreter) : ScopeKey :=
  ⟨(folder.map (·.uri.text)).getD "", interpreter.path⟩

def text (k : ScopeKey) : String := k.folder ++ "|" ++ k.interpreter

/-- The order by folder, then by interpreter. -/
def le (a b : ScopeKey) : Bool :=
  if a.folder = b.folder then decide (a.interpreter ≤ b.interpreter)
  else decide (a.folder < b.folder)

/-- Sorted keys without equal neighbours. -/
def sorted (keys : List ScopeKey) : List ScopeKey := (keys.mergeSort le).eraseReps

end ScopeKey

/-- A resource bound to an interpreter. -/
structure Scope where
  resource : Option Uri
  folder : Option Folder
  interpreter : Interpreter
  deriving DecidableEq, Repr

def Scope.key (s : Scope) : ScopeKey := .of s.folder s.interpreter

end LanguageBroker
