import LanguageBroker.Text.Blank

/-!
Schemes, and how they shape what follows them. Schemes with a fixed authority form (`http`,
`https`, `ws`, `wss`, `ftp`, `file`) also accept `\` for `/`.
-/

namespace LanguageBroker.Uri

/-- How a scheme shapes the rest of the URI. -/
inductive SchemeKind
  | file
  | special (port : Nat)
  | plain
  deriving DecidableEq, Repr

def schemeKind (scheme : String) : SchemeKind :=
  if scheme = "file" then .file
  else if scheme = "http" ∨ scheme = "ws" then .special 80
  else if scheme = "https" ∨ scheme = "wss" then .special 443
  else if scheme = "ftp" then .special 21
  else .plain

def SchemeKind.isSpecial : SchemeKind → Bool
  | .plain => false
  | _ => true

/-- Does the character separate segments? -/
def SchemeKind.isSlash (kind : SchemeKind) (c : Char) : Bool :=
  c == '/' || (kind.isSpecial && c == '\\')

/-- Tabs and line ends, which count for nothing in a URI. -/
def isBreak (c : Char) : Bool := c == '\t' || c == '\n' || c == '\r'

/-- The text without tabs and line ends. -/
def unbroken (cs : List Char) : List Char := cs.filter (!isBreak ·)

/-- A scheme and what follows its colon. -/
def splitScheme (cs : List Char) : Option (String × List Char) :=
  let allowed (c : Char) : Bool := c.isAlphanum || c == '+' || c == '-' || c == '.'
  match Text.splitOnce ':' cs with
  | some (front, rest) =>
    let name := unbroken front
    if name.head?.any Char.isAlpha && name.all allowed then
      some (String.ofList (name.map Text.lowerAscii), rest)
    else none
  | none => none

end LanguageBroker.Uri
