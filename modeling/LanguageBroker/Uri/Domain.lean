import LanguageBroker.Text.Composition
import LanguageBroker.Text.Joining
import LanguageBroker.Text.Mark
import LanguageBroker.Uri.Domain.Mapping
import LanguageBroker.Uri.Escape
import LanguageBroker.Uri.Punycode

/-!
Domain names in ASCII. A name is mapped and composed, its labels are checked one by one and, where
one of them is written from right to left, also for their directions; labels with characters
outside ASCII are then written in their ASCII form behind `xn--`.
-/

namespace LanguageBroker.Uri.Domain

open Text

/-- Characters that no host may hold. -/
def isForbiddenInHost (c : Char) : Bool :=
  c.toNat == 0 || c == '\t' || c == '\n' || c == '\r' || c == ' ' || c == '#' || c == '/'
    || c == ':' || c == '<' || c == '>' || c == '?' || c == '@' || c == '[' || c == '\\'
    || c == ']' || c == '^' || c == '|'

/-- Characters that no domain may hold. -/
def isForbiddenInDomain (c : Char) : Bool := isForbiddenInHost c || isControl c || c == '%'

/-- A name with every character taken as it should be, if none is refused. -/
def mapped (name : List Char) : Option (List Char) :=
  (name.mapM fun c =>
    match treatment c with
    | .kept => some [c]
    | .dropped => some []
    | .replaced image => some image
    | .refused => none).map List.flatten

/-- The mark of labels in ASCII form. -/
def asciiMark : List Char := "xn--".toList

/-- Labels in ASCII form are read up to this length. -/
def longestForm : Nat := 2000

/-- Labels outside ASCII have at most this length. -/
def longestLabel : Nat := 1000

/-- The label that an ASCII form stands for, if it is one that would be written so. -/
def readForm (form : List Char) : Option (List Char) :=
  if form.all Punycode.isAscii && form.getLast?.any (· != '-') && form.length ≤ longestForm then
    (Punycode.decode? form).filter fun label =>
      label.all (fun c => treatment c == .kept && !isForbiddenInDomain c)
        && compose label == label
  else none

/-- A label without its ASCII form. -/
def readLabel (label : List Char) : Option (List Char) :=
  match stripFront asciiMark label with
  | some form => readForm form
  | none => some label

/-- May a joiner stand between these, the characters before it nearest first? It may behind a
sign that silences a vowel, and the one that keeps letters apart also between letters that would
join. -/
def admitsJoiner (joiner : Char) (before after : List Char) : Bool :=
  match before with
  | [] => false
  | c :: _ =>
    combiningClass c == vowelKillerClass
      || (joiner == '\u200C'
        && (before.dropWhile isPassedOver).head?.any joinsNext
        && (after.dropWhile isPassedOver).head?.any joinsPrevious)

def isJoiner (c : Char) : Bool := c == '\u200C' || c == '\u200D'

/-- Are all joiners where they may be? `before` is what was passed, in reverse. -/
def joinersFit (before : List Char) : List Char → Bool
  | [] => true
  | c :: after =>
    (!isJoiner c || admitsJoiner c before after) && joinersFit (c :: before) after

/-- May the label stand in a domain name? -/
def isLabel (label : List Char) : Bool :=
  !label.head?.any isMark && joinersFit [] label
    && (label.all Punycode.isAscii || label.length ≤ longestLabel)

/-! Directions. -/

/-- Is a character written from right to left? -/
def turns (c : Char) : Bool :=
  direction c == .rightToLeft || direction c == .arabicNumber

/-- May the label stand beside one that is written from right to left? It has one direction, and
ends in a letter or a number, but for marks. -/
def keepsDirection (label : List Char) : Bool :=
  match label.map direction with
  | [] => true
  | first :: others =>
    let others := (others.reverse.dropWhile (· == .nonspacing)).reverse
    let last := others.getLast?
    match first with
    | .leftToRight =>
      others.all (fun d => d != .rightToLeft && d != .arabicNumber)
        && last.all (fun d => d == .leftToRight || d == .europeanNumber)
    | .rightToLeft =>
      others.all (· != .leftToRight)
        && !(others.contains .europeanNumber && others.contains .arabicNumber)
        && last.all (fun d => d != .neutral)
    | _ => false

/-! The name. -/

/-- The label as it is written in the name. -/
def writeLabel (label : List Char) : List Char :=
  if label.all Punycode.isAscii then label else asciiMark ++ Punycode.encode label

/-- The parts with dots between them. -/
def joinLabels : List (List Char) → List Char
  | [] => []
  | label :: labels => labels.foldl (fun name l => name ++ '.' :: l) label

/-- The domain name in ASCII, if it is one. It may be empty. -/
def normal? (name : List Char) : Option (List Char) := do
  let name := compose (← mapped name)
  let labels ← (splitAll '.' name).mapM readLabel
  let allowed := labels.all fun label => isLabel label && !label.any isForbiddenInDomain
  let fits := !labels.any (·.any turns) || labels.all keepsDirection
  if allowed && fits then some (joinLabels (labels.map writeLabel)) else none

end LanguageBroker.Uri.Domain
