import LanguageBroker.Json
import LanguageBroker.Uri.Parser

/-!
Filters that say which documents a server answers for. A selector is a list of filters; the empty
one claims every document.
-/

namespace LanguageBroker

/-- A filter by language, scheme and location. An absent part admits everything. -/
structure DocumentFilter where
  language : Option String := none
  scheme : Option String := none
  pattern : Option String := none
  deriving DecidableEq, Repr

namespace DocumentFilter

def toJson (f : DocumentFilter) : Json :=
  Json.objectOfSome
    [("language", f.language.map .str), ("scheme", f.scheme.map .str),
      ("pattern", f.pattern.map .str)]

/-- How a pattern for everything below a directory ends. -/
def belowMark : List Char := "/**/*".toList

/-- Does the pattern admit the document? Patterns of another form than a directory and
`belowMark` are not interpreted and admit everything. -/
def patternAdmits (pattern : String) (uri : Uri) : Bool :=
  match Text.stripBack belowMark pattern.toList with
  | none => true
  | some root =>
    match uri.toPath? with
    | some path => path.startsWith (Path.ofString (String.ofList root))
    | none => false

/-- Does the filter admit the document? Its language counts only where it is known. -/
def admits (f : DocumentFilter) (uri : Uri) (language : Option String) : Bool :=
  let languageOk := match f.language, language with
    | some expected, some actual => expected == actual
    | _, _ => true
  let schemeOk := match f.scheme with
    | some scheme => scheme == uri.scheme
    | none => true
  let patternOk := match f.pattern with
    | some pattern => patternAdmits pattern uri
    | none => true
  languageOk && schemeOk && patternOk

/-- Does the selector claim the document that call parameters name? A call that names none is
claimed. -/
def claims (selector : List DocumentFilter) (params : Json) : Bool :=
  match ((params.path? ["textDocument", "uri"]).bind Json.text?).bind Uri.parse? with
  | none => true
  | some uri =>
    let language := (params.path? ["textDocument", "languageId"]).bind Json.text?
    selector.isEmpty || selector.any (·.admits uri language)

end DocumentFilter

/-- The beginning of the names of scratch files. -/
def hiddenFileMark : String := "_HiddenFile_"

/-- Does the URI name a scratch file? Its diagnostics are kept from the editor. -/
def Uri.isHidden (u : Uri) : Bool :=
  match u.lastSegment? with
  | some name => (Text.stripFront hiddenFileMark.toList name.toList).isSome
  | none => false

end LanguageBroker
