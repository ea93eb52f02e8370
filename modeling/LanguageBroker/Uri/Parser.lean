import LanguageBroker.Uri
import LanguageBroker.Uri.Host
import LanguageBroker.Uri.Segments

/-!
Reading URIs. Surrounding spaces and control characters are dropped, tabs and line ends are
removed everywhere, the scheme is written in lower case and the host in its normal form,
characters that may not stand in a URI are percent-encoded, and dot segments are resolved.
-/

namespace LanguageBroker.Uri

open Text

/-- Splits off the fragment, then the query. -/
def splitTail (special : Bool) (cs : List Char) :
    List Char × Option String × Option String :=
  let written (set : Char → Bool) (cs : List Char) : String :=
    String.ofList (percentEncode set (unbroken cs))
  let (front, fragment) := match splitOnce '#' cs with
    | some (front, f) => (front, some (written inFragmentSet f))
    | none => (cs, none)
  match splitOnce '?' front with
  | some (path, q) => (path, some (written (inQuerySet special) q), fragment)
  | none => (front, none, fragment)

/-- User and password, escaped, with the final `@`; nothing when both are empty. -/
def userinfoText (cs : List Char) : String :=
  let (user, password) := match splitOnce ':' cs with
    | some (u, p) => (u, p)
    | none => (cs, [])
  let enc := percentEncode inUserSet
  if user.isEmpty && password.isEmpty then ""
  else String.ofList (enc user ++ (if password.isEmpty then [] else ':' :: enc password) ++ ['@'])

/-- Splits off what stands before the last `@`. -/
def splitUser (cs : List Char) : Option (List Char) × List Char :=
  match cs.reverse.span (· ≠ '@') with
  | (place, _ :: user) => (some user.reverse, place.reverse)
  | (_, []) => (none, cs)

/-- The authority written between `//` and the path, and what of it belongs to the path. A host
may be empty where the scheme has no fixed authority form, but not with a user or a port, nor
between an `@` in front and something that follows. -/
def readAuthority (kind : SchemeKind) (isFollowed : Bool) (cs : List Char) :
    Except UriFault (Authority × List Char) := do
  let (user, place) := splitUser cs
  let userinfo := userinfoText (user.getD [])
  let (host, port) := splitPort place
  if host.isEmpty then
    if kind.isSpecial || port.isSome || userinfo ≠ "" || (user = some [] && isFollowed) then
      throw .emptyHost
    return (⟨"", "", none⟩, [])
  let host ← readHost kind host
  let (port, rest) ← readPort kind (port.getD [])
  return (⟨userinfo, String.ofList host, port⟩, rest)

/-- The segments of a path given without its leading slash. -/
def segmentsOf (kind : SchemeKind) (cs : List Char) : UriPath :=
  .segments ((readPath kind cs).segments.map String.ofList)

/-- A path that stands behind an authority. -/
def pathAfterHost (kind : SchemeKind) (cs : List Char) : UriPath :=
  match cs with
  | [] => if kind.isSpecial then .segments [""] else .segments []
  | c :: rest => segmentsOf kind (if kind.isSlash c then rest else c :: rest)

/-- The first character that counts, and what follows it. -/
def next? (cs : List Char) : Option (Char × List Char) :=
  match cs.dropWhile isBreak with
  | [] => none
  | c :: rest => some (c, rest)

/-- What follows a separator. -/
def afterSlash? (kind : SchemeKind) (cs : List Char) : Option (List Char) :=
  match next? cs with
  | some (c, rest) => if kind.isSlash c then some rest else none
  | none => none

/-- Takes what stands before the first separator. -/
def spanToSlash (kind : SchemeKind) (cs : List Char) : List Char × List Char :=
  cs.span (!kind.isSlash ·)

/-- No host, which is how files on the local host are written. -/
def noHost : Authority := ⟨"", "", none⟩

/-- A file's host and path behind two separators. A drive letter in the place of the host belongs
to the path, and a drive letter in front of the path leaves no host. -/
def readFilePlace (cs : List Char) : Except UriFault (Authority × UriPath) := do
  let (host, path) := spanToSlash .file cs
  let host := unbroken host
  if isDriveLetter host then return (noHost, segmentsOf .file cs)
  if host.isEmpty then return (noHost, segmentsOf .file path)
  let host ← readHost .file host
  if host = "localhost".toList then return (noHost, segmentsOf .file path)
  let hasDrive := (readPath .file (path.drop 1)).hasDrive
  return (if hasDrive then noHost else ⟨"", String.ofList host, none⟩, pathAfterHost .file path)

/-- A `file` URI after its scheme. -/
def readFile (cs : List Char) : Except UriFault (Authority × UriPath) :=
  match afterSlash? .file cs with
  | none => .ok (noHost, segmentsOf .file cs)
  | some rest =>
    match afterSlash? .file rest with
    | none => .ok (noHost, segmentsOf .file rest)
    | some rest => readFilePlace rest

/-- Authority and path behind two slashes. -/
def readPlace (kind : SchemeKind) (isFollowed : Bool) (cs : List Char) :
    Except UriFault (Option Authority × UriPath) := do
  let (place, path) := spanToSlash kind cs
  let (authority, rest) ← readAuthority kind (isFollowed || !path.isEmpty) (unbroken place)
  return (some authority, pathAfterHost kind (rest ++ path))

/-- The authority and the path after a scheme. `isFollowed` tells whether a query or a fragment
follows. -/
def readBody (kind : SchemeKind) (isFollowed : Bool) (cs : List Char) :
    Except UriFault (Option Authority × UriPath) :=
  match kind with
  | .file => (readFile cs).map fun (authority, path) => (some authority, path)
  | .special _ => readPlace kind isFollowed (cs.dropWhile fun c => isBreak c || kind.isSlash c)
  | .plain =>
    match afterSlash? kind cs with
    | none => .ok (none, .bare (String.ofList (percentEncode isControl (unbroken cs))))
    | some rest =>
      match afterSlash? kind rest with
      | none => .ok (none, segmentsOf kind rest)
      | some rest => readPlace kind isFollowed rest

/-- Drops spaces and control characters around the text. -/
def clean (cs : List Char) : List Char :=
  let outer (c : Char) : Bool := c.toNat ≤ 32
  ((cs.dropWhile outer).reverse.dropWhile outer).reverse

/-- Reads an absolute URI. -/
def parse (s : String) : Except UriFault Uri :=
  match splitScheme (clean s.toList) with
  | none => .error .relative
  | some (scheme, rest) => do
    let kind := schemeKind scheme
    let (front, query, fragment) := splitTail kind.isSpecial rest
    let (authority, path) ← readBody kind (query.isSome || fragment.isSome) front
    return ⟨scheme, authority, path, query, fragment⟩

/-- The absolute URI that a text is. -/
def parse? (s : String) : Option Uri := (parse s).toOption

end LanguageBroker.Uri
