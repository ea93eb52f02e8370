import LanguageBroker.Path
import LanguageBroker.Uri.Escape

/-!
Parsed URIs and their one normal text. A URI whose path does not begin with a slash keeps it as
one bare text; every other path is a list of segments, free of `.` and `..`.
-/

namespace LanguageBroker

/-- The part after `//`. -/
structure Authority where
  /-- User and password with the final `@`, or nothing. -/
  userinfo : String
  host : String
  port : Option Nat
  deriving DecidableEq, Repr

/-- The path of a URI. -/
inductive UriPath
  | bare (text : String)
  | segments (list : List String)
  deriving DecidableEq, Repr

structure Uri where
  scheme : String
  authority : Option Authority
  path : UriPath
  query : Option String
  fragment : Option String
  deriving DecidableEq, Repr

namespace Authority

def text (a : Authority) : String :=
  a.userinfo ++ a.host ++
    match a.port with
    | some n => ":" ++ toString n
    | none => ""

end Authority

namespace UriPath

def text : UriPath → String
  | .bare t => t
  | .segments ss => ss.foldl (fun acc s => acc ++ "/" ++ s) ""

end UriPath

namespace Uri

/-- The normal text. Without an authority, a path that would begin with `//` is written behind
`/.` so that it is not taken for one. -/
def text (u : Uri) : String :=
  let authority := match u.authority with
    | some a => "//" ++ a.text
    | none =>
      match u.path with
      | .segments ("" :: _ :: _) => "/."
      | _ => ""
  let after (mark : String) : Option String → String
    | some t => mark ++ t
    | none => ""
  u.scheme ++ ":" ++ authority ++ u.path.text ++ after "?" u.query ++ after "#" u.fragment

instance : ToString Uri := ⟨text⟩

/-- The segments of the path, when it has any. -/
def segments? (u : Uri) : Option (List String) :=
  match u.path with
  | .segments [] => none
  | .segments ss => some ss
  | .bare _ => none

/-- The text of the last segment. -/
def lastSegment? (u : Uri) : Option String := u.segments?.bind List.getLast?

def isLetter (b : UInt8) : Bool := (0x41 ≤ b && b ≤ 0x5A) || (0x61 ≤ b && b ≤ 0x7A)

/-- The file that a URI without a host, or on the local one, names. A path that ends in a drive
letter gets a final separator. -/
def toPath? (u : Uri) : Option Path :=
  let isLocal := u.authority.all fun a => a.host == "" || a.host == "localhost"
  if isLocal then
    u.segments?.map fun ss =>
      let bytes := ss.flatMap fun s => Path.separator :: percentDecode (Text.encode s.toList)
      match bytes.reverse with
      | c :: l :: _ :: _ =>
        if isLetter l && (c == 0x3A || c == 0x7C) then ⟨bytes ++ [Path.separator]⟩ else ⟨bytes⟩
      | _ => ⟨bytes⟩
  else none

end Uri

end LanguageBroker
