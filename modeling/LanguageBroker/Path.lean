import LanguageBroker.Text.Blank
import LanguageBroker.Text.Utf8

/-!
File paths as byte strings, compared by their components. Repeated separators and inner `.`
components make no difference between paths; `..` is a component like any other.
-/

namespace LanguageBroker

/-- A path, as the bytes it is written with. -/
structure Path where
  bytes : List UInt8
  deriving DecidableEq, Repr

namespace Path

/-- The separator `/`. -/
def separator : UInt8 := 0x2F

/-- The byte of `.`. -/
def dot : UInt8 := 0x2E

def ofString (s : String) : Path := ⟨Text.encode s.toList⟩

/-- The path as text, with U+FFFD for what is not UTF-8. -/
def text (p : Path) : String := String.ofList (Text.decodeLossy p.bytes)

def isAbsolute (p : Path) : Bool := p.bytes.head? == some separator

/-- `q` below `p`. An absolute `q` stands for itself. -/
def join (p q : Path) : Path :=
  if q.isAbsolute then q
  else match p.bytes.getLast? with
    | none => q
    | some b => if b == separator then ⟨p.bytes ++ q.bytes⟩ else ⟨p.bytes ++ separator :: q.bytes⟩

/-- The stretches between separators. -/
def segments : List UInt8 → List (List UInt8)
  | [] => [[]]
  | b :: bs =>
    if b == separator then [] :: segments bs
    else match segments bs with
      | [] => [[b]]
      | s :: ss => (b :: s) :: ss

/-- The components, a leading separator given as an empty one. A `.` counts only at the front of
a relative path. -/
def components (p : Path) : List (List UInt8) :=
  let meaningful (s : List UInt8) : Bool := !s.isEmpty && s != [dot]
  if p.isAbsolute then [] :: (segments p.bytes).filter meaningful
  else match segments p.bytes with
    | [] => []
    | s :: ss => (if s.isEmpty then [] else [s]) ++ ss.filter meaningful

/-- The path `p` names from the directory `place`: its components below it, without a leading `.`.
An absolute path stands for itself. -/
def seenFrom (p place : Path) : Path :=
  if p.isAbsolute then p
  else (p.components.dropWhile (· == [dot])).foldl (fun path c => path.join ⟨c⟩) place

/-- Do the components of `root` open those of `p`? -/
def startsWith (p root : Path) : Bool := root.components.isPrefixOf p.components

/-- Equality of components. -/
def sameAs (p q : Path) : Bool := p.components == q.components

/-- The last component, unless it is the root or `..`. A leading `.` names no file either. -/
def fileName? (p : Path) : Option (List UInt8) :=
  match p.components.getLast? with
  | some s => if s.isEmpty || s == [dot] || s == [dot, dot] then none else some s
  | none => none

/-- Drops separators and `.` components from the back, but not the whole of a relative `.`. -/
def dropIdle : Nat → List UInt8 → List UInt8
  | 0, bs => bs
  | fuel + 1, bs =>
    match bs.reverse with
    | b :: [] => if b == separator then [b] else bs
    | b :: rest =>
      if b == separator then dropIdle fuel rest.reverse
      else match rest with
        | c :: _ => if b == dot && c == separator then dropIdle fuel rest.reverse else bs
        | [] => bs
    | [] => []

/-- The path without its last component, and nothing for the root or the empty path. -/
def parent? (p : Path) : Option Path :=
  let n := p.bytes.length
  match p.components with
  | [] => none
  | [s] =>
    if s.isEmpty then none else some ⟨[]⟩
  | _ =>
    let whole := dropIdle n p.bytes
    let rest := (whole.reverse.dropWhile (· != separator)).reverse
    some ⟨dropIdle n rest⟩

end Path

end LanguageBroker
