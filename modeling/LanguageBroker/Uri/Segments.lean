import LanguageBroker.Uri.Escape
import LanguageBroker.Uri.Scheme

/-!
Paths in segments. Dot segments are resolved, and in a file's path a drive letter in front is
written with a colon and is not left by `..`.
-/

namespace LanguageBroker.Uri

open Text

/-- A letter followed by `:` or `|`. -/
def isDriveLetter (cs : List Char) : Bool :=
  match cs with
  | [c, d] => c.isAlpha && (d == ':' || d == '|')
  | _ => false

/-- Does a segment begin with a drive letter that ends there or before a backslash? -/
def beginsWithDrive (segment : List Char) : Bool :=
  isDriveLetter (segment.take 2) && (segment.drop 2).head?.all (· == '\\')

def isSingleDot (cs : List Char) : Bool :=
  cs == ['.'] || cs.map lowerAscii == ['%', '2', 'e']

def isDoubleDot (cs : List Char) : Bool :=
  let two := ['%', '2', 'e']
  let low := cs.map lowerAscii
  low == ['.', '.'] || low == '.' :: two || low == two ++ ['.'] || low == two ++ two

/-- What has been read of a path. -/
structure PathReading where
  segments : List (List Char) := []
  /-- Was there a drive letter in front? -/
  hasDrive : Bool := false

/-- Removes the last segment, but never a drive letter. -/
def shorten (segments : List (List Char)) : List (List Char) :=
  if segments.getLast?.any beginsWithDrive then segments else segments.dropLast

/-- A drive letter that is cut off from what follows by a tab or a line end, and what follows. -/
def cutDrive? (source : List Char) : Option (List Char × List Char) :=
  match splitOnce ':' source with
  | some (front, back) =>
    match unbroken front, back with
    | [c], d :: rest =>
      if c.isAlpha && isBreak d && !(unbroken rest).isEmpty then some ([c, ':'], unbroken rest)
      else none
    | _, _ => none
  | none => none

/-- Adds a segment of the source; `isLast` when no slash follows it. A drive letter in front that
is cut off from the rest of its segment counts as a segment of its own, and the rest is taken as
it is. -/
def PathReading.add (kind : SchemeKind) (r : PathReading) (source : List Char) (isLast : Bool) :
    PathReading :=
  let isFront := kind = .file ∧ r.segments = []
  let segment := percentEncode inPathSet (unbroken source)
  match cutDrive? source with
  | some (drive, rest) =>
    if isFront then { r with segments := [drive, percentEncode inPathSet rest] }
    else { r with segments := r.segments ++ [segment] }
  | none =>
    if isDoubleDot segment then
      { r with segments := shorten r.segments ++ if isLast then [[]] else [] }
    else if isSingleDot segment then
      { r with segments := r.segments ++ if isLast then [[]] else [] }
    else if isFront ∧ isDriveLetter segment then
      { segments := [segment.take 1 ++ [':']], hasDrive := true }
    else { r with segments := r.segments ++ [segment] }

/-- Adds all segments of the source. -/
def PathReading.addAll (kind : SchemeKind) (r : PathReading) : List (List Char) → PathReading
  | [] => r
  | [s] => r.add kind s true
  | s :: rest => (r.add kind s false).addAll kind rest

/-- A file's path does not begin with empty segments. -/
def dropEmptyFront (kind : SchemeKind) : List (List Char) → List (List Char)
  | [] :: s :: ss => if kind = .file then dropEmptyFront kind (s :: ss) else [] :: s :: ss
  | ss => ss

/-- Reads a path given without its leading slash. -/
def readPath (kind : SchemeKind) (cs : List Char) : PathReading :=
  let source := splitAll '/' (cs.map fun c => if kind.isSlash c then '/' else c)
  let r := PathReading.addAll kind {} source
  { r with segments := dropEmptyFront kind r.segments }

end LanguageBroker.Uri
