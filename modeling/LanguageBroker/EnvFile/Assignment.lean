import LanguageBroker.Path
import LanguageBroker.Text.Alphanumeric

/-!
The assignments of an environment file, one a line: a name, perhaps behind `export`, an equals sign
and a value with quotes, escapes and references to other variables. A reference takes the value
of the process environment, else that of an earlier line, else nothing.
-/

namespace LanguageBroker.EnvFile

/-- Variables and their values, later ones first. -/
abbrev Variables := List (String × String)

/-- Where a line breaks the rules. -/
structure LineFault where
  text : List Char
  index : Nat
  deriving DecidableEq, Repr

/-- Why the assignments of a file could not be read. -/
inductive Fault
  | notText
  | line (fault : LineFault)
  deriving DecidableEq, Repr

def Fault.message : Fault → String
  | .notText => "stream did not contain valid UTF-8"
  | .line f =>
    "Error parsing line: '" ++ String.ofList f.text ++ "', error at line index: "
      ++ toString f.index

/-- The quotes that a character of a value stands in. -/
inductive Quotes
  | outside
  | single
  | double
  deriving DecidableEq, Repr

/-- What the next character of a value belongs to. -/
inductive ValuePart
  | plain
  /-- A backslash came before. -/
  | escape
  /-- The name of a reference, last character first. -/
  | name (read : List Char)
  /-- The name of a reference in braces. -/
  | braced (read : List Char)
  /-- The value has ended; only a comment may follow. -/
  | ended
  | comment
  deriving DecidableEq, Repr

/-- A value read up to some character; `output` has its last character first. -/
structure ValueReader where
  quotes : Quotes := .outside
  part : ValuePart := .plain
  output : List Char := []
  deriving Repr

namespace ValueReader

def push (r : ValueReader) (c : Char) : ValueReader := { r with output := c :: r.output }

/-- Puts in the value of a referenced variable. -/
def substitute (r : ValueReader) (value : String → String) (name : List Char) : ValueReader :=
  { r with
    part := .plain
    output := (value (String.ofList name.reverse)).toList.reverse ++ r.output }

/-- A character outside references, escapes and single quotes. -/
def readPlain (r : ValueReader) (c : Char) : ValueReader :=
  if c = '$' then { r with part := .name [] }
  else if c = '\\' then { r with part := .escape }
  else
    match r.quotes with
    | .double => if c = '"' then { r with quotes := .outside } else r.push c
    | _ =>
      if c = '\'' then { r with quotes := .single }
      else if c = '"' then { r with quotes := .double }
      else if c = ' ' || c = '\t' then { r with part := .ended }
      else r.push c

/-- The character after the name of a reference. It belongs to the value, whatever it is, unless
it begins another reference. -/
def readAfterName (r : ValueReader) (value : String → String) (name : List Char) (c : Char) :
    ValueReader :=
  if c = '{' && name.isEmpty then { r with part := .braced [] }
  else
    let r := r.substitute value name
    if c = '$' then { r with part := .name [] } else r.push c

/-- Reads one character, unless it is out of place. -/
def read (value : String → String) (r : ValueReader) (c : Char) : Option ValueReader :=
  match r.part with
  | .comment => some r
  | .ended =>
    if c = ' ' || c = '\t' then some r
    else if c = '#' then some { r with part := .comment }
    else none
  | .escape =>
    if c = 'n' then some { r.push '\n' with part := .plain }
    else if c = '\\' || c = '\'' || c = '"' || c = '$' || c = ' ' then
      some { r.push c with part := .plain }
    else none
  | .plain =>
    if r.quotes = .single then
      some (if c = '\'' then { r with quotes := .outside } else r.push c)
    else some (r.readPlain c)
  | .name name =>
    if Text.isAlphanumeric c then some { r with part := .name (c :: name) }
    else some (r.readAfterName value name c)
  | .braced name =>
    if c = '}' then some (r.substitute value name)
    else some { r with part := .braced (c :: name) }

/-- The value, when the text may end here. -/
def finish (value : String → String) (r : ValueReader) : Option (List Char) :=
  match r.quotes, r.part with
  | .outside, .braced _ => none
  | .outside, .name name => some (r.substitute value name).output.reverse
  | .outside, _ => some r.output.reverse
  | _, _ => none

end ValueReader

/-- The length in UTF-8. -/
def byteCount (cs : List Char) : Nat := (Text.encode cs).length

/-- A value from its text. A character out of place is reported by its number, an open quote or
brace by the last byte. -/
def parseValue (value : String → String) (text : List Char) : Except LineFault String :=
  go {} 0 text
where
  go (r : ValueReader) (index : Nat) : List Char → Except LineFault String
    | [] =>
      match r.finish value with
      | some cs => .ok (String.ofList cs)
      | none => .error ⟨text, byteCount text - 1⟩
    | c :: cs =>
      match r.read value c with
      | some r => go r (index + 1) cs
      | none => .error ⟨text, index⟩

def isNameStart (c : Char) : Bool := c.isAlpha || c = '_'

def isNamePart (c : Char) : Bool := c.isAlphanum || c = '_' || c = '.'

/-- The name at the front of a text and the rest behind the blanks after it. -/
def splitName? : List Char → Option (List Char × List Char)
  | c :: cs =>
    if isNameStart c then
      some ((c :: cs).takeWhile isNamePart, Text.trimFront ((c :: cs).dropWhile isNamePart))
    else none
  | [] => none

/-- The name of an assignment and what follows its equals sign; else the text at which reading
stopped. The word `export` before a name means nothing. -/
def splitAssignment (cs : List Char) : Except (List Char) (List Char × List Char) :=
  match splitName? cs with
  | none => .error cs
  | some (name, '=' :: rest) => .ok (name, Text.trimFront rest)
  | some (name, rest) =>
    if name = "export".toList then
      match splitName? rest with
      | none => .error rest
      | some (name, '=' :: rest) => .ok (name, Text.trimFront rest)
      | some (_, rest) => .error rest
    else .error rest

/-- The assignment of a line, if it holds one. A fault outside the value is reported by the number
of bytes before it. -/
def parseLine (value : String → String) (line : List Char) :
    Except LineFault (Option (String × String)) :=
  let whole := Text.trimBack line
  match Text.trimFront whole with
  | [] => .ok none
  | '#' :: _ => .ok none
  | text =>
    match splitAssignment text with
    | .error rest => .error ⟨line, byteCount whole - byteCount rest⟩
    | .ok (name, []) => .ok (some (String.ofList name, ""))
    | .ok (name, '#' :: _) => .ok (some (String.ofList name, ""))
    | .ok (name, text) => do
      let v ← parseValue value text
      return some (String.ofList name, v)

/-- The lines of a file without their ends. Nothing follows a final line end. -/
def lines : List UInt8 → List (List UInt8)
  | [] => []
  | b :: bs =>
    if b == 0x0A then [] :: lines bs
    else
      match lines bs, bs with
      | l :: ls, 0x0A :: _ => (if b == 0x0D && l.isEmpty then l else b :: l) :: ls
      | l :: ls, _ => (b :: l) :: ls
      | [], _ => [[b]]

/-- The value that the process environment has for a name. It is searched as a list of texts
`name=value`, so a name may reach beyond the equals sign into the value. -/
def processValue? (process : Variables) (name : String) : Option String :=
  match Text.splitOnce '=' name.toList with
  | none => process.lookup name
  | some (front, beyond) =>
    (process.lookup (String.ofList front)).bind fun v =>
      (Text.stripFront (beyond ++ ['=']) v.toList).map String.ofList

/-- The value that a reference in the file takes. -/
def referenced (process read : Variables) (name : String) : String :=
  match processValue? process name with
  | some v => v
  | none => (read.lookup name).getD ""

/-- The assignments of the lines in their order, up to the first fault. `read` holds the earlier
ones, the last first. -/
def parseLines (process read : Variables) : List (List UInt8) → Except Fault Variables
  | [] => .ok read.reverse
  | line :: rest =>
    match Text.decode line with
    | .error _ => .error .notText
    | .ok cs =>
      match parseLine (referenced process read) cs with
      | .error f => .error (.line f)
      | .ok none => parseLines process read rest
      | .ok (some assignment) => parseLines process (assignment :: read) rest

/-- The assignments of a file. -/
def assignments (process : Variables) (bytes : List UInt8) : Except Fault Variables :=
  parseLines process [] (lines bytes)

end LanguageBroker.EnvFile
