import LanguageBroker.Json
import LanguageBroker.Uri.Parser

/-!
Shapes of protocol values. A value that has a shape is read and written down again: members that
the shape does not know, and those that are absent, are left out, and URIs are brought into their
normal form. Most objects may also come as arrays of their members in order.
-/

namespace LanguageBroker

/-- How a member of an object may be missing. -/
inductive Need
  | required
  /-- Absent and null are the same, and nothing is written for them. -/
  | optional
  /-- Absent and null are the same, and null is written for them. -/
  | nullable
  /-- The member may be absent, but not null. -/
  | omissible
  deriving DecidableEq, Repr

/-- The shape of a value. -/
inductive Shape
  | any
  | bool
  | text
  /-- One of some words, which may also be the only member of an object, with the value null. -/
  | word (words : List String)
  /-- A word that tells objects apart, or its number. -/
  | tag (word : String) (number : Nat)
  /-- A whole number that fits 32 bits, with or without sign. -/
  | whole (signed : Bool)
  | number
  | uri
  | list (item : Shape)
  /-- An array of exactly these. -/
  | tuple (items : List Shape)
  /-- An object from URIs to values. -/
  | byUri (item : Shape)
  /-- An object, and no array. -/
  | object (members : List (String × Need × Shape))
  /-- An object, or an array of its members in order. -/
  | record (members : List (String × Need × Shape))
  /-- An object that may have more members, all of one shape. -/
  | openObject (members : List (String × Need × Shape)) (more : Shape)
  /-- The first shape that the value has. -/
  | choice (options : List Shape)

namespace Shape

/-- Does a number fit 32 bits? -/
def fits (signed : Bool) (n : Int) : Bool :=
  if signed then -2147483648 ≤ n && n < 2147483648 else 0 ≤ n && n < 4294967296

mutual

/-- The value as it is written down again, if it has the shape. -/
def read : Shape → Json → Option Json
  | .any, v => some v
  | .bool, .bool b => some (.bool b)
  | .text, .str s => some (.str s)
  | .word words, .str s => if words.contains s then some (.str s) else none
  | .word words, .obj [(s, .null)] => if words.contains s then some (.str s) else none
  | .tag w _, .str s => if s = w then some (.str w) else none
  | .tag w k, .int n => if n = k then some (.str w) else none
  | .whole signed, .int n => if fits signed n then some (.int n) else none
  | .number, .int n => some (.int n)
  | .number, .real x => some (.real x)
  | .uri, .str s => (Uri.parse? s).map fun u => .str u.text
  | .list item, .arr items => (items.mapM fun v => read item v).map .arr
  | .tuple shapes, .arr items => (readEach shapes items).map .arr
  | .byUri item, .obj members =>
    (members.mapM fun m =>
      (Uri.parse? m.1).bind fun u => (read item m.2).map fun v => (u.text, v)).map Json.object
  | .object members, .obj own => (readMembers members own).map Json.object
  | .record members, .obj own => (readMembers members own).map Json.object
  | .record members, .arr own => (readInOrder members own).map Json.object
  | .openObject members more, .obj own =>
    match readMembers members own,
        (own.filter fun m => ! members.any fun k => k.1 == m.1).mapM fun m =>
          (read more m.2).map fun v => (m.1, v) with
    | some known, some others => some (Json.object (known ++ others))
    | _, _ => none
  | .choice options, v => readFirst options v
  | _, _ => none

/-- Values that have one shape each. -/
def readEach : List Shape → List Json → Option (List Json)
  | [], [] => some []
  | shape :: shapes, v :: vs =>
    match read shape v, readEach shapes vs with
    | some w, some ws => some (w :: ws)
    | _, _ => none
  | _, _ => none

/-- The members of an object, as they are written down again. -/
def readMembers : List (String × Need × Shape) → List (String × Json) →
    Option (List (String × Json))
  | [], _ => some []
  | (name, need, shape) :: rest, own =>
    match readMembers rest own with
    | none => none
    | some others =>
      match need, own.lookup name with
      | .required, none => none
      | .optional, none => some others
      | .omissible, none => some others
      | .nullable, none => some ((name, .null) :: others)
      | .optional, some .null => some others
      | .nullable, some .null => some ((name, .null) :: others)
      | _, some v => (read shape v).map fun w => (name, w) :: others

/-- The members of an object that is given as an array. Only members that may be omitted may be
missing at its end. -/
def readInOrder : List (String × Need × Shape) → List Json → Option (List (String × Json))
  | [], [] => some []
  | [], _ :: _ => none
  | (_, need, _) :: rest, [] =>
    match need with
    | .omissible => readInOrder rest []
    | _ => none
  | (name, need, shape) :: rest, v :: own =>
    match readInOrder rest own with
    | none => none
    | some others =>
      match need, v with
      | .optional, .null => some others
      | .nullable, .null => some ((name, .null) :: others)
      | _, v => (read shape v).map fun w => (name, w) :: others

/-- The value by the first shape that it has. -/
def readFirst : List Shape → Json → Option Json
  | [], _ => none
  | shape :: rest, v =>
    match read shape v with
    | some w => some w
    | none => readFirst rest v

end

end Shape

end LanguageBroker
