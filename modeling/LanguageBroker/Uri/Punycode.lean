import LanguageBroker.Text.CodeTable

/-!
Labels of domain names in ASCII. The ASCII characters of a label come first, then a hyphen, then
the other characters in ascending order, each as the distance from the one before: how many steps
further its insertion lies, counting the places of the text for every code point. Distances are
written in base 36 with digits of a weight that adapts to the distances before.
-/

namespace LanguageBroker.Punycode

/-- The first code point that is written as a distance. -/
def firstCode : Nat := 128

def initialBias : Nat := 72

def base : Nat := 36

/-- A digit below the threshold of its position ends a number. -/
def threshold (bias position : Nat) : Nat :=
  if position ≤ bias then 1 else if position ≥ bias + 26 then 26 else position - bias

/-- Takes a distance down to the size that a bias stands for. -/
def shrink : (fuel distance bias : Nat) → Nat
  | 0, distance, bias => bias + base * distance / (distance + 38)
  | fuel + 1, distance, bias =>
    if distance > 455 then shrink fuel (distance / 35) (bias + base)
    else bias + base * distance / (distance + 38)

/-- The bias after a distance, in a text of that many characters. -/
def adapt (distance count : Nat) (isFirst : Bool) : Nat :=
  let d := if isFirst then distance / 700 else distance / 2
  shrink 64 (d + d / count) 0

/-! Writing. -/

/-- The letters stand for 0 to 25, the digits for 26 to 35. -/
def digit (n : Nat) : Char := if n < 26 then Char.ofNat (97 + n) else Char.ofNat (22 + n)

/-- A distance in digits. -/
def digits (bias : Nat) : (fuel position distance : Nat) → List Char
  | 0, _, q => [digit q]
  | fuel + 1, position, q =>
    let t := threshold bias position
    if q < t then [digit q]
    else digit (t + (q - t) % (base - t))
      :: digits bias fuel (position + base) ((q - t) / (base - t))

/-- How far the writing of a label has come. -/
structure Writer where
  written : List Char
  /-- The distance since the last character that was written. -/
  distance : Nat
  /-- The characters that are written. -/
  count : Nat
  bias : Nat

/-- Goes past a character of the label, or writes it if it is the one whose turn it is. -/
def Writer.pass (basic code : Nat) (w : Writer) (c : Char) : Writer :=
  if c.toNat < code then { w with distance := w.distance + 1 }
  else if c.toNat = code then
    { written := w.written ++ digits w.bias 64 base w.distance, distance := 0,
      count := w.count + 1, bias := adapt w.distance (w.count + 1) (w.count == basic) }
  else w

/-- Writes the occurrences of the code points, which are given in ascending order. -/
def Writer.writeAll (label : List Char) (basic : Nat) : (start : Nat) → List Nat → Writer → Writer
  | _, [], w => w
  | start, code :: codes, w =>
    let w := { w with distance := w.distance + (code - start) * (w.count + 1) }
    let w := label.foldl (Writer.pass basic code) w
    writeAll label basic (code + 1) codes { w with distance := w.distance + 1 }

def isAscii (c : Char) : Bool := c.toNat < firstCode

/-- The ASCII form of a label, without the mark in front of it. -/
def encode (label : List Char) : List Char :=
  let basic := label.filter isAscii
  let codes := ((label.filter (!isAscii ·)).map Char.toNat).mergeSort.eraseDups
  let start := basic ++ (if basic.isEmpty then [] else ['-'])
  (Writer.writeAll label basic.length firstCode codes
    ⟨start, 0, basic.length, initialBias⟩).written

/-! Reading. -/

def digitValue? (c : Char) : Option Nat :=
  if 'a' ≤ c ∧ c ≤ 'z' then some (c.toNat - 97)
  else if 'A' ≤ c ∧ c ≤ 'Z' then some (c.toNat - 65)
  else if '0' ≤ c ∧ c ≤ '9' then some (c.toNat - 22)
  else none

/-- Numbers are below this. -/
def numberBound : Nat := 4294967296

/-- How far the reading of a label has come. -/
structure Reader where
  read : List Char
  code : Nat := firstCode
  /-- Where the last character was put, counted on from the code point before it. -/
  place : Nat := 0
  bias : Nat := initialBias
  /-- The number that is being read: where it began, the weight of its next digit, and the
  position of that digit. -/
  number : Option (Nat × Nat × Nat) := none

/-- Puts the next character into the text. The reader's place is one past the last, plus the
distance that was read. -/
def Reader.insert (r : Reader) (before : Nat) : Option Reader :=
  let count := r.read.length + 1
  let code := r.code + r.place / count
  let spot := r.place % count
  if code < 0xD800 ∨ (0xDFFF < code ∧ code < 0x110000) then
    some
      { read := r.read.take spot ++ Char.ofNat code :: r.read.drop spot, code, place := spot + 1,
        bias := adapt (r.place - before) count (before == 0), number := none }
  else none

/-- Reads a digit. -/
def Reader.step (r : Reader) (c : Char) : Option Reader := do
  let d ← digitValue? c
  let (before, weight, position) := r.number.getD (r.place, 1, base)
  let place := r.place + d * weight
  let t := threshold r.bias position
  if place ≥ numberBound then none
  else if d < t then Reader.insert { r with place } before
  else if weight * (base - t) ≥ numberBound then none
  else some ({ r with place, number := some (before, weight * (base - t), position + base) })

/-- The label of an ASCII form. A hyphen at the very front counts as a digit, which it is not. -/
def decode? (form : List Char) : Option (List Char) :=
  let (back, front) := form.reverse.span (· ≠ '-')
  let (basic, distances) := match front with
    | [] => ([], form)
    | [_] => ([], form)
    | _ :: basic => (basic.reverse, back.reverse)
  match distances.foldlM Reader.step { read := basic } with
  | some r => if r.number.isSome then none else some r.read
  | none => none

end LanguageBroker.Punycode
