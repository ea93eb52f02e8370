/-!
White space in the sense of the Unicode property `White_Space`, and trimming by it.
Header lines, settings and environment files are all trimmed by this one rule.
-/

namespace LanguageBroker.Text

/-- Characters with the Unicode property `White_Space`. -/
def isBlank (c : Char) : Bool :=
  let n := c.toNat
  (9 ≤ n && n ≤ 13) || n == 0x20 || n == 0x85 || n == 0xA0 || n == 0x1680
    || (0x2000 ≤ n && n ≤ 0x200A) || n == 0x2028 || n == 0x2029 || n == 0x202F
    || n == 0x205F || n == 0x3000

/-- Drops the blanks at the front. -/
def trimFront (cs : List Char) : List Char := cs.dropWhile isBlank

/-- Drops the blanks at the back. -/
def trimBack (cs : List Char) : List Char := (cs.reverse.dropWhile isBlank).reverse

/-- Drops the blanks at both ends. -/
def trim (cs : List Char) : List Char := trimBack (trimFront cs)

/-- The rest of `cs` after `head`, when `cs` starts with it. -/
def stripFront : (head cs : List Char) → Option (List Char)
  | [], cs => some cs
  | _ :: _, [] => none
  | h :: hs, c :: cs => if h = c then stripFront hs cs else none

/-- The part of `cs` before `tail`, when `cs` ends with it. -/
def stripBack (tail cs : List Char) : Option (List Char) :=
  (stripFront tail.reverse cs.reverse).map List.reverse

/-- Does `cs` contain `needle` somewhere? -/
def contains (needle : List Char) : List Char → Bool
  | [] => needle.isEmpty
  | c :: cs => (stripFront needle (c :: cs)).isSome || contains needle cs

/-- The first part before `sep` and what follows it, when `sep` occurs. -/
def splitOnce (sep : Char) (cs : List Char) : Option (List Char × List Char) :=
  match cs.span (· ≠ sep) with
  | (front, _ :: back) => some (front, back)
  | (_, []) => none

/-- The parts between separators; `n` separators give `n + 1` parts. -/
def splitAll (sep : Char) : List Char → List (List Char)
  | [] => [[]]
  | c :: cs =>
    if c = sep then [] :: splitAll sep cs
    else match splitAll sep cs with
      | [] => [[c]]
      | part :: parts => (c :: part) :: parts

/-- Replaces every occurrence of a non-empty `needle`, from left to right without overlap. -/
def replaceAll (needle replacement : List Char) (cs : List Char) : List Char :=
  go cs.length cs
where
  go : Nat → List Char → List Char
    | 0, cs => cs
    | _ + 1, [] => []
    | n + 1, c :: cs =>
      match stripFront needle (c :: cs) with
      | some rest => if needle.isEmpty then c :: cs else replacement ++ go n rest
      | none => c :: go n cs

/-- Lower case of the letters A to Z; every other character stays. -/
def lowerAscii (c : Char) : Char :=
  if 'A' ≤ c ∧ c ≤ 'Z' then Char.ofNat (c.toNat + 32) else c

/-- Equality up to the case of the letters A to Z. -/
def eqIgnoreCase (a b : List Char) : Bool := a.map lowerAscii == b.map lowerAscii

end LanguageBroker.Text
