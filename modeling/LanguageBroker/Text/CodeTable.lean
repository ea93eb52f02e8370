import LanguageBroker.Text.Blank

/-!
Tables of code points, written as text. Blanks separate the words of a table; the numbers of a
word are hexadecimal and stand between other characters, so that `61-7A` is a range and `66+69` a
sequence. A word that ends in a colon opens a group, which goes on to the next such word.
-/

namespace LanguageBroker.Text

/-- The value of a hexadecimal digit. -/
def digitValue? (c : Char) : Option Nat :=
  if '0' ≤ c ∧ c ≤ '9' then some (c.toNat - 48)
  else if 'A' ≤ c ∧ c ≤ 'F' then some (c.toNat - 55)
  else if 'a' ≤ c ∧ c ≤ 'f' then some (c.toNat - 87)
  else none

/-- The number that hexadecimal digits write. -/
def numeral (digits : List Char) : Nat :=
  digits.foldl (fun n c => 16 * n + (digitValue? c).getD 0) 0

/-- The parts between blanks. -/
def words (cs : List Char) : List (List Char) :=
  (splitAll ' ' (cs.map fun c => if isBlank c then ' ' else c)).filter (!·.isEmpty)

/-- The numbers of a word. -/
def numerals (word : List Char) : List Nat :=
  (words (word.map fun c => if (digitValue? c).isSome then c else ' ')).map numeral

/-- A group of a table: the number that opens it, and the numbers of each of its words. -/
structure CodeGroup where
  number : Nat
  entries : List (List Nat)
  deriving Repr

/-- The groups of a table. -/
def codeGroups (table : String) : List CodeGroup :=
  ((words table.toList).foldr (fun word (entries, groups) =>
    if word.getLast? = some ':' then ([], ⟨numeral word.dropLast, entries⟩ :: groups)
    else (numerals word :: entries, groups)) ([], [])).2

/-- Code points from the first to the last. -/
structure CodeRange where
  first : Nat
  last : Nat
  deriving Repr

def CodeRange.contains (r : CodeRange) (n : Nat) : Bool := r.first ≤ n && n ≤ r.last

/-- A code point, or the range between two. -/
def CodeRange.ofNumerals : List Nat → CodeRange
  | [] => ⟨1, 0⟩
  | [n] => ⟨n, n⟩
  | n :: m :: _ => ⟨n, m⟩

/-- The ranges of a table without groups. -/
def codeRanges (table : String) : List CodeRange :=
  (words table.toList).map fun word => CodeRange.ofNumerals (numerals word)

/-- Does one of the ranges hold the character? -/
def isIn (ranges : List CodeRange) (c : Char) : Bool := ranges.any (·.contains c.toNat)

end LanguageBroker.Text
