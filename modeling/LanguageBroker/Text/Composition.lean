import LanguageBroker.Text.CombiningClass
import LanguageBroker.Text.Composite

/-!
The composed form of a text: characters are taken apart, the marks behind each base are put in
order of their classes, and what can be composed again is composed. Texts that look the same then
are the same. A character that stands for a single other one is not taken apart here.
-/

namespace LanguageBroker.Text

/-! Syllables of Hangul, composed of two or three letters by counting. -/

def firstSyllable : Nat := 0xAC00

def syllableCount : Nat := 11172

/-- Syllables with the same two first letters. -/
def syllablesPerPair : Nat := 28

/-- Pairs with the same first letter. -/
def pairsPerLetter : Nat := 21

def firstLead : Nat := 0x1100

def leadCount : Nat := 19

def firstVowel : Nat := 0x1161

/-- One below the first letter that can close a syllable. -/
def belowClosing : Nat := 0x11A7

/-- The letters of a syllable. -/
def syllableLetters (c : Char) : List Char :=
  let n := c.toNat - firstSyllable
  let pair := n / syllablesPerPair
  let opening := [Char.ofNat (firstLead + pair / pairsPerLetter),
    Char.ofNat (firstVowel + pair % pairsPerLetter)]
  let closing := n % syllablesPerPair
  if closing = 0 then opening else opening ++ [Char.ofNat (belowClosing + closing)]

def isSyllable (c : Char) : Bool :=
  firstSyllable ≤ c.toNat && c.toNat < firstSyllable + syllableCount

/-- The syllable of a first letter and a vowel, or of an open syllable and a closing letter. -/
def syllable? (a b : Char) : Option Char :=
  let isOpen := isSyllable a && (a.toNat - firstSyllable) % syllablesPerPair == 0
  if firstLead ≤ a.toNat ∧ a.toNat < firstLead + leadCount
      ∧ firstVowel ≤ b.toNat ∧ b.toNat < firstVowel + pairsPerLetter then
    some (Char.ofNat (firstSyllable + syllablesPerPair
      * ((a.toNat - firstLead) * pairsPerLetter + (b.toNat - firstVowel))))
  else if isOpen ∧ belowClosing < b.toNat ∧ b.toNat < belowClosing + syllablesPerPair then
    some (Char.ofNat (a.toNat + (b.toNat - belowClosing)))
  else none

/-! Taking apart. -/

/-- A base and its marks, for a character that is composed so many times at most. -/
def decomposed : (depth : Nat) → Char → List Char
  | 0, c => [c]
  | depth + 1, c =>
    match composites.find? fun p => p.whole = c.toNat with
    | some p => decomposed depth (Char.ofNat p.base) ++ [Char.ofNat p.mark]
    | none => [c]

/-- No character is composed of more than four. -/
def compositionDepth : Nat := 3

def decompose (cs : List Char) : List Char :=
  cs.flatMap fun c => if isSyllable c then syllableLetters c else decomposed compositionDepth c

/-! Putting in order. -/

/-- Puts a mark into its place behind those of its class and below. -/
def insertMark (m : Char) : List Char → List Char
  | [] => [m]
  | c :: cs => if combiningClass c ≤ combiningClass m then c :: insertMark m cs else m :: c :: cs

/-- Orders the marks that follow each other. `marks` are those read last. -/
def orderMarks (marks : List Char) : List Char → List Char
  | [] => marks
  | c :: cs =>
    if combiningClass c = 0 then marks ++ c :: orderMarks [] cs
    else orderMarks (insertMark c marks) cs

/-! Composing. -/

/-- The character that stands for two. -/
def composite? (a b : Char) : Option Char :=
  match syllable? a b with
  | some c => some c
  | none => (composites.find? fun p => p.base = a.toNat && p.mark = b.toNat).map fun p =>
      Char.ofNat p.whole

/-- Composes a base with what follows it. `kept` are the marks behind the base that were not
composed, in reverse; a mark of the class of the last of them, or below, is out of reach. -/
def composeFrom (base : Char) (kept : List Char) : List Char → List Char
  | [] => base :: kept.reverse
  | c :: cs =>
    let reached := match kept with
      | [] => true
      | m :: _ => combiningClass m < combiningClass c
    match if reached then composite? base c else none with
    | some whole => composeFrom whole kept cs
    | none =>
      if combiningClass c = 0 then base :: kept.reverse ++ composeFrom c [] cs
      else composeFrom base (c :: kept) cs

/-- Marks without a base stay as they are. -/
def composeAll : List Char → List Char
  | [] => []
  | c :: cs => if combiningClass c = 0 then composeFrom c [] cs else c :: composeAll cs

/-- The composed form. -/
def compose (cs : List Char) : List Char := composeAll (orderMarks [] (decompose cs))

end LanguageBroker.Text
