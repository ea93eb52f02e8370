import LanguageBroker.Text.CodeTable

/-!
Hosts that are addresses: four numbers between dots, in the many notations that are read for them,
and eight pieces between colons, of which the longest run of zeros is left out.
-/

namespace LanguageBroker.Uri

open Text

/-- Digits of a base as a number. -/
def readDigits? (radix : Nat) (cs : List Char) : Option Nat :=
  cs.foldlM (fun n c =>
    (digitValue? c).bind fun d => if d < radix then some (n * radix + d) else none) 0

/-! Addresses of four octets. -/

/-- A number in octal behind `0`, in hexadecimal behind `0x`, else in decimal. -/
def octetNumber? : List Char → Option Nat
  | [] => none
  | ['0'] => some 0
  | '0' :: c :: cs => if c = 'x' ∨ c = 'X' then readDigits? 16 cs else readDigits? 8 (c :: cs)
  | cs => readDigits? 10 cs

/-- The parts between dots, of which an empty last one does not count. -/
def dottedParts (host : List Char) : List (List Char) :=
  let parts := splitAll '.' host
  if parts.length > 1 ∧ parts.getLast? = some [] then parts.dropLast else parts

/-- Is the host meant as an address of four octets? -/
def endsInNumber (host : List Char) : Bool :=
  match (dottedParts host).getLast? with
  | some part => !part.isEmpty && (part.all Char.isDigit || (octetNumber? part).isSome)
  | none => false

/-- The address of four octets as one number. The last part stands for all octets that are left. -/
def readOctets? (host : List Char) : Option Nat := do
  let numbers ← (dottedParts host).mapM octetNumber?
  let wide ← numbers.getLast?
  let front := numbers.dropLast
  if numbers.length > 4 ∨ front.any (· > 255) ∨ wide ≥ Nat.pow 256 (5 - numbers.length) then none
  else some (front.zipIdx.foldl (fun n (octet, i) => n + octet * Nat.pow 256 (3 - i)) wide)

/-- Four octets in decimal. -/
def octetsText (address : Nat) : List Char :=
  let octet (k : Nat) : String := toString (address / Nat.pow 256 k % 256)
  (octet 3 ++ "." ++ octet 2 ++ "." ++ octet 1 ++ "." ++ octet 0).toList

/-! Addresses of eight pieces. -/

/-- The pieces of such an address. -/
def pieceCount : Nat := 8

/-- A piece of at most four digits. -/
def piece? (cs : List Char) : Option Nat :=
  if cs.isEmpty ∨ cs.length > 4 then none else readDigits? 16 cs

/-- An octet in decimal without a leading zero. -/
def plainOctet? (cs : List Char) : Option Nat :=
  if cs.isEmpty ∨ (cs.length > 1 ∧ cs.head? = some '0') then none
  else (readDigits? 10 cs).filter (· < 256)

/-- Two pieces written as four octets. -/
def octetPieces? (cs : List Char) : Option (List Nat) :=
  match (splitAll '.' cs).mapM plainOctet? with
  | some [a, b, c, d] => some [a * 256 + b, c * 256 + d]
  | _ => none

/-- Pieces between colons. The last two may be written as octets where `withOctets` says so. -/
def pieces? (withOctets : Bool) (cs : List Char) : Option (List Nat) :=
  if cs.isEmpty then some []
  else
    let parts := splitAll ':' cs
    match parts.getLast? with
    | some last =>
      if withOctets ∧ last.contains '.' then do
        return (← parts.dropLast.mapM piece?) ++ (← octetPieces? last)
      else parts.mapM piece?
    | none => none

/-- The parts around the first pair of colons. -/
def splitAtGap (front : List Char) : List Char → Option (List Char × List Char)
  | [] => none
  | ':' :: ':' :: back => some (front.reverse, back)
  | c :: cs => splitAtGap (c :: front) cs

/-- The pieces of an address. A pair of colons stands for as many zeros as are missing, if any
are. -/
def readPieces? (cs : List Char) : Option (List Nat) :=
  match splitAtGap [] cs with
  | none => (pieces? true cs).filter (·.length = pieceCount)
  | some (front, back) =>
    match pieces? false front, pieces? true back with
    | some front, some back =>
      let count := front.length + back.length
      if count < pieceCount then some (front ++ List.replicate (pieceCount - count) 0 ++ back)
      else none
    | _, _ => none

/-- How many zeros stand at the front. -/
def leadingZeros (pieces : List Nat) : Nat := (pieces.takeWhile (· == 0)).length

/-- The first of the longest runs of zeros: where it begins, and its length. -/
def longestRun (pieces : List Nat) : Nat × Nat :=
  (List.range pieces.length).foldl (fun best i =>
    let length := leadingZeros (pieces.drop i)
    if length > best.2 then (i, length) else best) (0, 0)

/-- Pieces in hexadecimal with colons between them. -/
def joinPieces : List Nat → List Char
  | [] => []
  | [n] => Nat.toDigits 16 n
  | n :: ns => Nat.toDigits 16 n ++ ':' :: joinPieces ns

/-- The address as it is written: two colons stand for the longest run of zeros, if it is longer
than one. -/
def piecesText (pieces : List Nat) : List Char :=
  let (start, length) := longestRun pieces
  if length < 2 then joinPieces pieces
  else joinPieces (pieces.take start) ++ ':' :: ':' :: joinPieces (pieces.drop (start + length))

end LanguageBroker.Uri
