import LanguageBroker.Uri.Address
import LanguageBroker.Uri.Domain
import LanguageBroker.Uri.Escape
import LanguageBroker.Uri.Fault
import LanguageBroker.Uri.Scheme

/-!
Hosts. A host in brackets is an address of eight pieces; where the scheme has a fixed authority
form any other is an address of four octets or a domain, and elsewhere it is a bare text.
-/

namespace LanguageBroker.Uri

open Text

/-- An address of eight pieces, between brackets. -/
def readBracketed (inner : List Char) : Except UriFault (List Char) :=
  match readPieces? inner with
  | some pieces => .ok ('[' :: piecesText pieces ++ [']'])
  | none => .error .pieces

/-- A domain, or an address of four octets. -/
def readDomain (cs : List Char) : Except UriFault (List Char) :=
  match Domain.normal? (decodeLossy (percentDecode (encode cs))) with
  | none => .error .domain
  | some [] => .error .emptyHost
  | some name =>
    if endsInNumber name then
      match readOctets? name with
      | some address => .ok (octetsText address)
      | none => .error .octets
    else .ok name

/-- A host in its normal form. -/
def readHost (kind : SchemeKind) (cs : List Char) : Except UriFault (List Char) :=
  match cs with
  | '[' :: rest =>
    match stripBack [']'] rest with
    | some inner => readBracketed inner
    | none => .error .pieces
  | _ =>
    if kind.isSpecial then readDomain cs
    else if cs.any Domain.isForbiddenInHost then .error .hostCharacter
    else .ok (percentEncode isControl cs)

/-- Splits a host from what follows its colon, which does not stand in brackets. -/
def splitPort (cs : List Char) : List Char × Option (List Char) :=
  let rec go (inside : Bool) (front : List Char) : List Char → List Char × Option (List Char)
    | [] => (front.reverse, none)
    | c :: rest =>
      if c = ':' ∧ ¬ inside then (front.reverse, some rest)
      else go (if c = '[' then true else if c = ']' then false else inside) (c :: front) rest
  go false [] cs

/-- A port of at most 65535, and what follows it. An empty port and the scheme's own are left out;
a backslash ends a port under every scheme. -/
def readPort (kind : SchemeKind) (cs : List Char) : Except UriFault (Option Nat × List Char) :=
  let (digits, rest) := cs.span Char.isDigit
  let n := digits.foldl (fun n c => n * 10 + (c.toNat - 48)) 0
  if n > 65535 ∨ rest.head?.any (· ≠ '\\') then .error .port
  else .ok (if digits.isEmpty ∨ kind = .special n then none else some n, rest)

end LanguageBroker.Uri
