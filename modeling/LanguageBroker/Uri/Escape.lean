import LanguageBroker.Text.CodeTable
import LanguageBroker.Text.Utf8

/-!
Percent-encoding: which characters each part of a URI escapes, and the escapes themselves.
-/

namespace LanguageBroker.Uri

open Text

/-- ASCII control characters. -/
def isControl (c : Char) : Bool := c.toNat < 32 || c.toNat == 127

/-- Characters escaped in a fragment. -/
def inFragmentSet (c : Char) : Bool :=
  isControl c || c == ' ' || c == '"' || c == '<' || c == '>' || c.toNat == 0x60

/-- Characters escaped in a path segment. -/
def inPathSet (c : Char) : Bool :=
  inFragmentSet c || c == '#' || c == '?' || c == '\x7b' || c == '\x7d'

/-- Characters escaped in a user name or password. -/
def inUserSet (c : Char) : Bool :=
  inPathSet c || c == '/' || c == ':' || c == ';' || c == '=' || c == '@' || c == '['
    || c == '\\' || c == ']' || c == '^' || c == '|'

/-- Characters escaped in a query. -/
def inQuerySet (special : Bool) (c : Char) : Bool :=
  isControl c || c == ' ' || c == '"' || c == '#' || c == '<' || c == '>'
    || (special && c.toNat == 0x27)

def upperHex (n : Nat) : Char :=
  if n < 10 then Char.ofNat (48 + n) else Char.ofNat (55 + n)

/-- `%XY`. -/
def percent (b : UInt8) : List Char :=
  ['%', upperHex (b.toNat / 16), upperHex (b.toNat % 16)]

/-- Escapes the characters of a set and everything outside ASCII. -/
def percentEncode (set : Char → Bool) (cs : List Char) : List Char :=
  cs.flatMap fun c =>
    if c.toNat ≥ 128 || set c then (encodeChar c).flatMap percent else [c]

/-- A hexadecimal digit's value. -/
def hexValue? (b : UInt8) : Option UInt8 :=
  (digitValue? (Char.ofNat b.toNat)).map UInt8.ofNat

/-- Bytes with each `%XY` replaced by the byte it stands for. Other uses of `%` stay. -/
def percentDecode : List UInt8 → List UInt8
  | 0x25 :: a :: b :: rest =>
    match hexValue? a, hexValue? b with
    | some x, some y => (x * 16 + y) :: percentDecode rest
    | _, _ => 0x25 :: percentDecode (a :: b :: rest)
  | b :: rest => b :: percentDecode rest
  | [] => []

end LanguageBroker.Uri
