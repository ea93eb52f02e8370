import LanguageBroker.Text.Invisible

/-!
A text as it is shown in a message: between double quotes, with the quote and the backslash
escaped, short escapes for tab, line ends and zero, and the code point of everything invisible.
-/

namespace LanguageBroker.Text

/-- A number in hexadecimal, lower case, without leading zeros. -/
def hexadecimal (n : Nat) : List Char := Nat.toDigits 16 n

/-- One character of a shown text. -/
def shownChar (c : Char) : List Char :=
  if c = '"' then ['\\', '"']
  else if c = '\\' then ['\\', '\\']
  else if c = '\n' then ['\\', 'n']
  else if c = '\r' then ['\\', 'r']
  else if c = '\t' then ['\\', 't']
  else if c.toNat = 0 then ['\\', '0']
  else if isInvisible c then ['\\', 'u', '{'] ++ hexadecimal c.toNat ++ ['}']
  else [c]

/-- The whole text between quotes. -/
def shown (cs : List Char) : List Char := '"' :: cs.flatMap shownChar ++ ['"']

end LanguageBroker.Text
