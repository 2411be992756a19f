import SolanaBlocks.Text.Letter
import SolanaBlocks.Text.PrintableTable

/-!
# String literals

A text between double quotes, with everything escaped that could end the literal, break the line or
not be seen: the quote, the backslash, control characters, and every character that has no visible
form of its own.
-/

namespace SolanaBlocks.Text

/-- Characters that stand for themselves inside a literal when no shorter escape exists. -/
def isVisible (c : Char) : Bool :=
  !unseenCharacters.covers c && !attachedCharacters.covers c

/-- The digits of a number in base sixteen, small letters, no leading zero. -/
def hexDigits (n : Nat) : List Char :=
  Nat.toDigits 16 n

/-- One character as it is written inside a literal. -/
def quoteChar (c : Char) : List Char :=
  if c.toNat = 0 then ['\\', '0']
  else if c = '\t' then ['\\', 't']
  else if c = '\r' then ['\\', 'r']
  else if c = '\n' then ['\\', 'n']
  else if c = '"' then ['\\', '"']
  else if c = '\\' then ['\\', '\\']
  else if isVisible c then [c]
  else ['\\', 'u', '\x7b'] ++ hexDigits c.toNat ++ ['\x7d']

/-- The characters of a literal, quotes included. -/
def quoteChars (cs : List Char) : List Char :=
  '"' :: cs.flatMap quoteChar ++ ['"']

/-- The literal that denotes a text. -/
def quote (s : String) : String :=
  String.ofList (quoteChars s.toList)

end SolanaBlocks.Text
