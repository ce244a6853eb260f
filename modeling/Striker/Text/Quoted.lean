/-
Text in double quotes for people to read: quotes and backslashes are escaped, the common controls
have letters, and every other character that would not show is given by its number.
-/
import Striker.Text.Hidden

namespace Striker.Text

/-- A character given by its number in hexadecimal. -/
def escapeNumber (c : Char) : List Char :=
  ['\\', 'u', '\x7b'] ++ Nat.toDigits 16 c.toNat ++ ['\x7d']

/-- How a character stands between quotes. -/
def quoteChar (c : Char) : List Char :=
  if c = '"' ∨ c = '\\' then ['\\', c]
  else if c = '\n' then ['\\', 'n']
  else if c = '\r' then ['\\', 'r']
  else if c = '\t' then ['\\', 't']
  else if c.toNat = 0 then ['\\', '0']
  else if isHidden c then escapeNumber c
  else [c]

/-- The text in quotes. -/
def quote (s : String) : String :=
  String.ofList ('"' :: s.toList.flatMap quoteChar ++ ['"'])

end Striker.Text
