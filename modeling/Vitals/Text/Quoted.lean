import Vitals.Text.Hidden

/-!
# Quoted text in messages

A setting that is refused is quoted in the message, so that every character of it can be seen:
quotes and backslashes get a backslash in front, three line and column controls and the null
character have short forms, and every other hidden character is written as its code point.
-/

namespace Vitals.Text

/-- The digits of a number in base sixteen, lower case, without leading zeros. -/
def hexadecimal (n : Nat) : List Char :=
  if n < 16 then [n.digitChar] else hexadecimal (n / 16) ++ [(n % 16).digitChar]
termination_by n

/-- How a character is shown between quotes. -/
def shown (c : Char) : List Char :=
  if c = '"' then ['\\', '"']
  else if c = '\\' then ['\\', '\\']
  else if c = '\n' then ['\\', 'n']
  else if c = '\r' then ['\\', 'r']
  else if c = '\t' then ['\\', 't']
  else if c.toNat = 0 then ['\\', '0']
  else if isHidden c then ['\\', 'u', '\x7b'] ++ hexadecimal c.toNat ++ ['\x7d']
  else [c]

/-- A text between quotes. -/
def quoted (s : String) : String :=
  String.ofList ('"' :: s.toList.flatMap shown ++ ['"'])

end Vitals.Text
