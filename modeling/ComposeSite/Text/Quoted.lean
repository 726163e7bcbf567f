/-
# ComposeSite.Text.Quoted -- text shown between double quotes

Messages show names between double quotes, with quotes, backslashes and whatever
has no visible form of its own written as an escape.
-/
import ComposeSite.Text.Extending

set_option autoImplicit false

namespace ComposeSite.Text.Quoted

/-- Hexadecimal digits of a number, without leading zeros. -/
def hexDigits (n : Nat) : List Char := Nat.toDigits 16 n

def showChar (c : Char) : List Char :=
  if c = '\x00' then ['\\', '0']
  else if c = '\t' then ['\\', 't']
  else if c = '\n' then ['\\', 'n']
  else if c = '\r' then ['\\', 'r']
  else if c = '"' then ['\\', '"']
  else if c = '\\' then ['\\', '\\']
  else if isExtending c || isUnprintable c then
    ['\\', 'u', '\x7b'] ++ hexDigits c.toNat ++ ['\x7d']
  else [c]

def showChars (cs : List Char) : List Char :=
  '"' :: cs.flatMap showChar ++ ['"']

end Quoted

def quoted (s : String) : String :=
  String.ofList (Quoted.showChars s.toList)

end ComposeSite.Text
