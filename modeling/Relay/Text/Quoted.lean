import Relay.Text.Hidden

/-!
# Quoted text

The form in which error messages show a text they did not write themselves: between quotation
marks, on one line, and so that the text can be told from its surroundings. A quotation mark, a
backslash and the everyday controls have a two-character escape; every other hidden character is
written by its number, `\u{1f}`.
-/

namespace Relay.Text

/-- Digits of a number in base sixteen, lower case, without leading zeros. -/
def hexNumber (n : Nat) : List Char := Nat.toDigits 16 n

/-- A character as it stands between the quotation marks. -/
def quoteChar (c : Char) : List Char :=
  if c = '"' then ['\\', '"']
  else if c = '\\' then ['\\', '\\']
  else if c = '\n' then ['\\', 'n']
  else if c = '\r' then ['\\', 'r']
  else if c = '\t' then ['\\', 't']
  else if c = '\x00' then ['\\', '0']
  else if isHidden c then ['\\', 'u', '\x7b'] ++ hexNumber c.toNat ++ ['\x7d']
  else [c]

/-- The characters of a text between quotation marks. -/
def quoteChars (cs : List Char) : List Char :=
  '"' :: cs.flatMap quoteChar ++ ['"']

/-- A text between quotation marks. -/
def quote (s : String) : String := String.ofList (quoteChars s.toList)

end Relay.Text
