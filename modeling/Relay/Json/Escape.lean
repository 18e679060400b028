import Relay.Text.Hex

/-!
# Strings as JSON writes them

Only what JSON forbids inside a string is escaped: the quotation mark, the backslash and the
controls below U+0020. All else stands for itself.
-/

namespace Relay.Json

open Relay.Text (hexDigit)

/-- A character as it stands inside a string. -/
def escapeChar (c : Char) : List Char :=
  if c = '"' then ['\\', '"']
  else if c = '\\' then ['\\', '\\']
  else if c = '\x08' then ['\\', 'b']
  else if c = '\t' then ['\\', 't']
  else if c = '\n' then ['\\', 'n']
  else if c = '\x0c' then ['\\', 'f']
  else if c = '\r' then ['\\', 'r']
  else if c.toNat < 0x20 then
    ['\\', 'u', '0', '0', hexDigit (c.toNat / 16), hexDigit (c.toNat % 16)]
  else [c]

/-- A string with its quotation marks. -/
def escape (cs : List Char) : List Char := '"' :: cs.flatMap escapeChar ++ ['"']

end Relay.Json
