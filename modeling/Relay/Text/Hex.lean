/-!
# Octets in base sixteen
-/

namespace Relay.Text

/-- The digit of a number below sixteen, lower case. -/
def hexDigit (n : Nat) : Char :=
  if n < 10 then Char.ofNat ('0'.toNat + n) else Char.ofNat ('a'.toNat + (n - 10))

/-- The value of a digit of either case. -/
def hexValue? (c : Char) : Option Nat :=
  if '0' ≤ c ∧ c ≤ '9' then some (c.toNat - '0'.toNat)
  else if 'a' ≤ c ∧ c ≤ 'f' then some (c.toNat - 'a'.toNat + 10)
  else if 'A' ≤ c ∧ c ≤ 'F' then some (c.toNat - 'A'.toNat + 10)
  else none

/-- Two digits for an octet. -/
def hexOctet (b : UInt8) : List Char := [hexDigit (b.toNat / 16), hexDigit (b.toNat % 16)]

/-- Octets, two digits each. -/
def hexOctets (bytes : List UInt8) : List Char := bytes.flatMap hexOctet

/-- The octets that a text of paired digits stands for. -/
def octetsOfHex? : List Char → Option (List UInt8)
  | [] => some []
  | a :: b :: rest => do
    let high ← hexValue? a
    let low ← hexValue? b
    let bytes ← octetsOfHex? rest
    pure (UInt8.ofNat (16 * high + low) :: bytes)
  | [_] => none

end Relay.Text
