import Relay.Decimal.Shortest

/-!
# How a floating-point number is written

Shortest digits, positional from `0.00001` up to sixteen digits before the point and always with a
fraction there; beyond that one digit before the point and a signed exponent.
-/

namespace Relay.Decimal

/-- The choices of a way to write numbers: which positions of the leading digit are positional. -/
structure Layout where
  least : Int
  greatest : Int

/-- The layout of numbers in error messages. -/
def Layout.message : Layout := ⟨-5, 15⟩

/-- `n` zeros. -/
def zeros (n : Nat) : String := String.ofList (List.replicate n '0')

/-- Digits with a point after the first `n`. -/
def pointAfter (digits : String) (n : Nat) : String :=
  String.ofList (digits.toList.take n) ++ "." ++ String.ofList (digits.toList.drop n)

/-- A positive decimal in a given layout. -/
def Layout.write (layout : Layout) (d : Scaled) : String :=
  let digits := toString d.digits
  let count := digits.length
  let leading := d.exponent + count - 1
  if layout.least ≤ leading ∧ leading ≤ layout.greatest then
    if 0 ≤ d.exponent then digits ++ zeros d.exponent.toNat ++ ".0"
    else if 0 ≤ leading then pointAfter digits (leading.toNat + 1)
    else "0." ++ zeros (-leading - 1).toNat ++ digits
  else
    let mantissa := if count = 1 then digits else pointAfter digits 1
    mantissa ++ "e" ++ (if leading < 0 then "-" else "+") ++ toString leading.natAbs

/-- The text of a finite double; zero keeps its sign. -/
def render (x : Float) : String :=
  let negative := signBit ≤ x.toBits.toNat
  let size := if x.toBits.toNat % signBit = 0 then "0.0" else Layout.message.write (shortest x)
  if negative then "-" ++ size else size

end Relay.Decimal
