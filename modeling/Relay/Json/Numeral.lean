import Relay.Json.Fault

/-!
# Numerals

`scan` splits a numeral off a text by the grammar of JSON; it says nothing about size. `value` gives
the number a numeral stands for: exact while the integer fits 64 bits, else a double that is found
from at most 64 bits of leading digits and one or more scalings by a power of ten. A numeral too
large for a double has no value.
-/

namespace Relay.Json

/-- A number as a program holds it. -/
inductive Number where
  /-- An integer from 0 to 2⁶⁴ - 1. -/
  | natural (n : Nat)
  /-- An integer from -2⁶³ to -1. -/
  | negative (n : Int)
  /-- Every other number. -/
  | real (x : Float)

/-- The parts of a numeral; no fraction is an empty list of digits. -/
structure Numeral where
  minus : Bool
  whole : List Char
  fraction : List Char
  /-- Whether the exponent has a minus sign, and its digits. -/
  exponent : Option (Bool × List Char)

namespace Numeral

/-- The digits at the start of a text, and the rest. -/
def digits (cs : List Char) : List Char × List Char :=
  (cs.takeWhile Char.isDigit, cs.dropWhile Char.isDigit)

/-- At least one digit. -/
def someDigits (cs : List Char) : Except Mistake (List Char × List Char) :=
  if (digits cs).1.isEmpty then .error (if cs.isEmpty then .endInValue else .badNumeral)
  else .ok (digits cs)

/-- The digits before the point: a zero stands alone. -/
def scanWhole (cs : List Char) : Except Mistake (List Char × List Char) :=
  match someDigits cs with
  | .ok ('0' :: _ :: _, _) => .error .badNumeral
  | other => other

/-- A point with its digits, if there is one. -/
def scanFraction : List Char → Except Mistake (List Char × List Char)
  | '.' :: cs => someDigits cs
  | cs => .ok ([], cs)

/-- The sign of an exponent, and the rest. -/
def exponentSign : List Char → Bool × List Char
  | '-' :: cs => (true, cs)
  | '+' :: cs => (false, cs)
  | cs => (false, cs)

/-- An exponent, if there is one. -/
def scanExponent : List Char → Except Mistake (Option (Bool × List Char) × List Char)
  | c :: cs =>
    if c = 'e' ∨ c = 'E' then do
      let (sign, cs) := exponentSign cs
      let (found, rest) ← someDigits cs
      pure (some (sign, found), rest)
    else .ok (none, c :: cs)
  | [] => .ok (none, [])

/-- The parts after the sign. -/
def scanUnsigned (minus : Bool) (cs : List Char) : Except Mistake (Numeral × List Char) := do
  let (whole, cs) ← scanWhole cs
  let (fraction, cs) ← scanFraction cs
  let (exponent, rest) ← scanExponent cs
  pure (⟨minus, whole, fraction, exponent⟩, rest)

/-- Splits a numeral off a text. -/
def scan : List Char → Except Mistake (Numeral × List Char)
  | '-' :: cs => scanUnsigned true cs
  | cs => scanUnsigned false cs

theorem length_someDigits_lt {cs found rest : List Char} (h : someDigits cs = .ok (found, rest)) :
    rest.length < cs.length := by
  have whole : (cs.takeWhile Char.isDigit).length + (cs.dropWhile Char.isDigit).length =
      cs.length := by
    rw [← List.length_append, List.takeWhile_append_dropWhile]
  unfold someDigits at h
  split at h
  · simp at h
  rename_i nonempty
  simp only [digits, Except.ok.injEq, Prod.mk.injEq] at h nonempty
  have : 0 < (cs.takeWhile Char.isDigit).length :=
    List.length_pos_iff.2 fun none => nonempty (by simp [none])
  rw [← h.2]
  omega

theorem length_scanWhole_lt {cs found rest : List Char} (h : scanWhole cs = .ok (found, rest)) :
    rest.length < cs.length := by
  unfold scanWhole at h
  split at h
  · simp at h
  · exact length_someDigits_lt h

theorem length_scanFraction_le {cs found rest : List Char}
    (h : scanFraction cs = .ok (found, rest)) : rest.length ≤ cs.length := by
  unfold scanFraction at h
  split at h
  · have := length_someDigits_lt h
    simp
    omega
  · simp at h
    simp [h]

theorem length_exponentSign_le (cs : List Char) : (exponentSign cs).2.length ≤ cs.length := by
  unfold exponentSign
  split <;> simp

theorem length_scanExponent_le {cs rest : List Char} {found : Option (Bool × List Char)}
    (h : scanExponent cs = .ok (found, rest)) : rest.length ≤ cs.length := by
  unfold scanExponent at h
  split at h
  · rename_i cs
    split at h
    · simp only [bind, Except.bind, pure, Except.pure] at h
      split at h
      · simp at h
      · rename_i digits
        have := length_someDigits_lt digits
        have := length_exponentSign_le cs
        simp_all
        omega
    · simp at h
      simp [← h.2]
  · simp at h
    simp [← h.2]

theorem length_scanUnsigned_lt {minus : Bool} {cs rest : List Char} {n : Numeral}
    (h : scanUnsigned minus cs = .ok (n, rest)) : rest.length < cs.length := by
  simp only [scanUnsigned, bind, Except.bind, pure, Except.pure] at h
  split at h
  · simp at h
  rename_i whole
  split at h
  · simp at h
  rename_i fraction
  split at h
  · simp at h
  rename_i exponent
  have := length_scanWhole_lt whole
  have := length_scanFraction_le fraction
  have := length_scanExponent_le exponent
  simp at h
  rw [← h.2]
  omega

/-- A numeral takes at least one character. -/
theorem length_scan_lt {cs rest : List Char} {n : Numeral} (h : scan cs = .ok (n, rest)) :
    rest.length < cs.length := by
  unfold scan at h
  split at h
  · have := length_scanUnsigned_lt h
    simp
    omega
  · exact length_scanUnsigned_lt h

/-- The value of a digit. -/
def digitValue (c : Char) : Nat := c.toNat - '0'.toNat

/-- The first number that 64 bits do not hold. -/
def wordLimit : Nat := 0x10000000000000000

/-- The first exponent that 32 bits with a sign do not hold. -/
def exponentLimit : Nat := 0x80000000

/-- Appends digits to a significand as long as it fits 64 bits; the rest is left over. -/
def absorb (significand : Nat) : List Char → Nat × List Char
  | [] => (significand, [])
  | d :: ds =>
    let next := 10 * significand + digitValue d
    if next < wordLimit then absorb next ds else (significand, d :: ds)

/-- The value of an exponent's digits, unless it reaches the limit. -/
def exponentValue? (magnitude : Nat) : List Char → Option Nat
  | [] => some magnitude
  | d :: ds =>
    let next := 10 * magnitude + digitValue d
    if next < exponentLimit then exponentValue? next ds else none

/-- An exponent held within 32 bits. -/
def clamp (e : Int) : Int := max (-(exponentLimit : Int)) (min ((exponentLimit : Int) - 1) e)

/-- `f · 10 ^ e`, or nothing if that is too large; far negative exponents go in steps of 308. -/
def scale (f : Float) (e : Int) : Option Float :=
  if e.natAbs ≤ 308 then
    let power := Float.ofScientific 1 false e.natAbs
    if 0 ≤ e then
      let product := f * power
      if product.isInf then none else some product
    else some (f / power)
  else if f == 0 then some f
  else if 0 ≤ e then none
  else scale (f / Float.ofScientific 1 false 308) (e + 308)
termination_by e.natAbs
decreasing_by omega

/-- The double of a significand below 2⁶⁴ and an exponent. -/
def double (minus : Bool) (significand : Nat) (e : Int) : Option Float :=
  (scale significand.toUInt64.toFloat e).map fun f => if minus then -f else f

/-- The double of a significand, the exponent that its digits leave and the written exponent. -/
def withExponent (minus : Bool) (significand : Nat) (implied : Int) :
    Option (Bool × List Char) → Option Float
  | none => double minus significand implied
  | some (sign, ds) =>
    match exponentValue? 0 ds with
    | some magnitude =>
      double minus significand (clamp (if sign then implied - magnitude else implied + magnitude))
    | none => if significand = 0 ∨ sign then some (if minus then -0.0 else 0.0) else none

/-- The integer of a significand below 2⁶⁴ where it fits, else a double. -/
def integer (minus : Bool) (significand : Nat) : Number :=
  if !minus then .natural significand
  else if 0 < significand ∧ 2 * significand ≤ wordLimit then .negative (-significand)
  else .real (-significand.toUInt64.toFloat)

/-- The number that a numeral stands for; a numeral too large for a double has none. -/
def value (n : Numeral) : Except Mistake Number :=
  let (significand, excess) := absorb 0 n.whole
  if excess.isEmpty ∧ n.fraction.isEmpty ∧ n.exponent.isNone then .ok (integer n.minus significand)
  else
    let (significand, unused) := absorb significand n.fraction
    let implied : Int := (excess.length : Int) - ((n.fraction.length : Int) - unused.length)
    match withExponent n.minus significand implied n.exponent with
    | some x => .ok (.real x)
    | none => .error .hugeNumeral

end Numeral

end Relay.Json
