/-!
# The shortest decimal of a floating-point number

A finite double is `m · 2 ^ q`. The reals that round to it form an interval, whose ends belong to it
exactly when `m` is even. Its shortest decimal is the one of fewest digits inside that interval; of
two with that many digits the nearer one, and of two equally near the one whose last digit is even.

Everything is exact arithmetic on natural numbers: for one, two, … seventeen digits the two
neighbours of the number on that decimal grid are tested, and the first grid with a hit wins.
-/

namespace Relay.Decimal

/-- A positive number with the interval of reals that round to it, over a common denominator. -/
structure Span where
  lower : Nat
  value : Nat
  upper : Nat
  denominator : Nat
  /-- Whether the ends belong to the interval. -/
  closed : Bool

/-- A decimal `digits · 10 ^ exponent`. -/
structure Scaled where
  digits : Nat
  exponent : Int
  deriving Repr, DecidableEq

/-- The leading bit of a mantissa, which the 64 bits of a double leave out: 2⁵². -/
def leadingBit : Nat := 0x10000000000000

/-- The weight of the sign among the 64 bits of a double: 2⁶³. -/
def signBit : Nat := 0x8000000000000000

/-- A power of ten; one where the exponent is negative. -/
def tenTo (k : Int) : Nat := Nat.pow 10 k.toNat

/-- The interval of a finite positive double, from its 64 bits without the sign. -/
def Span.ofBits (bits : Nat) : Span :=
  let fraction := bits % leadingBit
  let biased := bits / leadingBit % 0x800
  let mantissa := if biased = 0 then fraction else fraction + leadingBit
  -- The unit is a quarter of the last place: `4 · mantissa · 2 ^ (shift - 1078)`.
  let shift := if biased = 0 then 2 else biased + 1
  let scale := if 1078 ≤ shift then Nat.pow 2 (shift - 1078) else 1
  let below := if fraction = 0 ∧ 1 < biased then 1 else 2
  { lower := (4 * mantissa - below) * scale
    value := 4 * mantissa * scale
    upper := (4 * mantissa + 2) * scale
    denominator := if 1078 ≤ shift then 1 else Nat.pow 2 (1078 - shift)
    closed := mantissa % 2 = 0 }

namespace Span

/-- Whether `n · 10 ^ k` lies in the interval. -/
def holds (s : Span) (n : Nat) (k : Int) : Bool :=
  let point := n * tenTo k * s.denominator
  let unit := tenTo (-k)
  let (low, high) := (s.lower * unit, s.upper * unit)
  if s.closed then low ≤ point && point ≤ high else low < point && point < high

/-- The greatest `n` with `n · 10 ^ k` not above the value. -/
def floorAt (s : Span) (k : Int) : Nat :=
  s.value * tenTo (-k) / (s.denominator * tenTo k)

/-- Twice the remainder that `floorAt` leaves, compared with one unit of the grid. -/
def compareHalf (s : Span) (k : Int) : Ordering :=
  let unit := s.denominator * tenTo k
  compare (2 * (s.value * tenTo (-k) % unit)) unit

/-- The position of the leading digit: the least `e` with the value below `10 ^ (e + 1)`. -/
def magnitude (s : Span) : Int :=
  match (List.range 700).find? fun (i : Nat) => s.floorAt ((i : Int) - 350 + 1) == 0 with
  | some i => (i : Int) - 350
  | none => 350

/-- The point of one grid that stands for the value, if the grid has one in the interval. -/
def pick? (s : Span) (k : Int) : Option Scaled :=
  let n := s.floorAt k
  match s.holds n k, s.holds (n + 1) k with
  | true, false => some ⟨n, k⟩
  | false, true => some ⟨n + 1, k⟩
  | false, false => none
  | true, true =>
    match s.compareHalf k with
    | .lt => some ⟨n, k⟩
    | .gt => some ⟨n + 1, k⟩
    | .eq => some ⟨if n % 2 = 0 then n else n + 1, k⟩

/-- The shortest decimal inside the interval. -/
def shortest (s : Span) : Scaled :=
  let top := s.magnitude
  match (List.range 17).findSome? fun (i : Nat) => s.pick? (top - i) with
  | some found => found
  | none => ⟨s.floorAt (top - 16), top - 16⟩

end Span

/-- A decimal without the zeros that end its digits, given a bound on their number. -/
def Scaled.trim : Nat → Scaled → Scaled
  | 0, d => d
  | n + 1, d => if d.digits % 10 = 0 then trim n ⟨d.digits / 10, d.exponent + 1⟩ else d

/-- The shortest decimal of a finite positive double. -/
def shortest (x : Float) : Scaled :=
  (Span.ofBits (x.toBits.toNat % signBit)).shortest.trim 20

end Relay.Decimal
