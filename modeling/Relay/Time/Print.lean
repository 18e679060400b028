import Relay.Time.Instant

/-!
# Instants as text

The date and time of RFC 3339 in UTC, with the fewest of 0, 3, 6 or 9 digits of a second that are
exact. Years beyond four digits carry a sign, and a leap second is second 60.
-/

namespace Relay.Time

/-- A number with leading zeros up to a width. -/
def padded (width n : Nat) : List Char :=
  let digits := Nat.toDigits 10 n
  List.replicate (width - digits.length) '0' ++ digits

/-- A year: four digits, or a sign and at least four digits. -/
def printYear (year : Int) : List Char :=
  if 0 ≤ year ∧ year ≤ 9999 then padded 4 year.toNat
  else (if year < 0 then '-' else '+') :: padded 4 year.natAbs

/-- The part of a second after the point. -/
def printFraction (nanos : Nat) : List Char :=
  if nanos = 0 then []
  else if nanos % 1000000 = 0 then '.' :: padded 3 (nanos / 1000000)
  else if nanos % 1000 = 0 then '.' :: padded 6 (nanos / 1000)
  else '.' :: padded 9 nanos

/-- A date. -/
def Date.print (d : Date) : List Char :=
  printYear d.year ++ '-' :: padded 2 d.month ++ '-' :: padded 2 d.day

/-- A time of day, from the second of the day and the nanoseconds, leap second included. -/
def printTime (second nanos : Nat) : List Char :=
  let leap := nanos / 1000000000
  padded 2 (second / 3600) ++ ':' :: padded 2 (second / 60 % 60) ++
    ':' :: padded 2 (second % 60 + leap) ++ printFraction (nanos % 1000000000)

/-- An instant. -/
def Instant.print (t : Instant) : List Char :=
  (Date.ofDays t.days).print ++ 'T' :: printTime t.secondOfDay t.nanos ++ ['Z']

end Relay.Time
