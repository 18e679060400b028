import Relay.Time.Calendar

/-!
# Instants

A point in time: seconds since the start of 1970 in UTC, and nanoseconds within the second. The
nanoseconds may go beyond one second: those of the last second of a minute are then a leap second.
They may do so in any other second too, but no such instant comes from a number of seconds or from a
text. Instants lie in the years -262143 to 262142.
-/

namespace Relay.Time

/-- The first and the last second that instants reach. -/
def leastSecond : Int := -8334601228800
@[inherit_doc leastSecond] def greatestSecond : Int := 8210266876799

/-- A point in time. -/
structure Instant where
  seconds : Int
  nanos : Nat
  least_le : leastSecond ≤ seconds
  le_greatest : seconds ≤ greatestSecond
  /-- One second, and up to one more. -/
  nanos_lt : nanos < 2000000000
  deriving DecidableEq

namespace Instant

/-- The instant at a number of seconds and nanoseconds since the start of 1970, if there is one. Only
the last second of a minute may be followed by a leap second. -/
def ofUnix? (seconds : Int) (nanos : Nat) : Option Instant :=
  if h : leastSecond ≤ seconds ∧ seconds ≤ greatestSecond ∧ nanos < 2000000000 ∧
      (nanos < 1000000000 ∨ seconds % 60 = 59) then
    some ⟨seconds, nanos, h.1, h.2.1, h.2.2.1⟩
  else none

/-- The day of an instant, counted from 1 January 1970. -/
def days (t : Instant) : Int := t.seconds / 86400

/-- The second within the day of an instant. -/
def secondOfDay (t : Instant) : Nat := (t.seconds % 86400).toNat

end Instant

/-- The bounds of instants are those of whole years. -/
theorem bounds_eq :
    leastSecond = 86400 * (Date.mk (-262143) 1 1).toDays ∧
      greatestSecond = 86400 * (Date.mk 262142 12 31).toDays + 86399 := by
  decide

end Relay.Time
