/-!
# The civil calendar

Days are counted from 1 January 1970, in the Gregorian calendar extended in both directions. Inside,
a year begins in March, so that the leap day is its last day, and years are grouped into centuries
and cycles of 400 years, which all have the same number of days.
-/

namespace Relay.Time

/-- A day of the civil calendar. -/
structure Date where
  year : Int
  month : Nat
  day : Nat
  deriving DecidableEq, Repr

/-- Whether a year has a leap day. -/
def isLeap (year : Int) : Bool := year % 4 = 0 ∧ (year % 100 ≠ 0 ∨ year % 400 = 0)

/-- The number of days of a month. -/
def daysInMonth (year : Int) (month : Nat) : Nat :=
  if month = 2 then if isLeap year then 29 else 28
  else if month = 4 ∨ month = 6 ∨ month = 9 ∨ month = 11 then 30
  else 31

namespace Date

/-- A day that the calendar has. -/
def Valid (d : Date) : Prop :=
  1 ≤ d.month ∧ d.month ≤ 12 ∧ 1 ≤ d.day ∧ d.day ≤ daysInMonth d.year d.month

instance (d : Date) : Decidable d.Valid := inferInstanceAs (Decidable (_ ∧ _ ∧ _ ∧ _))

/-- The first day of a month counted from March, within its year. -/
def monthStart (month : Nat) : Nat := (153 * month + 2) / 5

/-- The days from 1 March of year 0 to 1 January 1970. -/
def epoch : Int := 719468

/-- The number of a day. -/
def toDays (d : Date) : Int :=
  let year := if d.month ≤ 2 then d.year - 1 else d.year
  let month := (d.month + 9) % 12
  365 * year + year / 4 - year / 100 + year / 400 + monthStart month + d.day - 1 - epoch

/-- The day of a number. -/
def ofDays (n : Int) : Date :=
  let cycle := (n + epoch) / 146097
  let inCycle := ((n + epoch) % 146097).toNat
  let century := min (inCycle / 36524) 3
  let inCentury := inCycle - 36524 * century
  let quad := inCentury / 1461
  let inQuad := inCentury % 1461
  let single := min (inQuad / 365) 3
  let inYear := inQuad - 365 * single
  let month := (5 * inYear + 2) / 153
  let year := 400 * cycle + (100 * century + 4 * quad + single : Nat)
  { year := if month < 10 then year else year + 1
    month := if month < 10 then month + 3 else month - 9
    day := inYear - monthStart month + 1 }

end Date

end Relay.Time
