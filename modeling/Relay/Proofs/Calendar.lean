import Relay.Time.Instant
import Mathlib.Tactic.IntervalCases

/-!
# Days and dates

The number of a day and its date determine each other: the date that is computed from a number is one
that the calendar has, and its number is the one it was computed from. Both rest on the parts of a day
number, which count years, and days within a year, from 1 March of year 0.
-/

namespace Relay.Time.Date

/-- A day number taken apart: cycles of 400 years, centuries, leap cycles, years and days of a year that
begins in March. Only a leap year has a day 365, and the leap years are those before which a leap cycle
or, at the end of a century, a cycle ends. -/
structure Parts (n cycle : Int) (century quad single inYear : Nat) : Prop where
  sum : n + epoch = 146097 * cycle + 36524 * century + 1461 * quad + 365 * single + inYear
  century_le : century ≤ 3
  quad_le : quad ≤ 24
  single_le : single ≤ 3
  inYear_le : inYear ≤ 365
  leap : inYear = 365 → single = 3 ∧ (quad = 24 → century = 3)

/-- The date that begins so many days after 1 March of a year. -/
def ofMarch (year : Int) (inYear : Nat) : Date :=
  let month := (5 * inYear + 2) / 153
  { year := if month < 10 then year else year + 1
    month := if month < 10 then month + 3 else month - 9
    day := inYear - monthStart month + 1 }

/-- Every day number has parts, and its date is read off them. -/
theorem parts_ofDays (n : Int) :
    ∃ cycle century quad single inYear, Parts n cycle century quad single inYear ∧
      ofDays n = ofMarch (400 * cycle + (100 * century + 4 * quad + single : Nat)) inYear := by
  let cycle := (n + epoch) / 146097
  let inCycle := ((n + epoch) % 146097).toNat
  let century := min (inCycle / 36524) 3
  let inCentury := inCycle - 36524 * century
  let quad := inCentury / 1461
  let inQuad := inCentury % 1461
  let single := min (inQuad / 365) 3
  refine ⟨cycle, century, quad, single, inQuad - 365 * single, ?_, rfl⟩
  constructor <;> omega

/-- The month of a day of a year, counted from March, and where it begins and ends. -/
theorem month_bounds {inYear : Nat} (h : inYear ≤ 365) :
    (5 * inYear + 2) / 153 ≤ 11 ∧ monthStart ((5 * inYear + 2) / 153) ≤ inYear ∧
      inYear < monthStart ((5 * inYear + 2) / 153 + 1) := by
  unfold monthStart
  omega

theorem toDays_ofMarch (year : Int) {inYear : Nat} (h : inYear ≤ 365) :
    (ofMarch year inYear).toDays = 365 * year + year / 4 - year / 100 + year / 400 + inYear - epoch := by
  obtain ⟨few, starts, -⟩ := month_bounds h
  unfold ofMarch toDays
  generalize (5 * inYear + 2) / 153 = month at *
  have back : ((if month < 10 then month + 3 else month - 9) + 9) % 12 = month := by
    split <;> omega
  have same : (if (if month < 10 then month + 3 else month - 9) ≤ 2 then
      (if month < 10 then year else year + 1) - 1 else if month < 10 then year else year + 1) = year := by
    split <;> split <;> omega
  simp only [back, same]
  omega

theorem toDays_ofDays (n : Int) : (ofDays n).toDays = n := by
  obtain ⟨cycle, century, quad, single, inYear, parts, date⟩ := parts_ofDays n
  obtain ⟨sum, century_le, quad_le, single_le, inYear_le, -⟩ := parts
  rw [date, toDays_ofMarch _ inYear_le]
  omega

/-- February has a day 29 in the years whose March year has a day 365. -/
theorem isLeap_of_parts {n cycle : Int} {century quad single : Nat}
    (parts : Parts n cycle century quad single 365) :
    isLeap (400 * cycle + (100 * century + 4 * quad + single : Nat) + 1) = true := by
  obtain ⟨-, -, quad_le, -, -, leap⟩ := parts
  obtain ⟨last, ends⟩ := leap rfl
  subst last
  rw [isLeap, decide_eq_true_eq]
  omega

/-- The length of every March-based month but February. -/
theorem daysInMonth_of_march (year : Int) {month : Nat} (h : month ≤ 10) :
    daysInMonth year (if month < 10 then month + 3 else month - 9)
      = monthStart (month + 1) - monthStart month := by
  interval_cases month <;> rfl

theorem valid_ofMarch {year : Int} {inYear : Nat} (h : inYear ≤ 365)
    (leap : inYear = 365 → isLeap (year + 1) = true) : (ofMarch year inYear).Valid := by
  obtain ⟨few, starts, ends⟩ := month_bounds h
  have month : 1 ≤ (ofMarch year inYear).month ∧ (ofMarch year inYear).month ≤ 12 := by
    unfold ofMarch
    simp only []
    split <;> omega
  refine ⟨month.1, month.2, Nat.le_add_left _ _, ?_⟩
  -- February is last in a year that starts with March, so only it has a length that depends on the year
  by_cases february : (5 * inYear + 2) / 153 = 11
  · rw [february] at starts
    have first : monthStart 11 = 337 := rfl
    have date : ofMarch year inYear = ⟨year + 1, 2, inYear - monthStart 11 + 1⟩ := by
      unfold ofMarch
      simp only [february]
      rfl
    rw [date]
    change inYear - monthStart 11 + 1 ≤ if isLeap (year + 1) = true then 29 else 28
    split
    · omega
    · next common =>
      have short : inYear ≠ 365 := fun last => common (leap last)
      omega
  · unfold ofMarch
    simp only [daysInMonth_of_march _ (show (5 * inYear + 2) / 153 ≤ 10 by omega)]
    omega

/-- The date of a day number is one that the calendar has. -/
theorem valid_ofDays (n : Int) : (ofDays n).Valid := by
  obtain ⟨cycle, century, quad, single, inYear, parts, date⟩ := parts_ofDays n
  rw [date]
  refine valid_ofMarch parts.inYear_le fun last => ?_
  subst last
  exact isLeap_of_parts parts

/-- Years of days that are fewer than a hundred million away have at most six digits. -/
theorem natAbs_year_ofDays_lt {n : Int} (h : n.natAbs < 100000000) :
    (ofDays n).year.natAbs < 1000000 := by
  obtain ⟨cycle, century, quad, single, inYear, ⟨sum, century_le, quad_le, single_le, inYear_le, -⟩,
    date⟩ :=
    parts_ofDays n
  unfold epoch at sum
  have few : -700 ≤ cycle ∧ cycle ≤ 700 := by omega
  rw [date]
  unfold ofMarch
  simp only []
  split <;> omega

end Relay.Time.Date
