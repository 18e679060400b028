import Relay.Proofs.Calendar
import Relay.Time.Print
import Relay.Time.Read

/-!
# Timestamps that are read back

Whatever is printed for an instant is read: years of any sign and width, fractions of every length,
leap seconds, and the ends of the range. It is read as that instant, unless its nanoseconds go beyond
one second where no leap second is: they are printed as the next second, and read as such. Each part
of a printed instant is read up to where the next part begins.
-/

namespace Relay.Time

open Relay.Text (skipBlank isBlank)
open Read (number digits numberLimit)

/-! ## Digits -/

/-- A text in which no digit comes next. -/
def Halts (rest : List Char) : Prop := ∀ c ∈ rest.head?, c.isDigit = false

/-- Where no digit comes next, none is taken. -/
theorem takeWhile_of_halts {rest : List Char} (halts : Halts rest) :
    rest.takeWhile Char.isDigit = [] := by
  cases rest with
  | nil => rfl
  | cons c rest => exact List.takeWhile_cons_of_neg (by rw [halts c rfl]; exact Bool.false_ne_true)

/-- Nor is any if only so many characters are looked at. -/
theorem Halts.take {rest : List Char} (halts : Halts rest) (n : Nat) : Halts (rest.take n) := by
  cases rest with
  | nil => simpa using halts
  | cons c rest =>
    cases n with
    | zero => exact nofun
    | succ n => exact halts

/-- Of digits all are taken. -/
theorem takeWhile_of_all {ds : List Char} (all : ∀ c ∈ ds, c.isDigit = true) :
    ds.takeWhile Char.isDigit = ds := by
  have whole : (ds ++ []).takeWhile Char.isDigit = ds ++ [] :=
    List.takeWhile_append_of_pos all
  rwa [List.append_nil] at whole

/-- Digits are read as far as the limit allows or as there are any. -/
theorem digits_append {limit : Option Nat} {ds : List Char} (rest : List Char)
    (nonempty : ds ≠ []) (all : ∀ c ∈ ds, c.isDigit = true) (small : number ds < numberLimit)
    (stops : limit = some ds.length ∨ (∀ w ∈ limit, ds.length ≤ w) ∧ Halts rest) :
    digits limit (ds ++ rest) = .ok (number ds, rest) := by
  have read : ∀ found, found = ds → (if found.isEmpty then
      Except.error (if (ds ++ rest).isEmpty then Problem.tooShort else .invalid)
      else if number found < numberLimit then .ok (number found, (ds ++ rest).drop found.length)
      else .error .outOfRange) = .ok (number ds, rest) := by
    rintro _ rfl
    rw [if_neg (by simpa using nonempty), if_pos small, List.drop_left]
  cases limit with
  | none =>
    obtain ⟨⟨⟩⟩ | ⟨-, halts⟩ := stops
    refine read _ ?_
    rw [List.takeWhile_append_of_pos all, takeWhile_of_halts halts, List.append_nil]
  | some w =>
    refine read _ ?_
    change ((ds ++ rest).take w).takeWhile Char.isDigit = ds
    obtain same | ⟨short, halts⟩ := stops
    · rw [Option.some.inj same, List.take_left]
      exact takeWhile_of_all all
    · rw [List.take_append, List.take_of_length_le (short w rfl), List.takeWhile_append_of_pos all,
        takeWhile_of_halts (halts.take _), List.append_nil]

/-- Leading zeros are of no value. -/
theorem number_replicate_zero (k : Nat) (ds : List Char) :
    number (List.replicate k '0' ++ ds) = number ds := by
  induction k with
  | zero => rfl
  | succ k ih => exact ih

/-- A padded number has the value that it was padded from. -/
theorem number_padded (width n : Nat) : number (padded width n) = n := by
  rw [padded, number_replicate_zero]
  exact Nat.ofDigitChars_toDigits (by decide) (by decide)

/-- A padded number consists of digits. -/
theorem isDigit_of_mem_padded {width n : Nat} {c : Char} (h : c ∈ padded width n) :
    c.isDigit = true := by
  rcases List.mem_append.mp h with zero | digit
  · rw [(List.mem_replicate.mp zero).2]
    rfl
  · exact Nat.isDigit_of_mem_toDigits (by decide) (by decide) digit

/-- It has at least one. -/
theorem padded_ne_nil (width n : Nat) : padded width n ≠ [] :=
  List.append_ne_nil_of_right_ne_nil _ Nat.toDigits_ne_nil

/-- A number of nine digits is below the limit of what is read. -/
theorem lt_numberLimit {n : Nat} (h : n < 1000000000) : n < numberLimit :=
  Nat.lt_trans h (by decide)

/-- A number that fits its width is padded to it. -/
theorem length_padded {width n : Nat} (positive : 0 < width) (h : n < 10 ^ width) :
    (padded width n).length = width := by
  have fits := (Nat.length_toDigits_le_iff (by decide) positive).mpr h
  rw [padded, List.length_append, List.length_replicate]
  omega

/-- A number of full width is read, whatever comes after it. -/
theorem digits_padded {width n : Nat} (positive : 0 < width) (h : n < 10 ^ width)
    (small : n < numberLimit) (rest : List Char) :
    digits (some width) (padded width n ++ rest) = .ok (n, rest) := by
  have full : some width = some (padded width n).length := by rw [length_padded positive h]
  have read := digits_append rest (padded_ne_nil width n) (fun _ => isDigit_of_mem_padded)
    (by rwa [number_padded]) (.inl full)
  rwa [number_padded] at read

/-! ## Parts -/

/-- A digit is not blank. -/
theorem not_isBlank_of_isDigit {c : Char} (digit : c.isDigit = true) : isBlank c = false := by
  rw [Char.isDigit, Bool.and_eq_true, decide_eq_true_eq, decide_eq_true_eq] at digit
  have least : 48 ≤ c.toNat := digit.1
  have greatest : c.toNat ≤ 57 := digit.2
  simp [isBlank]
  omega

/-- Before digits nothing is skipped. -/
theorem skipBlank_of_digits {ds : List Char} (nonempty : ds ≠ [])
    (all : ∀ c ∈ ds, c.isDigit = true) (rest : List Char) :
    skipBlank (ds ++ rest) = ds ++ rest := by
  cases ds with
  | nil => exact absurd rfl nonempty
  | cons d ds =>
    refine List.dropWhile_cons_of_neg ?_
    rw [not_isBlank_of_isDigit (all d List.mem_cons_self)]
    exact Bool.false_ne_true

/-- Nor before a padded number. -/
theorem skipBlank_padded (width n : Nat) (rest : List Char) :
    skipBlank (padded width n ++ rest) = padded width n ++ rest :=
  skipBlank_of_digits (padded_ne_nil width n) (fun _ => isDigit_of_mem_padded) rest

/-- A number of two digits within its bounds is read. -/
theorem field_padded {low high n : Nat} (least : low ≤ n) (greatest : n ≤ high) (few : n < 100)
    (rest : List Char) : Read.field low high (padded 2 n ++ rest) = .ok (n, rest) := by
  have read := digits_padded (Nat.succ_pos 1) few (Nat.lt_trans few (by decide)) rest
  simp only [Read.field, skipBlank_padded, read, bind, Except.bind, pure, Except.pure]
  rw [if_pos ⟨least, greatest⟩]

/-- A mark that is not blank is read. -/
theorem mark_cons {m : Char} (visible : isBlank m = false) (rest : List Char) :
    Read.mark m (m :: rest) = .ok rest := by
  have kept : skipBlank (m :: rest) = m :: rest :=
    List.dropWhile_cons_of_neg (by rw [visible]; exact Bool.false_ne_true)
  simp only [Read.mark, kept, if_true]

/-- A year of six digits is within the bounds of what is read. -/
theorem within_yearLimit {y : Int} (few : y.natAbs < 1000000) :
    -Read.yearLimit ≤ y ∧ y < Read.yearLimit := by
  unfold Read.yearLimit
  omega

/-- A sign is followed by all the digits that there are, none by four of them. -/
theorem year_of_minus {cs rest : List Char} {n : Nat}
    (read : digits none cs = pure (n, rest)) (few : n < 1000000) :
    Read.year ('-' :: cs) = .ok (-(n : Int), rest) := by
  have within := within_yearLimit (y := -(n : Int)) (by omega)
  have kept : skipBlank ('-' :: cs) = '-' :: cs := rfl
  unfold Read.year
  rw [kept]
  simp only [read, pure_bind]
  exact if_pos within

@[inherit_doc year_of_minus]
theorem year_of_plus {cs rest : List Char} {n : Nat}
    (read : digits none cs = pure (n, rest)) (few : n < 1000000) :
    Read.year ('+' :: cs) = .ok ((n : Int), rest) := by
  have within := within_yearLimit (y := (n : Int)) (by rwa [Int.natAbs_natCast])
  have kept : skipBlank ('+' :: cs) = '+' :: cs := rfl
  unfold Read.year
  rw [kept]
  simp only [read, pure_bind]
  exact if_pos within

@[inherit_doc year_of_minus]
theorem year_of_digits {ds rest : List Char} {n : Nat} (nonempty : ds ≠ [])
    (all : ∀ c ∈ ds, c.isDigit = true) (read : digits (some 4) (ds ++ rest) = pure (n, rest))
    (few : n < 1000000) : Read.year (ds ++ rest) = .ok ((n : Int), rest) := by
  have within := within_yearLimit (y := (n : Int)) (by rwa [Int.natAbs_natCast])
  have unsigned : ∀ c cs, ds ++ rest = c :: cs → c.isDigit = true := by
    intro c cs same
    cases ds with
    | nil => exact absurd rfl nonempty
    | cons d ds =>
      obtain ⟨rfl, -⟩ := List.cons.inj same
      exact all d List.mem_cons_self
  unfold Read.year
  rw [skipBlank_of_digits nonempty all]
  split
  · next same => cases unsigned _ _ same
  · next same => cases unsigned _ _ same
  · simp only [read, pure_bind]
    exact if_pos within

/-- A year is read up to the mark after it. -/
theorem year_printYear {y : Int} (few : y.natAbs < 1000000) {rest : List Char}
    (halts : Halts rest) : Read.year (printYear y ++ rest) = .ok (y, rest) := by
  by_cases plain : 0 ≤ y ∧ y ≤ 9999
  · have whole : ((y.toNat : Nat) : Int) = y := Int.toNat_of_nonneg plain.1
    have read := year_of_digits (padded_ne_nil 4 y.toNat) (fun _ => isDigit_of_mem_padded)
      (digits_padded (by decide) (by omega) (lt_numberLimit (by omega)) rest) (by omega)
    rw [printYear, if_pos plain, read, whole]
  · have small : number (padded 4 y.natAbs) < numberLimit := by
      rw [number_padded]
      exact lt_numberLimit (by omega)
    have read : digits none (padded 4 y.natAbs ++ rest) = _ :=
      digits_append rest (padded_ne_nil _ _) (fun _ => isDigit_of_mem_padded) small
        (.inr ⟨nofun, halts⟩)
    rw [number_padded] at read
    rw [printYear, if_neg plain]
    by_cases negative : y < 0
    · have whole : -((y.natAbs : Nat) : Int) = y := by omega
      rw [if_pos negative, List.cons_append, year_of_minus read few, whole]
    · have whole : ((y.natAbs : Nat) : Int) = y := by omega
      rw [if_neg negative, List.cons_append, year_of_plus read few, whole]

/-- Digits of a fraction count from the first of nine places on. -/
theorem fraction_padded {width n : Nat} (positive : 0 < width) (few : width ≤ 9)
    (h : n < 10 ^ width) {rest : List Char} (halts : Halts rest) :
    Read.fraction ('.' :: padded width n ++ rest) = .ok (n * 10 ^ (9 - width), rest) := by
  have long := length_padded positive h
  have small : n < numberLimit :=
    Nat.lt_of_lt_of_le h (Nat.le_trans (Nat.pow_le_pow_right (by decide) few) (by decide))
  have short : ∀ w ∈ some 9, (padded width n).length ≤ w := by
    intro w bound
    rw [← Option.some.inj bound, long]
    exact few
  have read := digits_append rest (padded_ne_nil width n) (fun _ => isDigit_of_mem_padded)
    (by rwa [number_padded]) (.inr ⟨short, halts⟩)
  rw [number_padded] at read
  have places : (padded width n ++ rest).length - rest.length = width := by
    rw [List.length_append, long, Nat.add_sub_cancel]
  have onward : rest.dropWhile Char.isDigit = rest := by
    have whole : rest.takeWhile Char.isDigit ++ rest.dropWhile Char.isDigit = rest :=
      List.takeWhile_append_dropWhile
    rwa [takeWhile_of_halts halts, List.nil_append] at whole
  simp only [Read.fraction, List.cons_append, read, bind, Except.bind, pure, Except.pure,
    places, onward]
  rfl

/-- The part of a second is read back from the fewest digits that are exact. -/
theorem fraction_printFraction {nanos : Nat} (h : nanos < 1000000000) {rest : List Char}
    (halts : Halts rest) (ends : ∀ cs, rest ≠ '.' :: cs) :
    Read.fraction (printFraction nanos ++ rest) = .ok (nanos, rest) := by
  unfold printFraction
  split
  · next zero =>
    rw [zero]
    unfold Read.fraction
    split
    · next cs same => exact absurd same (ends cs)
    · rfl
  · split
    · next millis =>
      rw [fraction_padded (by decide) (by decide) (by omega) halts]
      exact congrArg (fun n => Except.ok (n, rest)) (by omega)
    · split
      · next micros =>
        rw [fraction_padded (by decide) (by decide) (by omega) halts]
        exact congrArg (fun n => Except.ok (n, rest)) (by omega)
      · rw [fraction_padded (by decide) (by decide) (by omega) halts]
        exact congrArg (fun n => Except.ok (n, rest)) (by omega)

/-! ## The whole -/

/-- The mark of no offset is read as such. -/
theorem offset_utc : Read.offset ['Z'] = .ok (0, []) := by decide

/-- The days and the second of the day make up the seconds of an instant. -/
theorem days_add_secondOfDay (t : Instant) :
    86400 * t.days + (t.secondOfDay : Nat) = t.seconds := by
  unfold Instant.days Instant.secondOfDay
  omega

/-- A day has 86400 seconds. -/
theorem secondOfDay_lt (t : Instant) : t.secondOfDay < 86400 := by
  unfold Instant.secondOfDay
  omega

/-- The days of an instant have at most eight digits. -/
theorem natAbs_days_lt (t : Instant) : t.days.natAbs < 100000000 := by
  have least := t.least_le
  have greatest := t.le_greatest
  unfold leastSecond at least
  unfold greatestSecond at greatest
  unfold Instant.days
  omega

namespace Instant

/-- The nanoseconds go beyond one second only where they are a leap second. -/
def IsRegular (t : Instant) : Prop := t.nanos < 1000000000 ∨ t.seconds % 60 = 59

instance (t : Instant) : Decidable t.IsRegular := inferInstanceAs (Decidable (_ ∨ _))

/-- An instant that is not regular does not lie in the last second of the range, which ends a minute. -/
theorem settled_le {t : Instant} (irregular : ¬ t.IsRegular) : t.seconds + 1 ≤ greatestSecond := by
  have last : greatestSecond % 60 = 59 := by decide
  have bound := t.le_greatest
  unfold IsRegular at irregular
  omega

/-- An instant as it is printed: where no leap second is, nanoseconds beyond one second belong to the
next. -/
def settled (t : Instant) : Instant :=
  if regular : t.IsRegular then t
  else
    ⟨t.seconds + 1, t.nanos - 1000000000, Int.le_add_one t.least_le, settled_le regular,
      Nat.lt_of_le_of_lt (Nat.sub_le ..) t.nanos_lt⟩

/-- A regular instant is printed as it is. -/
theorem settled_of_isRegular {t : Instant} (regular : t.IsRegular) : t.settled = t := dif_pos regular

/-- An instant as it is printed is regular. -/
theorem isRegular_settled (t : Instant) : t.settled.IsRegular := by
  unfold settled
  split
  · assumption
  · have bound := t.nanos_lt
    exact .inl (show t.nanos - 1000000000 < 1000000000 by omega)

/-- Only regular instants stay as they are. -/
theorem settled_eq_iff {t : Instant} : t.settled = t ↔ t.IsRegular :=
  ⟨fun same => same ▸ isRegular_settled t, settled_of_isRegular⟩

/-- A regular instant is made from its seconds and nanoseconds. -/
theorem ofUnix?_eq {t : Instant} (regular : t.IsRegular) : ofUnix? t.seconds t.nanos = some t :=
  dif_pos ⟨t.least_le, t.le_greatest, t.nanos_lt, regular⟩

/-- What is made from seconds and nanoseconds is regular. -/
theorem isRegular_of_ofUnix? {seconds : Int} {nanos : Nat} {t : Instant}
    (made : ofUnix? seconds nanos = some t) : t.IsRegular := by
  unfold ofUnix? at made
  split at made
  · next within =>
    cases made
    exact within.2.2.2
  · cases made

end Instant

/-- The seconds and nanoseconds that the parts of a printed instant stand for. Second 60 is the last
second and one whole second of nanoseconds beyond it. -/
theorem second_split (t : Instant) :
    let second := t.secondOfDay % 60 + t.nanos / 1000000000
    86400 * t.days + (3600 * (t.secondOfDay / 3600) + 60 * (t.secondOfDay / 60 % 60) +
        (if second = 60 then 59 else second) : Nat) = t.settled.seconds ∧
      t.nanos % 1000000000 + (if second = 60 then 1000000000 else 0) = t.settled.nanos := by
  have whole := days_add_secondOfDay t
  have bound := t.nanos_lt
  have minute : (t.seconds % 60).toNat = t.secondOfDay % 60 := by omega
  by_cases regular : t.IsRegular
  · rw [Instant.settled_of_isRegular regular]
    by_cases leap : t.nanos < 1000000000
    · have plain : t.secondOfDay % 60 + t.nanos / 1000000000 ≠ 60 := by omega
      simp only [if_neg plain]
      omega
    · have last : t.seconds % 60 = 59 := regular.resolve_left leap
      have sixty : t.secondOfDay % 60 + t.nanos / 1000000000 = 60 := by omega
      simp only [if_pos sixty]
      omega
  · -- the second after one that is not the last of its minute
    have later : t.settled.seconds = t.seconds + 1 ∧ t.settled.nanos = t.nanos - 1000000000 := by
      rw [Instant.settled, dif_neg regular]
      exact ⟨rfl, rfl⟩
    unfold Instant.IsRegular at regular
    have plain : t.secondOfDay % 60 + t.nanos / 1000000000 ≠ 60 := by omega
    simp only [if_neg plain, later]
    omega

/-- The parts of a printed instant are resolved to it, in whatever second of its minute it lies. -/
theorem resolve_parts (t : Instant) :
    Read.resolve (Date.ofDays t.days) (t.secondOfDay / 3600) (t.secondOfDay / 60 % 60)
      (t.secondOfDay % 60 + t.nanos / 1000000000) (t.nanos % 1000000000) 0 = .ok t.settled := by
  have ⟨seconds, nanos⟩ := second_split t
  have valid : (Date.ofDays t.days).Valid ∧ leastSecond ≤ t.settled.seconds ∧
      t.settled.seconds ≤ greatestSecond :=
    ⟨Date.valid_ofDays _, t.settled.least_le, t.settled.le_greatest⟩
  have near : ¬ 86400 ≤ (0 : Int).natAbs := by decide
  unfold Read.resolve
  simp only [Date.toDays_ofDays, seconds, nanos, Int.sub_zero,
    Instant.ofUnix?_eq (Instant.isRegular_settled t)]
  rw [if_neg (not_not_intro valid), if_neg near]

/-- No digit comes next where another character does. -/
theorem halts_cons {c : Char} (h : c.isDigit = false) (rest : List Char) : Halts (c :: rest) := by
  intro d first
  rwa [← Option.some.inj first]

/-- The letter between date and time is read. -/
theorem separator_T (rest : List Char) : Read.separator ('T' :: rest) = .ok rest := rfl

/-- A month has at most 31 days. -/
theorem daysInMonth_le (year : Int) (month : Nat) : daysInMonth year month ≤ 31 := by
  unfold daysInMonth
  split
  · split <;> decide
  · split <;> decide

/-- Whatever instant is printed, it is read. -/
theorem ofString_print (t : Instant) :
    Instant.ofString (String.ofList t.print) = .ok t.settled := by
  have few := Date.natAbs_year_ofDays_lt (natAbs_days_lt t)
  obtain ⟨month_pos, month_le, day_pos, day_le⟩ := Date.valid_ofDays t.days
  have day_le := Nat.le_trans day_le (daysInMonth_le _ _)
  have hour_le : t.secondOfDay / 3600 ≤ 23 := by
    have := secondOfDay_lt t
    omega
  have minute_le : t.secondOfDay / 60 % 60 ≤ 59 := by omega
  have second_le : t.secondOfDay % 60 + t.nanos / 1000000000 ≤ 60 := by
    have := t.nanos_lt
    have := days_add_secondOfDay t
    omega
  have nanos_lt : t.nanos % 1000000000 < 1000000000 := Nat.mod_lt _ (by decide)
  have dash : ∀ rest, Halts ('-' :: rest) := halts_cons rfl
  have zulu : ∀ cs, ['Z'] ≠ '.' :: cs := nofun
  unfold Instant.ofString Read.instant
  simp only [String.toList_ofList, Instant.print, Date.print, printTime, List.append_assoc,
    List.cons_append, bind, Except.bind, year_printYear few (dash _),
    mark_cons (show isBlank '-' = false from rfl), mark_cons (show isBlank ':' = false from rfl),
    field_padded month_pos month_le (by omega), field_padded day_pos day_le (by omega),
    field_padded (Nat.zero_le _) hour_le (by omega), separator_T,
    field_padded (Nat.zero_le _) minute_le (by omega),
    field_padded (Nat.zero_le _) second_le (by omega),
    fraction_printFraction nanos_lt (halts_cons rfl _) zulu,
    show skipBlank ['Z'] = ['Z'] from rfl, offset_utc]
  exact resolve_parts t

/-! ## Instants that are read are regular -/

/-- Every instant that a reader accepts is regular. -/
def YieldsRegular (read : Except Problem Instant) : Prop := ∀ t, read = .ok t → t.IsRegular

/-- A reader whose last part yields regular instants yields none other. -/
theorem YieldsRegular.bind {α : Type} {x : Except Problem α} {f : α → Except Problem Instant}
    (later : ∀ a, YieldsRegular (f a)) : YieldsRegular (x >>= f) := by
  intro t read
  cases x with
  | error problem => cases read
  | ok a => exact later a t read

/-- A reader that fails yields none. -/
theorem yieldsRegular_error (problem : Problem) : YieldsRegular (.error problem) :=
  fun _ read => nomatch read

/-- The parts of an instant are resolved to a regular one, if to any. -/
theorem yieldsRegular_resolve (date : Date) (hour minute second nanos : Nat) (offset : Int) :
    YieldsRegular (Read.resolve date hour minute second nanos offset) := by
  unfold Read.resolve
  generalize (if second = 60 then 59 else second) = last
  generalize (if second = 60 then 1000000000 else 0) = excess
  simp only []
  split
  · exact yieldsRegular_error _
  split
  · exact yieldsRegular_error _
  split
  · next made =>
    rintro _ ⟨⟩
    exact Instant.isRegular_of_ofUnix? made
  · exact yieldsRegular_error _

/-- The last part of reading makes the instant, so it is regular whatever was read before. -/
theorem yieldsRegular_instant (cs : List Char) : YieldsRegular (Read.instant cs) := by
  unfold Read.instant
  -- twelve parts and marks up to the fraction, and then the offset
  iterate 12 refine .bind fun _ => ?_
  refine .bind fun (_, rest) => ?_
  change YieldsRegular (if (skipBlank rest).isEmpty then _ else _)
  split
  · exact yieldsRegular_resolve _ _ _ _ _ _
  · exact yieldsRegular_error _

/-- What is read is regular. -/
theorem isRegular_of_ofString {s : String} {t : Instant} (read : Instant.ofString s = .ok t) :
    t.IsRegular :=
  yieldsRegular_instant _ t read

/-! ## The characters of instants -/

/-- The characters that instants are written with: digits and six others. -/
def Plain (c : Char) : Prop := c.isDigit = true ∨ c ∈ ['-', '+', ':', '.', 'T', 'Z']

/-- A padded number is plain. -/
theorem plain_of_mem_padded {width n : Nat} : ∀ c ∈ padded width n, Plain c :=
  fun _ h => .inl (isDigit_of_mem_padded h)

/-- So is a printed year, with its sign. -/
theorem plain_of_mem_printYear (y : Int) : ∀ c ∈ printYear y, Plain c := by
  unfold printYear
  split
  · exact plain_of_mem_padded
  · refine List.forall_mem_cons.mpr ⟨.inr ?_, plain_of_mem_padded⟩
    split <;> decide

/-- So is a printed fraction, with its point. -/
theorem plain_of_mem_printFraction (nanos : Nat) : ∀ c ∈ printFraction nanos, Plain c := by
  have point : Plain '.' := .inr (by decide)
  unfold printFraction
  split
  · exact nofun
  · split
    · exact List.forall_mem_cons.mpr ⟨point, plain_of_mem_padded⟩
    · split
      · exact List.forall_mem_cons.mpr ⟨point, plain_of_mem_padded⟩
      · exact List.forall_mem_cons.mpr ⟨point, plain_of_mem_padded⟩

/-- So is a printed instant. -/
theorem plain_of_mem_print (t : Instant) : ∀ c ∈ t.print, Plain c := by
  have dash : Plain '-' := .inr (by decide)
  have colon : Plain ':' := .inr (by decide)
  have date : Plain 'T' := .inr (by decide)
  have zulu : Plain 'Z' := .inr (by decide)
  unfold Instant.print Date.print printTime
  simp only [List.forall_mem_append, List.forall_mem_cons]
  exact ⟨⟨⟨⟨plain_of_mem_printYear _, dash, plain_of_mem_padded⟩, dash, plain_of_mem_padded⟩, date,
    ⟨⟨plain_of_mem_padded, colon, plain_of_mem_padded⟩, colon, plain_of_mem_padded⟩,
    plain_of_mem_printFraction _⟩, zulu, nofun⟩

end Relay.Time
