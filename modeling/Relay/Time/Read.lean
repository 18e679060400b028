import Relay.Time.Instant
import Relay.Text.Blank

/-!
# Reading dates and times

Reads the date and time of RFC 3339 with some freedom: blanks may stand before each number and each
mark, leading zeros may be missing, a year may have a sign and more digits, a space or a small
letter may stand for `T`, and the offset may be `Z`, `UTC` or hours and minutes. Each number is
checked against its own range where it stands; whether the day exists is known only at the end.
-/

namespace Relay.Time

open Relay.Text (skipBlank isBlank)

/-- Why a text is no date and time. -/
inductive Problem where
  | tooShort
  | invalid
  | outOfRange
  | trailing
  /-- The date and time has no counterpart in UTC. -/
  | impossible
  deriving DecidableEq, Repr

/-- The wording of a problem. -/
def Problem.message : Problem → String
  | tooShort => "premature end of input"
  | invalid => "input contains invalid characters"
  | outOfRange => "input is out of range"
  | trailing => "trailing input"
  | impossible => "no possible date and time matching input"

namespace Read

/-- The number that digits stand for. -/
def number (digits : List Char) : Nat :=
  digits.foldl (fun n d => 10 * n + (d.toNat - '0'.toNat)) 0

/-- The first number that 63 bits do not hold. -/
def numberLimit : Nat := 0x8000000000000000

/-- The first year that 32 bits with a sign do not hold. -/
def yearLimit : Int := 0x80000000

/-- A number of at least one and, with a limit, at most so many digits; it must fit 63 bits. -/
def digits (limit : Option Nat) (cs : List Char) : Except Problem (Nat × List Char) :=
  let found := match limit with
    | some n => (cs.take n).takeWhile Char.isDigit
    | none => cs.takeWhile Char.isDigit
  if found.isEmpty then .error (if cs.isEmpty then .tooShort else .invalid)
  else if number found < numberLimit then .ok (number found, cs.drop found.length)
  else .error .outOfRange

/-- A number of one or two digits within bounds, after blanks. -/
def field (low high : Nat) (cs : List Char) : Except Problem (Nat × List Char) := do
  let (n, rest) ← digits (some 2) (skipBlank cs)
  if low ≤ n ∧ n ≤ high then pure (n, rest) else throw .outOfRange

/-- A mark between numbers, after blanks. -/
def mark (m : Char) (cs : List Char) : Except Problem (List Char) :=
  match skipBlank cs with
  | [] => .error .tooShort
  | c :: rest => if c = m then .ok rest else .error .invalid

/-- A year of 32 bits, after blanks; without a sign it has at most four digits. -/
def year (cs : List Char) : Except Problem (Int × List Char) := do
  let (n, rest) ← match skipBlank cs with
    | '-' :: cs => do let (n, rest) ← digits none cs; pure (-(n : Int), rest)
    | '+' :: cs => do let (n, rest) ← digits none cs; pure ((n : Int), rest)
    | cs => do let (n, rest) ← digits (some 4) cs; pure ((n : Int), rest)
  if -yearLimit ≤ n ∧ n < yearLimit then pure (n, rest) else throw .outOfRange

/-- The mark between date and time. -/
def separator : List Char → Except Problem (List Char)
  | [] => .error .tooShort
  | c :: rest => if c = 't' ∨ c = 'T' ∨ c = ' ' then .ok rest else .error .invalid

/-- Nanoseconds after a point, if there is one; digits beyond the ninth are dropped. -/
def fraction : List Char → Except Problem (Nat × List Char)
  | '.' :: cs => do
    let (n, rest) ← digits (some 9) cs
    let places := cs.length - rest.length
    pure (n * Nat.pow 10 (9 - places), rest.dropWhile Char.isDigit)
  | cs => pure (0, cs)

/-- Two digits of an offset; the first may be bounded. -/
def pairOf (tens : Char) : List Char → Except Problem (Nat × List Char)
  | [] => .error .tooShort
  | [c] => .error (if c.utf8Size < 2 then .tooShort else .invalid)
  | a :: b :: rest =>
    if ¬ (a.isDigit ∧ b.isDigit) then .error .invalid
    else if tens < a then .error .outOfRange
    else .ok (number [a, b], rest)

/-- Hours and minutes of an offset, in seconds. -/
def offsetSize (cs : List Char) : Except Problem (Nat × List Char) := do
  let (hours, rest) ← pairOf '9' cs
  let (minutes, rest) ← pairOf '5' (rest.dropWhile fun c => c = ':' || isBlank c)
  pure (3600 * hours + 60 * minutes, rest)

/-- The distance from UTC in seconds. -/
def offset (cs : List Char) : Except Problem (Int × List Char) :=
  match cs with
  | [] => .error .tooShort
  | sign :: rest =>
    if (cs.take 3).map Char.toUpper = ['U', 'T', 'C'] then .ok (0, cs.drop 3)
    else if sign = 'Z' ∨ sign = 'z' then .ok (0, rest)
    else if sign = '+' then do let (n, rest) ← offsetSize rest; pure ((n : Int), rest)
    else if sign = '-' ∨ sign = '\u2212' then do
      let (n, rest) ← offsetSize rest
      pure (-(n : Int), rest)
    else .error .invalid

/-- The instant of a local date and time at a distance from UTC. Second 60 is a leap second. -/
def resolve (date : Date) (hour minute second nanos : Nat) (offset : Int) :
    Except Problem Instant :=
  let lastSecond := if second = 60 then 59 else second
  let excess := if second = 60 then 1000000000 else 0
  let seconds := 86400 * date.toDays + (3600 * hour + 60 * minute + lastSecond : Nat)
  if ¬ (date.Valid ∧ leastSecond ≤ seconds ∧ seconds ≤ greatestSecond) then .error .outOfRange
  else if 86400 ≤ offset.natAbs then .error .outOfRange
  else
    match Instant.ofUnix? (seconds - offset) (nanos + excess) with
    | some t => .ok t
    | none => .error .impossible

/-- A date and time. -/
def instant (cs : List Char) : Except Problem Instant := do
  let (year, cs) ← year cs
  let cs ← mark '-' cs
  let (month, cs) ← field 1 12 cs
  let cs ← mark '-' cs
  let (day, cs) ← field 1 31 cs
  let cs ← separator cs
  let (hour, cs) ← field 0 23 cs
  let cs ← mark ':' cs
  let (minute, cs) ← field 0 59 cs
  let cs ← mark ':' cs
  let (second, cs) ← field 0 60 cs
  let (nanos, cs) ← fraction cs
  let (offset, cs) ← offset (skipBlank cs)
  if (skipBlank cs).isEmpty then resolve ⟨year, month, day⟩ hour minute second nanos offset
  else throw .trailing

end Read

/-- Reads a date and time. -/
def Instant.ofString (s : String) : Except Problem Instant := Read.instant s.toList

end Relay.Time
