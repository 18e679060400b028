import Relay.Json.Escape
import Relay.Json.Token

/-!
# How strings may be spelled

JSON has many spellings for one string: a character may stand for itself, be escaped by a mark or by its
number, or by the numbers of a surrogate pair. A string is spelled by `Piece`s, and `characters` tells what
these stand for. What is spelled so is exactly what a reader can skip. It reads the characters, or reports a
mistake if half of a pair stands alone. A string that was written is one of them, so it is read as one token of
the same characters, whatever these are.
-/

namespace Relay.Json

open Relay.Text (hexDigit hexValue?)

/-! ## Single escapes -/

theorem hexValue?_hexDigit {n : Nat} (h : n < 16) : hexValue? (hexDigit n) = some n := by
  have all : ∀ k : Fin 16, hexValue? (hexDigit k) = some k.val := by decide
  exact all ⟨n, h⟩

theorem unit?_control {n : Nat} (h : n < 0x20) :
    Literal.unit? '0' '0' (hexDigit (n / 16)) (hexDigit (n % 16)) = some n := by
  have zero : hexValue? '0' = some 0 := by decide
  have high := hexValue?_hexDigit (show n / 16 < 16 by omega)
  have low := hexValue?_hexDigit (Nat.mod_lt n (by decide))
  simp only [Literal.unit?, zero, high, low, bind, Option.bind, pure]
  congr 1
  omega

/-- An escape of two characters is read as the character it stands for. -/
theorem read_escape {e d : Char} (known : Literal.escaped? e = some d) (before rest : List Char) :
    Literal.read before ('\\' :: e :: rest) = Literal.read (d :: before) rest := by
  have short : e ≠ 'u' := by
    rintro rfl
    cases known
  rw [Literal.read.eq_def]
  simp [short, known]

@[inherit_doc read_escape]
theorem skip_escape {e d : Char} (known : Literal.escaped? e = some d) (rest : List Char) :
    Literal.skip ('\\' :: e :: rest) = Literal.skip rest := by
  have short : e ≠ 'u' := by
    rintro rfl
    cases known
  rw [Literal.skip.eq_def]
  simp [short, known]

theorem unit_control {c : Char} (h : c.toNat < 0x20) :
    Literal.isLow c.toNat = false ∧ Literal.isHigh c.toNat = false := by
  simp [Literal.isLow, Literal.isHigh]
  omega

/-! ## Pieces -/

/-- A character of a string, or half of one, as it is spelled. -/
inductive Piece where
  /-- A character that stands for itself. -/
  | plain (c : Char) (visible : c ≠ '"' ∧ c ≠ '\\' ∧ 0x20 ≤ c.toNat)
  /-- A backslash and a mark that stands for a character. -/
  | mark (m c : Char) (known : Literal.escaped? m = some c)
  /-- A backslash and the four digits of a unit of UTF-16. -/
  | unit (w x y z : Char) (n : Nat) (hex : Literal.unit? w x y z = some n)

namespace Piece

/-- A piece in a text. -/
def spelling : Piece → List Char
  | plain c _ => [c]
  | mark m _ _ => ['\\', m]
  | unit w x y z _ _ => ['\\', 'u', w, x, y, z]

/-- The characters that pieces stand for; there are none where half of a surrogate pair stands alone. -/
def characters : List Piece → Except Mistake (List Char)
  | [] => .ok []
  | plain c _ :: rest => (characters rest).map (c :: ·)
  | mark _ c _ :: rest => (characters rest).map (c :: ·)
  | unit _ _ _ _ n _ :: rest =>
    if Literal.isLow n then .error .loneHalf
    else if Literal.isHigh n then
      match rest with
      | unit _ _ _ _ low _ :: more =>
        if Literal.isLow low then (characters more).map (Literal.pair n low :: ·) else .error .loneHalf
      | _ => .error .unpairedHalf
    else (characters rest).map (Char.ofNat n :: ·)

/-- A string in a text: its pieces between quotation marks. -/
def quoted (ps : List Piece) : List Char := '"' :: (ps.flatMap spelling ++ ['"'])

end Piece

namespace Literal

open Piece (spelling characters)

/-- Strings that are spelled by pieces can be skipped. -/
theorem skip_pieces (ps : List Piece) (rest : List Char) :
    skip (ps.flatMap spelling ++ '"' :: rest) = .ok rest := by
  induction ps with
  | nil =>
    rw [List.flatMap_nil, List.nil_append, skip.eq_def]
    exact if_pos rfl
  | cons p ps ih =>
    rw [List.flatMap_cons, List.append_assoc]
    cases p with
    | plain c visible =>
      obtain ⟨quote, slash, small⟩ := visible
      rw [spelling, List.singleton_append, skip.eq_def]
      simp only [if_neg quote, if_neg slash, if_neg (Nat.not_lt.mpr small)]
      exact ih
    | mark m c known => exact (skip_escape known _).trans ih
    | unit w x y z n hex =>
      simp only [spelling, List.cons_append, List.nil_append]
      rw [skip.eq_def]
      simp [hex, ih]

/-- What comes of a string that is spelled by pieces. -/
def reading (before rest : List Char) (found : Except Mistake (List Char)) :
    Except Mistake (List Char × List Char) :=
  found.map fun cs => (before.reverse ++ cs, rest)

theorem reading_cons (before rest : List Char) (c : Char) (found : Except Mistake (List Char)) :
    reading before rest (found.map (c :: ·)) = reading (c :: before) rest found := by
  cases found with
  | error m => rfl
  | ok cs => simp [reading, Except.map]

theorem not_isLow_of_isHigh {n : Nat} (high : isHigh n = true) : ¬ isLow n = true := by
  simp only [isHigh, isLow, Bool.and_eq_true, decide_eq_true_eq] at high ⊢
  omega

section Units

variable {w x y z : Char} {n : Nat} (hex : unit? w x y z = some n) (before : List Char)
include hex

/-- A unit that is no half of a pair is a character. -/
theorem read_single (whole : ¬ isLow n = true) (single : ¬ isHigh n = true) (rest : List Char) :
    read before ('\\' :: 'u' :: w :: x :: y :: z :: rest) = read (Char.ofNat n :: before) rest := by
  rw [read.eq_def]
  simp [hex, whole, single]

/-- The second half of a pair does not come first. -/
theorem read_low (low : isLow n = true) (rest : List Char) :
    read before ('\\' :: 'u' :: w :: x :: y :: z :: rest) = .error .loneHalf := by
  rw [read.eq_def]
  simp [hex, low]

/-- Two halves of a pair are one character. -/
theorem read_pair (high : isHigh n = true) {w' x' y' z' : Char} {low : Nat}
    (hex' : unit? w' x' y' z' = some low) (fits : isLow low = true) (more : List Char) :
    read before ('\\' :: 'u' :: w :: x :: y :: z :: '\\' :: 'u' :: w' :: x' :: y' :: z' :: more) =
      read (pair n low :: before) more := by
  rw [read.eq_def]
  simp [hex, not_isLow_of_isHigh high, high, hex', fits]

/-- The first half of a pair is not followed by another unit. -/
theorem read_high_unit (high : isHigh n = true) {w' x' y' z' : Char} {low : Nat}
    (hex' : unit? w' x' y' z' = some low) (other : ¬ isLow low = true) (more : List Char) :
    read before ('\\' :: 'u' :: w :: x :: y :: z :: '\\' :: 'u' :: w' :: x' :: y' :: z' :: more) =
      .error .loneHalf := by
  rw [read.eq_def]
  simp [hex, not_isLow_of_isHigh high, high, hex', other]

/-- The first half of a pair does not stand alone. -/
theorem read_high (high : isHigh n = true) {ps : List Piece} (rest : List Char)
    (alone : ∀ w x y z low hex more, ps ≠ .unit w x y z low hex :: more) :
    read before ('\\' :: 'u' :: w :: x :: y :: z :: (ps.flatMap spelling ++ '"' :: rest)) =
      .error .unpairedHalf := by
  have first := not_isLow_of_isHigh high
  rw [read.eq_def]
  cases ps with
  | nil => simp [hex, first, high]
  | cons p ps =>
    rw [List.flatMap_cons, List.append_assoc]
    cases p with
    | plain c visible => simp [spelling, hex, first, high, visible.2.1]
    | mark m c known =>
      have short : m ≠ 'u' := by
        rintro rfl
        cases known
      simp [spelling, hex, first, high, short]
    | unit => exact absurd rfl (alone _ _ _ _ _ _ _)

end Units

/-- Strings that are spelled by pieces are read for the characters that these stand for. -/
theorem read_pieces (ps : List Piece) (rest : List Char) :
    ∀ before, read before (ps.flatMap spelling ++ '"' :: rest) =
      reading before rest (characters ps) := by
  -- the cases are those of what the pieces stand for: two units are one character only as a pair
  fun_induction characters ps with
  | case1 =>
    intro before
    rw [List.flatMap_nil, List.nil_append, read.eq_def]
    simp [reading, Except.map]
  | case2 c visible ps ih =>
    intro before
    obtain ⟨quote, slash, small⟩ := visible
    rw [List.flatMap_cons, List.append_assoc, spelling, List.singleton_append, read.eq_def,
      reading_cons, ← ih]
    simp only [if_neg quote, if_neg slash, if_neg (Nat.not_lt.mpr small)]
  | case3 m c known ps ih =>
    intro before
    rw [List.flatMap_cons, List.append_assoc, reading_cons, ← ih]
    exact read_escape known before _
  | case4 w x y z n hex ps low => exact fun before => read_low hex before low _
  | case5 w x y z n hex first high w' x' y' z' low hex' more fits ih =>
    intro before
    rw [reading_cons, ← ih]
    exact read_pair hex before high hex' fits _
  | case6 w x y z n hex first high w' x' y' z' low hex' more other =>
    exact fun before => read_high_unit hex before high hex' other _
  | case7 w x y z n hex ps first high alone =>
    exact fun before => read_high hex before high rest alone
  | case8 w x y z n hex ps whole single ih =>
    intro before
    rw [reading_cons, ← ih]
    exact read_single hex before whole single _

/-- A character that is written is a piece. -/
theorem exists_piece (c : Char) : ∃ p : Piece, spelling p = escapeChar c ∧
    ∀ ps, characters (p :: ps) = (characters ps).map (c :: ·) := by
  fun_cases escapeChar c with
  | case1 => subst_vars; exact ⟨.mark '"' _ rfl, rfl, fun _ => rfl⟩
  | case2 => subst_vars; exact ⟨.mark '\\' _ rfl, rfl, fun _ => rfl⟩
  | case3 => subst_vars; exact ⟨.mark 'b' _ rfl, rfl, fun _ => rfl⟩
  | case4 => subst_vars; exact ⟨.mark 't' _ rfl, rfl, fun _ => rfl⟩
  | case5 => subst_vars; exact ⟨.mark 'n' _ rfl, rfl, fun _ => rfl⟩
  | case6 => subst_vars; exact ⟨.mark 'f' _ rfl, rfl, fun _ => rfl⟩
  | case7 => subst_vars; exact ⟨.mark 'r' _ rfl, rfl, fun _ => rfl⟩
  | case8 _ _ _ _ _ _ _ control =>
    -- a control is written with four hexadecimal digits, and no such number is half of a pair
    obtain ⟨low, high⟩ := unit_control control
    refine ⟨.unit _ _ _ _ c.toNat (unit?_control control), rfl, fun ps => ?_⟩
    conv => lhs; unfold characters
    simp [low, high]
  | case9 quote slash _ _ _ _ _ plain =>
    exact ⟨.plain c ⟨quote, slash, Nat.not_lt.mp plain⟩, rfl, fun _ => rfl⟩

/-- A string that is written is spelled by pieces that stand for its characters. -/
theorem exists_pieces (cs : List Char) :
    ∃ ps : List Piece, ps.flatMap spelling = cs.flatMap escapeChar ∧ characters ps = .ok cs := by
  induction cs with
  | nil => exact ⟨[], rfl, rfl⟩
  | cons c cs ih =>
    obtain ⟨p, spelled, stands⟩ := exists_piece c
    obtain ⟨ps, spelled', stands'⟩ := ih
    refine ⟨p :: ps, ?_, ?_⟩
    · rw [List.flatMap_cons, List.flatMap_cons, spelled, spelled']
    · rw [stands, stands']
      rfl

/-- A string that can be skipped is spelled by pieces. -/
theorem pieces_of_skip {cs rest : List Char} (skips : skip cs = .ok rest) :
    ∃ ps : List Piece, cs = ps.flatMap spelling ++ '"' :: rest := by
  fun_induction skip cs with
  -- the cases that stop with a mistake skip nothing
  | case1 | case3 | case5 | case6 | case8 | case9 => cases skips
  | case2 cs =>
    cases skips
    exact ⟨[], rfl⟩
  | case4 w x y z more hex _ ih =>
    obtain ⟨n, unit⟩ := Option.isSome_iff_exists.mp hex
    obtain ⟨ps, rfl⟩ := ih skips
    exact ⟨.unit w x y z n unit :: ps, rfl⟩
  | case7 m more _ _ known _ ih =>
    obtain ⟨c, mark⟩ := Option.isSome_iff_exists.mp known
    obtain ⟨ps, rfl⟩ := ih skips
    exact ⟨.mark m c mark :: ps, rfl⟩
  | case10 c cs quote slash small ih =>
    obtain ⟨ps, rfl⟩ := ih skips
    exact ⟨.plain c ⟨quote, slash, Nat.not_lt.mp small⟩ :: ps, rfl⟩

/-- A string that is written is one token, of the same characters. -/
theorem token_escaped (s : String) (rest : List Char) :
    token (s.toList.flatMap escapeChar ++ '"' :: rest) = (.text (.ok s) none, some rest) := by
  obtain ⟨ps, spelled, stands⟩ := exists_pieces s.toList
  rw [← spelled, token, skip_pieces, read_pieces, stands]
  simp only [reading, Except.map, List.reverse_nil, List.nil_append, String.ofList_toList]

end Literal

end Relay.Json
