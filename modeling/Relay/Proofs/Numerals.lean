import Relay.Proofs.Timestamps
import Relay.Json.Token

/-!
# How numerals may be spelled

A numeral is spelled by its parts, and what is spelled so is exactly what `scan` splits off a text, provided
that what comes next cannot continue it. The digits of an integer are one of these numerals, and they are read
back as that integer.
-/

namespace Relay.Json

/-- A text whose beginning cannot continue a numeral. -/
def Boundary (rest : List Char) : Prop :=
  ∀ c ∈ rest.head?, c.isDigit = false ∧ c ≠ '.' ∧ c ≠ 'e' ∧ c ≠ 'E'

/-- What cannot continue a numeral is no digit. -/
theorem Boundary.halts {rest : List Char} (h : Boundary rest) : Time.Halts rest :=
  fun c first => (h c first).1

namespace Numeral

/-- One digit or more. -/
structure Digits (ds : List Char) : Prop where
  nonempty : ds ≠ []
  all : ∀ c ∈ ds, c.isDigit = true

/-- How the digits after the point are spelled. -/
inductive FractionSpells : List Char → List Char → Prop
  | none : FractionSpells [] []
  | point {ds : List Char} (digits : Digits ds) : FractionSpells ds ('.' :: ds)

/-- How an exponent is spelled, with its sign and its digits. -/
inductive ExponentSpells : Option (Bool × List Char) → List Char → Prop
  | none : ExponentSpells none []
  | unsigned {e : Char} {ds : List Char} (mark : e = 'e' ∨ e = 'E') (digits : Digits ds) :
      ExponentSpells (some (false, ds)) (e :: ds)
  | plus {e : Char} {ds : List Char} (mark : e = 'e' ∨ e = 'E') (digits : Digits ds) :
      ExponentSpells (some (false, ds)) (e :: '+' :: ds)
  | minus {e : Char} {ds : List Char} (mark : e = 'e' ∨ e = 'E') (digits : Digits ds) :
      ExponentSpells (some (true, ds)) (e :: '-' :: ds)

/-- The parts of a numeral but its sign, in a text. A zero stands alone before the point. -/
structure UnsignedSpells (n : Numeral) (cs : List Char) : Prop where
  whole : Digits n.whole
  zero : n.whole.head? = some '0' → n.whole = ['0']
  parts : ∃ ds es, FractionSpells n.fraction ds ∧ ExponentSpells n.exponent es ∧
    cs = n.whole ++ (ds ++ es)

/-- How a numeral is spelled. -/
inductive Spells : Numeral → List Char → Prop
  | unsigned {n : Numeral} {cs : List Char} (positive : n.minus = false)
      (spelled : UnsignedSpells n cs) : Spells n cs
  | minus {n : Numeral} {cs : List Char} (negative : n.minus = true)
      (spelled : UnsignedSpells n cs) : Spells n ('-' :: cs)

/-- A numeral begins with a minus sign or a digit. -/
theorem Spells.first {n : Numeral} {cs : List Char} (spelled : Spells n cs) :
    ∃ c more, cs = c :: more ∧ (c = '-' ∨ c.isDigit = true) := by
  cases spelled with
  | minus => exact ⟨_, _, rfl, .inl rfl⟩
  | unsigned _ spelled =>
    obtain ⟨ds, es, -, -, rfl⟩ := spelled.parts
    obtain ⟨d, more, shape⟩ := List.exists_cons_of_ne_nil spelled.whole.nonempty
    refine ⟨d, more ++ (ds ++ es), by rw [shape]; rfl, .inr (spelled.whole.all d ?_)⟩
    rw [shape]
    exact List.mem_cons_self

/-! ### What is spelled is split off -/

/-- All the digits that come next are split off. -/
theorem digits_append {ds rest : List Char} (all : ∀ c ∈ ds, c.isDigit = true)
    (halts : Time.Halts rest) : digits (ds ++ rest) = (ds, rest) := by
  have onward : (ds ++ rest).dropWhile Char.isDigit = rest.dropWhile Char.isDigit :=
    List.dropWhile_append_of_pos all
  have whole : rest.takeWhile Char.isDigit ++ rest.dropWhile Char.isDigit = rest :=
    List.takeWhile_append_dropWhile
  have none := Time.takeWhile_of_halts halts
  rw [none, List.nil_append] at whole
  rw [digits, List.takeWhile_append_of_pos all, none, List.append_nil, onward, whole]

/-- So are they where at least one is due. -/
theorem someDigits_append {ds rest : List Char} (digits : Digits ds) (halts : Time.Halts rest) :
    someDigits (ds ++ rest) = .ok (ds, rest) := by
  have nonempty : ¬ ds.isEmpty = true := by
    rw [List.isEmpty_iff]
    exact digits.nonempty
  rw [someDigits, digits_append digits.all halts, if_neg nonempty]

/-- The digits before the point are split off, where zero stands alone. -/
theorem scanWhole_append {ds rest : List Char} (digits : Digits ds)
    (zero : ds.head? = some '0' → ds = ['0']) (halts : Time.Halts rest) :
    scanWhole (ds ++ rest) = .ok (ds, rest) := by
  rw [scanWhole, someDigits_append digits halts]
  split
  · next same =>
    obtain ⟨rfl, -⟩ := Prod.mk.inj (Except.ok.inj same)
    cases zero rfl
  · rfl

/-- The point and the digits after it are split off, or none of both. -/
theorem scanFraction_append {ds cs rest : List Char} (spelled : FractionSpells ds cs)
    (halts : Time.Halts rest) (last : rest.head? ≠ some '.') :
    scanFraction (cs ++ rest) = .ok (ds, rest) := by
  cases spelled with
  | none =>
    rw [List.nil_append]
    unfold scanFraction
    split
    · exact absurd rfl last
    · rfl
  | point digits => exact someDigits_append digits halts

/-- A run of digits has no sign. -/
theorem exponentSign_of_digits {ds : List Char} (digits : Digits ds) (rest : List Char) :
    exponentSign (ds ++ rest) = (false, ds ++ rest) := by
  obtain ⟨d, more, rfl⟩ := List.exists_cons_of_ne_nil digits.nonempty
  have digit := digits.all d List.mem_cons_self
  unfold exponentSign
  split
  · next same =>
    rw [(List.cons.inj same).1] at digit
    cases digit
  · next same =>
    rw [(List.cons.inj same).1] at digit
    cases digit
  · rfl

/-- The mark, the sign and the digits of an exponent are split off, or none of them. -/
theorem scanExponent_append {e : Option (Bool × List Char)} {cs rest : List Char}
    (spelled : ExponentSpells e cs) (boundary : Boundary rest) :
    scanExponent (cs ++ rest) = .ok (e, rest) := by
  have marked : ∀ {c : Char} {cs : List Char} {sign : Bool} {ds : List Char}, c = 'e' ∨ c = 'E' →
      exponentSign cs = (sign, ds ++ rest) → Digits ds →
      scanExponent (c :: cs) = .ok (some (sign, ds), rest) := by
    intro c cs sign ds mark signed digits
    rw [scanExponent, if_pos mark]
    simp only [signed, someDigits_append digits boundary.halts, bind, Except.bind, pure, Except.pure]
  cases spelled with
  | none =>
    cases rest with
    | nil => rfl
    | cons c rest => exact if_neg (not_or.mpr (boundary c rfl).2.2)
  | unsigned mark digits => exact marked mark (exponentSign_of_digits digits rest) digits
  | plus mark digits => exact marked mark rfl digits
  | minus mark digits => exact marked mark rfl digits

/-- Neither a digit nor a point comes after the whole part and the fraction. -/
theorem head_exponent {e : Option (Bool × List Char)} {cs rest : List Char}
    (spelled : ExponentSpells e cs) (boundary : Boundary rest) :
    Time.Halts (cs ++ rest) ∧ (cs ++ rest).head? ≠ some '.' := by
  have marked : ∀ {c : Char} {cs : List Char}, c = 'e' ∨ c = 'E' →
      Time.Halts (c :: cs) ∧ (c :: cs).head? ≠ some '.' := by
    rintro c cs (rfl | rfl) <;> exact ⟨fun c first => by cases first; rfl, fun first => by cases first⟩
  cases spelled with
  | none => exact ⟨boundary.halts, fun first => (boundary '.' first).2.1 rfl⟩
  | unsigned mark | plus mark | minus mark => exact marked mark

/-- No digit comes after a whole part. -/
theorem halts_fraction {ds cs rest : List Char} (spelled : FractionSpells ds cs)
    (halts : Time.Halts rest) : Time.Halts (cs ++ rest) := by
  cases spelled with
  | none => exact halts
  | point => exact fun c first => by cases first; rfl

/-- A numeral is split off from behind its sign. -/
theorem scanUnsigned_append {n : Numeral} {cs rest : List Char} (spelled : UnsignedSpells n cs)
    (boundary : Boundary rest) : scanUnsigned n.minus (cs ++ rest) = .ok (n, rest) := by
  obtain ⟨whole, zero, ds, es, fraction, exponent, rfl⟩ := spelled
  obtain ⟨halts, last⟩ := head_exponent exponent boundary
  have after := scanWhole_append whole zero (halts_fraction fraction halts)
  rw [List.append_assoc, List.append_assoc]
  simp only [scanUnsigned, after, scanFraction_append fraction halts last,
    scanExponent_append exponent boundary, bind, Except.bind, pure, Except.pure]

/-- A numeral that is spelled in a text is split off it, if what follows cannot continue it. -/
theorem scan_append {n : Numeral} {cs rest : List Char} (spelled : Spells n cs)
    (boundary : Boundary rest) : scan (cs ++ rest) = .ok (n, rest) := by
  cases spelled with
  | minus negative spelled =>
    rw [List.cons_append, scan, ← negative]
    exact scanUnsigned_append spelled boundary
  | unsigned positive spelled =>
    have found := scanUnsigned_append spelled boundary
    unfold scan
    split
    · next same =>
      -- a whole part begins with a digit, so it is no minus sign
      obtain ⟨ds, es, -, -, rfl⟩ := spelled.parts
      obtain ⟨d, more, shape⟩ := List.exists_cons_of_ne_nil spelled.whole.nonempty
      have digit := spelled.whole.all d (by rw [shape]; exact List.mem_cons_self)
      rw [shape] at same
      rw [(List.cons.inj same).1] at digit
      cases digit
    · rw [← positive]
      exact found

/-! ### What is split off is spelled -/

/-- What is split off where digits are due is digits. -/
theorem digits_of_someDigits {cs ds rest : List Char} (found : someDigits cs = .ok (ds, rest)) :
    Digits ds ∧ cs = ds ++ rest := by
  unfold someDigits at found
  split at found
  · cases found
  · next nonempty =>
    obtain ⟨rfl, rfl⟩ := Prod.mk.inj (Except.ok.inj found)
    refine ⟨⟨fun none => nonempty (List.isEmpty_iff.mpr none), fun c inside => ?_⟩,
      List.takeWhile_append_dropWhile.symm⟩
    exact List.all_eq_true.mp List.all_takeWhile c inside

/-- What is split off before the point. -/
theorem spells_of_scanWhole {cs ds rest : List Char} (found : scanWhole cs = .ok (ds, rest)) :
    Digits ds ∧ (ds.head? = some '0' → ds = ['0']) ∧ cs = ds ++ rest := by
  unfold scanWhole at found
  split at found
  · cases found
  · next single =>
    obtain ⟨digits, shape⟩ := digits_of_someDigits found
    refine ⟨digits, fun zero => ?_, shape⟩
    obtain ⟨more, rfl⟩ := List.head?_eq_some_iff.mp zero
    cases more with
    | nil => rfl
    | cons c more => exact absurd found (single c more rest)

/-- What is split off after the point. -/
theorem spells_of_scanFraction {cs ds rest : List Char} (found : scanFraction cs = .ok (ds, rest)) :
    ∃ body, FractionSpells ds body ∧ cs = body ++ rest := by
  unfold scanFraction at found
  split at found
  · obtain ⟨digits, rfl⟩ := digits_of_someDigits found
    exact ⟨_, .point digits, rfl⟩
  · obtain ⟨rfl, rfl⟩ := Prod.mk.inj (Except.ok.inj found)
    exact ⟨[], .none, rfl⟩

/-- What is split off as an exponent. -/
theorem spells_of_scanExponent {e : Option (Bool × List Char)} {cs rest : List Char}
    (found : scanExponent cs = .ok (e, rest)) : ∃ body, ExponentSpells e body ∧ cs = body ++ rest := by
  unfold scanExponent at found
  split at found
  · next c cs =>
    split at found
    · next mark =>
      simp only [bind, Except.bind, pure, Except.pure] at found
      split at found
      · cases found
      · next v digits =>
        cases found
        obtain ⟨some, shape⟩ := digits_of_someDigits digits
        unfold exponentSign at shape ⊢
        split at shape
        · exact ⟨_, .minus mark some, congrArg (c :: '-' :: ·) shape⟩
        · exact ⟨_, .plus mark some, congrArg (c :: '+' :: ·) shape⟩
        · exact ⟨_, .unsigned mark some, congrArg (c :: ·) shape⟩
    · cases found
      exact ⟨[], .none, rfl⟩
  · cases found
    exact ⟨[], .none, rfl⟩

/-- What is split off from behind the sign spells a numeral. -/
theorem spells_of_scanUnsigned {minus : Bool} {n : Numeral} {cs rest : List Char}
    (found : scanUnsigned minus cs = .ok (n, rest)) :
    n.minus = minus ∧ ∃ body, UnsignedSpells n body ∧ cs = body ++ rest := by
  simp only [scanUnsigned, bind, Except.bind, pure, Except.pure] at found
  split at found
  · cases found
  next whole =>
  split at found
  · cases found
  next fraction =>
  split at found
  · cases found
  next exponent =>
  cases found
  obtain ⟨digits, zero, rfl⟩ := spells_of_scanWhole whole
  obtain ⟨ds, point, shape⟩ := spells_of_scanFraction fraction
  obtain ⟨es, power, last⟩ := spells_of_scanExponent exponent
  refine ⟨rfl, _, ⟨digits, zero, ds, es, point, power, rfl⟩, ?_⟩
  rw [shape, last, List.append_assoc, List.append_assoc]

/-- A numeral that is split off a text is spelled there. -/
theorem spells_of_scan {n : Numeral} {cs rest : List Char} (found : scan cs = .ok (n, rest)) :
    ∃ body, Spells n body ∧ cs = body ++ rest := by
  unfold scan at found
  split at found
  · obtain ⟨negative, body, spelled, rfl⟩ := spells_of_scanUnsigned found
    exact ⟨_, .minus negative spelled, rfl⟩
  · obtain ⟨positive, body, spelled, rfl⟩ := spells_of_scanUnsigned found
    exact ⟨_, .unsigned positive spelled, rfl⟩

/-! ### Integers -/

/-- More digits make a number no smaller. -/
theorem le_ofDigitChars (ds : List Char) (n : Nat) : n ≤ Nat.ofDigitChars 10 ds n := by
  rw [Nat.ofDigitChars_eq_ofDigitChars_zero]
  have more : 1 * n ≤ 10 ^ ds.length * n :=
    Nat.mul_le_mul_right n (Nat.one_le_pow _ _ (by decide))
  omega

/-- Digits are all absorbed if what they stand for fits. -/
theorem absorb_eq {ds : List Char} : ∀ {n : Nat}, Nat.ofDigitChars 10 ds n < wordLimit →
    absorb n ds = (Nat.ofDigitChars 10 ds n, []) := by
  induction ds with
  | nil => exact fun _ => rfl
  | cons d ds ih =>
    intro n fits
    rw [Nat.ofDigitChars_cons] at fits ⊢
    have next : 10 * n + digitValue d < wordLimit :=
      Nat.lt_of_le_of_lt (le_ofDigitChars ds _) fits
    rw [absorb, if_pos next]
    exact ih fits

end Numeral

/-- The digits of a positive number do not begin with zero. -/
theorem head_toDigits_ne_zero {n : Nat} (h : 0 < n) : (Nat.toDigits 10 n).head? ≠ some '0' := by
  induction n using Nat.strongRecOn with
  | ind n ih =>
    rw [Nat.toDigits_eq_if (by decide)]
    split
    · next small =>
      have all : ∀ k : Fin 10, 0 < k.val → some (Nat.digitChar k) ≠ some '0' := by decide
      exact all ⟨n, small⟩ h
    · next large =>
      have earlier := ih (n / 10) (by omega) (by omega)
      obtain ⟨d, ds, written⟩ := List.exists_cons_of_ne_nil
        (show Nat.toDigits 10 (n / 10) ≠ [] from Nat.toDigits_ne_nil)
      rw [written] at earlier ⊢
      exact earlier

/-- A zero that is written first is the only digit. -/
theorem toDigits_ne_zero_cons (n : Nat) (c : Char) (cs : List Char) :
    Nat.toDigits 10 n ≠ '0' :: c :: cs := by
  intro same
  rcases Nat.eq_zero_or_pos n with rfl | positive
  · cases same
  · exact head_toDigits_ne_zero positive (by rw [same]; rfl)

/-- Digits of a number without a superfluous zero are an integer numeral. -/
theorem Numeral.spells_toDigits (n : Nat) :
    Numeral.Spells ⟨false, Nat.toDigits 10 n, [], none⟩ (Nat.toDigits 10 n) := by
  refine .unsigned rfl ⟨⟨Nat.toDigits_ne_nil, fun c => Nat.isDigit_of_mem_toDigits (by decide) (by decide)⟩,
    fun zero => ?_, [], [], .none, .none, (List.append_nil _).symm⟩
  obtain ⟨ds, written⟩ := List.head?_eq_some_iff.mp zero
  cases ds with
  | nil => exact written
  | cons d ds => exact absurd written (toDigits_ne_zero_cons n d ds)

/-- An integer is read back from its digits. -/
theorem Numeral.token_toDigits {n : Nat} (h : n < wordLimit) {rest : List Char} (ends : Boundary rest) :
    token (Nat.toDigits 10 n ++ rest) = (.number (.ok (.natural n)) none, some rest) := by
  have whole : Nat.ofDigitChars 10 (Nat.toDigits 10 n) 0 = n :=
    Nat.ofDigitChars_toDigits (by decide) (by decide)
  have absorbed : absorb 0 (Nat.toDigits 10 n) = (n, []) := by
    rw [absorb_eq (by rwa [whole]), whole]
  rw [token, scan_append (spells_toDigits n) ends]
  simp only [value, absorbed]
  rfl

end Relay.Json
