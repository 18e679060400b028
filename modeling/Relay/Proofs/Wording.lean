import Mathlib.Data.List.Basic
import Mathlib.Data.String.Basic
import Relay.Publisher.Failure

/-!
# The wording of errors

What an error says is on one line, and two errors that say the same are the same. The quoted reason carries both:
no character of it is hidden, and where the quotation of a text ends is told from the quotation itself. `Shown`
lists the forms in which a character stands between the quotation marks. They are a prefix code: no form starts
another one, be the escape short or long, and so a backslash of the text is never taken for the start of an
escape.
-/

namespace Relay

namespace Text

variable {c d : Char} {cs ds xs ys rest rest' : List Char}

/-! ## Texts on one line -/

/-- No line break and no other control code. U+2028 and U+2029 are not controls but break lines. -/
def OnOneLine (s : String) : Prop :=
  ∀ c ∈ s.toList, isControl c = false ∧ c ≠ '\u2028' ∧ c ≠ '\u2029'

/-- No character is hidden. -/
def AllShown (cs : List Char) : Prop := ∀ c ∈ cs, isHidden c = false

/-- The separators that break lines are hidden. -/
theorem isHidden_separators : isHidden '\u2028' = true ∧ isHidden '\u2029' = true := by decide +kernel

/-- A text without hidden characters is on one line. -/
theorem AllShown.onOneLine {s : String} (shown : AllShown s.toList) : OnOneLine s := by
  intro c member
  refine ⟨?_, ?_, ?_⟩
  · cases control : isControl c with
    | false => rfl
    | true => rw [← isHidden_of_isControl control, shown c member]
  · rintro rfl
    exact Bool.eq_false_iff.mp (shown _ member) isHidden_separators.1
  · rintro rfl
    exact Bool.eq_false_iff.mp (shown _ member) isHidden_separators.2

/-- Two texts without hidden characters, one after the other. -/
theorem AllShown.append (left : AllShown xs) (right : AllShown ys) : AllShown (xs ++ ys) :=
  fun c member => (List.mem_append.mp member).elim (left c) (right c)

/-- Printable ASCII. -/
def isPrintable (c : Char) : Bool := 0x20 ≤ c.toNat && c.toNat < 0x7f

/-- A printable character is not hidden. -/
theorem isHidden_of_isPrintable (printable : isPrintable c = true) : isHidden c = false := by
  rw [isPrintable, Bool.and_eq_true, decide_eq_true_eq, decide_eq_true_eq] at printable
  exact isHidden_eq_false_of_ascii printable.1 printable.2

/-- A text of printable characters has no hidden one; of a fixed text this is computed. -/
theorem allShown_of_printable (printable : cs.all isPrintable = true) : AllShown cs :=
  fun c member => isHidden_of_isPrintable (List.all_eq_true.mp printable c member)

/-- Where a text ends is told by a mark that it does not hold. -/
theorem before_mark_inj {mark : Char} : ∀ {xs ys : List Char}, mark ∉ xs → mark ∉ ys →
    xs ++ mark :: rest = ys ++ mark :: rest' → xs = ys ∧ rest = rest'
  | [], [], _, _, same => ⟨rfl, (List.cons.inj same).2⟩
  | [], _ :: _, _, absent, same => absurd (List.cons.inj same).1 (List.ne_of_not_mem_cons absent)
  | _ :: _, [], absent, _, same => absurd (List.cons.inj same).1.symm (List.ne_of_not_mem_cons absent)
  | x :: xs, y :: ys, absent, absent', same => by
    obtain ⟨rfl, tails⟩ := List.cons.inj same
    obtain ⟨rfl, behind⟩ :=
      before_mark_inj (List.not_mem_of_not_mem_cons absent) (List.not_mem_of_not_mem_cons absent') tails
    exact ⟨rfl, behind⟩

/-! ## Numbers of characters -/

/-- The digits of base sixteen are told apart. -/
theorem digitChar_inj : ∀ m < 16, ∀ n < 16, m.digitChar = n.digitChar → m = n := by decide

/-- A number below sixteen is written with its digit. -/
theorem hexNumber_of_lt {n : Nat} (small : n < 16) : hexNumber n = [n.digitChar] :=
  Nat.toDigits_of_lt_base small

/-- Any other number is written with its quotient and its last digit. -/
theorem hexNumber_of_le {n : Nat} (large : 16 ≤ n) :
    hexNumber n = hexNumber (n / 16) ++ [(n % 16).digitChar] :=
  Nat.toDigits_of_base_le (by decide) large

/-- The digits of a number are hexadecimal digits. -/
theorem exists_of_mem_hexNumber {n : Nat} : c ∈ hexNumber n → ∃ d < 16, c = d.digitChar := by
  induction n using Nat.strongRecOn with
  | ind n ih =>
    intro member
    obtain small | large := Nat.lt_or_ge n 16
    · rw [hexNumber_of_lt small] at member
      exact ⟨n, small, List.mem_singleton.mp member⟩
    · rw [hexNumber_of_le large] at member
      rcases List.mem_append.mp member with higher | last
      · exact ih (n / 16) (by omega) higher
      · exact ⟨n % 16, Nat.mod_lt n (by decide), List.mem_singleton.mp last⟩

/-- A number is told from its digits. -/
theorem hexNumber_injective {m n : Nat} : hexNumber m = hexNumber n → m = n := by
  induction m using Nat.strongRecOn generalizing n with
  | ind m ih =>
    intro same
    have longer : ∀ k (x y : Char), hexNumber k ++ [x] ≠ [y] := fun k x y same => by
      have one : (hexNumber k).length + 1 = 1 := List.length_append.symm.trans (congrArg List.length same)
      have some : 0 < (hexNumber k).length := Nat.length_toDigits_pos
      omega
    -- one digit is not several; several digits agree in the last one and in those before
    obtain small | large := Nat.lt_or_ge m 16 <;> obtain small' | large' := Nat.lt_or_ge n 16
    · rw [hexNumber_of_lt small, hexNumber_of_lt small'] at same
      exact digitChar_inj m small n small' (List.head_eq_of_cons_eq same)
    · rw [hexNumber_of_lt small, hexNumber_of_le large'] at same
      exact absurd same.symm (longer _ _ _)
    · rw [hexNumber_of_le large, hexNumber_of_lt small'] at same
      exact absurd same (longer _ _ _)
    · rw [hexNumber_of_le large, hexNumber_of_le large'] at same
      obtain ⟨higher, last⟩ := List.append_inj' same rfl
      have quotients := ih (m / 16) (by omega) higher
      have remainders := digitChar_inj _ (Nat.mod_lt m (by decide)) _ (Nat.mod_lt n (by decide))
        (List.head_eq_of_cons_eq last)
      omega

/-- No digit is hidden. -/
theorem allShown_hexNumber (n : Nat) : AllShown (hexNumber n) := by
  intro c member
  obtain ⟨d, small, rfl⟩ := exists_of_mem_hexNumber member
  have all : ∀ d < 16, isPrintable d.digitChar = true := by decide
  exact isHidden_of_isPrintable (all d small)

/-- No digit is a closing brace, so the brace after a number ends it. -/
theorem brace_not_mem_hexNumber (n : Nat) : '\x7d' ∉ hexNumber n := by
  intro member
  obtain ⟨d, small, same⟩ := exists_of_mem_hexNumber member
  have all : ∀ d < 16, '\x7d' ≠ d.digitChar := by decide
  exact all d small same

/-! ## Characters between quotation marks -/

/-- The characters with a short escape, each with the letter that stands for it after a backslash. -/
def letters : List (Char × Char) :=
  [('"', '"'), ('\\', '\\'), ('\n', 'n'), ('\r', 'r'), ('\t', 't'), ('\x00', '0')]

/-- The forms in which a character stands between quotation marks. -/
inductive Shown (c : Char) : List Char → Prop
  /-- By a letter of its own. -/
  | short {e : Char} (here : (c, e) ∈ letters) : Shown c ['\\', e]
  /-- By its number. -/
  | long : Shown c (['\\', 'u', '\x7b'] ++ hexNumber c.toNat ++ ['\x7d'])
  /-- As itself. -/
  | plain (visible : isHidden c = false) (mark : c ≠ '"') (backslash : c ≠ '\\') : Shown c [c]

/-- What is written for a character is one of its forms. -/
theorem shown_quoteChar (c : Char) : Shown c (quoteChar c) := by
  unfold quoteChar
  iterate 6
    split
    · next same =>
      subst same
      exact .short (by decide)
  split
  · exact .long
  · next mark backslash _ _ _ _ visible => exact .plain (Bool.eq_false_iff.mpr visible) mark backslash

namespace Shown

/-- No character of a form is hidden. -/
theorem allShown (shown : Shown c xs) : AllShown xs := by
  cases shown with
  | short here =>
    have all : ∀ p ∈ letters, ['\\', p.2].all isPrintable = true := by decide
    exact allShown_of_printable (all _ here)
  | long =>
    have start : AllShown ['\\', 'u', '\x7b'] := allShown_of_printable (by decide)
    exact (start.append (allShown_hexNumber _)).append (allShown_of_printable (by decide))
  | plain visible =>
    intro x member
    rwa [List.mem_singleton.mp member]

/-- No character looks like the mark that closes the quotation. -/
theorem head_ne_mark (shown : Shown c xs) : (xs ++ rest).head? ≠ some '"' := by
  cases shown with
  | short | long => exact fun same => absurd (Option.some.inj same) (by decide)
  | plain _ mark => exact fun same => mark (Option.some.inj same)

/-- No form of a character is the start of another. -/
theorem prefix_code (shown : Shown c xs) (shown' : Shown d ys) (same : xs ++ rest = ys ++ rest') :
    c = d ∧ rest = rest' := by
  -- a backslash begins an escape and nothing else, the character after it tells a letter from a number
  cases shown with
  | short here =>
    cases shown' with
    | short here' =>
      have all : ∀ p ∈ letters, ∀ q ∈ letters, p.2 = q.2 → p.1 = q.1 := by decide
      obtain ⟨letter, same⟩ := List.cons.inj (List.cons.inj same).2
      exact ⟨all _ here _ here' letter, same⟩
    | long =>
      have all : ∀ p ∈ letters, p.2 ≠ 'u' := by decide
      exact absurd (List.cons.inj (List.cons.inj same).2).1 (all _ here)
    | plain _ _ backslash => exact absurd (List.cons.inj same).1.symm backslash
  | long =>
    cases shown' with
    | short here =>
      have all : ∀ p ∈ letters, 'u' ≠ p.2 := by decide
      exact absurd (List.cons.inj (List.cons.inj same).2).1 (all _ here)
    | long =>
      -- the digits end at the brace, so none of two numbers is the start of the other
      rw [List.append_assoc, List.append_assoc, List.append_assoc, List.append_assoc] at same
      have numbers : hexNumber c.toNat ++ '\x7d' :: rest = hexNumber d.toNat ++ '\x7d' :: rest' :=
        List.append_cancel_left same
      obtain ⟨number, behind⟩ :=
        before_mark_inj (brace_not_mem_hexNumber _) (brace_not_mem_hexNumber _) numbers
      exact ⟨Char.toNat_inj.mp (hexNumber_injective number), behind⟩
    | plain _ _ backslash => exact absurd (List.cons.inj same).1.symm backslash
  | plain _ _ backslash =>
    cases shown' with
    | short | long => exact absurd (List.cons.inj same).1 backslash
    | plain => exact List.cons.inj same

end Shown

/-! ## Quoted texts -/

/-- No character of a quotation is hidden. -/
theorem allShown_quoteChars (cs : List Char) : AllShown (quoteChars cs) := by
  have mark : AllShown ['"'] := allShown_of_printable (by decide)
  refine (mark.append fun x member => ?_).append mark
  obtain ⟨c, -, member⟩ := List.mem_flatMap.mp member
  exact (shown_quoteChar c).allShown x member

/-- The forms of the characters and a closing mark are read in one way only. -/
theorem flatMap_quoteChar_inj : ∀ {cs ds : List Char},
    cs.flatMap quoteChar ++ '"' :: rest = ds.flatMap quoteChar ++ '"' :: rest' → cs = ds ∧ rest = rest'
  | [], [], same => ⟨rfl, (List.cons.inj same).2⟩
  | [], d :: ds, same => by
    rw [List.flatMap_cons, List.append_assoc] at same
    exact absurd (congrArg List.head? same).symm (shown_quoteChar d).head_ne_mark
  | c :: cs, [], same => by
    rw [List.flatMap_cons, List.append_assoc] at same
    exact absurd (congrArg List.head? same) (shown_quoteChar c).head_ne_mark
  | c :: cs, d :: ds, same => by
    rw [List.flatMap_cons, List.append_assoc, List.flatMap_cons, List.append_assoc] at same
    obtain ⟨rfl, behind⟩ := (shown_quoteChar c).prefix_code (shown_quoteChar d) same
    obtain ⟨rfl, after⟩ := flatMap_quoteChar_inj behind
    exact ⟨rfl, after⟩

/-- A text is told from its quotation. -/
theorem quoteChars_injective (same : quoteChars cs = quoteChars ds) : cs = ds := by
  have inner : cs.flatMap quoteChar ++ '"' :: [] = ds.flatMap quoteChar ++ '"' :: [] := (List.cons.inj same).2
  exact (flatMap_quoteChar_inj inner).1

end Text

namespace Broker

open Text (AllShown OnOneLine allShown_of_printable quoteChars)

namespace Exception

/-- The characters of a message: the code, a bracket and the quoted reason. -/
theorem toList_message (e : Exception) : e.message.toList =
    "Exception (".toList ++ (Nat.toDigits 10 e.code.toNat ++
      ')' :: (" Reason: ".toList ++ quoteChars e.reason.toList)) := by
  have code : (toString e.code.toNat).toList = Nat.toDigits 10 e.code.toNat := by
    rw [Nat.toString_eq_ofList_toDigits, String.toList_ofList]
  have reason : (Text.quote e.reason).toList = quoteChars e.reason.toList := String.toList_ofList
  rw [message, String.toList_append, String.toList_append, String.toList_append, code, reason,
    List.append_assoc, List.append_assoc]
  rfl

/-- No character of a message is hidden. -/
theorem allShown_message (e : Exception) : AllShown e.message.toList := by
  rw [toList_message]
  have digits : AllShown (Nat.toDigits 10 e.code.toNat) := fun c member => by
    have digit := Nat.isDigit_of_mem_toDigits (by decide) (by decide) member
    rw [Char.isDigit, Bool.and_eq_true, decide_eq_true_eq, decide_eq_true_eq] at digit
    have least : 48 ≤ c.toNat := digit.1
    have greatest : c.toNat ≤ 57 := digit.2
    exact Text.isHidden_eq_false_of_ascii (by omega) (by omega)
  have bracket : AllShown (')' :: " Reason: ".toList) := allShown_of_printable (by decide)
  exact (allShown_of_printable (by decide)).append (digits.append (bracket.append (Text.allShown_quoteChars _)))

/-- The code ends at the bracket, and the rest is the quoted reason. -/
theorem message_injective {e e' : Exception} (same : e.message = e'.message) : e = e' := by
  have bracket : ∀ n, ')' ∉ Nat.toDigits 10 n := fun n member =>
    absurd (Nat.isDigit_of_mem_toDigits (by decide) (by decide) member) (by decide)
  have chars := congrArg String.toList same
  rw [toList_message, toList_message] at chars
  obtain ⟨codes, reasons⟩ := Text.before_mark_inj (bracket _) (bracket _) (List.append_cancel_left chars)
  have code : e.code.toNat = e'.code.toNat := by
    have values := congrArg (Nat.ofDigitChars 10 · 0) codes
    simp only [Nat.ofDigitChars_ten_toDigits] at values
    exact values
  have reason := Text.quoteChars_injective (List.append_cancel_left reasons)
  exact (Exception.mk.injEq ..).mpr ⟨UInt16.toNat_inj.mp code, String.toList_injective reason⟩

end Exception

end Broker

namespace Publisher.Failure

open Broker (Exception)
open Text (AllShown OnOneLine allShown_of_printable)

/-- The message of a channel's failure holds that of the exception. -/
theorem toList_message_channel (e : Exception) :
    (channel e).message.toList = "channel closed: ".toList ++ e.message.toList := String.toList_append

/-- So does the message of a publish's failure. -/
theorem toList_message_publish (e : Exception) :
    (publish e).message.toList = "publish failed: ".toList ++ e.message.toList := String.toList_append

/-- No character of a failure's message is hidden. -/
theorem allShown_message (f : Failure) : AllShown f.message.toList := by
  cases f with
  | dead | notInitialized | interrupted => exact allShown_of_printable (by decide)
  | channel e => exact toList_message_channel e ▸ (allShown_of_printable (by decide)).append e.allShown_message
  | publish e => exact toList_message_publish e ▸ (allShown_of_printable (by decide)).append e.allShown_message

/-- The first words of a message, by which the failures of each kind are told from all others. -/
def opening : Failure → String
  | dead => "publisher is de"
  | notInitialized => "publisher is no"
  | interrupted => "serving loop st"
  | channel _ => "channel closed:"
  | publish _ => "publish failed:"

/-- The first fifteen characters of a message are its opening. -/
theorem take_message (f : Failure) : String.ofList (f.message.toList.take 15) = f.opening := by
  cases f with
  | dead | notInitialized | interrupted => rfl
  | channel e => rw [toList_message_channel]; rfl
  | publish e => rw [toList_message_publish]; rfl

/-- The kind of a failure is told from the opening, and the exception from the rest. -/
theorem message_injective {f f' : Failure} (same : f.message = f'.message) : f = f' := by
  have openings : f.opening = f'.opening := by rw [← take_message, ← take_message, same]
  have cause : ∀ {start : String} {e e' : Exception}, start ++ e.message = start ++ e'.message → e = e' :=
    fun same => Exception.message_injective ((String.append_right_inj _).mp same)
  cases f with
  | channel e =>
    cases f' with
    | channel e' => exact congrArg channel (cause same)
    | _ => simp [opening] at openings
  | publish e =>
    cases f' with
    | publish e' => exact congrArg publish (cause same)
    | _ => simp [opening] at openings
  | dead | notInitialized | interrupted =>
    cases f' <;> first | rfl | simp [opening] at openings

/-- Exceptions and failures are shown on one line, and what is shown tells them: exceptions of the same text have
the same code and the same reason, and failures of the same text are of the same kind and have the same exception
behind them. The reasons may hold any characters. -/
theorem messages_tell_errors :
    (∀ e : Exception, OnOneLine e.message) ∧ (∀ f : Failure, OnOneLine f.message) ∧
    (∀ e e' : Exception, e.message = e'.message ↔ e = e') ∧
    ∀ f f' : Failure, f.message = f'.message ↔ f = f' :=
  ⟨fun e => e.allShown_message.onOneLine, fun f => f.allShown_message.onOneLine,
    fun _ _ => ⟨Exception.message_injective, congrArg Exception.message⟩,
    fun _ _ => ⟨message_injective, congrArg message⟩⟩

example : (publish ⟨404, "\n\\n\"\x7f"⟩).message =
    "publish failed: Exception (404) Reason: \"\\n\\\\n\\\"\\u\x7b7f\x7d\"" := by rfl

end Publisher.Failure

end Relay
