import Relay.Json.Numeral
import Relay.Json.Literal

/-!
# Tokens of a JSON text

A token that holds a value keeps two readings: the value, or why it cannot be had, and whether the
token can be skipped. A string with half a surrogate pair and a numeral beyond every double can be
skipped but not read. The tokens of a text end with the first one that cannot even be skipped.
-/

namespace Relay.Json

/-- The literal words. -/
inductive Word where
  | null
  | true
  | false
  deriving DecidableEq, Repr

/-- The letters of a word. -/
def Word.letters : Word → List Char
  | .null => ['n', 'u', 'l', 'l']
  | .true => ['t', 'r', 'u', 'e']
  | .false => ['f', 'a', 'l', 's', 'e']

/-- A token. -/
inductive Token where
  | openList
  | closeList
  | openRecord
  | closeRecord
  | comma
  | colon
  | word (value : Except Mistake Word)
  | number (value : Except Mistake Number) (unskippable : Option Mistake)
  | text (value : Except Mistake String) (unskippable : Option Mistake)
  /-- A character that begins no token. -/
  | stray
  /-- The end of the text, where a token was looked for. -/
  | missing

namespace Token

/-- Why a token that should be a value cannot be passed over, if it cannot. -/
def mistake? : Token → Option Mistake
  | word (.ok _) => none
  | word (.error m) => some m
  | number _ m => m
  | text _ m => m
  | missing => some .endInValue
  | _ => some .noValue

end Token

/-- Removes the letters of a word from the start of a text. -/
def dropWord : List Char → List Char → Except Mistake (List Char)
  | [], cs => .ok cs
  | _ :: _, [] => .error .endInValue
  | w :: ws, c :: cs => if c = w then dropWord ws cs else .error .noWord

theorem length_dropWord_le {ws cs rest : List Char} (h : dropWord ws cs = .ok rest) :
    rest.length ≤ cs.length := by
  fun_induction dropWord ws cs with
  | case1 => exact (Except.ok.inj h) ▸ Nat.le_refl _
  | case2 => simp at h
  | case3 w ws cs ih => exact Nat.le_succ_of_le (ih h)
  | case4 => simp at h

/-- Where the digits are missing at the end of a text, a reader of the number reports the end, and one
that passes over it a bad numeral. -/
def Numeral.token (cs : List Char) : Token × Option (List Char) :=
  match Numeral.scan cs with
  | .ok (n, rest) => (.number n.value none, some rest)
  | .error m => (.number (.error m) (some .badNumeral), none)

/-- The token of a word whose first letter has been seen. -/
def Word.token (w : Word) (rest : List Char) : Token × Option (List Char) :=
  match dropWord w.letters.tail rest with
  | .ok more => (.word (.ok w), some more)
  | .error m => (.word (.error m), none)

/-- The token of a string whose opening quotation mark has been seen. -/
def Literal.token (rest : List Char) : Token × Option (List Char) :=
  let value := (Literal.read [] rest).map fun r => String.ofList r.1
  match Literal.skip rest with
  | .ok more => (.text value none, some more)
  | .error m => (.text value (some m), none)

/-- The token that begins with a character that is not blank, and the text after it if the token can
be passed over. -/
def Token.take (c : Char) (rest : List Char) : Token × Option (List Char) :=
  match c with
  | '[' => (.openList, some rest)
  | ']' => (.closeList, some rest)
  | '\x7b' => (.openRecord, some rest)
  | '\x7d' => (.closeRecord, some rest)
  | ',' => (.comma, some rest)
  | ':' => (.colon, some rest)
  | '"' => Literal.token rest
  | 'n' => Word.token .null rest
  | 't' => Word.token .true rest
  | 'f' => Word.token .false rest
  | _ => if c = '-' ∨ c.isDigit then Numeral.token (c :: rest) else (.stray, none)

/-- The blank characters of JSON. -/
def isBlank (c : Char) : Bool := c = ' ' || c = '\n' || c = '\t' || c = '\r'

theorem Numeral.length_token_lt {cs more : List Char} {t : Token}
    (h : Numeral.token cs = (t, some more)) : more.length < cs.length := by
  unfold Numeral.token at h
  split at h
  · rename_i found
    obtain ⟨-, rfl⟩ : _ ∧ _ = more := by simpa using h
    exact Numeral.length_scan_lt found
  · simp at h

theorem Word.length_token_le {w : Word} {rest more : List Char} {t : Token}
    (h : Word.token w rest = (t, some more)) : more.length ≤ rest.length := by
  unfold Word.token at h
  split at h
  · rename_i found
    obtain ⟨-, rfl⟩ : _ ∧ _ = more := by simpa using h
    exact length_dropWord_le found
  · simp at h

theorem Literal.length_token_lt {rest more : List Char} {t : Token}
    (h : Literal.token rest = (t, some more)) : more.length < rest.length := by
  unfold Literal.token at h
  split at h
  · rename_i found
    obtain ⟨-, rfl⟩ : _ ∧ _ = more := by simpa using h
    exact Literal.length_skip_lt found
  · simp at h

/-- Passing over a token never lengthens the text. -/
theorem Token.length_take_le {c : Char} {rest more : List Char} {t : Token}
    (h : Token.take c rest = (t, some more)) : more.length ≤ rest.length := by
  unfold Token.take at h
  split at h
  case h_7 => exact Nat.le_of_lt (Literal.length_token_lt h)
  case h_8 | h_9 | h_10 => exact Word.length_token_le h
  case h_11 =>
    split at h
    · exact Nat.le_of_lt_succ (Numeral.length_token_lt h)
    · simp at h
  all_goals
    obtain ⟨-, rfl⟩ : _ ∧ rest = more := by simpa using h
    exact Nat.le_refl _

/-- The tokens of a text in front of those already taken, the last one first. -/
def tokensOnto (taken : List Token) : List Char → List Token
  | [] => taken
  | c :: rest =>
    if isBlank c then tokensOnto taken rest
    else
      match _taken : Token.take c rest with
      | (t, some more) => tokensOnto (t :: taken) more
      | (t, none) => t :: taken
termination_by cs => cs.length
decreasing_by
  · simp
  · have := Token.length_take_le _taken
    simp
    omega

/-- The tokens of a text, up to and with the first that cannot be passed over. -/
def tokens (text : String) : List Token := (tokensOnto [] text.toList).reverse

end Relay.Json
