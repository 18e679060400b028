import Relay.Proofs.Literals
import Relay.Proofs.Numerals
import Relay.Message.Encode
import Relay.Json.Document

/-!
# Trees of written values

What is written for a value has a known tree wherever it stands in a text: it takes a reader that
waits for a value to one that has it, and leaves the rest of the text to be read.
-/

namespace Relay.Json

/-! ## Reading on from any place -/

/-- The tokens of a text that begins with a token, if more text is left after it. -/
theorem tokensOnto_take {c : Char} {rest more : List Char} {t : Token}
    (visible : ¬ isBlank c = true) (found : Token.take c rest = (t, some more))
    (taken : List Token) : tokensOnto taken (c :: rest) = tokensOnto (t :: taken) more := by
  rw [tokensOnto, if_neg visible]
  split
  · next same =>
    rw [found] at same
    cases same
    rfl
  · next same =>
    rw [found] at same
    cases same

/-- The tokens of a text whose first token takes all of it. -/
theorem tokensOnto_take_none {c : Char} {rest : List Char} {t : Token}
    (visible : ¬ isBlank c = true) (found : Token.take c rest = (t, none)) (taken : List Token) :
    tokensOnto taken (c :: rest) = t :: taken := by
  rw [tokensOnto, if_neg visible]
  split
  · next same =>
    rw [found] at same
    cases same
  · next same =>
    rw [found] at same
    cases same
    rfl

/-- Tokens already taken stay where they are. -/
theorem tokensOnto_append (ts taken : List Token) (cs : List Char) :
    tokensOnto (ts ++ taken) cs = tokensOnto ts cs ++ taken := by
  fun_induction tokensOnto ts cs with
  | case1 ts => rw [tokensOnto]
  | case2 ts c rest blank ih => rw [tokensOnto, if_pos blank, ih]
  | case3 ts c rest visible t more found ih => rw [tokensOnto_take visible found, ← ih]; rfl
  | case4 ts c rest visible t found => rw [tokensOnto_take_none visible found]; rfl

/-- How far a reader gets with a text. -/
def follow (p : Progress) (cs : List Char) : Progress :=
  (tokensOnto [] cs).reverse.foldl Progress.step p

/-- At the end of the text the reader stays where it is. -/
theorem follow_nil (p : Progress) : follow p [] = p := by
  rw [follow, tokensOnto]
  rfl

/-- A document is where the reader gets with the whole text. -/
theorem ofText_eq_follow (cs : List Char) :
    Document.ofText (String.ofList cs) = (follow (.reading .value []) cs).document := by
  unfold Document.ofText Document.ofTokens tokens follow
  rw [String.toList_ofList]

/-- A reader takes one token after the other. -/
theorem follow_take {c : Char} {rest more : List Char} {t : Token}
    (found : Token.take c rest = (t, some more)) (p : Progress) (visible : ¬ isBlank c = true) :
    follow p (c :: rest) = follow (p.step t) more := by
  have later : tokensOnto [t] more = tokensOnto [] more ++ [t] := tokensOnto_append [] [t] more
  rw [follow, tokensOnto_take visible found, later, List.reverse_append]
  rfl

/-- A comma is one step. -/
theorem follow_comma (p : Progress) (rest : List Char) :
    follow p (',' :: rest) = follow (p.step .comma) rest :=
  follow_take rfl p (by decide)

/-- A colon is one step. -/
theorem follow_colon (p : Progress) (rest : List Char) :
    follow p (':' :: rest) = follow (p.step .colon) rest :=
  follow_take rfl p (by decide)

/-- The opening of a record is one step. -/
theorem follow_openRecord (p : Progress) (rest : List Char) :
    follow p ('\x7b' :: rest) = follow (p.step .openRecord) rest :=
  follow_take rfl p (by decide)

/-- The closing of a record is one step. -/
theorem follow_closeRecord (p : Progress) (rest : List Char) :
    follow p ('\x7d' :: rest) = follow (p.step .closeRecord) rest :=
  follow_take rfl p (by decide)

/-- A written string is one step, with the string it was written for. -/
theorem follow_escape (s : String) (p : Progress) (rest : List Char) :
    follow p (escape s.toList ++ rest) = follow (p.step (.text (.ok s) none)) rest := by
  have shape : escape s.toList ++ rest = '"' :: (s.toList.flatMap escapeChar ++ '"' :: rest) := by
    rw [escape, List.append_assoc]
    rfl
  have found : Token.take '"' (s.toList.flatMap escapeChar ++ '"' :: rest) =
      (.text (.ok s) none, some rest) :=
    Literal.token_escaped s rest
  rw [shape, follow_take found p (by decide)]

/-! ## Values of one token -/

/-- Written for a value of this tree. What follows must not continue a numeral. -/
def Written (cs : List Char) (node : Node) : Prop :=
  ∀ frames rest, Boundary rest →
    follow (.reading .value frames) (cs ++ rest) = follow (.complete node frames) rest

/-- A written string has the tree of its token. -/
theorem written_escape (s : String) : Written (escape s.toList) (.leaf (.text (.ok s) none)) :=
  fun _ rest _ => follow_escape s _ rest

/-- So has the word for an absent value. -/
theorem written_null : Written "null".toList (.leaf (.word (.ok .null))) := by
  intro frames rest _
  have found : Token.take 'n' ('u' :: 'l' :: 'l' :: rest) = (.word (.ok .null), some rest) := rfl
  exact follow_take found _ (by decide)

/-- The token that begins with a digit is a number. -/
theorem take_digit {d : Char} (digit : d.isDigit = true) (rest : List Char) :
    Token.take d rest = Numeral.token (d :: rest) := by
  unfold Token.take
  split
  case h_11 => exact if_pos (.inr digit)
  all_goals cases digit

/-- No digit is blank. -/
theorem not_isBlank_digit {d : Char} (digit : d.isDigit = true) : ¬ isBlank d = true := by
  intro blank
  simp only [isBlank, Bool.or_eq_true, decide_eq_true_eq] at blank
  obtain ((rfl | rfl) | rfl) | rfl := blank <;> cases digit

/-- Digits of a number below the limit of a word have the tree of that number. -/
theorem written_toDigits {n : Nat} (h : n < Numeral.wordLimit) :
    Written (Nat.toDigits 10 n) (.leaf (.number (.ok (.natural n)) none)) := by
  intro frames rest boundary
  have token := Numeral.token_toDigits h boundary
  have digit : ∀ d ∈ Nat.toDigits 10 n, d.isDigit = true :=
    fun _ => Nat.isDigit_of_mem_toDigits (by decide) (by decide)
  obtain ⟨d, ds, written⟩ := List.exists_cons_of_ne_nil
    (show Nat.toDigits 10 n ≠ [] from Nat.toDigits_ne_nil)
  rw [written] at token digit ⊢
  have first := digit d List.mem_cons_self
  exact follow_take ((take_digit first _).trans token) _ (not_isBlank_digit first)

/-! ## Records -/

/-- A list with commas between its parts, the first part apart. -/
theorem intercalate_cons (x : List Char) (xs : List (List Char)) :
    [','].intercalate (x :: xs) = x ++ xs.flatMap (',' :: ·) := by
  induction xs generalizing x with
  | nil => simp [List.intercalate]
  | cons y ys ih =>
    have next := ih y
    simp only [List.intercalate] at next ⊢
    rw [List.intersperse_cons_cons, List.flatten_cons, List.flatten_cons, next]
    rfl

/-- A comma continues no numeral. -/
theorem boundary_comma (rest : List Char) : Boundary (',' :: rest) := by
  rintro _ ⟨⟩
  decide

/-- Nor does the end of a record. -/
theorem boundary_closeRecord (rest : List Char) : Boundary ('\x7d' :: rest) := by
  rintro _ ⟨⟩
  decide

section Members

variable {α : Type} (name : α → String) (value : α → List Char) (node : α → Node)

/-- A member as it is written, and as the tree has it. -/
def writeMember (x : α) : List Char := encodeMember (name x) (value x)
@[inherit_doc writeMember] def treeMember (x : α) : Token × Node :=
  (.text (.ok (name x)) none, node x)

variable {name value node}

/-- A member is read where one is due, at the start of a record or after a comma. -/
theorem follow_member {x : α} (written : Written (value x) (node x)) {place : Place}
    (due : place = .name ∨ place = .member) (members : List (Token × Node)) (last : Token)
    (outer : List Frame) {rest : List Char} (boundary : Boundary rest) :
    follow (.reading place (.record members last :: outer)) (writeMember name value x ++ rest) =
      follow (.reading .next (.record (treeMember name node x :: members) .missing :: outer))
        rest := by
  have named : (Progress.reading place (.record members last :: outer)).step
      (.text (.ok (name x)) none) =
      .reading .colon (.record members (.text (.ok (name x)) none) :: outer) := by
    rcases due with rfl | rfl <;> rfl
  rw [writeMember, encodeMember, List.append_assoc, follow_escape, named, List.cons_append,
    follow_colon]
  exact written _ _ boundary

/-- So what comes after a member continues no numeral, be it another member or the end. -/
theorem boundary_members (xs : List (List Char)) (rest : List Char) :
    Boundary (xs.flatMap (',' :: ·) ++ '\x7d' :: rest) := by
  cases xs with
  | nil => exact boundary_closeRecord rest
  | cons x xs => exact boundary_comma _

/-- Members after the first, up to the end of the record. -/
theorem follow_members {xs : List α} (outer : List Frame) (rest : List Char) :
    (∀ x ∈ xs, Written (value x) (node x)) → ∀ (members : List (Token × Node)) (last : Token),
      follow (.reading .next (.record members last :: outer))
        ((xs.map (writeMember name value)).flatMap (',' :: ·) ++ '\x7d' :: rest) =
      follow (.complete (.record (members.reverse ++ xs.map (treeMember name node)) none) outer)
        rest := by
  induction xs with
  | nil =>
    intro _ members last
    rw [List.map_nil, List.map_nil, List.append_nil]
    exact follow_closeRecord _ rest
  | cons x xs ih =>
    intro written members last
    rw [List.map_cons, List.flatMap_cons, List.append_assoc, List.cons_append, follow_comma]
    -- after a comma a name is due, and what comes after its value continues no numeral
    have comma : (Progress.reading .next (.record members last :: outer)).step .comma =
        .reading .name (.record members last :: outer) := rfl
    rw [comma, follow_member (written x List.mem_cons_self) (.inl rfl) _ _ _
      (boundary_members _ _), ih (fun y later => written y (List.mem_cons_of_mem x later)),
      List.reverse_cons, List.append_assoc]
    rfl

/-- A record is written for the tree of its members, in their order. -/
theorem written_record {xs : List α} (written : ∀ x ∈ xs, Written (value x) (node x)) :
    Written (encodeRecord (xs.map (writeMember name value)))
      (.record (xs.map (treeMember name node)) none) := by
  intro frames rest _
  rw [encodeRecord, List.cons_append, List.cons_append, follow_openRecord]
  -- the first member follows the opening brace and not a comma, so the induction is on the others
  cases xs with
  | nil => exact follow_closeRecord _ rest
  | cons x xs =>
    have opened : (Progress.reading .value frames).step .openRecord =
        .reading .member (.record [] .missing :: frames) := rfl
    rw [opened, List.map_cons, intercalate_cons, List.append_assoc, List.append_assoc,
      List.singleton_append, follow_member (written x List.mem_cons_self) (.inr rfl) _ _ _
        (boundary_members _ _)]
    exact follow_members frames rest (fun y later => written y (List.mem_cons_of_mem x later)) _ _

end Members

/-- A text of one written value has its tree, and nothing follows it. -/
theorem ofText_of_written {cs : List Char} {node : Node} (written : Written cs node) :
    Document.ofText (String.ofList cs) = ⟨node, false⟩ := by
  have read := written [] [] nofun
  rw [List.append_nil] at read
  rw [ofText_eq_follow, read, follow_nil]
  rfl

end Relay.Json
