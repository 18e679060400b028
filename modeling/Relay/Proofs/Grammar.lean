import Relay.Proofs.Written

/-!
# The grammar of JSON, and its reader

`Value` is what a JSON text says, without blanks and without the choice between spellings; a string or a name
is a mistake where half of a surrogate pair stands alone in it. `Spells` is the grammar: it tells which
texts spell a value, with blanks wherever they may stand, and `Taken` how each token is spelled. The reader
builds `Value.node` from every text that spells a value.
-/

namespace Relay.Json

open Piece (quoted characters)

/-! ## What texts say -/

/-- A JSON value. -/
inductive Value where
  | null
  | truth (value : Bool)
  | number (n : Numeral)
  | text (s : Except Mistake String)
  | list (items : List Value)
  | record (members : List (Except Mistake String × Value))

/-- The string that pieces stand for. -/
def stringOf (ps : List Piece) : Except Mistake String := (characters ps).map String.ofList

/-- The word for a truth value. -/
def truthWord : Bool → Word
  | true => .true
  | false => .false

namespace Value

mutual

/-- The tree of a value. -/
def node : Value → Node
  | null => .leaf (.word (.ok .null))
  | truth b => .leaf (.word (.ok (truthWord b)))
  | number n => .leaf (.number n.value none)
  | text s => .leaf (.text s none)
  | list items => .list (nodes items) none
  | record members => .record (memberNodes members) none

/-- The trees of values. -/
def nodes : List Value → List Node
  | [] => []
  | v :: rest => v.node :: nodes rest

/-- The trees of members. -/
def memberNodes : List (Except Mistake String × Value) → List (Token × Node)
  | [] => []
  | (name, v) :: rest => (.text name none, v.node) :: memberNodes rest

end

/-- The trees of members whose names have characters. -/
theorem memberNodes_map {α : Type} (name : α → String) (value : α → Value) (xs : List α) :
    memberNodes (xs.map fun x => (.ok (name x), value x)) =
      xs.map (treeMember name fun x => (value x).node) := by
  induction xs with
  | nil => rfl
  | cons x xs ih => exact congrArg (treeMember name (fun x => (value x).node) x :: ·) ih

/-- A value can be passed over. -/
theorem mistake?_node (v : Value) : v.node.mistake? = none := by
  cases v <;> rfl

end Value

/-! ## How it is spelled -/

/-- Characters that may stand around the parts of a text. -/
def Blank (cs : List Char) : Prop := ∀ c ∈ cs, isBlank c = true

/-- What the grammar tells the spelling of. -/
inductive Part where
  | value (v : Value)
  /-- What follows an item of a list, up to its end. -/
  | items (rest : List Value)
  | member (name : Except Mistake String) (v : Value)
  /-- What follows a member of a record, up to its end. -/
  | members (rest : List (Except Mistake String × Value))

/-- The grammar of JSON. -/
inductive Spells : Part → List Char → Prop
  | null : Spells (.value .null) (Word.letters .null)
  | truth (b : Bool) : Spells (.value (.truth b)) (truthWord b).letters
  | number {n : Numeral} {cs : List Char} (spelled : n.Spells cs) : Spells (.value (.number n)) cs
  | text (ps : List Piece) : Spells (.value (.text (stringOf ps))) (quoted ps)
  | emptyList {b : List Char} (blank : Blank b) : Spells (.value (.list [])) ('[' :: (b ++ [']']))
  | list {b cs ds : List Char} {v : Value} {rest : List Value} (blank : Blank b)
      (first : Spells (.value v) cs) (others : Spells (.items rest) ds) :
      Spells (.value (.list (v :: rest))) ('[' :: (b ++ (cs ++ ds)))
  | emptyRecord {b : List Char} (blank : Blank b) :
      Spells (.value (.record [])) ('\x7b' :: (b ++ ['\x7d']))
  | record {b cs ds : List Char} {name : Except Mistake String} {v : Value}
      {rest : List (Except Mistake String × Value)} (blank : Blank b) (first : Spells (.member name v) cs)
      (others : Spells (.members rest) ds) :
      Spells (.value (.record ((name, v) :: rest))) ('\x7b' :: (b ++ (cs ++ ds)))
  | endList {b : List Char} (blank : Blank b) : Spells (.items []) (b ++ [']'])
  | item {b b' cs ds : List Char} {v : Value} {rest : List Value} (before : Blank b) (after : Blank b')
      (next : Spells (.value v) cs) (others : Spells (.items rest) ds) :
      Spells (.items (v :: rest)) (b ++ ',' :: (b' ++ (cs ++ ds)))
  | member {b b' cs : List Char} (ps : List Piece) {v : Value} (before : Blank b) (after : Blank b')
      (value : Spells (.value v) cs) :
      Spells (.member (stringOf ps) v) (quoted ps ++ (b ++ ':' :: (b' ++ cs)))
  | endRecord {b : List Char} (blank : Blank b) : Spells (.members []) (b ++ ['\x7d'])
  | nextMember {b b' cs ds : List Char} {name : Except Mistake String} {v : Value}
      {rest : List (Except Mistake String × Value)} (before : Blank b) (after : Blank b')
      (next : Spells (.member name v) cs) (others : Spells (.members rest) ds) :
      Spells (.members ((name, v) :: rest)) (b ++ ',' :: (b' ++ (cs ++ ds)))

/-- A text spells one value, with blanks around it. -/
def Denotes (text : String) (v : Value) : Prop :=
  ∃ b cs b', Blank b ∧ Blank b' ∧ Spells (.value v) cs ∧ text.toList = b ++ (cs ++ b')

/-! ## What is written is spelled -/

/-- A string that is written is a string of the grammar. -/
theorem exists_quoted (s : String) : ∃ ps, quoted ps = escape s.toList ∧ stringOf ps = .ok s := by
  obtain ⟨ps, spelled, stands⟩ := Literal.exists_pieces s.toList
  refine ⟨ps, ?_, ?_⟩
  · rw [quoted, escape, spelled, List.cons_append]
  · rw [stringOf, stands, Except.map, String.ofList_toList]

/-- A written string spells the text. -/
theorem spells_escape (s : String) : Spells (.value (.text (.ok s))) (escape s.toList) := by
  obtain ⟨ps, spelled, stands⟩ := exists_quoted s
  rw [← spelled, ← stands]
  exact .text ps

/-- A written name, a colon among blanks and a value spell a member. -/
theorem spells_member (name : String) {b b' cs : List Char} {v : Value} (before : Blank b)
    (after : Blank b') (value : Spells (.value v) cs) :
    Spells (.member (.ok name) v) (escape name.toList ++ (b ++ ':' :: (b' ++ cs))) := by
  obtain ⟨ps, spelled, stands⟩ := exists_quoted name
  rw [← spelled, ← stands]
  exact .member ps before after value

/-! ## Tokens -/

/-- The token of a string that is spelled in pieces. -/
theorem token_pieces (ps : List Piece) (rest : List Char) :
    Literal.token (ps.flatMap Piece.spelling ++ '"' :: rest) =
      (.text (stringOf ps) none, some rest) := by
  rw [Literal.token, Literal.skip_pieces, Literal.read_pieces, stringOf]
  cases characters ps <;> rfl

/-- The pieces of a string, and what comes after it. -/
theorem quoted_append (ps : List Piece) (rest : List Char) :
    quoted ps ++ rest = '"' :: (ps.flatMap Piece.spelling ++ '"' :: rest) := by
  rw [quoted, List.cons_append, List.append_assoc]
  rfl

/-- A token stands at the beginning of a text, as it is spelled. -/
inductive Taken : List Char → Token → List Char → Prop
  | openList {more : List Char} : Taken ('[' :: more) .openList more
  | closeList {more : List Char} : Taken (']' :: more) .closeList more
  | openRecord {more : List Char} : Taken ('\x7b' :: more) .openRecord more
  | closeRecord {more : List Char} : Taken ('\x7d' :: more) .closeRecord more
  | comma {more : List Char} : Taken (',' :: more) .comma more
  | colon {more : List Char} : Taken (':' :: more) .colon more
  | word (w : Word) {more : List Char} : Taken (w.letters ++ more) (.word (.ok w)) more
  | number {n : Numeral} {cs more : List Char} (spelled : n.Spells cs) :
      Taken (cs ++ more) (.number n.value none) more
  | text (ps : List Piece) {more : List Char} :
      Taken (quoted ps ++ more) (.text (stringOf ps) none) more

/-- Where a string is read it can be skipped. -/
theorem Literal.skip_of_token {rest more : List Char} {t : Token}
    (found : Literal.token rest = (t, some more)) : Literal.skip rest = .ok more := by
  unfold Literal.token at found
  split at found
  · next skips =>
    cases found
    exact skips
  · cases found

/-- A word is dropped where its letters come next. -/
theorem dropWord_ok {ws cs rest : List Char} (drops : dropWord ws cs = .ok rest) : cs = ws ++ rest := by
  fun_induction dropWord ws cs with
  | case1 =>
    cases drops
    rfl
  | case2 | case4 => cases drops
  | case3 ws w cs ih => rw [ih drops]; rfl

/-- A word that is read is spelled by its letters. -/
theorem taken_of_word {w : Word} {c : Char} {rest more : List Char} {t : Token}
    (first : w.letters = c :: w.letters.tail) (found : w.token rest = (t, some more)) :
    Taken (c :: rest) t more := by
  unfold Word.token at found
  split at found
  · next drops =>
    cases found
    rw [dropWord_ok drops, ← List.cons_append, ← first]
    exact .word w
  · cases found

/-- What is taken off a text is spelled there. -/
theorem taken_of_take {c : Char} {rest more : List Char} {t : Token}
    (found : Token.take c rest = (t, some more)) : Taken (c :: rest) t more := by
  unfold Token.take at found
  split at found
  case h_1 => cases found; exact .openList
  case h_2 => cases found; exact .closeList
  case h_3 => cases found; exact .openRecord
  case h_4 => cases found; exact .closeRecord
  case h_5 => cases found; exact .comma
  case h_6 => cases found; exact .colon
  case h_7 =>
    obtain ⟨ps, rfl⟩ := Literal.pieces_of_skip (Literal.skip_of_token found)
    rw [token_pieces] at found
    cases found
    rw [← quoted_append]
    exact .text ps
  case h_8 => exact taken_of_word rfl found
  case h_9 => exact taken_of_word rfl found
  case h_10 => exact taken_of_word rfl found
  case h_11 =>
    split at found
    · unfold Numeral.token at found
      split at found
      · next scans =>
        cases found
        obtain ⟨body, spelled, shape⟩ := Numeral.spells_of_scan scans
        rw [shape]
        exact .number spelled
      · cases found
    · cases found

/-- What stands for a token where none can be taken off a text. -/
inductive Broken : Token → Prop
  | number (mistake : Mistake) : Broken (.number (.error mistake) (some .badNumeral))
  | word (mistake : Mistake) : Broken (.word (.error mistake))
  | text (value : Except Mistake String) (mistake : Mistake) : Broken (.text value (some mistake))
  | stray : Broken .stray

/-- A token after which nothing can be read is broken. -/
theorem broken_of_take {c : Char} {rest : List Char} {t : Token} (found : Token.take c rest = (t, none)) :
    Broken t := by
  unfold Token.take at found
  split at found
  case h_7 =>
    unfold Literal.token at found
    split at found
    · cases found
    · cases found
      exact .text _ _
  case h_8 | h_9 | h_10 =>
    unfold Word.token at found
    split at found
    · cases found
    · cases found
      exact .word _
  case h_11 =>
    split at found
    · unfold Numeral.token at found
      split at found
      · cases found
      · cases found
        exact .number _
    · cases found
      exact .stray
  all_goals cases found

/-- A broken token ends the reading. -/
theorem Broken.ends {t : Token} (broken : Broken t) (place : Place) (frames : List Frame) :
    ∃ d, (Progress.reading place frames).step t = .ended d := by
  cases broken <;> cases place with
  | next => cases frames with
    | nil => exact ⟨_, rfl⟩
    | cons frame frames => cases frame <;> exact ⟨_, rfl⟩
  | value | item | name | member | colon => exact ⟨_, rfl⟩

/-- A token ends a list, or is another one. -/
theorem Taken.closeList_or {cs more : List Char} {t : Token} (taken : Taken cs t more) :
    cs = ']' :: more ∨ t ≠ .closeList := by
  cases taken with
  | closeList => exact .inl rfl
  | _ => exact .inr Token.noConfusion

/-- Only a bracket ends a list. -/
theorem take_ne_closeList {c : Char} (other : c ≠ ']') (rest : List Char) :
    (Token.take c rest).1 ≠ .closeList := by
  rcases found : Token.take c rest with ⟨t, _ | more⟩
  · cases broken_of_take found <;> exact Token.noConfusion
  · rcases (taken_of_take found).closeList_or with same | differs
    · exact absurd (List.cons.inj same).1 other
    · exact differs

/-! ## What is spelled is read -/

/-- No blanks are blank. -/
theorem blank_nil : Blank [] := List.forall_mem_nil _

/-- Of blanks the first is blank, and the others are. -/
theorem Blank.of_cons {c : Char} {b : List Char} (blank : Blank (c :: b)) :
    isBlank c = true ∧ Blank b :=
  List.forall_mem_cons.mp blank

/-- Blanks are passed over. -/
theorem follow_blank {b : List Char} (blank : Blank b) (p : Progress) (cs : List Char) :
    follow p (b ++ cs) = follow p cs := by
  induction b with
  | nil => rfl
  | cons c b ih =>
    obtain ⟨first, others⟩ := blank.of_cons
    rw [← ih others, List.cons_append, follow, tokensOnto, if_pos first, ← follow]

/-- A blank continues no numeral. -/
theorem boundary_of_isBlank {c : Char} (blank : isBlank c = true) (cs : List Char) :
    Boundary (c :: cs) := by
  rintro _ ⟨⟩
  simp only [isBlank, Bool.or_eq_true, decide_eq_true_eq] at blank
  obtain ((rfl | rfl) | rfl) | rfl := blank <;> decide

/-- Nor does the end of the text. -/
theorem boundary_nil : Boundary [] := fun c first => by cases first

/-- So what follows blanks must continue none only if there are no blanks. -/
theorem Blank.boundary {b cs : List Char} (blank : Blank b) (ends : Boundary cs) :
    Boundary (b ++ cs) := by
  cases b with
  | nil => exact ends
  | cons c b => exact boundary_of_isBlank blank.of_cons.1 _

/-- The end of a list continues no numeral. -/
theorem boundary_closeList (rest : List Char) : Boundary (']' :: rest) := by
  rintro _ ⟨⟩
  decide

/-- The opening of a list is one step. -/
theorem follow_openList (p : Progress) (rest : List Char) :
    follow p ('[' :: rest) = follow (p.step .openList) rest :=
  follow_take rfl p (by decide)

/-- The closing of a list is one step. -/
theorem follow_closeList (p : Progress) (rest : List Char) :
    follow p (']' :: rest) = follow (p.step .closeList) rest :=
  follow_take rfl p (by decide)

/-- A string is one token. -/
theorem follow_quoted (ps : List Piece) (p : Progress) (rest : List Char) :
    follow p (quoted ps ++ rest) = follow (p.step (.text (stringOf ps) none)) rest := by
  have found : Token.take '"' (ps.flatMap Piece.spelling ++ '"' :: rest) =
      (.text (stringOf ps) none, some rest) := token_pieces ps rest
  rw [quoted_append]
  exact follow_take found p (by decide)

/-- A word is one token. -/
theorem follow_letters (w : Word) (p : Progress) (rest : List Char) :
    follow p (w.letters ++ rest) = follow (p.step (.word (.ok w))) rest := by
  cases w with
  | null =>
    have found : Token.take 'n' ('u' :: 'l' :: 'l' :: rest) = (.word (.ok .null), some rest) := rfl
    exact follow_take found p (by decide)
  | true =>
    have found : Token.take 't' ('r' :: 'u' :: 'e' :: rest) = (.word (.ok .true), some rest) := rfl
    exact follow_take found p (by decide)
  | false =>
    have found : Token.take 'f' ('a' :: 'l' :: 's' :: 'e' :: rest) =
        (.word (.ok .false), some rest) := rfl
    exact follow_take found p (by decide)

/-- What begins with a minus sign or a digit is a numeral. -/
theorem take_numeral {c : Char} (first : c = '-' ∨ c.isDigit = true) (rest : List Char) :
    Token.take c rest = Numeral.token (c :: rest) := by
  rcases first with rfl | digit
  · rfl
  · exact take_digit digit rest

/-- A numeral begins with no blank, and does not end a list. -/
theorem visible_numeral {c : Char} (first : c = '-' ∨ c.isDigit = true) :
    ¬ isBlank c = true ∧ c ≠ ']' := by
  rcases first with rfl | digit
  · exact ⟨by decide, by decide⟩
  · refine ⟨not_isBlank_digit digit, ?_⟩
    rintro rfl
    cases digit

/-- A numeral is one token, if what follows cannot continue it. -/
theorem follow_numeral {n : Numeral} {cs rest : List Char} (spelled : n.Spells cs)
    (boundary : Boundary rest) (p : Progress) :
    follow p (cs ++ rest) = follow (p.step (.number n.value none)) rest := by
  have token : Numeral.token (cs ++ rest) = (.number n.value none, some rest) := by
    rw [Numeral.token, Numeral.scan_append spelled boundary]
  obtain ⟨c, more, rfl, first⟩ := spelled.first
  exact follow_take ((take_numeral first _).trans token) p (visible_numeral first).1

/-- A character that is not blank begins a token. -/
theorem follow_visible {c : Char} (visible : ¬ isBlank c = true) (rest : List Char) :
    (∃ t more, Token.take c rest = (t, some more) ∧
        ∀ p, follow p (c :: rest) = follow (p.step t) more) ∨
      ∃ t, Token.take c rest = (t, none) ∧ ∀ p, follow p (c :: rest) = p.step t := by
  rcases found : Token.take c rest with ⟨t, _ | more⟩
  · refine .inr ⟨t, rfl, fun p => ?_⟩
    rw [follow, tokensOnto_take_none visible found]
    rfl
  · exact .inl ⟨t, more, rfl, fun p => follow_take found p visible⟩

/-- Where an item may stand a value is due, unless the list ends. -/
theorem step_item {t : Token} (other : t ≠ .closeList) (frames : List Frame) :
    (Progress.reading .item frames).step t = (Progress.reading .value frames).step t := by
  cases t with
  | closeList => exact absurd rfl other
  | _ => rfl

/-- Where an item or the end of a list is due, an item is read as any value. -/
theorem follow_item {c : Char} (visible : ¬ isBlank c = true) (other : c ≠ ']') (frames : List Frame)
    (rest : List Char) :
    follow (.reading .item frames) (c :: rest) = follow (.reading .value frames) (c :: rest) := by
  have opens := take_ne_closeList other rest
  rcases follow_visible visible rest with ⟨t, more, found, goes⟩ | ⟨t, found, goes⟩
  all_goals
    rw [found] at opens
    rw [goes, goes, step_item opens]

/-- The first character of a value. -/
theorem Spells.first {v : Value} {cs : List Char} (spelled : Spells (.value v) cs) :
    ∃ c more, cs = c :: more ∧ ¬ isBlank c = true ∧ c ≠ ']' := by
  cases spelled with
  | null => exact ⟨_, _, rfl, by decide, by decide⟩
  | truth b => cases b <;> exact ⟨_, _, rfl, by decide, by decide⟩
  | text | emptyList | list | emptyRecord | record => exact ⟨_, _, rfl, by decide, by decide⟩
  | number spelled =>
    obtain ⟨c, more, rfl, first⟩ := spelled.first
    exact ⟨c, more, rfl, visible_numeral first⟩

/-- What a reader makes of a part of a text, wherever it stands. -/
def Part.Reads : Part → List Char → Prop
  | value v, cs => Written cs v.node
  | items rest, cs => ∀ found frames more,
      follow (.reading .next (.list found :: frames)) (cs ++ more) =
        follow (.complete (.list (found.reverse ++ Value.nodes rest) none) frames) more
  | member name v, cs => ∀ place, place = Place.name ∨ place = .member →
      ∀ found last frames more, Boundary more →
        follow (.reading place (.record found last :: frames)) (cs ++ more) =
          follow (.reading .next (.record ((.text name none, v.node) :: found) .missing :: frames)) more
  | members rest, cs => ∀ found last frames more,
      follow (.reading .next (.record found last :: frames)) (cs ++ more) =
        follow (.complete (.record (found.reverse ++ Value.memberNodes rest) none) frames) more

/-- What follows an item or a member begins with no numeral. -/
theorem Spells.boundary {part : Part} {cs : List Char} (spelled : Spells part cs) (more : List Char) :
    (match part with
      | .items _ | .members _ => Boundary (cs ++ more)
      | .value _ | .member _ _ => True) := by
  cases spelled with
  | endList blank =>
    rw [List.append_assoc]
    exact blank.boundary (boundary_closeList more)
  | endRecord blank =>
    rw [List.append_assoc]
    exact blank.boundary (boundary_closeRecord more)
  | item before | nextMember before =>
    rw [List.append_assoc]
    exact before.boundary (boundary_comma _)
  | _ => trivial

/-- A name is read where one is due. -/
theorem step_name (name : Except Mistake String) {place : Place} (due : place = .name ∨ place = .member)
    (found : List (Token × Node)) (last : Token) (frames : List Frame) :
    (Progress.reading place (.record found last :: frames)).step (.text name none) =
      .reading .colon (.record found (.text name none) :: frames) := by
  rcases due with rfl | rfl <;> rfl

/-- Whatever the grammar spells, the reader reads. -/
theorem Spells.reads {part : Part} {cs : List Char} (spelled : Spells part cs) : part.Reads cs := by
  -- each case passes over its blanks and takes its own tokens, and leaves the parts to the induction
  induction spelled with
  | null => exact fun frames rest _ => follow_letters .null _ rest
  | truth b => exact fun frames rest _ => follow_letters (truthWord b) _ rest
  | number spelled => exact fun frames rest boundary => follow_numeral spelled boundary _
  | text ps =>
    intro frames rest _
    rw [follow_quoted]
    rfl
  | emptyList blank =>
    intro frames rest _
    rw [List.cons_append, List.append_assoc, follow_openList, follow_blank blank]
    exact follow_closeList _ rest
  | list blank first others value items =>
    intro frames rest _
    have opened : (Progress.reading .value frames).step .openList =
        .reading .item (.list [] :: frames) := rfl
    -- what begins the first item does not end the list
    obtain ⟨c, more, rfl, visible, other⟩ := first.first
    have read := value (.list [] :: frames) _ (others.boundary rest)
    rw [List.cons_append] at read
    rw [List.cons_append, List.append_assoc, List.append_assoc, follow_openList, follow_blank blank,
      opened, List.cons_append, follow_item visible other, read]
    exact items _ frames rest
  | emptyRecord blank =>
    intro frames rest _
    rw [List.cons_append, List.append_assoc, follow_openRecord, follow_blank blank]
    exact follow_closeRecord _ rest
  | record blank first others member members =>
    intro frames rest _
    rw [List.cons_append, List.append_assoc, List.append_assoc, follow_openRecord, follow_blank blank]
    have opened : (Progress.reading .value frames).step .openRecord =
        .reading .member (.record [] .missing :: frames) := rfl
    rw [opened, member .member (.inr rfl) _ _ _ _ (others.boundary rest)]
    exact members _ _ frames rest
  | endList blank =>
    intro found frames more
    rw [List.append_assoc, follow_blank blank, Value.nodes, List.append_nil]
    exact follow_closeList _ more
  | item before after next others value items =>
    intro found frames more
    have comma : (Progress.reading .next (.list found :: frames)).step .comma =
        .reading .value (.list found :: frames) := rfl
    rw [List.append_assoc, follow_blank before, List.cons_append, follow_comma, comma, List.append_assoc,
      follow_blank after, List.append_assoc, value _ _ (others.boundary more)]
    refine (items _ frames more).trans ?_
    rw [List.reverse_cons, List.append_assoc]
    rfl
  | member ps before after value reads =>
    intro place due found last frames more boundary
    rw [List.append_assoc, follow_quoted, step_name _ due, List.append_assoc, follow_blank before,
      List.cons_append, follow_colon, List.append_assoc, follow_blank after]
    exact reads _ _ boundary
  | endRecord blank =>
    intro found last frames more
    rw [List.append_assoc, follow_blank blank, Value.memberNodes, List.append_nil]
    exact follow_closeRecord _ more
  | nextMember before after next others member members =>
    intro found last frames more
    have comma : (Progress.reading .next (.record found last :: frames)).step .comma =
        .reading .name (.record found last :: frames) := rfl
    rw [List.append_assoc, follow_blank before, List.cons_append, follow_comma, comma, List.append_assoc,
      follow_blank after, List.append_assoc, member .name (.inl rfl) _ _ _ _ (others.boundary more),
      members, List.reverse_cons, List.append_assoc]
    rfl

/-- The reader builds the tree of the value that a text spells. -/
theorem ofText_of_denotes {text : String} {v : Value} (spelled : Denotes text v) :
    Document.ofText text = ⟨v.node, false⟩ := by
  obtain ⟨b, cs, b', before, after, body, shape⟩ := spelled
  have read := body.reads [] b' (by rw [← List.append_nil b']; exact after.boundary boundary_nil)
  have ends : follow (Progress.complete v.node []) b' = .whole v.node := by
    rw [← List.append_nil b', follow_blank after, follow_nil]
    rfl
  rw [← String.ofList_toList (s := text), ofText_eq_follow, shape, follow_blank before, read, ends]
  rfl

end Relay.Json
