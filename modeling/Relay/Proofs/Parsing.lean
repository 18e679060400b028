import Relay.Proofs.Grammar

/-!
# Texts that are read to their end

A text from which the reader builds a whole tree, with nothing after it, spells a value. A reader that has met
a mistake never gets over it, so what it reads to the end it reads token by token, and each token is spelled in
the text: `Taken`. The induction is on the length of the text; `Understood` is what a reader that is due for a
value, an item or a member finds.
-/

namespace Relay.Json

open Piece (quoted)

/-! ## Readers that have met a mistake -/

/-- A document that is cut off, or that something follows. -/
def Document.IsFaulty (d : Document) : Prop := d.trailing = true ∨ d.root.mistake? ≠ none

/-- A reader has ended only with a mistake. -/
def Progress.IsFair : Progress → Prop
  | ended d => d.IsFaulty
  | reading _ _ | whole _ => True

/-- A mistake stays one when the frames around it are closed. -/
theorem Frame.mistake?_collapse (mistake : Mistake) (frames : List Frame) : ∀ {node : Node},
    node.mistake? ≠ none → (Frame.collapse mistake node frames).mistake? ≠ none := by
  induction frames with
  | nil => exact id
  | cons frame frames ih =>
    intro node _
    refine ih ?_
    cases frame <;> exact Option.some_ne_none _

namespace Document

/-- A document broken off at a mistake is faulty. -/
theorem isFaulty_broken (mistake : Mistake) {node : Node} (frames : List Frame)
    (faulty : node.mistake? ≠ none) : (broken mistake node frames).IsFaulty :=
  .inr (Frame.mistake?_collapse mistake frames faulty)

/-- So is one broken off after a value, inside or outside of any frame. -/
theorem isFaulty_brokenAfter (mistake : Frame → Mistake) (frames : List Frame) :
    (brokenAfter mistake frames).IsFaulty := by
  cases frames with
  | nil => exact isFaulty_broken _ [] (Option.some_ne_none _)
  | cons frame frames =>
    refine isFaulty_broken _ frames ?_
    cases frame <;> exact Option.some_ne_none _

/-- So is one broken off at a name. -/
theorem isFaulty_brokenName (mistake : Mistake) (name : Token) (frames : List Frame) :
    (brokenName mistake name frames).IsFaulty := by
  unfold brokenName
  split <;> exact isFaulty_broken mistake _ (Option.some_ne_none _)

end Document

namespace Progress

open Document (isFaulty_broken isFaulty_brokenAfter isFaulty_brokenName)

/-- A value that is complete leaves a fair reader. -/
theorem isFair_complete (node : Node) (frames : List Frame) : (complete node frames).IsFair := by
  cases frames <;> trivial

/-- So does the end of a list or a record. -/
theorem isFair_completeInnermost (frames : List Frame) : (completeInnermost frames).IsFair := by
  cases frames with
  | nil => exact isFaulty_broken _ [] (Option.some_ne_none _)
  | cons frame frames => exact isFair_complete _ frames

/-- So does a token where a value is due. -/
theorem isFair_value (frames : List Frame) (t : Token) : (value frames t).IsFair := by
  unfold value
  split
  · trivial
  · trivial
  · split
    · exact isFair_complete _ frames
    · next cut => exact isFaulty_broken _ frames (by rw [Node.mistake?, cut]; exact Option.some_ne_none _)

/-- So does one where a name is due. -/
theorem isFair_name (frames : List Frame) (t : Token) : (name frames t).IsFair := by
  unfold name
  split
  · trivial
  · exact isFaulty_brokenName _ _ _
  · exact isFaulty_brokenName _ _ _

/-- So does one where a comma or an end is due. -/
theorem isFair_next (frames : List Frame) (t : Token) : (next frames t).IsFair := by
  unfold next
  split
  · trivial
  · trivial
  · exact isFair_completeInnermost _
  · exact isFair_completeInnermost _
  · exact isFaulty_brokenAfter _ _

/-- One more token leaves a reader fair. -/
theorem IsFair.step {p : Progress} (fair : p.IsFair) (t : Token) : (p.step t).IsFair := by
  unfold Progress.step
  split
  · exact isFair_value _ _
  · exact isFair_completeInnermost _
  · exact isFair_value _ _
  · exact isFair_name _ _
  · exact isFair_completeInnermost _
  · exact isFair_name _ _
  · trivial
  · exact isFaulty_broken _ _ (Option.some_ne_none _)
  · exact isFair_next _ _
  · exact .inl rfl
  · exact fair

/-- So do any number of tokens. -/
theorem IsFair.steps {p : Progress} (fair : p.IsFair) (ts : List Token) :
    (ts.foldl Progress.step p).IsFair := by
  induction ts generalizing p with
  | nil => exact fair
  | cons t ts ih => exact ih (fair.step t)

/-- A fair reader has read a value to its end if it tells no mistake. -/
theorem IsFair.eq_whole {p : Progress} {root : Node} (fair : p.IsFair)
    (ends : p.document = ⟨root, false⟩) (clean : root.mistake? = none) : p = .whole root := by
  have faulty : ¬ p.document.IsFaulty := by
    rw [ends]
    rintro (trailing | cut)
    · cases trailing
    · exact cut clean
  cases p with
  | whole node =>
    cases ends
    rfl
  | ended d => exact absurd fair faulty
  | reading place frames =>
    refine absurd ?_ faulty
    cases place with
    | next | item | member => exact isFaulty_brokenAfter _ _
    | name => exact isFaulty_brokenName _ _ _
    | value | colon => exact isFaulty_broken _ _ (Option.some_ne_none _)

end Progress

/-- A reader that has ended stays where it is. -/
theorem follow_ended (d : Document) (cs : List Char) : follow (.ended d) cs = .ended d := by
  unfold follow
  induction (tokensOnto [] cs).reverse with
  | nil => rfl
  | cons t ts ih => exact ih

/-- A reader that has ended reads no value to its end. -/
theorem not_whole_of_ended {d : Document} {cs : List Char} {root : Node} :
    follow (.ended d) cs ≠ .whole root := by
  rw [follow_ended]
  exact fun same => by cases same

/-! ## Tokens that are taken -/

/-- Blanks, and then nothing or a character that is not blank. -/
theorem exists_blank (cs : List Char) :
    ∃ b rest, Blank b ∧ cs = b ++ rest ∧ ∀ c ∈ rest.head?, ¬ isBlank c = true := by
  induction cs with
  | nil => exact ⟨[], [], blank_nil, rfl, fun c first => by cases first⟩
  | cons c cs ih =>
    by_cases blank : isBlank c = true
    · obtain ⟨b, rest, blanks, rfl, visible⟩ := ih
      exact ⟨c :: b, rest, List.forall_mem_cons.mpr ⟨blank, blanks⟩, rfl, visible⟩
    · exact ⟨[], c :: cs, blank_nil, rfl, fun d first => by cases first; exact blank⟩

/-- A reader that something has to come for yet, and that reads to the end, takes a token. -/
theorem taken_of_whole {place : Place} {frames : List Frame} {cs : List Char} {root : Node}
    (reads : follow (.reading place frames) cs = .whole root) :
    ∃ b rest t more, Blank b ∧ cs = b ++ rest ∧ Taken rest t more ∧
      ∀ p, follow p cs = follow (p.step t) more := by
  obtain ⟨b, rest, blank, rfl, visible⟩ := exists_blank cs
  rw [follow_blank blank] at reads
  cases rest with
  | nil =>
    rw [follow_nil] at reads
    cases reads
  | cons c rest =>
    rcases follow_visible (visible c rfl) rest with ⟨t, more, found, goes⟩ | ⟨t, found, goes⟩
    · exact ⟨b, c :: rest, t, more, blank, rfl, taken_of_take found,
        fun p => (follow_blank blank p _).trans (goes p)⟩
    · obtain ⟨d, ends⟩ := (broken_of_take found).ends place frames
      rw [goes, ends] at reads
      cases reads

/-! ## Parts that are read to the end -/

/-- What a reader that reads to the end of a text finds there, by what it is due for. -/
structure Understood (cs : List Char) : Prop where
  value : ∀ {frames : List Frame} {root : Node}, follow (.reading .value frames) cs = .whole root →
    ∃ b v body rest, Blank b ∧ Spells (.value v) body ∧ cs = b ++ (body ++ rest) ∧
      follow (.complete v.node frames) rest = .whole root
  items : ∀ {found : List Node} {frames : List Frame} {root : Node},
    follow (.reading .next (.list found :: frames)) cs = .whole root →
    ∃ vs body rest, Spells (.items vs) body ∧ cs = body ++ rest ∧
      follow (.complete (.list (found.reverse ++ Value.nodes vs) none) frames) rest = .whole root
  member : ∀ {found : List (Token × Node)} {last : Token} {frames : List Frame} {root : Node},
    follow (.reading .name (.record found last :: frames)) cs = .whole root →
    ∃ b name v body rest, Blank b ∧ Spells (.member name v) body ∧ cs = b ++ (body ++ rest) ∧
      follow (.reading .next (.record ((.text name none, v.node) :: found) .missing :: frames)) rest =
        .whole root
  members : ∀ {found : List (Token × Node)} {last : Token} {frames : List Frame} {root : Node},
    follow (.reading .next (.record found last :: frames)) cs = .whole root →
    ∃ ms body rest, Spells (.members ms) body ∧ cs = body ++ rest ∧
      follow (.complete (.record (found.reverse ++ Value.memberNodes ms) none) frames) rest =
        .whole root

section Steps

variable {cs : List Char} {frames : List Frame} {root : Node}

/-- Where an item or the end of a list is due, one of them comes. -/
theorem item_or_end (reads : follow (.reading .item frames) cs = .whole root) :
    (∃ b more, Blank b ∧ cs = b ++ ']' :: more ∧
      follow (.completeInnermost frames) more = .whole root) ∨
    follow (.reading .value frames) cs = .whole root := by
  obtain ⟨b, rest, t, more, blank, rfl, taken, goes⟩ := taken_of_whole reads
  rw [goes] at reads
  cases taken with
  | closeList => exact .inl ⟨b, more, blank, rfl, reads⟩
  | _ => exact .inr ((goes _).trans reads)

@[inherit_doc item_or_end]
theorem member_or_end (reads : follow (.reading .member frames) cs = .whole root) :
    (∃ b more, Blank b ∧ cs = b ++ '\x7d' :: more ∧
      follow (.completeInnermost frames) more = .whole root) ∨
    follow (.reading .name frames) cs = .whole root := by
  obtain ⟨b, rest, t, more, blank, rfl, taken, goes⟩ := taken_of_whole reads
  rw [goes] at reads
  cases taken with
  | closeRecord => exact .inl ⟨b, more, blank, rfl, reads⟩
  | _ => exact .inr ((goes _).trans reads)

variable (ih : ∀ ds : List Char, ds.length < cs.length → Understood ds)
include ih

/-- A reader that is due for a value, and reads the text to its end, finds one spelled there after blanks.
-/
theorem value_of_whole (reads : follow (.reading .value frames) cs = .whole root) :
    ∃ b v body rest, Blank b ∧ Spells (.value v) body ∧ cs = b ++ (body ++ rest) ∧
      follow (.complete v.node frames) rest = .whole root := by
  obtain ⟨b, text, t, more, blank, rfl, taken, goes⟩ := taken_of_whole reads
  rw [goes] at reads
  cases taken with
  | openList =>
    rcases item_or_end reads with ⟨b', after, blank', rfl, ends⟩ | opened
    · exact ⟨b, .list [], _, after, blank, .emptyList blank', by simp, ends⟩
    · obtain ⟨b', v, body, rest, blank', spelled, rfl, goesOn⟩ := (ih _ (by simp; omega)).value opened
      obtain ⟨vs, body', after, items, rfl, ends⟩ := (ih rest (by simp; omega)).items goesOn
      exact ⟨b, .list (v :: vs), _, after, blank, .list blank' spelled items, by simp, ends⟩
  | openRecord =>
    rcases member_or_end reads with ⟨b', after, blank', rfl, ends⟩ | opened
    · exact ⟨b, .record [], _, after, blank, .emptyRecord blank', by simp, ends⟩
    · obtain ⟨b', name, v, body, rest, blank', spelled, rfl, goesOn⟩ :=
        (ih _ (by simp; omega)).member opened
      obtain ⟨ms, body', after, members, rfl, ends⟩ := (ih rest (by simp; omega)).members goesOn
      exact ⟨b, .record ((name, v) :: ms), _, after, blank, .record blank' spelled members, by simp, ends⟩
  | word w =>
    cases w with
    | null => exact ⟨b, .null, _, more, blank, .null, rfl, reads⟩
    | true => exact ⟨b, .truth true, _, more, blank, .truth true, rfl, reads⟩
    | false => exact ⟨b, .truth false, _, more, blank, .truth false, rfl, reads⟩
  | number spelled => exact ⟨b, .number _, _, more, blank, .number spelled, rfl, reads⟩
  | text ps => exact ⟨b, .text _, _, more, blank, .text ps, rfl, reads⟩
  | closeList | closeRecord | comma | colon => exact absurd reads not_whole_of_ended

/-- After an item it finds the other items and the end of the list. -/
theorem items_of_whole {found : List Node}
    (reads : follow (.reading .next (.list found :: frames)) cs = .whole root) :
    ∃ vs body rest, Spells (.items vs) body ∧ cs = body ++ rest ∧
      follow (.complete (.list (found.reverse ++ Value.nodes vs) none) frames) rest =
        .whole root := by
  obtain ⟨b, text, t, more, blank, rfl, taken, goes⟩ := taken_of_whole reads
  rw [goes] at reads
  cases taken with
  | closeList =>
    refine ⟨[], _, more, .endList blank, by simp, ?_⟩
    rw [Value.nodes, List.append_nil]
    exact reads
  | comma =>
    obtain ⟨b', v, body, rest, blank', spelled, rfl, goesOn⟩ := (ih _ (by simp; omega)).value reads
    obtain ⟨vs, body', after, items, rfl, ends⟩ := (ih rest (by simp; omega)).items goesOn
    refine ⟨v :: vs, _, after, .item blank blank' spelled items, by simp, ?_⟩
    rw [List.reverse_cons, List.append_assoc] at ends
    exact ends
  | openList | openRecord | closeRecord | colon | word | number | text =>
    exact absurd reads not_whole_of_ended

/-- Where a name is due it finds a member. -/
theorem member_of_whole {found : List (Token × Node)} {last : Token}
    (reads : follow (.reading .name (.record found last :: frames)) cs = .whole root) :
    ∃ b name v body rest, Blank b ∧ Spells (.member name v) body ∧ cs = b ++ (body ++ rest) ∧
      follow (.reading .next (.record ((.text name none, v.node) :: found) .missing :: frames)) rest =
        .whole root := by
  obtain ⟨b, text, t, more, blank, rfl, taken, goes⟩ := taken_of_whole reads
  rw [goes] at reads
  cases taken with
  | text ps =>
    rw [step_name _ (.inl rfl)] at reads
    obtain ⟨b', text, t, more, blank', rfl, taken, goes'⟩ := taken_of_whole reads
    rw [goes'] at reads
    cases taken with
    | colon =>
      obtain ⟨b'', v, body, rest, blank'', spelled, rfl, ends⟩ := (ih _ (by simp; omega)).value reads
      exact ⟨b, stringOf ps, v, _, rest, blank, .member ps blank' blank'' spelled, by simp, ends⟩
    | openList | closeList | openRecord | closeRecord | comma | word | number | text =>
      exact absurd reads not_whole_of_ended
  | openList | closeList | openRecord | closeRecord | comma | colon | word | number =>
    exact absurd reads not_whole_of_ended

/-- After a member it finds the other members and the end of the record. -/
theorem members_of_whole {found : List (Token × Node)} {last : Token}
    (reads : follow (.reading .next (.record found last :: frames)) cs = .whole root) :
    ∃ ms body rest, Spells (.members ms) body ∧ cs = body ++ rest ∧
      follow (.complete (.record (found.reverse ++ Value.memberNodes ms) none) frames) rest =
        .whole root := by
  obtain ⟨b, text, t, more, blank, rfl, taken, goes⟩ := taken_of_whole reads
  rw [goes] at reads
  cases taken with
  | closeRecord =>
    refine ⟨[], _, more, .endRecord blank, by simp, ?_⟩
    rw [Value.memberNodes, List.append_nil]
    exact reads
  | comma =>
    obtain ⟨b', name, v, body, rest, blank', spelled, rfl, goesOn⟩ :=
      (ih _ (by simp; omega)).member reads
    obtain ⟨ms, body', after, members, rfl, ends⟩ := (ih rest (by simp; omega)).members goesOn
    refine ⟨(name, v) :: ms, _, after, .nextMember blank blank' spelled members, by simp, ?_⟩
    rw [List.reverse_cons, List.append_assoc] at ends
    exact ends
  | openList | openRecord | closeList | colon | word | number | text =>
    exact absurd reads not_whole_of_ended

end Steps

/-- A reader understands every text that it reads to the end. -/
theorem understood (cs : List Char) : Understood cs := by
  -- every part begins after a token, so it is shorter than the text in which it stands
  induction h : cs.length using Nat.strongRecOn generalizing cs with
  | ind n ih =>
    have shorter : ∀ ds : List Char, ds.length < cs.length → Understood ds :=
      fun ds less => ih ds.length (h ▸ less) ds rfl
    exact ⟨value_of_whole shorter, items_of_whole shorter, member_of_whole shorter,
      members_of_whole shorter⟩

/-- Only blanks follow a value that is read to the end. -/
theorem blank_of_whole {cs : List Char} {node root : Node}
    (reads : follow (.whole node) cs = .whole root) : Blank cs ∧ node = root := by
  obtain ⟨b, rest, blank, rfl, visible⟩ := exists_blank cs
  rw [follow_blank blank] at reads
  cases rest with
  | nil =>
    rw [follow_nil] at reads
    cases reads
    exact ⟨by rw [List.append_nil]; exact blank, rfl⟩
  | cons c rest =>
    rcases follow_visible (visible c rfl) rest with ⟨t, more, -, goes⟩ | ⟨t, -, goes⟩
    · rw [goes] at reads
      exact absurd reads not_whole_of_ended
    · rw [goes] at reads
      cases reads

/-- A text from which the reader builds a tree without a mistake spells a value of that tree. -/
theorem denotes_of_ofText {text : String} {root : Node} (reads : Document.ofText text = ⟨root, false⟩)
    (clean : root.mistake? = none) : ∃ v, Denotes text v ∧ v.node = root := by
  rw [← String.ofList_toList (s := text), ofText_eq_follow] at reads
  -- a reader that ends without a mistake has gone through the whole text
  have fair : (follow (.reading .value []) text.toList).IsFair :=
    Progress.IsFair.steps (p := .reading .value []) trivial _
  obtain ⟨b, v, body, rest, blank, spelled, shape, ends⟩ :=
    (understood text.toList).value (fair.eq_whole reads clean)
  obtain ⟨after, same⟩ := blank_of_whole ends
  exact ⟨v, ⟨b, body, rest, blank, after, spelled, shape⟩, same⟩

end Relay.Json
