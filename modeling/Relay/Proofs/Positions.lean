import Mathlib.Data.List.Basic
import Mathlib.Data.List.Nodup
import Mathlib.Tactic.Choose
import Relay.Proofs.Objects

/-!
# Messages that are read from lists

A list is read as a message value by value, each as that of the field of its place. So a list of values is read
like the object in which each value stands under the name of its field: for the same message, or with the same
reason why it is none. A list of more values than there are fields is no message, and the values of the fields
of a message, written as a list, are read like the message in its written form.
-/

namespace Relay

open Json (Blank Denotes Spells Value treeMember)

namespace Json

/-- A text that spells a value without blanks around it denotes it. -/
theorem denotes_of_spells {v : Value} {cs : List Char} (spelled : Spells (.value v) cs) :
    Denotes (String.ofList cs) v :=
  ⟨[], cs, [], blank_nil, blank_nil, spelled, by rw [String.toList_ofList, List.append_nil, List.nil_append]⟩

section Lists

variable {α : Type} {text : α → List Char} {value : α → Value} {xs : List α}

/-- Texts of values, each after a comma, are the items of a list. The blanks after a value come before what is
next. -/
theorem spells_items : (∀ x ∈ xs, Denotes (String.ofList (text x)) (value x)) →
    ∀ {b : List Char}, Blank b →
      Spells (.items (xs.map value)) (b ++ ((xs.map text).flatMap (',' :: ·) ++ [']'])) := by
  induction xs with
  | nil => exact fun _ {b} blank => .endList blank
  | cons x xs ih =>
    intro each b blank
    obtain ⟨before, cs, after, blank', blank'', spelled, shape⟩ := each x List.mem_cons_self
    rw [String.toList_ofList] at shape
    have others := ih (fun y later => each y (List.mem_cons_of_mem x later)) blank''
    have item := Spells.item blank blank' spelled others
    simpa only [List.map_cons, List.flatMap_cons, shape, List.cons_append, List.append_assoc] using item

/-- Texts of values with commas between them and brackets around them are a list. -/
theorem denotes_list (each : ∀ x ∈ xs, Denotes (String.ofList (text x)) (value x)) :
    Denotes (String.ofList ('[' :: [','].intercalate (xs.map text) ++ [']'])) (.list (xs.map value)) := by
  refine denotes_of_spells ?_
  cases xs with
  | nil => exact .emptyList blank_nil
  | cons x xs =>
    obtain ⟨before, cs, after, blank, blank', spelled, shape⟩ := each x List.mem_cons_self
    rw [String.toList_ofList] at shape
    have others := spells_items (fun y later => each y (List.mem_cons_of_mem x later)) blank'
    have list := Spells.list blank spelled others
    simpa only [List.map_cons, intercalate_cons, shape, List.cons_append, List.append_assoc] using list

end Lists

end Json

namespace Field

/-- No field is listed twice. -/
theorem nodup_all : all.Nodup := by decide

/-- Values in the order of fields are known by these fields. -/
theorem known_zip (fs : List Field) (values : List Value) :
    known ((fs.map name).zip values) = fs.zip values := by
  have each : (fun e => (ofName? e.1).map fun f => (f, e.2)) ∘ Prod.map name (id : Value → Value) = some :=
    funext fun e => by
      change (ofName? e.1.name).map (fun f => (f, e.2)) = some e
      rw [ofName?_name]
      rfl
  rw [List.zip_map_left, known, List.filterMap_map, each, List.filterMap_some]

/-- Where values run out first, as many fields are paired. -/
theorem map_fst_zip {fs : List Field} {values : List Value} (few : values.length ≤ fs.length) :
    (fs.zip values).map Prod.fst = fs.take values.length := by
  have places : fs.zip values = (fs.take values.length).zip values := by
    rw [List.zip_eq_zip_take_min, Nat.min_eq_right few, List.take_length]
  rw [places, List.map_fst_zip (List.length_take_le ..)]

/-- A field has no value if it comes after the last of them. -/
theorem mem_drop_iff (f : Field) (n : Nat) : f ∈ all.drop n ↔ f ∉ all.take n := by
  constructor
  · exact fun later earlier => List.disjoint_take_drop nodup_all (Nat.le_refl n) earlier later
  · intro absent
    have whole := mem_all f
    rw [← List.take_append_drop n all] at whole
    exact (List.mem_append.mp whole).resolve_left absent

end Field

namespace Message

variable {m : Message} {entries : List (String × String)} {values : List Value} {text : String}

/-! ## Reading values by their places -/

/-- The first value is read as the first field, and the rest into what that leaves. -/
theorem items_cons (found : Message) (f : Field) (fs : List Field) (v : Value) (rest : List Json.Node) :
    Decode.items found (f :: fs) (v.node :: rest) =
      (Decode.field f v.node found).bind fun next => Decode.items next fs rest := by
  cases v <;> rfl

/-- Values are read by their places as they are by the names of the fields there. -/
theorem items_eq_members : ∀ {fs seen : List Field} {values : List Value} {found : Message},
    values.length ≤ fs.length → (fs ++ seen).Nodup →
      Decode.items found fs (Value.nodes values) = Decode.members seen found
        (Value.memberNodes (((fs.map Field.name).zip values).map fun e => (.ok e.1, e.2)))
  | fs, seen, [], found, _, _ => by
    rw [List.zip_nil_right]
    cases fs <;> rfl
  | [], _, _ :: _, _, few, _ => absurd few (Nat.not_succ_le_zero _)
  | f :: fs, seen, v :: values, found, few, distinct => by
    -- no name comes twice, so no member is refused for being repeated
    have new : f ∉ seen := fun before => (List.nodup_cons.mp distinct).1 (List.mem_append_right fs before)
    have later : (fs ++ f :: seen).Nodup := List.perm_middle.nodup_iff.mpr distinct
    rw [List.map_cons, List.zip_cons_cons, List.map_cons, Value.nodes, Value.memberNodes, items_cons,
      members_cons_some (Field.ofName?_name f), if_neg new]
    refine congrArg (Decode.field f v.node found).bind (funext fun next => ?_)
    exact items_eq_members (Nat.le_of_succ_le_succ few) later

/-- More values than fields are never read. -/
theorem length_le_of_items : ∀ {fs : List Field} {values : List Value} {found : Message},
    Decode.items found fs (Value.nodes values) = .ok m → values.length ≤ fs.length
  | _, [], _, _ => Nat.zero_le _
  | [], v :: _, _, read => by cases v <;> cases read
  | _ :: _, _ :: _, _, read => by
    rw [Value.nodes, items_cons] at read
    obtain ⟨_, -, read⟩ := of_bind_ok read
    exact Nat.succ_le_succ (length_le_of_items read)

/-- A list is read like the object in which each value stands under the name of its field. -/
theorem message_list (few : values.length ≤ 13) :
    Decode.message (Value.list values).node = Decode.message
      (Value.record (((Field.all.map Field.name).zip values).map fun e => (.ok e.1, e.2))).node := by
  have distinct : (Field.all ++ []).Nodup := by decide
  have items := @items_eq_members Field.all [] values {} few distinct
  simp only [Value.node, Decode.message, items]
  rfl

/-- A list of few enough values is read for the message that they describe by their places. -/
theorem decode_list_iff (list : Denotes text (.list values)) (few : values.length ≤ 13) :
    decode text = .ok m ↔ Describes (Field.all.zip values) {} m := by
  have distinct : ((Field.all.zip values).map Prod.fst).Nodup := by
    rw [Field.map_fst_zip few]
    exact Field.nodup_all.sublist (List.take_sublist ..)
  rw [decode_eq_ok, read_of_denotes list, message_list few, message_record_iff, Field.known_zip]
  exact and_iff_right distinct

/-- What a list describes, field by field. -/
theorem describes_zip (few : values.length ≤ 13) : Describes (Field.all.zip values) {} m ↔
    (∀ e ∈ Field.all.zip values, e.1.Says e.2 (m.get e.1)) ∧
      (∀ f ∈ Field.all.drop values.length, m.get f = ({} : Message).get f) ∧ m.body = [] := by
  have silent : ∀ f, f ∉ (Field.all.zip values).map Prod.fst ↔ f ∈ Field.all.drop values.length := fun f => by
    rw [Field.map_fst_zip few, Field.mem_drop_iff]
  constructor
  · rintro ⟨said, kept, body⟩
    exact ⟨said, fun f later => kept f ((silent f).mpr later), body⟩
  · rintro ⟨said, kept, body⟩
    exact ⟨said, fun f absent => kept f ((silent f).mp absent), body⟩

/-- So a list that is a message has thirteen values at most. -/
theorem length_le_of_decode (list : Denotes text (.list values)) (read : decode text = .ok m) :
    values.length ≤ 13 := by
  rw [decode_eq_ok, read_of_denotes list] at read
  obtain ⟨found, items, -⟩ := of_bind_ok read
  exact length_le_of_items items

/-! ## Lists of written values -/

/-- The values of all fields in order, written as a list. -/
def encodeList (m : Message) (entries : List (String × String)) : String :=
  String.ofList ('[' :: [','].intercalate (Field.all.map (m.encodeField entries)) ++ [']'])

/-- The tree of a text is whole. -/
theorem mistake?_textTree (s : Option String) : (textTree s).mistake? = none := by
  cases s <;> rfl

/-- What is written for a field is a value of its tree. -/
theorem exists_denotes_field (m : Message) (entries : List (String × String)) (f : Field) :
    ∃ v, Denotes (String.ofList (m.encodeField entries f)) v ∧ v.node = m.fieldTree entries f := by
  refine Json.denotes_of_ofText (Json.ofText_of_written (written_field f)) ?_
  cases f with
  | headers | deliveryMode | priority => rfl
  | _ => exact mistake?_textTree _

/-- The list of what is written for the fields is decoded as the message is read. -/
theorem decode_encodeList (same : entries.Perm m.headers.entries) :
    decode (m.encodeList entries) = .ok m.asRead := by
  choose value spelled tree using exists_denotes_field m entries
  have list : Denotes (m.encodeList entries) (.list (Field.all.map value)) :=
    Json.denotes_list fun f _ => spelled f
  have few : (Field.all.map value).length ≤ 13 := Nat.le_of_eq (List.length_map ..)
  have members := Json.Value.memberNodes_map Field.name value Field.all
  have trees : (fun f => (value f).node) = m.fieldTree entries := funext tree
  rw [trees] at members
  rw [decode_eq_ok, read_of_denotes list, message_list few, List.zip_map', List.map_map, ← message_tree same,
    ← members]
  rfl

/-- Lists and objects agree. At most 13 values in a list are read exactly like the object that has them under
the names of the first fields in order: for the same message, or with the same reason, so of the same kind and
wording. That message holds what each value says of the field in its place and the defaults of the other fields,
and has no body. Longer lists are no messages. The values that are written for the fields of a message are read
as that message without its body, and with its timestamp as it is printed; nothing else changes, and nothing at
all for a regular timestamp. -/
theorem decode_positions :
    (∀ (values : List Value) (text : String), Denotes text (.list values) →
      (values.length ≤ 13 →
        (∀ text', Json.IsObject text' ((Field.all.map Field.name).zip values) →
          read text = read text' ∧ decode text = decode text') ∧
        ∀ m, decode text = .ok m ↔ (∀ e ∈ Field.all.zip values, e.1.Says e.2 (m.get e.1)) ∧
          (∀ f ∈ Field.all.drop values.length, m.get f = ({} : Message).get f) ∧ m.body = []) ∧
      (13 < values.length → ∀ m, decode text ≠ .ok m)) ∧
    ∀ (m : Message) (entries : List (String × String)), entries.Perm m.headers.entries →
      decode (m.encodeList entries) = .ok m.asRead ∧
        (m.asRead = m.withBody [] ↔ ∀ t ∈ m.timestamp, t.IsRegular) := by
  refine ⟨fun values text list => ⟨fun few => ⟨fun text' object => ?_, fun m => ?_⟩, fun many m read => ?_⟩,
    fun m entries same => ⟨decode_encodeList same, asRead_eq_withBody_iff⟩⟩
  · have alike : read text = read text' := by
      rw [read_of_denotes list, read_of_denotes object, message_list few]
    exact ⟨alike, congrArg (Except.mapError Decode.Reason.problem) alike⟩
  · rw [decode_list_iff list few, describes_zip few]
  · exact absurd (length_le_of_decode list read) (Nat.not_le_of_lt many)

/-- Two values with blanks around them, a value that is not in the domain of the field in its place, a list with
one value too many, and a message as a list. -/
theorem decode_positions_short_list :
    let headers : Value := .record [(.ok "k", .text (.ok "1"))]
    let text := "[ \x7b\"k\":\"1\"\x7d ,null]"
    let text' := "\x7b\"headers\":\x7b\"k\":\"1\"\x7d,\"content_type\":null\x7d"
    let wrong := "[null]"
    let wrong' := "\x7b\"headers\":null\x7d"
    let long := String.ofList ('[' :: [','].intercalate (List.replicate 14 ['n', 'u', 'l', 'l']) ++ [']'])
    let m : Message := { headers := .ofList [("k", "1")] }
    let entries := [("k", "1")]
    Denotes text (.list [headers, .null]) ∧
      Json.IsObject text' ((Field.all.map Field.name).zip [headers, .null]) ∧
      decode text = .ok m ∧ decode text' = .ok m ∧
      Denotes wrong (.list [.null]) ∧ Json.IsObject wrong' ((Field.all.map Field.name).zip [.null]) ∧
      read wrong = read wrong' ∧ (∀ p, decode wrong ≠ .ok p) ∧
      Denotes long (.list (List.replicate 14 .null)) ∧ (∀ p, decode long ≠ .ok p) ∧
      entries.Perm m.headers.entries ∧ decode (m.encodeList entries) = .ok m := by
  intro headers text text' wrong wrong' long m entries
  have none := Json.blank_nil
  have space : Blank [' '] := List.forall_mem_singleton.mpr rfl
  have texts := Spells.record none (Json.spells_member "k" none none (Json.spells_escape "1")) (.endRecord none)
  have list : Denotes text (.list [headers, .null]) :=
    ⟨[], _, [], none, none, .list space texts (.item space none .null (.endList none)), by decide⟩
  have object : Json.IsObject text' ((Field.all.map Field.name).zip [headers, .null]) :=
    ⟨[], _, [], none, none, .record none (Json.spells_member "headers" none none texts)
      (.nextMember none none (Json.spells_member "content_type" none none .null) (.endRecord none)), by decide⟩
  have list' : Denotes wrong (.list [.null]) :=
    ⟨[], _, [], none, none, .list none .null (.endList none), by decide⟩
  have object' : Json.IsObject wrong' ((Field.all.map Field.name).zip [.null]) :=
    ⟨[], _, [], none, none, .record none (Json.spells_member "headers" none none .null) (.endRecord none),
      by decide⟩
  have many : Denotes long (.list (List.replicate 14 .null)) :=
    have each : ∀ x ∈ List.replicate 14 (), Denotes (String.ofList ['n', 'u', 'l', 'l']) .null :=
      fun _ _ => Json.denotes_of_spells .null
    Json.denotes_list each
  have same : entries.Perm m.headers.entries := by decide
  obtain ⟨lists, written⟩ := decode_positions
  -- what a list means is told by its values, so nothing below runs the reader
  obtain ⟨alike, meaning⟩ := (lists _ text list).1 (by decide)
  obtain ⟨alike', meaning'⟩ := (lists _ wrong list').1 (by decide)
  have decoded : decode text = .ok m := by
    refine (meaning m).mpr ⟨fun e member => ?_, fun f later => ?_, rfl⟩
    · have places : Field.all.zip [headers, .null] = [(.headers, headers), (.contentType, .null)] := rfl
      rw [places] at member
      simp only [List.mem_cons, List.not_mem_nil, or_false] at member
      obtain rfl | rfl := member
      · exact .record [("k", "1")] fun name => Headers.get?_ofList name _
      · exact .null
    · cases f with
      | headers => exact absurd later (by decide)
      | _ => rfl
  have refused : ∀ p, decode wrong ≠ .ok p := fun p read => by
    have said := ((meaning' p).mp read).1 (.headers, .null) List.mem_cons_self
    cases said
  exact ⟨list, object, decoded, (alike _ object).2 ▸ decoded, list', object', (alike' _ object').1, refused,
    many, (lists _ long many).2 (by decide), same, (written m entries same).1⟩

/-- The list of the values that are written for a timestamp of one second and a half in second 10 is read for
another timestamp. -/
theorem decode_positions_other_second :
    let m : Message := { timestamp := some ⟨10, 1500000000, by decide, by decide, by decide⟩ }
    let moved : Message := { timestamp := some ⟨11, 500000000, by decide, by decide, by decide⟩ }
    m.encodeList [] =
        "[\x7b\x7d,null,null,\"transient\",0,null,null,null,null,\"1970-01-01T00:00:11.500Z\",null,null,null]" ∧
      decode (m.encodeList []) = .ok moved ∧ decode (m.encodeList []) ≠ .ok (m.withBody []) := by
  intro m moved
  have decoded : decode (m.encodeList []) = .ok moved := decode_encodeList (.refl _)
  refine ⟨by decide, decoded, fun same => ?_⟩
  rw [decoded] at same
  exact absurd (Except.ok.inj same) (by decide)

end Message

end Relay
