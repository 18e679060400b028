import Relay.Proofs.Domains
import Relay.Proofs.Parsing

/-!
# Messages that are read from objects

An object is read as a message by what its known members say, and by nothing else: neither their order, nor the
way they are spelled, nor any other members matter. A reader goes through the members one by one; `Describes`
is what a message has of the members that are still to come, beyond what was found before them.
-/

namespace Relay

open Json (Blank Denotes Document Node Piece Spells Token Value)

/-- A text is an object of these members. -/
def Json.IsObject (text : String) (entries : List (String × Value)) : Prop :=
  Denotes text (.record (entries.map fun e => (.ok e.1, e.2)))

namespace Field

/-- Only its name is read as a field. -/
theorem ofName?_eq_some {s : String} {f : Field} : ofName? s = some f ↔ s = f.name := by
  constructor
  · intro found
    have same := List.find?_some found
    exact (of_decide_eq_true same).symm
  · rintro rfl
    exact ofName?_name f

/-- The members that are fields; a name counts by its characters. -/
def known (entries : List (String × Value)) : List (Field × Value) :=
  entries.filterMap fun e => (ofName? e.1).map fun f => (f, e.2)

/-- A member with the name of a field is known. -/
theorem known_cons_some {name : String} {f : Field} (named : ofName? name = some f) (v : Value)
    (entries : List (String × Value)) : known ((name, v) :: entries) = (f, v) :: known entries :=
  List.filterMap_cons_some (by rw [named]; rfl)

/-- A member with another name is passed over. -/
theorem known_cons_none {name : String} (unknown : ofName? name = none) (v : Value)
    (entries : List (String × Value)) : known ((name, v) :: entries) = known entries :=
  List.filterMap_cons_none (by rw [unknown]; rfl)

/-- Known are the members that have the name of a field. -/
theorem mem_known {entries : List (String × Value)} {f : Field} {v : Value} :
    (f, v) ∈ known entries ↔ (f.name, v) ∈ entries := by
  rw [known, List.mem_filterMap]
  constructor
  · rintro ⟨⟨name, w⟩, member, found⟩
    obtain ⟨g, named, same⟩ := Option.map_eq_some_iff.mp found
    cases same
    rw [← ofName?_eq_some.mp named]
    exact member
  · intro member
    refine ⟨(f.name, v), member, ?_⟩
    rw [ofName?_name]
    rfl

/-- Each field has one name, so it comes as often as its name. -/
theorem count_ofName? (f : Field) (names : List String) :
    (names.filterMap ofName?).count f = names.count f.name := by
  induction names with
  | nil => rfl
  | cons name names ih =>
    rcases named : ofName? name with _ | g
    · have other : name ≠ f.name := fun same => by
        rw [ofName?_eq_some.mpr same] at named
        cases named
      rw [List.filterMap_cons_none named, List.count_cons_of_ne other, ih]
    · rw [List.filterMap_cons_some named, List.count_cons, List.count_cons, ih,
        ofName?_eq_some.mp named]
      by_cases same : g = f
      · rw [same, beq_self_eq_true, beq_self_eq_true]
      · have apart : g.name ≠ f.name := fun equal =>
          same (Option.some.inj (by rw [← ofName?_name g, equal, ofName?_name f]))
        rw [beq_false_of_ne same, beq_false_of_ne apart]

/-- Fields come once if their names do. -/
theorem nodup_known {entries : List (String × Value)} : ((known entries).map Prod.fst).Nodup ↔
    ∀ f : Field, (entries.map Prod.fst).count f.name ≤ 1 := by
  have fields : (known entries).map Prod.fst = (entries.map Prod.fst).filterMap ofName? := by
    rw [known, List.map_filterMap, List.filterMap_map]
    refine congrArg (entries.filterMap ·) (funext fun e => ?_)
    rw [Option.map_map]
    exact Option.map_id'
  rw [fields, List.nodup_iff_count]
  exact forall_congr' fun f => by rw [count_ofName?]

end Field

namespace Message

/-- A message holds what members say, and what was found before where they say nothing. -/
structure Describes (members : List (Field × Value)) (found m : Message) : Prop where
  said : ∀ e ∈ members, e.1.Says e.2 (m.get e.1)
  kept : ∀ f, f ∉ members.map Prod.fst → m.get f = found.get f
  body : m.body = found.body

variable {members : List (Field × Value)} {found m : Message} {f : Field} {v : Value}

/-- No members describe the message that there was before them. -/
theorem describes_nil : Describes [] found m ↔ m = found := by
  constructor
  · intro description
    exact eq_of_get (fun f => description.kept f List.not_mem_nil) description.body
  · rintro rfl
    exact ⟨fun _ none => absurd none List.not_mem_nil, fun _ _ => rfl, rfl⟩

/-- The first member is read before the others, which say nothing of its field. -/
theorem describes_cons (new : f ∉ members.map Prod.fst) :
    Describes ((f, v) :: members) found m ↔
      ∃ next : Message, (f.Says v (next.get f) ∧ found.adopt next f = next) ∧
        Describes members next m := by
  constructor
  · -- what is read after the first member is the message so far with the final value of this one field
    intro description
    have first : f.Says v (m.get f) := description.said (f, v) List.mem_cons_self
    refine ⟨found.adopt m f, ⟨by rwa [get_adopt_self], adopt_congr get_adopt_self⟩,
      fun e later => description.said e (List.mem_cons_of_mem _ later), fun g other => ?_,
      description.body.trans body_adopt.symm⟩
    by_cases same : g = f
    · subst same
      exact get_adopt_self.symm
    · have absent : g ∉ ((f, v) :: members).map Prod.fst := by
        rw [List.map_cons, List.mem_cons, not_or]
        exact ⟨same, other⟩
      exact (description.kept g absent).trans (get_adopt_of_ne same).symm
  · rintro ⟨next, ⟨first, adopted⟩, description⟩
    refine ⟨fun e member => ?_, fun g absent => ?_, ?_⟩
    · rcases List.mem_cons.mp member with rfl | later
      · rwa [description.kept f new]
      · exact description.said e later
    · rw [List.map_cons, List.mem_cons, not_or] at absent
      rw [description.kept g absent.2, ← adopted, get_adopt_of_ne absent.1]
    · rw [description.body, ← adopted, body_adopt]

/-- Members of different fields describe a message, if each says something. -/
theorem exists_describes (distinct : (members.map Prod.fst).Nodup)
    (inDomain : ∀ e ∈ members, ∃ x, e.1.Says e.2 x) : ∃ m, Describes members found m := by
  induction members generalizing found with
  | nil => exact ⟨found, describes_nil.mpr rfl⟩
  | cons e members ih =>
    obtain ⟨f, v⟩ := e
    obtain ⟨new, others⟩ := List.nodup_cons.mp distinct
    obtain ⟨x, first⟩ := inDomain (f, v) List.mem_cons_self
    obtain ⟨holder, holds⟩ := exists_get f x
    obtain ⟨m, description⟩ : ∃ m, Describes members (found.adopt holder f) m :=
      ih others fun e later => inDomain e (List.mem_cons_of_mem _ later)
    -- nothing after the first member says anything of its field
    refine ⟨m, (describes_cons new).mpr ⟨_, ⟨?_, ?_⟩, description⟩⟩
    · rw [get_adopt_self, holds]
      exact first
    · exact adopt_congr get_adopt_self

/-- The order of members does not matter. -/
theorem Describes.of_perm {members' : List (Field × Value)} (same : members'.Perm members)
    (description : Describes members found m) : Describes members' found m :=
  ⟨fun e member => description.said e (same.mem_iff.mp member),
    fun f absent => description.kept f fun present => absent ((same.map Prod.fst).mem_iff.mpr present),
    description.body⟩

/-! ## Reading members -/

/-- A member that is not known leaves the message. -/
theorem members_cons_none {name : String} (unknown : Field.ofName? name = none) (v : Value)
    (seen : List Field) (found : Message) (rest : List (Token × Node)) :
    Decode.members seen found ((.text (.ok name) none, v.node) :: rest) =
      Decode.members seen found rest := by
  have named : Decode.lift (Decode.name (.text (.ok name) none)) = .ok name := rfl
  simp only [Decode.members, named, bind, Except.bind, unknown, v.mistake?_node]
  rfl

/-- A known member is read into the message, unless its field was read before. -/
theorem members_cons_some {name : String} (named : Field.ofName? name = some f) (v : Value)
    (seen : List Field) (found : Message) (rest : List (Token × Node)) :
    Decode.members seen found ((.text (.ok name) none, v.node) :: rest) =
      if f ∈ seen then Decode.refuse (.repeated f)
      else (Decode.field f v.node found).bind fun next => Decode.members (f :: seen) next rest := by
  have spelled : Decode.lift (Decode.name (.text (.ok name) none)) = .ok name := rfl
  simp only [Decode.members, spelled, bind, Except.bind, named]

/-- Members are read if no field comes twice, or comes again, and for the message that they describe. -/
theorem members_iff (entries : List (String × Value)) :
    ∀ {seen : List Field} {found m : Message}, seen.Nodup →
      (Decode.members seen found (Value.memberNodes (entries.map fun e => (.ok e.1, e.2))) = .ok m ↔
        ((Field.known entries).map Prod.fst ++ seen).Nodup ∧
          Describes (Field.known entries) found m) := by
  induction entries with
  | nil =>
    intro seen found m distinct
    have none : Field.known [] = [] := rfl
    rw [none, describes_nil]
    constructor
    · rintro ⟨⟩
      exact ⟨distinct, rfl⟩
    · rintro ⟨-, rfl⟩
      rfl
  | cons e entries ih =>
    obtain ⟨name, v⟩ := e
    intro seen found m distinct
    rw [List.map_cons, Value.memberNodes]
    rcases named : Field.ofName? name with _ | f
    · rw [members_cons_none named, Field.known_cons_none named]
      exact ih distinct
    · -- a field that is read is one of those seen from there on
      rw [members_cons_some named, Field.known_cons_some named, List.map_cons, List.cons_append,
        ← List.perm_middle.nodup_iff]
      by_cases before : f ∈ seen
      · rw [if_pos before]
        constructor
        · intro read
          cases read
        · rintro ⟨apart, -⟩
          exact absurd before (List.nodup_cons.mp (List.nodup_append.mp apart).2.1).1
      · rw [if_neg before]
        have distinct' : (f :: seen).Nodup := List.nodup_cons.mpr ⟨before, distinct⟩
        constructor
        · intro read
          obtain ⟨next, stored, read⟩ := of_bind_ok read
          obtain ⟨apart, description⟩ := (ih distinct').mp read
          have new := fun inside => (List.nodup_append.mp apart).2.2 f inside f List.mem_cons_self rfl
          exact ⟨apart, (describes_cons new).mpr ⟨next, (Decode.field_node f).mp stored, description⟩⟩
        · rintro ⟨apart, description⟩
          have new := fun inside => (List.nodup_append.mp apart).2.2 f inside f List.mem_cons_self rfl
          obtain ⟨next, stored, description⟩ := (describes_cons new).mp description
          rw [(Decode.field_node f).mpr stored]
          exact (ih distinct').mpr ⟨apart, description⟩

/-! ## Reading objects -/

/-- Names that can be read have characters. -/
theorem entries_of_names (ms : List (Except Json.Mistake String × Value)) :
    (∀ e ∈ Value.memberNodes ms, ∃ s, Decode.name e.1 = .ok s) →
      ∃ entries : List (String × Value), ms = entries.map fun e => (.ok e.1, e.2) := by
  induction ms with
  | nil => exact fun _ => ⟨[], rfl⟩
  | cons m ms ih =>
    obtain ⟨name, v⟩ := m
    intro named
    obtain ⟨first, others⟩ := List.forall_mem_cons.mp named
    obtain ⟨s, spelled⟩ := first
    obtain ⟨entries, rfl⟩ := ih others
    cases name with
    | error m => cases spelled
    | ok name => exact ⟨(name, v) :: entries, rfl⟩

/-- The members of an object have names that can be read. -/
theorem names_of_entries (entries : List (String × Value)) :
    ∀ e ∈ Value.memberNodes (entries.map fun e => (.ok e.1, e.2)), ∃ s, Decode.name e.1 = .ok s := by
  rw [Value.memberNodes_map, List.forall_mem_map]
  exact fun e _ => ⟨e.1, rfl⟩

/-- A text is an object if a reader that passes over the values of its members finds nothing wrong. -/
theorem isObject_iff (text : String) :
    (∃ members, Document.ofText text = ⟨.record members none, false⟩ ∧
      ∀ e ∈ members, ∃ s, Decode.name e.1 = .ok s) ↔ ∃ entries, Json.IsObject text entries := by
  constructor
  · rintro ⟨members, reads, named⟩
    obtain ⟨v, spelled, node⟩ := Json.denotes_of_ofText reads rfl
    cases v with
    | record ms =>
      cases node
      obtain ⟨entries, rfl⟩ := entries_of_names ms named
      exact ⟨entries, spelled⟩
    | null | truth | number | text | list => cases node
  · rintro ⟨entries, spelled⟩
    exact ⟨_, Json.ofText_of_denotes spelled, names_of_entries entries⟩

/-- A text is read by the tree of the value that it spells. -/
theorem read_of_denotes {text : String} {v : Value} (spelled : Denotes text v) :
    read text = Decode.message v.node := by
  unfold read Decode.whole
  rw [Json.ofText_of_denotes spelled]
  exact bind_pure _

/-- An object is read as a message that its known members describe, if no field comes twice among them.
-/
theorem message_record_iff {entries : List (String × Value)} :
    Decode.message (Value.record (entries.map fun e => (.ok e.1, e.2))).node = .ok m ↔
      ((Field.known entries).map Prod.fst).Nodup ∧ Describes (Field.known entries) {} m := by
  have read : Decode.message (Value.record (entries.map fun e => (.ok e.1, e.2))).node =
      Decode.members [] {} (Value.memberNodes (entries.map fun e => (.ok e.1, e.2))) := bind_pure _
  rw [read, members_iff entries List.nodup_nil, List.append_nil]

/-- An object is read for the message that its known members describe. -/
theorem decode_iff {text : String} {entries : List (String × Value)}
    (object : Json.IsObject text entries) :
    decode text = .ok m ↔
      (∀ f : Field, (entries.map Prod.fst).count f.name ≤ 1) ∧ Describes (Field.known entries) {} m := by
  rw [decode_eq_ok, read_of_denotes object, message_record_iff, Field.nodup_known]

/-- What an object describes, member by member. -/
theorem describes_known {entries : List (String × Value)} : Describes (Field.known entries) {} m ↔
    (∀ (f : Field) v, (f.name, v) ∈ entries → f.Says v (m.get f)) ∧
      (∀ f : Field, (∀ v, (f.name, v) ∉ entries) → m.get f = ({} : Message).get f) ∧ m.body = [] := by
  constructor
  · intro description
    refine ⟨fun f v member => description.said (f, v) (Field.mem_known.mpr member),
      fun f absent => description.kept f fun present => ?_, description.body⟩
    obtain ⟨⟨_, v⟩, member, rfl⟩ := List.mem_map.mp present
    exact absent v (Field.mem_known.mp member)
  · rintro ⟨said, kept, body⟩
    refine ⟨fun e member => said e.1 e.2 (Field.mem_known.mp member), fun f absent => ?_, body⟩
    exact kept f fun v member => absent (List.mem_map.mpr ⟨(f, v), Field.mem_known.mpr member, rfl⟩)

/-- A text in which a reader that passes over the values of members finds nothing wrong is an object. It is read
as a message exactly if no field comes twice in it and the value of every field is in its domain. The message
holds what these values say and the defaults of the other fields, and has no body. So objects whose known
members are the same in any order are read alike. -/
theorem decode_object (text : String) :
    ((∃ members, Document.ofText text = ⟨.record members none, false⟩ ∧
        ∀ e ∈ members, ∃ s, Decode.name e.1 = .ok s) ↔ ∃ entries, Json.IsObject text entries) ∧
    ∀ entries, Json.IsObject text entries →
      ((∃ m, decode text = .ok m) ↔ (∀ f : Field, (entries.map Prod.fst).count f.name ≤ 1) ∧
        ∀ (f : Field) v, (f.name, v) ∈ entries → ∃ x, f.Says v x) ∧
      (∀ m, decode text = .ok m ↔ (∀ f : Field, (entries.map Prod.fst).count f.name ≤ 1) ∧
        (∀ (f : Field) v, (f.name, v) ∈ entries → f.Says v (m.get f)) ∧
        (∀ f : Field, (∀ v, (f.name, v) ∉ entries) → m.get f = ({} : Message).get f) ∧ m.body = []) ∧
      ∀ text' entries', Json.IsObject text' entries' →
        (Field.known entries').Perm (Field.known entries) →
          ∀ m, decode text' = .ok m ↔ decode text = .ok m := by
  refine ⟨isObject_iff text, fun entries object => ⟨⟨?_, ?_⟩, fun m => ?_, ?_⟩⟩
  · rintro ⟨m, read⟩
    obtain ⟨distinct, description⟩ := (decode_iff object).mp read
    exact ⟨distinct, fun f v member => ⟨m.get f, (describes_known.mp description).1 f v member⟩⟩
  · rintro ⟨distinct, inDomain⟩
    have said : ∀ e ∈ Field.known entries, ∃ x, e.1.Says e.2 x :=
      fun e member => inDomain e.1 e.2 (Field.mem_known.mp member)
    obtain ⟨m, description⟩ := exists_describes (Field.nodup_known.mpr distinct) said
    exact ⟨m, (decode_iff object).mpr ⟨distinct, description⟩⟩
  · rw [decode_iff object, describes_known]
  · intro text' entries' object' same m
    rw [decode_iff object, decode_iff object', ← Field.nodup_known, ← Field.nodup_known,
      (same.map Prod.fst).nodup_iff]
    exact and_congr_right fun _ => ⟨.of_perm same.symm, .of_perm same⟩

/-- A name with an escape, a header that comes twice, and an unknown member that cannot be read but passed
over; and the same known members in another order. -/
theorem decode_object_escaped_name :
    let text :=
      "\x7b \"x\": [\"\\ud800\"],\n\"headers\":\x7b\"k\":\"1\",\"k\":\"2\"\x7d,\"t\\u0079pe\":null\x7d"
    let text' := "\x7b\"type\":null,\"headers\":\x7b\"k\":\"1\",\"k\":\"2\"\x7d\x7d"
    let headers : Value := .record [(.ok "k", .text (.ok "1")), (.ok "k", .text (.ok "2"))]
    let entries := [("x", .list [.text (.error .unpairedHalf)]), ("headers", headers), ("type", .null)]
    let entries' := [("type", .null), ("headers", headers)]
    let m : Message := { headers := .ofList [("k", "2")] }
    Json.IsObject text entries ∧ Json.IsObject text' entries' ∧
      decode text = .ok m ∧ decode text' = .ok m := by
  intro text text' headers entries entries' m
  have none := Json.blank_nil
  have space : Blank [' '] := List.forall_mem_singleton.mpr rfl
  have line : Blank ['\n'] := List.forall_mem_singleton.mpr rfl
  have texts := Json.spells_member "headers" none none <|
    .record none (Json.spells_member "k" none none (Json.spells_escape "1"))
      (.nextMember none none (Json.spells_member "k" none none (Json.spells_escape "2"))
        (.endRecord none))
  have lone := Json.spells_member "x" none space <|
    .list none (.text [.unit 'd' '8' '0' '0' 0xd800 (by decide)]) (.endList none)
  have escaped := Spells.member
    [.plain 't' (by decide), .unit '0' '0' '7' '9' 0x79 (by decide), .plain 'p' (by decide),
      .plain 'e' (by decide)] none none .null
  have object : Json.IsObject text entries :=
    ⟨[], _, [], none, none, .record space lone (.nextMember none line texts
      (.nextMember none none escaped (.endRecord none))), by decide⟩
  have object' : Json.IsObject text' entries' :=
    ⟨[], _, [], none, none, .record none (Json.spells_member "type" none none .null)
      (.nextMember none none texts (.endRecord none)), by decide⟩
  -- of the three members two are known, the unknown one may hold anything that is passed over
  have known : Field.known entries = [(.headers, headers), (.kind, .null)] := rfl
  have swapped : (Field.known entries').Perm (Field.known entries) := .swap _ _ _
  obtain ⟨-, read⟩ := decode_object text
  obtain ⟨-, meaning, alike⟩ := read entries object
  have decoded : decode text = .ok m := by
    refine (meaning m).mpr ⟨fun f => by cases f <;> decide, fun f v member => ?_, fun f absent => ?_, rfl⟩
    · have member := Field.mem_known.mpr member
      rw [known] at member
      simp only [List.mem_cons, List.not_mem_nil, or_false] at member
      obtain ⟨rfl, rfl⟩ | ⟨rfl, rfl⟩ := member
      · have last : m.headers = .ofList [("k", "1"), ("k", "2")] := by decide
        refine .record [("k", "1"), ("k", "2")] fun name => ?_
        exact (congrArg (Headers.get? · name) last).trans (Headers.get?_ofList name _)
      · exact .null
    · cases f with
      | headers => exact absurd (Field.mem_known.mp (known ▸ List.mem_cons_self)) (absent headers)
      | _ => rfl
  exact ⟨object, object', decoded, (alike text' entries' object' swapped m).mpr decoded⟩

end Message

end Relay
