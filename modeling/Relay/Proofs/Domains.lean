import Relay.Proofs.Grammar
import Relay.Proofs.RoundTrip

/-!
# What the values of fields say

Each field of a message has a domain: the JSON values that say something of it. `Field.Says` tells what they
say, whatever way they are spelled, and the readers of the fields accept nothing else and read nothing else
from it.
-/

namespace Relay

open Json (Value Numeral)

/-! ## Headers by their names -/

namespace Headers

/-- A name has one entry, so an entry is found by its name. -/
theorem get?_of_mem {h : Headers} {e : String × String} (member : e ∈ h.entries) :
    h.get? e.1 = some e.2 := by
  obtain ⟨entries, ascending⟩ := h
  unfold get?
  induction entries with
  | nil => exact absurd member List.not_mem_nil
  | cons first rest ih =>
    obtain ⟨below, others⟩ := List.pairwise_cons.mp ascending
    rcases List.mem_cons.mp member with rfl | later
    · rw [List.lookup_cons_self]
    · have apart : (e.1 == first.1) = false := beq_false_of_ne (ne_of_lt (below e later)).symm
      rw [List.lookup_cons, apart]
      exact ih others later

/-- What is found by a name is an entry. -/
theorem mem_of_get? {h : Headers} {name value : String} (found : h.get? name = some value) :
    (name, value) ∈ h.entries := by
  obtain ⟨before, after, shape, -⟩ := List.lookup_eq_some_iff.mp found
  rw [shape]
  exact List.mem_append_right _ List.mem_cons_self

/-- Headers are the same if every name has the same value. -/
theorem eq_of_get? {h k : Headers} (same : ∀ name, h.get? name = k.get? name) : h = k := by
  have distinct : ∀ h : Headers, h.entries.Nodup := fun h =>
    h.ascending.imp fun below => fun equal => ne_of_lt below (congrArg Prod.fst equal)
  have entries : ∀ e, e ∈ h.entries ↔ e ∈ k.entries := fun e =>
    ⟨fun member => mem_of_get? ((same e.1).symm.trans (get?_of_mem member)),
      fun member => mem_of_get? ((same e.1).trans (get?_of_mem member))⟩
  have moved : h.entries.Perm k.entries :=
    (List.perm_ext_iff_of_nodup (distinct h) (distinct k)).mpr entries
  exact eq_of_entries (moved.eq_of_pairwise
    (fun _ _ _ _ below above => absurd above (String.lt_asymm below)) h.ascending k.ascending)

/-- Of entries with one name the last counts, and what was there before counts after them. -/
theorem get?_foldl_insert (name : String) (es : List (String × String)) : ∀ h : Headers,
    (es.foldl (fun h e => h.insert e.1 e.2) h).get? name =
      (es.reverse.lookup name).or (h.get? name) := by
  induction es with
  | nil => exact fun _ => rfl
  | cons e es ih =>
    intro h
    rw [List.foldl_cons, ih, List.reverse_cons, List.lookup_append, Option.or_assoc]
    congr 1
    by_cases same : name = e.1
    · rw [same, get?_insert_self, List.lookup_cons_self]
      rfl
    · rw [get?_insert_of_ne h e.2 same, List.lookup_cons, beq_false_of_ne same]
      rfl

/-- Of several entries of one name the last is kept. -/
theorem get?_ofList (name : String) (es : List (String × String)) :
    (ofList es).get? name = es.reverse.lookup name := by
  rw [ofList, get?_foldl_insert]
  exact Option.or_none

end Headers

/-! ## Domains -/

/-- What an optional text is read from. -/
inductive OptionalText : Value → Option String → Prop
  | null : OptionalText .null none
  | text (s : String) : OptionalText (.text (.ok s)) (some s)

/-- Headers are read from an object of texts; of members with one name the last counts. -/
inductive HeaderTexts : Value → Headers → Prop
  | record (texts : List (String × String)) {h : Headers}
      (last : ∀ name, h.get? name = texts.reverse.lookup name) :
      HeaderTexts (.record (texts.map fun e => (.ok e.1, .text (.ok e.2)))) h

/-- A mode is read from its name, or from an object whose one member has that name and the value `null`. -/
inductive ModeName : Value → DeliveryMode → Prop
  | text (mode : DeliveryMode) : ModeName (.text (.ok mode.name)) mode
  | member (mode : DeliveryMode) : ModeName (.record [(.ok mode.name, .null)]) mode

/-- An octet is read from the digits of an integer from 0 to 255, with no sign, fraction or exponent. -/
inductive OctetDigits : Value → UInt8 → Prop
  | digits (ds : List Char) {x : UInt8} (stands : Nat.ofDigitChars 10 ds 0 = x.toNat) :
      OctetDigits (.number ⟨false, ds, [], none⟩) x

/-- An optional instant is read from a text that is a date and time. -/
inductive DateTime : Value → Option Time.Instant → Prop
  | null : DateTime .null none
  | text {s : String} {t : Time.Instant} (read : Time.Instant.ofString s = .ok t) :
      DateTime (.text (.ok s)) (some t)

namespace Field

/-- What a message holds in a field. -/
def Property : Field → Type
  | headers => Headers
  | deliveryMode => DeliveryMode
  | priority => UInt8
  | timestamp => Option Time.Instant
  | contentType | contentEncoding | correlationId | replyTo | expiration | messageId | kind
  | userId | appId => Option String

/-- A value of a field says what a message is to hold there. -/
def Says : (f : Field) → Value → f.Property → Prop
  | headers => HeaderTexts
  | deliveryMode => ModeName
  | priority => OctetDigits
  | timestamp => DateTime
  | contentType | contentEncoding | correlationId | replyTo | expiration | messageId | kind
  | userId | appId => OptionalText

end Field

namespace Message

/-- The property of a field. -/
def get (m : Message) : (f : Field) → f.Property
  | .headers => m.headers
  | .contentType => m.contentType
  | .contentEncoding => m.contentEncoding
  | .deliveryMode => m.deliveryMode
  | .priority => m.priority
  | .correlationId => m.correlationId
  | .replyTo => m.replyTo
  | .expiration => m.expiration
  | .messageId => m.messageId
  | .timestamp => m.timestamp
  | .kind => m.kind
  | .userId => m.userId
  | .appId => m.appId

variable {m n : Message} {f : Field}

/-- The field that is taken over. -/
theorem get_adopt_self : (m.adopt n f).get f = n.get f := by
  cases f <;> rfl

/-- All other fields stay. -/
theorem get_adopt_of_ne {g : Field} (other : g ≠ f) : (m.adopt n f).get g = m.get g := by
  cases f <;> cases g <;> first | rfl | exact absurd rfl other

/-- So does the body, which is no field. -/
theorem body_adopt : (m.adopt n f).body = m.body := by
  cases f <;> rfl

/-- Only the property that is taken matters. -/
theorem adopt_congr {n' : Message} (same : n.get f = n'.get f) : m.adopt n f = m.adopt n' f := by
  cases f <;> simp only [get] at same <;> simp only [adopt, same]

/-- A message is its properties and its body. -/
theorem eq_of_get (same : ∀ f, m.get f = n.get f) (body : m.body = n.body) : m = n := by
  cases m
  cases n
  rw [Message.mk.injEq]
  exact ⟨same .headers, same .contentType, same .contentEncoding, same .deliveryMode, same .priority,
    same .correlationId, same .replyTo, same .expiration, same .messageId, same .timestamp, same .kind,
    same .userId, same .appId, body⟩

/-- Every property is held by some message. -/
theorem exists_get (f : Field) (x : f.Property) : ∃ m : Message, m.get f = x := by
  cases f with
  | headers => exact ⟨{ headers := x }, rfl⟩
  | contentType => exact ⟨{ contentType := x }, rfl⟩
  | contentEncoding => exact ⟨{ contentEncoding := x }, rfl⟩
  | deliveryMode => exact ⟨{ deliveryMode := x }, rfl⟩
  | priority => exact ⟨{ priority := x }, rfl⟩
  | correlationId => exact ⟨{ correlationId := x }, rfl⟩
  | replyTo => exact ⟨{ replyTo := x }, rfl⟩
  | expiration => exact ⟨{ expiration := x }, rfl⟩
  | messageId => exact ⟨{ messageId := x }, rfl⟩
  | timestamp => exact ⟨{ timestamp := x }, rfl⟩
  | kind => exact ⟨{ kind := x }, rfl⟩
  | userId => exact ⟨{ userId := x }, rfl⟩
  | appId => exact ⟨{ appId := x }, rfl⟩

end Message

/-! ## Integers -/

namespace Json.Numeral

/-- Digits that are all absorbed stand for what came of them. -/
theorem of_absorb {ds : List Char} : ∀ {n significand : Nat}, absorb n ds = (significand, []) →
    Nat.ofDigitChars 10 ds n = significand := by
  induction ds with
  | nil =>
    intro n significand absorbed
    exact (Prod.mk.inj absorbed).1
  | cons d ds ih =>
    intro n significand absorbed
    rw [absorb] at absorbed
    split at absorbed
    · rw [Nat.ofDigitChars_cons]
      exact ih absorbed
    · exact absurd (Prod.mk.inj absorbed).2 (List.cons_ne_nil d ds)

/-- Only digits alone are a natural number. -/
theorem of_value_natural {n : Numeral} {k : Nat} (read : n.value = .ok (.natural k)) :
    ∃ ds, n = ⟨false, ds, [], none⟩ ∧ Nat.ofDigitChars 10 ds 0 = k := by
  obtain ⟨minus, ds, fraction, exponent⟩ := n
  rcases absorbed : absorb 0 ds with ⟨significand, excess⟩
  simp only [value, absorbed] at read
  split at read
  · next whole =>
    -- only a numeral without fraction and exponent, all of whose digits fit, is an integer
    obtain ⟨all, point, power⟩ := whole
    rw [List.isEmpty_iff] at all point
    rw [Option.isNone_iff_eq_none] at power
    subst all point power
    cases minus with
    | false =>
      cases read
      exact ⟨ds, rfl, of_absorb absorbed⟩
    | true =>
      simp only [integer] at read
      split at read
      · next positive => cases positive
      · split at read <;> cases read
  · split at read <;> cases read

/-- Digits below the limit of a word are read as a natural number. -/
theorem value_natural {ds : List Char} (fits : Nat.ofDigitChars 10 ds 0 < wordLimit) :
    (Numeral.mk false ds [] none).value = .ok (.natural (Nat.ofDigitChars 10 ds 0)) := by
  simp only [value, absorb_eq fits]
  rfl

end Json.Numeral

/-! ## Readers and domains -/

namespace Decode

/-- What a reader sees of a value before it looks into it. -/
inductive Heads : Value → Head → Prop
  | null : Heads .null .null
  | truth (b : Bool) : Heads (.truth b) (.truth b)
  | number {n : Numeral} {x : Json.Number} (read : n.value = .ok x) : Heads (.number n) (.number x)
  | text (s : String) : Heads (.text (.ok s)) (.text s)
  | list (items : List Value) : Heads (.list items) .list
  | record (members : List (Except Json.Mistake String × Value)) : Heads (.record members) .record

/-- What a reader sees at first glance is what the value begins with. -/
theorem heads_of_head {v : Value} {h : Head} (seen : lift (head v.node) = .ok h) : Heads v h := by
  cases v with
  | null =>
    cases seen
    exact .null
  | truth b =>
    cases b <;>
    · cases seen
      exact .truth _
  | number n =>
    rcases read : n.value with fault | x
    · simp only [Value.node, head, headOfToken, read] at seen
      cases seen
    · simp only [Value.node, head, headOfToken, read] at seen
      cases seen
      exact .number read
  | text s =>
    cases s with
    | error m => cases seen
    | ok s =>
      cases seen
      exact .text s
  | list items =>
    cases seen
    exact .list items
  | record members =>
    cases seen
    exact .record members

open Message (of_bind_ok)

variable {v : Value}

/-- The reader of a text or its absence accepts just the values that say one. -/
theorem optionalText_node {o : Option String} : optionalText v.node = .ok o ↔ OptionalText v o := by
  constructor
  · intro read
    obtain ⟨h, seen, read⟩ := of_bind_ok read
    cases heads_of_head seen with
    | null =>
      cases read
      exact .null
    | text s =>
      cases read
      exact .text s
    | truth | number | list | record => cases read
  · rintro (_ | s) <;> rfl

/-- Only a text is read as a text. -/
theorem eq_of_text {s : String} (read : text v.node = .ok s) : v = .text (.ok s) := by
  obtain ⟨h, seen, read⟩ := of_bind_ok read
  cases heads_of_head seen with
  | text s =>
    cases read
    rfl
  | null | truth | number | list | record => cases read

/-- Only a name that is well-formed is read as a name. -/
theorem eq_of_name {found : Except Json.Mistake String} {s : String}
    (read : lift (name (.text found none)) = .ok s) : found = .ok s := by
  cases found <;> cases read
  rfl

/-- Members that are headers are texts. -/
theorem texts_of_headerMembers (ms : List (Except Json.Mistake String × Value)) : ∀ {found h : Headers},
    headerMembers found (Value.memberNodes ms) = .ok h →
      ∃ texts : List (String × String), ms = texts.map (fun e => (.ok e.1, .text (.ok e.2))) ∧
        texts.foldl (fun h e => h.insert e.1 e.2) found = h := by
  induction ms with
  | nil =>
    intro found h read
    exact ⟨[], rfl, Except.ok.inj read⟩
  | cons m ms ih =>
    obtain ⟨name, v⟩ := m
    intro found h read
    obtain ⟨key, named, read⟩ := of_bind_ok read
    obtain ⟨value, valued, read⟩ := of_bind_ok read
    obtain ⟨texts, rfl, folded⟩ := ih read
    rw [eq_of_name named, eq_of_text valued]
    exact ⟨(key, value) :: texts, rfl, folded⟩

/-- Members that are texts are inserted one after the other. -/
theorem headerMembers_texts (texts : List (String × String)) (found : Headers) :
    headerMembers found (Value.memberNodes (texts.map fun e => (.ok e.1, .text (.ok e.2)))) =
      .ok (texts.foldl (fun h e => h.insert e.1 e.2) found) := by
  rw [Value.memberNodes_map]
  exact Message.headerMembers_map texts found

/-- The reader of headers accepts just the objects of texts. -/
theorem headers_node {h : Headers} : headers v.node = .ok h ↔ HeaderTexts v h := by
  constructor
  · intro read
    cases v with
    | record ms =>
      obtain ⟨found, members, read⟩ := of_bind_ok read
      cases read
      obtain ⟨texts, rfl, rfl⟩ := texts_of_headerMembers ms members
      exact .record texts fun name => Headers.get?_ofList name texts
    | null | truth | number | text | list =>
      obtain ⟨_, -, read⟩ := of_bind_ok read
      cases read
  · rintro ⟨texts, last⟩
    have same : h = .ofList texts :=
      Headers.eq_of_get? fun name => (last name).trans (Headers.get?_ofList name texts).symm
    rw [Value.node, headers, headerMembers_texts, same]
    rfl

/-- A mode has one name. -/
theorem modeOfName_iff {s : String} {mode : DeliveryMode} :
    modeOfName s = .ok mode ↔ s = mode.name := by
  constructor
  · intro read
    unfold modeOfName DeliveryMode.ofName? at read
    split at read
    · next found =>
      cases read
      split at found
      · next same =>
        cases found
        exact same
      · split at found
        · next same =>
          cases found
          exact same
        · cases found
    · cases read
  · rintro rfl
    cases mode <;> rfl

/-- Only the absent value is read as nothing. -/
theorem null_of_nothing (read : nothing v.node = .ok ()) : v = .null := by
  obtain ⟨h, seen, read⟩ := of_bind_ok read
  cases heads_of_head seen with
  | null => rfl
  | text | truth | number | list | record => cases read

/-- The reader of delivery modes accepts just the names of modes, alone or as the one member of an object.
-/
theorem deliveryMode_node {mode : DeliveryMode} :
    deliveryMode v.node = .ok mode ↔ ModeName v mode := by
  constructor
  · intro read
    cases v with
    | text s =>
      cases s with
      | error m => cases read
      | ok s =>
        rw [modeOfName_iff.mp read]
        exact .text mode
    | record ms =>
      cases ms with
      | nil => cases read
      | cons m ms =>
        obtain ⟨name, v⟩ := m
        obtain ⟨key, named, read⟩ := of_bind_ok read
        obtain ⟨found, known, read⟩ := of_bind_ok read
        obtain ⟨_, empty, read⟩ := of_bind_ok read
        obtain ⟨_, ends, read⟩ := of_bind_ok read
        cases ms with
        | nil =>
          cases read
          rw [eq_of_name named, modeOfName_iff.mp known, null_of_nothing empty]
          exact .member mode
        | cons => cases ends
    | null | truth | number | list => cases read
  · rintro (_ | _) <;> cases mode <;> rfl

/-- The reader of priorities accepts just the numbers of an octet. -/
theorem priority_node {x : UInt8} : priority v.node = .ok x ↔ OctetDigits v x := by
  constructor
  · intro read
    obtain ⟨h, seen, read⟩ := of_bind_ok read
    cases heads_of_head seen with
    | @number n found value =>
      cases found with
      | natural k =>
        obtain ⟨ds, rfl, rfl⟩ := Numeral.of_value_natural value
        simp only [] at read
        split at read
        · next fits =>
          cases read
          refine .digits ds ?_
          rw [UInt8.toNat_ofNat']
          exact (Nat.mod_eq_of_lt fits).symm
        · cases read
      | negative => cases read
      | real => cases read
    | null | truth | text | list | record => cases read
  · rintro ⟨ds, stands⟩
    have fits : Nat.ofDigitChars 10 ds 0 < 256 := stands ▸ x.toNat_lt
    have read := Numeral.value_natural (Nat.lt_trans fits (by decide))
    have seen : lift (head (Value.number ⟨false, ds, [], none⟩).node) =
        .ok (.number (.natural (Nat.ofDigitChars 10 ds 0))) := by
      simp only [Value.node, head, headOfToken, read]
      rfl
    simp only [priority, seen, bind, Except.bind]
    rw [if_pos fits, stands]
    exact congrArg Except.ok UInt8.ofNat_toNat

/-- The reader of timestamps accepts just the absent value and dates with times. -/
theorem timestamp_node {t : Option Time.Instant} : timestamp v.node = .ok t ↔ DateTime v t := by
  constructor
  · intro read
    obtain ⟨h, seen, read⟩ := of_bind_ok read
    cases heads_of_head seen with
    | null =>
      cases read
      exact .null
    | text s =>
      simp only [] at read
      split at read
      · next instant =>
        cases read
        exact .text instant
      · cases read
    | truth | number | list | record => cases read
  · rintro (_ | read)
    · rfl
    · exact Message.timestamp_text read

/-- A reader takes from the value of a field what the value says, and changes nothing else. -/
theorem field_node (f : Field) {found m : Message} :
    field f v.node found = .ok m ↔ f.Says v (m.get f) ∧ found.adopt m f = m := by
  constructor
  · intro whole
    cases f <;> obtain ⟨x, read, ⟨⟩⟩ := of_bind_ok whole
    case headers => exact ⟨headers_node.mp read, rfl⟩
    case deliveryMode => exact ⟨deliveryMode_node.mp read, rfl⟩
    case priority => exact ⟨priority_node.mp read, rfl⟩
    case timestamp => exact ⟨timestamp_node.mp read, rfl⟩
    all_goals exact ⟨optionalText_node.mp read, rfl⟩
  · rintro ⟨said, kept⟩
    have stored : field f v.node found = .ok (found.adopt m f) := by
      cases f with
      | headers => simp only [field, headers_node.mpr said]; rfl
      | deliveryMode => simp only [field, deliveryMode_node.mpr said]; rfl
      | priority => simp only [field, priority_node.mpr said]; rfl
      | timestamp => simp only [field, timestamp_node.mpr said]; rfl
      | contentType | contentEncoding | correlationId | replyTo | expiration | messageId | kind
      | userId | appId => simp only [field, optionalText_node.mpr said]; rfl
    rw [stored, kept]

end Decode

end Relay
