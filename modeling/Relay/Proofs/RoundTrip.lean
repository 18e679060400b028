import Relay.Proofs.Written
import Relay.Message.Decode

/-!
# Messages that are read back

What is written for a message is read as that message, for every text and every order of the headers,
but for two of its parts. The body is not written. A timestamp is read as it is printed, so it is moved
where its nanoseconds go beyond one second and no leap second is. A message that was read has no body
and no such timestamp, so it is read back whole.
-/

namespace Relay

open Json (Node Token Written writeMember treeMember)

/-! ## Headers -/

namespace Headers

/-- Headers are told from their entries. -/
theorem eq_of_entries {h k : Headers} (same : h.entries = k.entries) : h = k := by
  cases h
  cases k
  congr

/-- A new name adds one entry. -/
theorem put_perm {name : String} (value : String) {es : List (String × String)}
    (new : ∀ e ∈ es, e.1 ≠ name) : (put name value es).Perm ((name, value) :: es) := by
  fun_induction put name value es with
  | case1 => exact .refl _
  | case2 => exact .refl _
  | case3 e es _ same => exact absurd same.symm (new e List.mem_cons_self)
  | case4 e es _ _ ih =>
    have rest := ih fun x member => new x (List.mem_cons_of_mem e member)
    exact (rest.cons e).trans (.swap _ _ _)

/-- Entries of different names are all kept. -/
theorem foldl_insert_perm {es : List (String × String)} : ∀ {h : Headers},
    (h.entries ++ es).Pairwise (fun a b => a.1 ≠ b.1) →
      (es.foldl (fun h e => h.insert e.1 e.2) h).entries.Perm (h.entries ++ es) := by
  induction es with
  | nil =>
    intro h _
    rw [List.append_nil]
    exact .refl _
  | cons e es ih =>
    intro h apart
    have new : ∀ x ∈ h.entries, x.1 ≠ e.1 :=
      fun x member => (List.pairwise_append.mp apart).2.2 x member e List.mem_cons_self
    have moved : ((h.insert e.1 e.2).entries ++ es).Perm (h.entries ++ e :: es) :=
      ((put_perm e.2 new).append_right es).trans List.perm_middle.symm
    exact (ih ((moved.pairwise_iff Ne.symm).mpr apart)).trans moved

/-- Names of which one comes before the other are not the same. -/
theorem ne_of_lt {a b : String} (below : a < b) : a ≠ b := by
  rintro rfl
  exact String.lt_irrefl a below

/-- Headers are the same whatever order their entries were put in. -/
theorem ofList_of_perm {h : Headers} {es : List (String × String)} (same : es.Perm h.entries) :
    ofList es = h := by
  have differ : h.entries.Pairwise fun a b => a.1 ≠ b.1 := h.ascending.imp ne_of_lt
  have apart : es.Pairwise fun a b => a.1 ≠ b.1 := (same.pairwise_iff Ne.symm).mpr differ
  have kept : (ofList es).entries.Perm h.entries := by
    have all : (ofList es).entries.Perm (empty.entries ++ es) := foldl_insert_perm apart
    exact all.trans same
  -- both lists are sorted by name, and a sorted list is told from its permutations
  have equal : (ofList es).entries = h.entries :=
    kept.eq_of_pairwise (fun _ _ _ _ below above => absurd above (String.lt_asymm below))
      (ofList es).ascending h.ascending
  exact eq_of_entries equal

end Headers

/-! ## The trees of fields -/

namespace Message

/-- The tree of an optional text. -/
def textTree : Option String → Node
  | none => .leaf (.word (.ok .null))
  | some s => .leaf (.text (.ok s) none)

/-- The tree of headers in a given order. -/
def headersTree (entries : List (String × String)) : Node :=
  .record (entries.map (treeMember Prod.fst fun e => textTree (some e.2))) none

/-- The tree of a field of a message, with the headers in a given order. -/
def fieldTree (m : Message) (entries : List (String × String)) : Field → Node
  | .headers => headersTree entries
  | .contentType => textTree m.contentType
  | .contentEncoding => textTree m.contentEncoding
  | .deliveryMode => textTree (some m.deliveryMode.name)
  | .priority => .leaf (.number (.ok (.natural m.priority.toNat)) none)
  | .correlationId => textTree m.correlationId
  | .replyTo => textTree m.replyTo
  | .expiration => textTree m.expiration
  | .messageId => textTree m.messageId
  | .timestamp => textTree (m.timestamp.map fun t => String.ofList t.print)
  | .kind => textTree m.kind
  | .userId => textTree m.userId
  | .appId => textTree m.appId

/-- A text or its absence has the tree of a leaf. -/
theorem written_text (s : Option String) : Written (encodeText s) (textTree s) := by
  cases s with
  | none => exact Json.written_null
  | some s => exact Json.written_escape s

/-- Headers have the tree of a record, in whatever order they are written. -/
theorem written_headers (entries : List (String × String)) :
    Written (encodeHeaders entries) (headersTree entries) :=
  Json.written_record fun e _ => Json.written_escape e.2

/-- The characters of an instant stand for themselves inside a string. -/
theorem escapeChar_of_plain {c : Char} (plain : Time.Plain c) : Json.escapeChar c = [c] := by
  obtain digit | other := plain
  · have least : 48 ≤ c.toNat := by
      rw [Char.isDigit, Bool.and_eq_true, decide_eq_true_eq] at digit
      exact digit.1
    fun_cases Json.escapeChar c with
    | case1 | case2 | case3 | case4 | case5 | case6 | case7 => subst_vars; cases digit
    | case8 => omega
    | case9 => rfl
  · simp only [List.mem_cons, List.not_mem_nil, or_false] at other
    obtain rfl | rfl | rfl | rfl | rfl | rfl := other <;> rfl

/-- Plain characters are written as they are. -/
theorem escape_of_plain {cs : List Char} (plain : ∀ c ∈ cs, Time.Plain c) :
    cs.flatMap Json.escapeChar = cs := by
  induction cs with
  | nil => rfl
  | cons c cs ih =>
    rw [List.flatMap_cons, escapeChar_of_plain (plain c List.mem_cons_self),
      ih fun d later => plain d (List.mem_cons_of_mem c later)]
    rfl

/-- A timestamp has the tree of the text that is printed for it. -/
theorem written_timestamp (t : Option Time.Instant) :
    Written (encodeTimestamp t) (textTree (t.map fun t => String.ofList t.print)) := by
  cases t with
  | none => exact Json.written_null
  | some t =>
    have plain : t.print.flatMap Json.escapeChar = t.print :=
      escape_of_plain fun c member => Time.plain_of_mem_print t c member
    have escaped : encodeTimestamp (some t) = Json.escape (String.ofList t.print).toList := by
      rw [String.toList_ofList, Json.escape, plain]
      rfl
    rw [escaped]
    exact Json.written_escape _

variable {m : Message} {entries : List (String × String)}

/-- Each field is written for its tree. -/
theorem written_field (f : Field) : Written (m.encodeField entries f) (m.fieldTree entries f) := by
  cases f with
  | headers => exact written_headers entries
  | deliveryMode => exact written_text (some _)
  | priority =>
    exact Json.written_toDigits (Nat.lt_trans m.priority.toNat_lt (by decide))
  | timestamp => exact written_timestamp m.timestamp
  | contentType | contentEncoding | correlationId | replyTo | expiration | messageId | kind
  | userId | appId => exact written_text _

/-- The tree of a written message. -/
theorem ofText_encodeWith (m : Message) (entries : List (String × String)) :
    Json.Document.ofText (m.encodeWith entries) =
      ⟨.record (Field.all.map (treeMember Field.name (m.fieldTree entries))) none, false⟩ :=
  Json.ofText_of_written (Json.written_record fun f _ => written_field f)

/-! ## Reading the trees -/

/-- The message with one property taken from another. -/
def adopt (m other : Message) : Field → Message
  | .headers => { m with headers := other.headers }
  | .contentType => { m with contentType := other.contentType }
  | .contentEncoding => { m with contentEncoding := other.contentEncoding }
  | .deliveryMode => { m with deliveryMode := other.deliveryMode }
  | .priority => { m with priority := other.priority }
  | .correlationId => { m with correlationId := other.correlationId }
  | .replyTo => { m with replyTo := other.replyTo }
  | .expiration => { m with expiration := other.expiration }
  | .messageId => { m with messageId := other.messageId }
  | .timestamp => { m with timestamp := other.timestamp }
  | .kind => { m with kind := other.kind }
  | .userId => { m with userId := other.userId }
  | .appId => { m with appId := other.appId }

/-- The text of a leaf is read. -/
theorem optionalText_textTree (s : Option String) : Decode.optionalText (textTree s) = .ok s := by
  cases s <;> rfl

/-- The members of a record of texts are inserted one after the other. -/
theorem headerMembers_map (es : List (String × String)) : ∀ found : Headers,
    Decode.headerMembers found (es.map (treeMember Prod.fst fun e => textTree (some e.2))) =
      .ok (es.foldl (fun h e => h.insert e.1 e.2) found) := by
  induction es with
  | nil => exact fun _ => rfl
  | cons e es ih => exact fun found => ih (found.insert e.1 e.2)

/-- The headers are read, in whatever order they were written. -/
theorem headers_headersTree (same : entries.Perm m.headers.entries) :
    Decode.headers (headersTree entries) = .ok m.headers := by
  rw [headersTree, Decode.headers, headerMembers_map, ← Headers.ofList_of_perm same]
  rfl

/-- A delivery mode is read from its name. -/
theorem deliveryMode_textTree (mode : DeliveryMode) :
    Decode.deliveryMode (textTree (some mode.name)) = .ok mode := by
  cases mode <;> rfl

/-- A priority is read. -/
theorem priority_fieldTree : Decode.priority (m.fieldTree entries .priority) = .ok m.priority := by
  have read : Decode.priority (m.fieldTree entries .priority) =
      if m.priority.toNat < 256 then .ok m.priority.toNat.toUInt8
      else Decode.refuse (.wrongValue m.priority.toNat .priority) := rfl
  rw [read, if_pos m.priority.toNat_lt]
  exact congrArg Except.ok UInt8.ofNat_toNat

/-- A timestamp is read as the instant that its text is read as. -/
theorem timestamp_text {s : String} {t : Time.Instant} (read : Time.Instant.ofString s = .ok t) :
    Decode.timestamp (textTree (some s)) = .ok (some t) := by
  have headed : Decode.lift (Decode.head (textTree (some s))) = .ok (.text s) := rfl
  simp only [Decode.timestamp, headed, bind, Except.bind, read]
  rfl

/-- A timestamp is read as it is printed. -/
theorem timestamp_textTree (t : Option Time.Instant) :
    Decode.timestamp (textTree (t.map fun t => String.ofList t.print)) =
      .ok (t.map Time.Instant.settled) := by
  cases t with
  | none => rfl
  | some t => exact timestamp_text (Time.ofString_print t)

/-- The message that is read from what is written for a message: without its body, and with its
timestamp as it is printed. -/
def asRead (m : Message) : Message :=
  { m with timestamp := m.timestamp.map Time.Instant.settled, body := [] }

/-- The tree of a field is read as the property of that field. -/
theorem field_fieldTree (same : entries.Perm m.headers.entries) (f : Field) (found : Message) :
    Decode.field f (m.fieldTree entries f) found = .ok (found.adopt m.asRead f) := by
  cases f with
  | headers =>
    have read := headers_headersTree same
    simp only [Decode.field, fieldTree, read]
    rfl
  | deliveryMode => simp only [Decode.field, fieldTree, deliveryMode_textTree]; rfl
  | priority => simp only [Decode.field, priority_fieldTree]; rfl
  | timestamp => simp only [Decode.field, fieldTree, timestamp_textTree]; rfl
  | contentType | contentEncoding | correlationId | replyTo | expiration | messageId | kind
  | userId | appId => simp only [Decode.field, fieldTree, optionalText_textTree]; rfl

/-- Members of different fields, none of them read before, are all read. -/
theorem members_fieldTree (same : entries.Perm m.headers.entries) (fs : List Field) :
    ∀ (seen : List Field) (found : Message), (fs ++ seen).Nodup →
      Decode.members seen found (fs.map (treeMember Field.name (m.fieldTree entries))) =
        .ok (fs.foldl (fun found f => found.adopt m.asRead f) found) := by
  induction fs with
  | nil => exact fun _ _ _ => rfl
  | cons f fs ih =>
    intro seen found distinct
    have new : f ∉ seen :=
      fun before => (List.nodup_cons.mp distinct).1 (List.mem_append_right fs before)
    have rest : (fs ++ f :: seen).Nodup := (List.perm_middle.nodup_iff).mpr distinct
    have named : Decode.lift (Decode.name (.text (.ok f.name) none)) = .ok f.name := rfl
    rw [List.map_cons, List.foldl_cons, ← ih (f :: seen) (found.adopt m.asRead f) rest]
    simp only [Decode.members, treeMember, named, bind, Except.bind, Field.ofName?_name,
      if_neg new, field_fieldTree same]

/-- A message is read from its tree with all its properties, and without its body. -/
theorem message_tree (same : entries.Perm m.headers.entries) :
    Decode.message (.record (Field.all.map (treeMember Field.name (m.fieldTree entries))) none) =
      .ok m.asRead := by
  have read := members_fieldTree same Field.all [] {} (by decide)
  have whole : Field.all.foldl (fun found f => found.adopt m.asRead f) {} = m.asRead := by
    simp only [Field.all, List.foldl_cons, List.foldl_nil, adopt, asRead]
  rw [whole] at read
  simp only [Decode.message, read, bind, Except.bind]
  rfl

/-- A text of which the whole tree is accepted is read. -/
theorem whole_of_tree {α : Type} {read : Node → Except Decode.Reason α} {text : String}
    {node : Node} {found : α} (tree : Json.Document.ofText text = ⟨node, false⟩)
    (accepted : read node = .ok found) : Decode.whole read text = .ok found := by
  unfold Decode.whole
  simp only [tree, accepted, bind, Except.bind]
  rfl

/-- A message is decoded where it is read; only the reports of mistakes differ. -/
theorem decode_eq_ok {text : String} {p : Message} : decode text = .ok p ↔ read text = .ok p := by
  unfold decode
  cases read text <;> simp [Except.mapError]

/-- What is written for a message, in any order of its headers, is decoded as that message is read. -/
theorem decode_written (same : entries.Perm m.headers.entries) :
    decode (m.encodeWith entries) = .ok m.asRead :=
  decode_eq_ok.mpr (whole_of_tree (ofText_encodeWith m entries) (message_tree same))

/-! ## Messages that were read -/

/-- Where two readers in a row succeed, each of them does. -/
theorem of_bind_ok {ε α β : Type} {x : Except ε α} {f : α → Except ε β} {result : β}
    (h : x >>= f = .ok result) : ∃ a, x = .ok a ∧ f a = .ok result := by
  cases x with
  | error e => cases h
  | ok a => exact ⟨a, rfl, h⟩

/-- A message as a reader makes it: it has no body, and a timestamp that is printed as it is. -/
structure IsReadable (m : Message) : Prop where
  body : m.body = []
  timestamp : ∀ t ∈ m.timestamp, t.IsRegular

/-- A message is read back but for its body just if its timestamp is regular. -/
theorem asRead_eq_withBody_iff :
    m.asRead = m.withBody [] ↔ ∀ t ∈ m.timestamp, t.IsRegular := by
  have parts : m.asRead = m.withBody [] ↔ m.timestamp.map Time.Instant.settled = m.timestamp :=
    ⟨congrArg timestamp, fun same => by rw [asRead, same, withBody]⟩
  rw [parts]
  cases m.timestamp with
  | none => simp
  | some t => simp [Time.Instant.settled_eq_iff]

/-- A message that could have been read is read as it is. -/
theorem IsReadable.asRead_eq (readable : m.IsReadable) : m.asRead = m := by
  rw [asRead_eq_withBody_iff.mpr readable.timestamp, withBody, ← readable.body]

/-- A timestamp that is read is regular. -/
theorem isRegular_of_timestamp {node : Node} {found : Option Time.Instant}
    (read : Decode.timestamp node = .ok found) : ∀ t ∈ found, t.IsRegular := by
  obtain ⟨head, -, read⟩ := of_bind_ok read
  split at read
  · cases read
    exact fun t absent => absurd absent (Option.not_mem_none t)
  · split at read
    · next instant =>
      cases read
      rintro _ ⟨⟩
      exact Time.isRegular_of_ofString instant
    · cases read
  · cases read

/-- A field is no body, and a timestamp that was read is regular. -/
theorem IsReadable.of_field {f : Field} {node : Node} {found p : Message}
    (read : Decode.field f node found = .ok p) (readable : found.IsReadable) : p.IsReadable := by
  cases f <;> obtain ⟨value, stored, ⟨⟩⟩ := of_bind_ok read
  case timestamp => exact ⟨readable.body, isRegular_of_timestamp stored⟩
  all_goals exact ⟨readable.body, readable.timestamp⟩

/-- Members read into a message that could have been read leave another one. -/
theorem IsReadable.of_members {nodes : List (Token × Node)} : ∀ {seen : List Field}
    {found p : Message}, Decode.members seen found nodes = .ok p → found.IsReadable →
      p.IsReadable := by
  induction nodes with
  | nil =>
    rintro _ _ _ ⟨⟩ readable
    exact readable
  | cons entry nodes ih =>
    intro seen found p read readable
    obtain ⟨key, -, read⟩ := of_bind_ok read
    split at read
    · obtain ⟨-, -, read⟩ := of_bind_ok read
      exact ih read readable
    · split at read
      · cases read
      · obtain ⟨next, stored, read⟩ := of_bind_ok read
        exact ih read (readable.of_field stored)

/-- So do items. -/
theorem IsReadable.of_items {fs : List Field} {nodes : List Node} {found p : Message}
    (read : Decode.items found fs nodes = .ok p) (readable : found.IsReadable) : p.IsReadable := by
  induction nodes generalizing fs found with
  | nil =>
    cases fs <;> cases read <;> exact readable
  | cons node nodes ih =>
    unfold Decode.items at read
    split at read
    · next none => cases none
    · cases read
    · cases read
    · next same =>
      cases same
      obtain ⟨next, stored, read⟩ := of_bind_ok read
      exact ih read (readable.of_field stored)

/-- So every message that is read could have been. -/
theorem IsReadable.of_message {node : Node} {p : Message} (read : Decode.message node = .ok p) :
    p.IsReadable := by
  have start : ({} : Message).IsReadable := ⟨rfl, fun t absent => absurd absent (Option.not_mem_none t)⟩
  unfold Decode.message at read
  split at read
  · obtain ⟨m, read, kept⟩ := of_bind_ok read
    obtain ⟨-, -, ⟨⟩⟩ := of_bind_ok kept
    exact start.of_members read
  · obtain ⟨m, read, kept⟩ := of_bind_ok read
    obtain ⟨-, -, ⟨⟩⟩ := of_bind_ok kept
    exact start.of_items read
  · obtain ⟨-, -, ⟨⟩⟩ := of_bind_ok read

/-- The same of a text. -/
theorem IsReadable.of_decode {text : String} {p : Message} (read : decode text = .ok p) :
    p.IsReadable := by
  obtain ⟨found, accepted, read⟩ := of_bind_ok (decode_eq_ok.mp read)
  split at read
  · cases read
  · cases read
    exact .of_message accepted

/-- What is written for a message, in any order of its headers, is read as that message without its
body, and with its timestamp as it is printed; nothing else changes, and nothing at all for a regular
timestamp. A message that was read survives being written and read whole. -/
theorem read_back :
    (∀ (m : Message) (entries : List (String × String)), entries.Perm m.headers.entries →
      decode (m.encodeWith entries) = .ok m.asRead ∧
        (m.asRead = m.withBody [] ↔ ∀ t ∈ m.timestamp, t.IsRegular)) ∧
    ∀ (text : String) (p : Message), decode text = .ok p →
      ∀ entries : List (String × String), entries.Perm p.headers.entries →
        decode (p.encodeWith entries) = .ok p := by
  constructor
  · intro m entries same
    exact ⟨decode_written same, asRead_eq_withBody_iff⟩
  · intro text p read entries same
    rw [decode_written same, (IsReadable.of_decode read).asRead_eq]

/-- A leap second before year 0, headers against their order, and characters that are escaped. -/
theorem read_back_before_common_era :
    let m : Message :=
      { headers := .ofList [("b", "\x00\n"), ("a", "\"\\é")]
        priority := 255
        timestamp := some ⟨-62167219201, 1000000001, by decide, by decide, by decide⟩
        body := [0] }
    let entries := [("b", "\x00\n"), ("a", "\"\\é")]
    entries.Perm m.headers.entries ∧
      decode (m.encodeWith entries) = .ok (m.withBody []) ∧
      decode ((m.withBody []).encodeWith entries) = .ok (m.withBody []) := by
  intro m entries
  have same : entries.Perm m.headers.entries := by decide
  obtain ⟨read, kept⟩ := read_back.1 m entries same
  have leap : ∀ t ∈ m.timestamp, t.IsRegular := by
    rintro _ ⟨⟩
    decide
  rw [kept.mpr leap] at read
  exact ⟨same, read, read_back.2 _ _ read entries same⟩

/-- One second and a half in second 10 is printed as second 11 and a half, and read as that. -/
theorem read_back_other_second :
    let t : Time.Instant := ⟨10, 1500000000, by decide, by decide, by decide⟩
    let m : Message := { timestamp := some t }
    let moved : Message := { timestamp := some ⟨11, 500000000, by decide, by decide, by decide⟩ }
    t.print = "1970-01-01T00:00:11.500Z".toList ∧ decode m.encode = .ok moved ∧
      decode m.encode ≠ .ok (m.withBody []) := by
  intro t m moved
  have settles : m.asRead = moved := by decide
  have read : decode m.encode = .ok m.asRead := decode_written (.refl _)
  rw [settles] at read
  refine ⟨by decide, read, fun same => ?_⟩
  rw [read] at same
  exact absurd (Except.ok.inj same) (by decide)

end Message

end Relay
