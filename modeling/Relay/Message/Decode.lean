import Relay.Message.Basic
import Relay.Message.Field
import Relay.Json.Document
import Relay.Decimal.Layout
import Relay.Text.Quoted
import Relay.Time.Read

/-!
# Reading a written message

A message is read from the tree of a JSON text: from an object whose members are fields in any
order, or from a list of the values in the order of the fields. Members of other names are passed
over, and fields that are left out keep their defaults. The first mistake in the order of the text
is the one that is reported, also where the text breaks off later.
-/

namespace Relay

open Json (Fault Mistake Node Token Number Word Document)

namespace Decode

/-- What stands where something else should: a value without its contents. -/
inductive Head where
  | null
  | truth (value : Bool)
  | number (value : Number)
  | text (value : String)
  | list
  | record

/-- What should stand there. -/
inductive Expected where
  | message
  | text
  | headers
  | priority
  | timestamp
  | nothing
  deriving DecidableEq, Repr

/-- Why a text that is JSON is no message. -/
inductive Refusal where
  | wrongType (found : Head) (expected : Expected)
  | wrongValue (found : Int) (expected : Expected)
  | unknownMode (name : String)
  | repeated (field : Field)
  | timestamp (problem : Time.Problem)

/-- Why a text is no message. -/
inductive Reason where
  | text (mistake : Mistake)
  | refused (refusal : Refusal)

/-- Why a text is no message, with only the kind of a mistake in the text. -/
inductive Problem where
  | text (fault : Fault)
  | refused (refusal : Refusal)

/-- A head in an error message. -/
def Head.phrase : Head → String
  | null => "null"
  | truth value => "boolean `" ++ (if value then "true" else "false") ++ "`"
  | number (.natural n) => "integer `" ++ toString n ++ "`"
  | number (.negative n) => "integer `" ++ toString n ++ "`"
  | number (.real x) => "floating point `" ++ Decimal.render x ++ "`"
  | text s => "string " ++ Text.quote s
  | list => "sequence"
  | record => "map"

/-- An expectation in an error message. -/
def Expected.phrase : Expected → String
  | message => "struct Publishing"
  | text => "a string"
  | headers => "a map"
  | priority => "u8"
  | timestamp => "an RFC 3339 formatted date and time string"
  | nothing => "unit"

/-- The wording of a refusal. -/
def Refusal.message : Refusal → String
  | wrongType found expected => "invalid type: " ++ found.phrase ++ ", expected " ++ expected.phrase
  | wrongValue n expected =>
    "invalid value: integer `" ++ toString n ++ "`, expected " ++ expected.phrase
  | unknownMode name =>
    "unknown variant `" ++ name ++ "`, expected `transient` or `persistent`"
  | repeated field => "duplicate field `" ++ field.name ++ "`"
  | timestamp problem => problem.message

/-- The wording of a reason. -/
def Reason.message : Reason → String
  | text mistake => mistake.message
  | refused refusal => refusal.message

/-- A reason with only the kind of a mistake in the text. -/
def Reason.problem : Reason → Problem
  | text mistake => .text mistake.fault
  | refused refusal => .refused refusal

/-- A mistake in the text as the reason why it is no message. -/
def lift {α : Type} : Except Mistake α → Except Reason α := Except.mapError Reason.text

/-- Reports a refusal. -/
def refuse {α : Type} (refusal : Refusal) : Except Reason α := .error (.refused refusal)

/-- The head of a value that a token holds or begins. -/
def headOfToken : Token → Except Mistake Head
  | .word value => value.map fun
    | .null => .null
    | .true => .truth true
    | .false => .truth false
  | .number value _ => value.map .number
  | .text value _ => value.map .text
  | .openList => .ok .list
  | .openRecord => .ok .record
  | .missing => .error .endInValue
  | _ => .error .noValue

/-- The head of a node. -/
def head : Node → Except Mistake Head
  | .leaf token => headOfToken token
  | .list _ _ => .ok .list
  | .record _ _ => .ok .record
  | .absent mistake => .error mistake

/-- The name of a member. -/
def name : Token → Except Mistake String
  | .text value _ => value
  | .missing => .error .endInValue
  | .closeRecord => .error .trailingComma
  | _ => .error .noName

/-- The end of a list or record. -/
def ending : Option Mistake → Except Reason Unit
  | none => .ok ()
  | some mistake => .error (.text mistake)

/-- A text, or `null` for none. -/
def optionalText (node : Node) : Except Reason (Option String) := do
  match ← lift (head node) with
  | .null => pure none
  | .text s => pure (some s)
  | other => refuse (.wrongType other .text)

/-- A text. -/
def text (node : Node) : Except Reason String := do
  match ← lift (head node) with
  | .text s => pure s
  | other => refuse (.wrongType other .text)

/-- Headers from members, on top of those already read. -/
def headerMembers (found : Headers) : List (Token × Node) → Except Reason Headers
  | [] => .ok found
  | (token, node) :: rest => do
    let key ← lift (name token)
    let value ← text node
    headerMembers (found.insert key value) rest

/-- An object of texts. -/
def headers (node : Node) : Except Reason Headers := do
  match node with
  | .record members cut =>
    let found ← headerMembers .empty members
    ending cut
    pure found
  | other => refuse (.wrongType (← lift (head other)) .headers)

/-- An integer of one octet. -/
def priority (node : Node) : Except Reason UInt8 := do
  match ← lift (head node) with
  | .number (.natural n) =>
    if n < 256 then pure n.toUInt8 else refuse (.wrongValue n .priority)
  | .number (.negative n) => refuse (.wrongValue n .priority)
  | other => refuse (.wrongType other .priority)

/-- The mode of a name. -/
def modeOfName (s : String) : Except Reason DeliveryMode :=
  match DeliveryMode.ofName? s with
  | some mode => .ok mode
  | none => refuse (.unknownMode s)

/-- Nothing but `null`. -/
def nothing (node : Node) : Except Reason Unit := do
  match ← lift (head node) with
  | .null => pure ()
  | other => refuse (.wrongType other .nothing)

/-- The end of an object after its one member. -/
def endingOfOne (rest : List (Token × Node)) (cut : Option Mistake) : Except Reason Unit :=
  if rest.isEmpty then
    match cut with
    | some .noRecordNext => .error (.text .noValue)
    | cut => ending cut
  else .error (.text .noValue)

/-- The name of a mode, or an object whose one member has that name and the value `null`. -/
def deliveryMode : Node → Except Reason DeliveryMode
  | .leaf (.text value _) => do modeOfName (← lift value)
  | .record ((token, node) :: rest) cut => do
    let found ← modeOfName (← lift (name token))
    nothing node
    endingOfOne rest cut
    pure found
  | .leaf .missing | .record [] (some _) => .error (.text .endInValue)
  | .absent mistake => .error (.text mistake)
  | _ => .error (.text .noValue)

/-- A date and time in a text, or `null` for none. -/
def timestamp (node : Node) : Except Reason (Option Time.Instant) := do
  match ← lift (head node) with
  | .null => pure none
  | .text s =>
    match Time.Instant.ofString s with
    | .ok t => pure (some t)
    | .error problem => refuse (.timestamp problem)
  | other => refuse (.wrongType other .timestamp)

/-- Reads the value of one field into a message. -/
def field (f : Field) (node : Node) (m : Message) : Except Reason Message := do
  match f with
  | .headers => pure { m with headers := ← headers node }
  | .contentType => pure { m with contentType := ← optionalText node }
  | .contentEncoding => pure { m with contentEncoding := ← optionalText node }
  | .deliveryMode => pure { m with deliveryMode := ← deliveryMode node }
  | .priority => pure { m with priority := ← priority node }
  | .correlationId => pure { m with correlationId := ← optionalText node }
  | .replyTo => pure { m with replyTo := ← optionalText node }
  | .expiration => pure { m with expiration := ← optionalText node }
  | .messageId => pure { m with messageId := ← optionalText node }
  | .timestamp => pure { m with timestamp := ← timestamp node }
  | .kind => pure { m with kind := ← optionalText node }
  | .userId => pure { m with userId := ← optionalText node }
  | .appId => pure { m with appId := ← optionalText node }

/-- Reads members; `seen` are the fields that have been read. -/
def members (seen : List Field) (m : Message) : List (Token × Node) → Except Reason Message
  | [] => .ok m
  | (token, node) :: rest => do
    let key ← lift (name token)
    match Field.ofName? key with
    | none =>
      ending node.mistake?
      members seen m rest
    | some f =>
      if f ∈ seen then refuse (.repeated f)
      else members (f :: seen) (← field f node m) rest

/-- Reads values for the given fields; there may be fewer values, but not more. -/
def items (m : Message) : List Field → List Node → Except Reason Message
  | _, [] => .ok m
  | _, .leaf .closeList :: _ => .error (.text .trailingComma)
  | [], _ :: _ => .error (.text .trailing)
  | f :: fs, node :: nodes => do items (← field f node m) fs nodes

/-- The end of a list of so many values. Once there is one for every field, nothing else may follow. -/
def endingOfItems (count : Nat) : Option Mistake → Except Reason Unit
  | some .noListNext =>
    .error (.text (if count = Field.all.length then .trailing else .noListNext))
  | cut => ending cut

/-- Reads a message from its tree. -/
def message : Node → Except Reason Message
  | .record found cut => do
    let m ← members [] {} found
    ending cut
    pure m
  | .list found cut => do
    let m ← items {} Field.all found
    endingOfItems found.length cut
    pure m
  | node => do refuse (.wrongType (← lift (head node)) .message)

/-- Reads a whole text: nothing may follow the value. -/
def whole {α : Type} (read : Node → Except Reason α) (text : String) : Except Reason α := do
  let document := Document.ofText text
  let value ← read document.root
  if document.trailing then .error (.text .trailing) else pure value

end Decode

/-- Reads a message from its written form. -/
def Message.read (text : String) : Except Decode.Reason Message :=
  Decode.whole Decode.message text

/-- Reads a message, and reports only the kind of a mistake in the text. -/
def Message.decode (text : String) : Except Decode.Problem Message :=
  (Message.read text).mapError Decode.Reason.problem

/-- Reads a delivery mode from its written form. -/
def DeliveryMode.read (text : String) : Except Decode.Reason DeliveryMode :=
  Decode.whole Decode.deliveryMode text

/-- Reads a delivery mode, and reports only the kind of a mistake in the text. -/
def DeliveryMode.decode (text : String) : Except Decode.Problem DeliveryMode :=
  (DeliveryMode.read text).mapError Decode.Reason.problem

end Relay
