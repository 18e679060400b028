import Relay.Message.Basic
import Relay.Message.Field
import Relay.Json.Escape
import Relay.Time.Print

/-!
# The written form of a message

One JSON object with every field in order, nothing between the tokens, `null` for what is unset, and
without the body. The members of the headers have no order of their own, so the writer takes it from
its caller.
-/

namespace Relay

/-- An unset text is `null`. -/
def encodeText : Option String → List Char
  | none => "null".toList
  | some s => Json.escape s.toList

/-- The name of a delivery mode. -/
def DeliveryMode.encode (mode : DeliveryMode) : List Char := Json.escape mode.name.toList

/-- A name with its value. -/
def encodeMember (name : String) (value : List Char) : List Char :=
  Json.escape name.toList ++ ':' :: value

/-- Members between braces. -/
def encodeRecord (members : List (List Char)) : List Char :=
  '\x7b' :: [','].intercalate members ++ ['\x7d']

/-- Headers in a given order. -/
def encodeHeaders (entries : List (String × String)) : List Char :=
  encodeRecord (entries.map fun e => encodeMember e.1 (Json.escape e.2.toList))

/-- An unset timestamp is `null`. -/
def encodeTimestamp : Option Time.Instant → List Char
  | none => "null".toList
  | some t => '"' :: t.print ++ ['"']

namespace Message

/-- The value of a field, with the headers in a given order. -/
def encodeField (m : Message) (entries : List (String × String)) : Field → List Char
  | .headers => encodeHeaders entries
  | .contentType => encodeText m.contentType
  | .contentEncoding => encodeText m.contentEncoding
  | .deliveryMode => m.deliveryMode.encode
  | .priority => Nat.toDigits 10 m.priority.toNat
  | .correlationId => encodeText m.correlationId
  | .replyTo => encodeText m.replyTo
  | .expiration => encodeText m.expiration
  | .messageId => encodeText m.messageId
  | .timestamp => encodeTimestamp m.timestamp
  | .kind => encodeText m.kind
  | .userId => encodeText m.userId
  | .appId => encodeText m.appId

/-- The written form with the headers in a given order. -/
def encodeWith (m : Message) (entries : List (String × String)) : String :=
  let members := Field.all.map fun f => encodeMember f.name (m.encodeField entries f)
  String.ofList (encodeRecord members)

/-- The written form with the headers in ascending order. -/
def encode (m : Message) : String := m.encodeWith m.headers.entries

end Message

end Relay
