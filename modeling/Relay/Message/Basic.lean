import Relay.Message.Headers
import Relay.Time.Instant

/-!
# Messages

A message is a body of octets with the content properties that travel beside it. Every property is
optional; a message without a body serves as a template for the bodies published later.
-/

namespace Relay

/-- Whether the broker keeps a message across restarts. -/
inductive DeliveryMode where
  | transient
  | persistent
  deriving DecidableEq, Repr

namespace DeliveryMode

instance : Inhabited DeliveryMode := ⟨transient⟩

/-- The number that stands for the mode in the `delivery-mode` property. -/
def number : DeliveryMode → Nat
  | transient => 1
  | persistent => 2

/-- The name of the mode. -/
def name : DeliveryMode → String
  | transient => "transient"
  | persistent => "persistent"

/-- The mode of a name. -/
def ofName? (s : String) : Option DeliveryMode :=
  if s = "transient" then some transient
  else if s = "persistent" then some persistent
  else none

/-- Names tell modes apart. -/
@[simp] theorem ofName?_name (mode : DeliveryMode) : ofName? mode.name = some mode := by
  cases mode <;> decide

end DeliveryMode

/-- A message with its properties. -/
structure Message where
  headers : Headers := .empty
  contentType : Option String := none
  contentEncoding : Option String := none
  deliveryMode : DeliveryMode := .transient
  priority : UInt8 := 0
  correlationId : Option String := none
  replyTo : Option String := none
  expiration : Option String := none
  messageId : Option String := none
  timestamp : Option Time.Instant := none
  /-- The message type name. -/
  kind : Option String := none
  userId : Option String := none
  appId : Option String := none
  body : List UInt8 := []
  deriving DecidableEq

namespace Message

instance : Inhabited Message := ⟨{}⟩

/-- A message of default properties. -/
def ofBody (body : List UInt8) : Message := { body }

/-- The same properties with another body. -/
def withBody (m : Message) (body : List UInt8) : Message := { m with body }

/-- The message with a header set, which replaces an earlier one of that name. -/
def withHeader (m : Message) (name value : String) : Message :=
  { m with headers := m.headers.insert name value }

/-- The message with a content type. -/
def withContentType (m : Message) (s : String) : Message := { m with contentType := some s }

/-- The message with a delivery mode. -/
def withDeliveryMode (m : Message) (mode : DeliveryMode) : Message :=
  { m with deliveryMode := mode }

/-- The message with a correlation id. -/
def withCorrelationId (m : Message) (s : String) : Message := { m with correlationId := some s }

/-- The message with a message id. -/
def withMessageId (m : Message) (s : String) : Message := { m with messageId := some s }

/-- The message with a timestamp. -/
def withTimestamp (m : Message) (t : Time.Instant) : Message := { m with timestamp := some t }

/-- The message with an application id. -/
def withAppId (m : Message) (s : String) : Message := { m with appId := some s }

end Message

end Relay
