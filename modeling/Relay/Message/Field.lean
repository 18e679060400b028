/-!
# The fields of a written message

The properties of a message have names and an order in its written form. The body has neither: it is
not written.
-/

namespace Relay

/-- A property that the written form holds. -/
inductive Field where
  | headers
  | contentType
  | contentEncoding
  | deliveryMode
  | priority
  | correlationId
  | replyTo
  | expiration
  | messageId
  | timestamp
  | kind
  | userId
  | appId
  deriving DecidableEq, Repr

namespace Field

/-- All fields in the order of the written form. -/
def all : List Field :=
  [headers, contentType, contentEncoding, deliveryMode, priority, correlationId, replyTo,
    expiration, messageId, timestamp, kind, userId, appId]

/-- The name of a field in the written form. -/
def name : Field → String
  | headers => "headers"
  | contentType => "content_type"
  | contentEncoding => "content_encoding"
  | deliveryMode => "delivery_mode"
  | priority => "priority"
  | correlationId => "correlation_id"
  | replyTo => "reply_to"
  | expiration => "expiration"
  | messageId => "message_id"
  | timestamp => "timestamp"
  | kind => "type"
  | userId => "user_id"
  | appId => "app_id"

/-- The field of a name. -/
def ofName? (s : String) : Option Field := all.find? fun f => f.name = s

/-- The order leaves no field out. -/
theorem mem_all (f : Field) : f ∈ all := by cases f <;> decide

/-- Names tell fields apart. -/
@[simp] theorem ofName?_name (f : Field) : ofName? f.name = some f := by cases f <;> decide

end Field

end Relay
