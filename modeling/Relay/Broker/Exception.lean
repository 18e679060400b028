import Relay.Text.Quoted

/-!
# Exceptions of the broker

A broker tells why it refused an operation or closed a channel by a reply code and a reason.
-/

namespace Relay.Broker

/-- A reply code with a human-readable reason. -/
structure Exception where
  code : UInt16
  reason : String
  deriving DecidableEq, Repr

namespace Exception

/-- An operator or the broker closed the connection. -/
def connectionForced (reason : String) : Exception := ⟨320, reason⟩

/-- The exchange does not exist. -/
def notFound (reason : String) : Exception := ⟨404, reason⟩

/-- The request conflicts with the state of the channel. -/
def preconditionFailed (reason : String) : Exception := ⟨406, reason⟩

/-- The operation is not allowed since the channel is closed. -/
def channelClosed : Exception := ⟨504, "channel/connection is not open"⟩

/-- What opening a channel meets while the broker is away. -/
def unavailable : Exception := connectionForced "broker unavailable"

/-- What closes a channel that publishes to an exchange nobody declared. -/
def unknownExchange (exchange : String) : Exception :=
  notFound ("no exchange '" ++ exchange ++ "' in vhost '/'")

/-- The text of an exception, on one line. -/
def message (e : Exception) : String :=
  "Exception (" ++ toString e.code.toNat ++ ") Reason: " ++ Text.quote e.reason

end Exception

end Relay.Broker
