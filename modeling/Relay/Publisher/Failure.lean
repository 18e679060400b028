import Relay.Broker.Exception

/-!
# How a publish call fails
-/

namespace Relay.Publisher

open Broker (Exception)

/-- Why a call did not publish its message, or does not know. -/
inductive Failure where
  /-- The publisher is cancelled. -/
  | dead
  /-- No channel was ever attached. -/
  | notInitialized
  /-- The serving loop went away between taking the request and answering it. -/
  | interrupted
  /-- The last channel closed with an exception and no other is attached. -/
  | channel (cause : Exception)
  /-- The broker rejected this message. -/
  | publish (cause : Exception)
  deriving DecidableEq, Repr

namespace Failure

/-- The exception behind a failure. -/
def cause? : Failure → Option Exception
  | channel e | publish e => some e
  | dead | notInitialized | interrupted => none

/-- The text of a failure. -/
def message : Failure → String
  | dead => "publisher is dead"
  | notInitialized => "publisher is not initialized"
  | interrupted => "serving loop stopped before answering"
  | channel e => "channel closed: " ++ e.message
  | publish e => "publish failed: " ++ e.message

end Failure

end Relay.Publisher
