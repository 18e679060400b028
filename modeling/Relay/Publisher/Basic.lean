import Relay.Publisher.Request
import Relay.Publisher.Intake
import Relay.Broker.Basic

/-!
# Publishers

A publisher sends messages to one exchange through whichever channel is attached to it. Calls are
checked against its status before they may wait: whether it is dead, whether a channel was ever
attached, and whether the last one closed with an exception.
-/

namespace Relay.Publisher

open Broker (Exception CloseReason)

/-- What calls are checked against. -/
inductive Status where
  /-- No channel was ever attached. -/
  | uninitialized
  | clear
  /-- The last channel closed with an exception and no other was attached since. -/
  | failed (cause : Exception)
  deriving DecidableEq, Repr

/-- The failure of a call that meets a status. -/
def Status.failure? : Status → Option Failure
  | uninitialized => some .notInitialized
  | clear => none
  | failed cause => some (.channel cause)

/-- Why a serving loop ended. -/
inductive Detach where
  /-- The publisher is cancelled; the loop closed the channel. -/
  | cancelled
  /-- The channel closed. -/
  | closed (reason : CloseReason)
  /-- Another loop is attached; the loop closed the channel without using it. -/
  | alreadyAttached
  deriving DecidableEq, Repr

end Relay.Publisher

namespace Relay

open Publisher

/-- A publisher. -/
structure Publisher where
  exchange : String
  /-- The routing key of calls that bring none. -/
  routingKey : String
  /-- The properties that written bodies get. -/
  template : Message := {}
  /-- Where confirmations go, if somebody wants them. -/
  sink : Option Nat := none
  /-- Whether the publisher is cancelled. -/
  dead : Bool := false
  /-- Whether the owner was told to forget the publisher. -/
  forgotten : Bool := false
  /-- The loop that is attached, if one is. -/
  loop : Option Nat := none
  status : Status := .uninitialized
  intake : Intake := {}

namespace Publisher

/-- Whether a loop is attached. -/
def attached (p : Publisher) : Bool := p.loop.isSome

/-- Why a new call fails at once, if it does. -/
def refusal? (p : Publisher) : Option Failure :=
  if p.dead then some .dead else p.status.failure?

end Publisher

end Relay
