import Relay.Service.Task
import Relay.Log

/-!
# Events

What a run shows to others, and what it takes to tell which call an effect stems from.
-/

namespace Relay.Service

open Broker (Exception Delivery PublishOptions)

/-- An operation that a loop begins on a channel. -/
inductive ChannelCall where
  | notifyClose
  | confirmSelect
  | notifyPublish
  | close
  /-- A publish, for the call of that index. -/
  | publish (caller : Nat) (exchange routingKey : String) (options : PublishOptions)
      (message : Message)
  deriving DecidableEq

/-- Something that happened. -/
inductive Event where
  /-- A loop began an operation on the channel of a handle. -/
  | began (loop handle : Nat) (operation : ChannelCall)
  /-- The broker accepted a message, for a call or from a direct publish. -/
  | delivered (delivery : Delivery) (caller : Option Nat)
  /-- The owner was told of an exception. -/
  | reported (error : Exception)
  /-- The owner was told to forget a publisher. -/
  | forgotten (publisher : Nat)
  | noted (note : Note)
  /-- A call put its request into the intake of its publisher. -/
  | requested (caller : Nat)
  /-- The publish that a loop had begun for a call came back to the loop. -/
  | returned (loop caller : Nat) (result : Except Exception Unit)
  /-- Somebody cancelled a publisher, and learnt whether it was the first time. -/
  | cancelled (publisher : Nat) (first : Bool)
  /-- A task finished. -/
  | ended (task : Nat) (value : Value)
  /-- A task was dropped where it stood. -/
  | dropped (task : Nat)

end Relay.Service
