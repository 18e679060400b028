import Relay.Broker.Exception
import Relay.Message.Basic

/-!
# The broker and its channels

A broker keeps the exchanges that were declared, the messages it accepted, the faults it was told to
commit, and the channels opened on it. Three tables hold what others refer to by index: channels,
close notices and confirmation sinks. Entries stay where they are; a channel that nobody holds any
longer keeps its place but is vacated.
-/

namespace Relay.Broker

/-- Flags of a publish. -/
structure PublishOptions where
  mandatory : Bool := false
  immediate : Bool := false
  deriving DecidableEq, Repr

/-- The broker's answer to a message published in confirm mode. -/
structure Confirmation where
  /-- The number of the message on its channel. -/
  tag : Nat
  /-- Whether the broker took responsibility for the message. -/
  ack : Bool
  deriving DecidableEq, Repr

namespace Confirmation

/-- A positive answer. -/
def accepted (tag : Nat) : Confirmation := ⟨tag, true⟩

/-- A negative answer. -/
def refused (tag : Nat) : Confirmation := ⟨tag, false⟩

end Confirmation

/-- A message that the broker accepted. -/
structure Delivery where
  /-- The number of the channel it came on. -/
  channel : Nat
  exchange : String
  routingKey : String
  options : PublishOptions
  message : Message
  deriving DecidableEq

/-- Why a channel closed: an exception, or nothing for a graceful close. -/
abbrev CloseReason := Option Exception

/-- Whether a channel works. -/
inductive ChannelState where
  | live
  | closed (reason : CloseReason)
  deriving DecidableEq, Repr

/-- A channel. Others refer to it, to notices and to sinks by their index in the broker. -/
structure Channel where
  number : Nat
  state : ChannelState := .live
  /-- Notices to be told when the channel closes, in order of registration. -/
  listeners : List Nat := []
  /-- The tag of the next message, once the channel is in confirm mode. -/
  nextTag : Option Nat := none
  /-- Where confirmations go, one entry per registration. -/
  sinks : List Nat := []
  /-- How many hold the channel. -/
  holders : Nat := 1
  deriving DecidableEq, Repr

namespace Channel

/-- Whether the channel has closed. -/
def isClosed (c : Channel) : Bool := c.state != .live

/-- Whether somebody still holds the channel. -/
def isHeld (c : Channel) : Bool := c.holders != 0

end Channel

/-- What became of a close notice. -/
inductive Notice where
  | waiting
  | told (reason : CloseReason)
  /-- The channel vanished without closing. -/
  | lost
  deriving DecidableEq, Repr

/-- A queue of confirmations. -/
structure Sink where
  /-- The most that it holds, if there is a limit. -/
  capacity : Option Nat
  queue : List Confirmation := []
  /-- Whether somebody can still take from it. -/
  connected : Bool := true
  deriving DecidableEq, Repr

/-- Whether a sink has room for one more. -/
def Sink.hasRoom (s : Sink) : Bool :=
  match s.capacity with
  | none => true
  | some n => s.queue.length < n

/-- What the broker writes to its log. -/
inductive Note where
  | opened (channel : Nat)
  | disconnected (channels : Nat) (error : Exception)
  | restored
  | terminated (channel : Nat) (reason : CloseReason)
  | closed (channel : Nat)
  | closing (channel : Nat) (error : Exception)
  | sinkFull (tag : Nat)
  deriving DecidableEq, Repr

end Relay.Broker

namespace Relay

open Broker

/-- A broker. -/
structure Broker where
  available : Bool := true
  exchanges : List String := []
  /-- The messages accepted so far, in order. -/
  published : List Delivery := []
  channels : Array Channel := #[]
  /-- The channels that a loss of the connection reaches, in order of opening. -/
  registry : List Nat := []
  /-- The number of the next channel. -/
  nextNumber : Nat := 1
  /-- The next publishes are rejected with these, in order. -/
  rejections : List Exception := []
  /-- So many accepted messages are answered negatively. -/
  nacks : Nat := 0
  /-- The next request for confirm mode is refused with this. -/
  confirmFailure : Option Exception := none
  notices : Array Notice := #[]
  sinks : Array Sink := #[]
  deriving DecidableEq

namespace Broker

/-- A broker that nobody has used yet. -/
def fresh : Broker := {}

/-- What an operation leaves behind: its answer, the broker after it, and its log. -/
structure Outcome (α : Type) where
  value : α
  broker : Broker
  notes : List Note := []

end Broker

end Relay
