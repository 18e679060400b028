import Relay.Broker.Channel

/-!
# Confirm mode

In confirm mode every message accepted on a channel has a tag, counted from 1, and one confirmation
goes to every registered sink. A sink without room misses that confirmation; one that nobody takes
from any longer is forgotten.
-/

namespace Relay.Broker

/-- A new sink. -/
def addSink (b : Broker) (capacity : Option Nat) : Nat × Broker :=
  (b.sinks.size, { b with sinks := b.sinks.push { capacity } })

/-- Takes confirmations from a sink, the oldest first, at most so many. -/
def receive (b : Broker) (s : Nat) (limit : Option Nat) : List Confirmation × Broker :=
  match b.sinks[s]? with
  | none => ([], b)
  | some sink =>
    let count := limit.getD sink.queue.length
    (sink.queue.take count,
      { b with sinks := b.sinks.modify s fun k => { k with queue := k.queue.drop count } })

/-- Nobody takes from a sink any longer. -/
def dropSink (b : Broker) (s : Nat) : Broker :=
  { b with sinks := b.sinks.modify s fun k => { k with queue := [], connected := false } }

/-- Puts a channel into confirm mode; a second request changes nothing. -/
def confirmSelect (b : Broker) (c : Nat) : Except Exception Unit × Broker :=
  if b.isLive c then
    match b.confirmFailure with
    | some error => (.error error, { b with confirmFailure := none })
    | none =>
      (.ok (), b.onChannel c fun ch => { ch with nextTag := some (ch.nextTag.getD 1) })
  else (.error .channelClosed, b)

/-- Registers a sink for the confirmations of a live channel. -/
def notifyPublish (b : Broker) (c s : Nat) : Broker :=
  if b.isLive c then b.onChannel c fun ch => { ch with sinks := ch.sinks ++ [s] } else b

/-- Sends a confirmation to sinks: those that stay registered, the table of sinks after it, and one
note for each that had no room. -/
def send (confirmation : Confirmation) :
    List Nat → Array Sink → List Nat × Array Sink × List Note
  | [], sinks => ([], sinks, [])
  | s :: rest, sinks =>
    match sinks[s]? with
    | none => send confirmation rest sinks
    | some sink =>
      if !sink.connected then send confirmation rest sinks
      else if sink.hasRoom then
        let (kept, sinks, notes) :=
          send confirmation rest
            (sinks.modify s fun k => { k with queue := k.queue ++ [confirmation] })
        (s :: kept, sinks, notes)
      else
        let (kept, sinks, notes) := send confirmation rest sinks
        (s :: kept, sinks, .sinkFull confirmation.tag :: notes)

/-- Confirms the message just accepted on a channel, if the channel is in confirm mode. -/
def confirm (b : Broker) (c : Nat) (ack : Bool) : Outcome Unit :=
  match b.channels[c]? with
  | none => { value := (), broker := b }
  | some channel =>
    match channel.nextTag with
    | none => { value := (), broker := b }
    | some tag =>
      let (kept, sinks, notes) := send ⟨tag, ack⟩ channel.sinks b.sinks
      { value := ()
        broker := { b with sinks }.onChannel c fun ch =>
          { ch with nextTag := some (tag + 1), sinks := kept }
        notes }

end Relay.Broker
