import Relay.Broker.Basic

/-!
# Closing, listening and holding

A channel closes once: the first cause counts, everybody who listens learns it, and confirmations
stop. Whoever asks later learns the same. A channel that its last holder lets go vanishes; if it had
not closed, those who listen learn that they will never be told.
-/

namespace Relay.Broker

/-- The broker with a channel changed. -/
def onChannel (b : Broker) (c : Nat) (f : Channel → Channel) : Broker :=
  { b with channels := b.channels.modify c f }

/-- The broker with notices set. -/
def setNotices (b : Broker) (refs : List Nat) (n : Notice) : Broker :=
  { b with notices := refs.foldl (fun ns r => ns.setIfInBounds r n) b.notices }

/-- Whether a channel is there and has not closed. -/
def isLive (b : Broker) (c : Nat) : Bool :=
  match b.channels[c]? with
  | some channel => !channel.isClosed
  | none => false

/-- The number of a channel. -/
def numberOf (b : Broker) (c : Nat) : Nat :=
  match b.channels[c]? with
  | some channel => channel.number
  | none => 0

/-- Closes a channel and tells those who listen; a channel that has closed stays as it is. -/
def shut (b : Broker) (c : Nat) (reason : CloseReason) : Broker :=
  match b.channels[c]? with
  | none => b
  | some channel =>
    if channel.isClosed then b
    else
      (b.setNotices channel.listeners (.told reason)).onChannel c fun ch =>
        { ch with state := .closed reason, listeners := [], sinks := [] }

/-- Registers a notice of the channel's closing, which is told at once if the channel has closed. -/
def notifyClose (b : Broker) (c : Nat) : Nat × Broker :=
  let notice := b.notices.size
  match b.channels[c]? with
  | none => (notice, { b with notices := b.notices.push .lost })
  | some channel =>
    match channel.state with
    | .closed reason => (notice, { b with notices := b.notices.push (.told reason) })
    | .live =>
      (notice, { b with notices := b.notices.push .waiting }.onChannel c fun ch =>
        { ch with listeners := ch.listeners ++ [notice] })

/-- Another holder of a channel. -/
def hold (b : Broker) (c : Nat) : Broker :=
  b.onChannel c fun ch => { ch with holders := ch.holders + 1 }

/-- A holder lets a channel go; after the last one those who listen are left without an answer. -/
def letGo (b : Broker) (c : Nat) : Broker :=
  match b.channels[c]? with
  | none => b
  | some channel =>
    let b := b.onChannel c fun ch => { ch with holders := ch.holders - 1 }
    if channel.holders ≤ 1 then
      (b.setNotices channel.listeners .lost).onChannel c fun ch => { ch with listeners := [] }
    else b

/-- Closes a channel at the client's wish. Only one that is live can be closed. -/
def close (b : Broker) (c : Nat) : Outcome (Except Exception Unit) :=
  if b.isLive c then
    { value := .ok (), broker := b.shut c none, notes := [.closed (b.numberOf c)] }
  else { value := .error .channelClosed, broker := b }

/-- Closes a channel at the broker's wish. -/
def terminate (b : Broker) (c : Nat) (reason : CloseReason) : Outcome Unit :=
  if b.isLive c then
    { value := (), broker := b.shut c reason, notes := [.terminated (b.numberOf c) reason] }
  else { value := (), broker := b }

end Relay.Broker
