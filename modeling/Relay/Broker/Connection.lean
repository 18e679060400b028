import Relay.Broker.Channel

/-!
# Opening channels and losing the connection

Channels are numbered from 1 to 65535 and then from 1 again. While the connection is lost no channel
can be opened and none is live: losing it closes every channel that somebody holds.
-/

namespace Relay.Broker

/-- The greatest channel number. -/
def greatestNumber : Nat := 65535

/-- The number after a channel number. -/
def numberAfter (n : Nat) : Nat := if n < greatestNumber then n + 1 else 1

/-- Whether somebody holds a channel. -/
def isHeld (b : Broker) (c : Nat) : Bool :=
  match b.channels[c]? with
  | some channel => channel.isHeld
  | none => false

/-- Opens a channel, held by the caller. Channels that nobody holds leave the registry. -/
def openChannel (b : Broker) : Outcome (Except Exception Nat) :=
  if b.available then
    let c := b.channels.size
    let registry := b.registry.filter b.isHeld ++ [c]
    { value := .ok c
      broker :=
        { b with
          channels := b.channels.push { number := b.nextNumber }
          registry
          nextNumber := numberAfter b.nextNumber }
      notes := [.opened b.nextNumber] }
  else { value := .error .unavailable, broker := b }

/-- Opens a channel in place of another, which its holder lets go; so many times. The notes so far
are given with the last one first. -/
def reopen : Nat → Nat → Broker → List Note → Outcome (Except Exception Nat)
  | 0, c, b, notes => { value := .ok c, broker := b, notes := notes.reverse }
  | n + 1, c, b, notes =>
    match b.openChannel with
    | ⟨.ok c', b, opened⟩ => reopen n c' (b.letGo c) (opened ++ notes)
    | ⟨.error e, b, refused⟩ =>
      { value := .error e, broker := b, notes := (refused ++ notes).reverse }

/-- Opens a number of channels, at least one, and keeps the last. -/
def openLast (b : Broker) (count : Nat) : Outcome (Except Exception Nat) :=
  match b.openChannel with
  | ⟨.ok c, b, notes⟩ => reopen (count - 1) c b notes
  | refused => refused

/-- Loses the connection: every held channel closes. -/
def disconnect (b : Broker) (error : Exception) : Outcome Unit :=
  let reached := b.registry.filter b.isHeld
  let away := { b with available := false, registry := [] }
  { value := ()
    broker := reached.foldl (fun b c => b.shut c (some error)) away
    notes := [.disconnected reached.length error] }

/-- Has the connection again. -/
def restore (b : Broker) : Outcome Unit :=
  { value := (), broker := { b with available := true }, notes := [.restored] }

/-- Declares an exchange. -/
def declare (b : Broker) (name : String) : Broker :=
  if name ∈ b.exchanges then b else { b with exchanges := b.exchanges ++ [name] }

/-- Whether messages can be published to an exchange; the one without a name is always there. -/
def hasExchange (b : Broker) (name : String) : Bool := name.isEmpty || b.exchanges.contains name

/-- Has one more publish rejected. -/
def rejectNext (b : Broker) (error : Exception) : Broker :=
  { b with rejections := b.rejections ++ [error] }

/-- Has one more message answered negatively. -/
def nackNext (b : Broker) : Broker := { b with nacks := b.nacks + 1 }

/-- Has the next request for confirm mode refused; a later order replaces an earlier one. -/
def failConfirmSelect (b : Broker) (error : Exception) : Broker :=
  { b with confirmFailure := some error }

end Relay.Broker
