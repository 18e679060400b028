import Relay.Proofs.Deeds
import Relay.Proofs.Stillness

/-!
# Dealings with the broker

What an act asks of the broker as far as messages and confirmations go. An act has at most one such
dealing: a publish, a request for confirm mode, the registration of a sink, an order for a nack, or
something with a sink. `dealing` reads it off the act and the service that it meets, and `deals` says that
the broker after the act is the one that the dealing leaves; every other act leaves messages and
confirmations as they are.
-/

namespace Relay.Service

open Broker (Still)

/-- What an act asks of the broker. -/
inductive Dealing where
  | publish (sending : Sending)
  /-- Somebody, perhaps a loop, puts a channel into confirm mode. -/
  | select (loop : Option Nat) (channel : Nat)
  | register (channel sink : Nat)
  | nack
  | receive (sink : Nat) (limit : Option Nat)
  | addSink (capacity : Option Nat)
  | dropSink (sink : Nat)
  | other

/-- What a dealing does to a broker. -/
def Dealing.Does : Dealing → Broker → Broker → Prop
  | .publish m, b, b' => b' = (m.outcome b).broker
  | .select _ c, b, b' => b' = (b.confirmSelect c).2
  | .register c k, b, b' => b' = b.notifyPublish c k
  | .nack, b, b' => b' = b.nackNext
  | .receive k limit, b, b' => b' = (b.receive k limit).2
  | .addSink capacity, b, b' => b' = (b.addSink capacity).2
  | .dropSink k, b, b' => b' = b.dropSink k
  | .other, b, b' => Still b b'

/-- What a command asks of the broker. -/
def commandDealing (s : Service) : Command → Dealing
  | .publishOn h exchange routingKey options message =>
    match s.heldChannel? h with
    | some channel => .publish ⟨none, channel, exchange, routingKey, options, message⟩
    | none => .other
  | .confirmSelect h =>
    match s.heldChannel? h with
    | some channel => .select none channel
    | none => .other
  | .notifyPublish h k =>
    match s.heldChannel? h with
    | some channel => if k < s.broker.sinks.size then .register channel k else .other
    | none => .other
  | .nackNext => .nack
  | .receive k limit => if k < s.broker.sinks.size then .receive k limit else .other
  | .sink capacity => .addSink capacity
  | .dropSink k => if k < s.broker.sinks.size then .dropSink k else .other
  | _ => .other

/-- What a loop asks of the broker with its next move, if no wait holds it up. -/
def loopDealing (s : Service) (t : Nat) (l : Loop) : Dealing :=
  match l.stage with
  | .confirming _ .entering => .select (some t) (s.channelOf l.handle)
  | .confirming _ (.leaving (.ok ())) =>
    match (s.publisher l.publisher).sink with
    | some sink => .register (s.channelOf l.handle) sink
    | none => .other
  | .publishing _ u .entering =>
    match s.call? u with
    | some c => .publish ⟨some (t, u), s.channelOf l.handle, (s.publisher l.publisher).exchange,
        c.request.routingKey, {}, c.request.message⟩
    | none => .other
  | _ => .other

/-- What an act asks of the broker. -/
def dealing (s : Service) : Act → Dealing
  | .command c _ => s.commandDealing c
  | .move t =>
    match s.loop? t with
    | some l => if s.isHeldUp l then .other else s.loopDealing t l
    | none => .other

/-- A deed, as far as messages and confirmations go. -/
def Deed.dealing : Deed → Dealing
  | .publish m => .publish m
  | .select loop c => .select loop c
  | .register c k => .register c k
  | .nackNext => .nack
  | .receive k limit => .receive k limit
  | .addSink capacity => .addSink capacity
  | .dropSink k => .dropSink k
  | _ => .other

/-- The dealing of a deed, if there is one. -/
def asDealing (d : Option Deed) : Dealing := d.elim .other Deed.dealing

theorem Deed.does (d : Deed) (b : Broker) : d.dealing.Does b (d.apply b) := by
  cases d with
  | publish | select | register | nackNext | receive | addSink | dropSink => rfl
  | declare name => exact Still.declare b name
  | openLast count => exact Still.openLast b count
  | disconnect error => exact Still.disconnect b error
  | restore | rejectNext | failConfirmSelect => exact Still.of_fields rfl rfl rfl rfl
  | close c => exact Still.close b c
  | terminate c reason => exact Still.terminate b c reason
  | listen c => exact Still.notifyClose b c
  | hold c => exact Still.hold b c
  | letGo c => exact Still.letGo b c

variable (s : Service)

theorem commandDealing_eq (c : Command) : s.commandDealing c = asDealing (s.commandDeed? c) := by
  cases c with
  | publishOn h | confirmSelect h =>
    simp only [commandDealing, commandDeed?]
    cases s.heldChannel? h <;> rfl
  | notifyPublish h k =>
    simp only [commandDealing, commandDeed?]
    cases s.heldChannel? h with
    | none => rfl
    | some c => simp only [Option.bind_some]; split <;> rfl
  | receive | dropSink => simp only [commandDealing, commandDeed?]; split <;> rfl
  | close h | terminate h | listen h | dropChannel h =>
    simp only [commandDealing, commandDeed?]
    cases s.heldChannel? h <;> rfl
  | serve n h =>
    simp only [commandDealing, commandDeed?]
    cases s.names[n]? <;> cases s.heldChannel? h <;> rfl
  | dropTask t =>
    simp only [commandDealing, commandDeed?]
    cases s.loop? t with
    | none => rfl
    | some l => simp only [Option.bind_some]; split <;> rfl
  | _ => rfl

theorem loopDealing_eq (t : Nat) (l : Loop) : s.loopDealing t l = asDealing (s.loopDeed? t l) := by
  cases stage : l.stage with
  | fresh | idle => simp only [loopDealing, loopDeed?, stage]; split <;> rfl
  | closing f phase => cases phase <;> simp only [loopDealing, loopDeed?, stage] <;> rfl
  | confirming notice phase =>
    cases phase with
    | entering => simp only [loopDealing, loopDeed?, stage]; rfl
    | leaving result =>
      cases result with
      | error => simp only [loopDealing, loopDeed?, stage]; rfl
      | ok =>
        simp only [loopDealing, loopDeed?, stage]
        cases (s.publisher l.publisher).sink <;> rfl
  | publishing notice u phase =>
    cases phase with
    | entering =>
      simp only [loopDealing, loopDeed?, stage]
      cases s.call? u <;> rfl
    | leaving => simp only [loopDealing, loopDeed?, stage]; rfl
  | finished | dropped => simp only [loopDealing, loopDeed?, stage]; rfl

/-- An act deals with the broker as its deed does. -/
theorem dealing_eq (a : Act) : s.dealing a = asDealing (s.deed? a) := by
  cases a with
  | command c passive => exact s.commandDealing_eq c
  | move t =>
    simp only [dealing, deed?]
    cases s.loop? t with
    | none => rfl
    | some l =>
      simp only []
      split
      · rfl
      · exact s.loopDealing_eq t l

/-- The broker after an act is the one that the dealing of the act leaves. -/
theorem deals (a : Act) : (s.dealing a).Does s.broker (s.act a).broker := by
  rw [dealing_eq, broker_act]
  cases s.deed? a with
  | none => exact Still.refl _
  | some d => exact d.does s.broker

end Relay.Service
