import Relay.Proofs.Confirming

/-!
# Tags, registrations and queues

What an act does to confirmations shows in three places: the tag that the next message on a channel gets,
how often a sink is registered with a channel that is live, and what waits in the queue of a sink. This
module names the three, and says how a dealing changes tags and queues. A sink that has no limit and that
somebody takes from gets every confirmation, once for each registration.
-/

namespace Relay

namespace Broker

/-- The tag of the next message on a channel, if the channel is in confirm mode. -/
def tagOn (b : Broker) (c : Nat) : Option Nat := b.channels[c]?.bind Channel.nextTag

/-- How often a sink is registered with a channel, which has to be live. -/
def registrations (b : Broker) (c k : Nat) : Nat :=
  match b.channels[c]? with
  | some ch => if ch.isClosed then 0 else ch.sinks.count k
  | none => 0

/-- What waits in a sink. -/
def queueOf (b : Broker) (k : Nat) : List Confirmation := (b.sinks[k]?.map Sink.queue).getD []

/-- Somebody takes from a sink that has no limit, if the sink is there. -/
def Takes (b : Broker) (k : Nat) : Prop :=
  ∀ sink, b.sinks[k]? = some sink → sink.capacity = none ∧ sink.connected = true

variable {b b' : Broker} {c d k : Nat} {ch : Channel}

/-- The next tag on a channel is the one that it keeps. -/
theorem tagOn_of_channel (here : b.channels[c]? = some ch) : b.tagOn c = ch.nextTag := by
  rw [tagOn, here, Option.bind_some]

/-- An open channel counts the registrations of a sink. -/
theorem registrations_of_channel (here : b.channels[c]? = some ch) :
    b.registrations c k = if ch.isClosed then 0 else ch.sinks.count k := by
  rw [registrations, here]

/-- A queue depends on the sinks alone. -/
theorem queueOf_of_sinks (same : b'.sinks = b.sinks) (k : Nat) : b'.queueOf k = b.queueOf k := by
  rw [queueOf, same, queueOf]

/-- No sink is registered on a channel that is not open. -/
theorem registrations_of_not_isLive (closed : b.isLive c = false) : b.registrations c k = 0 := by
  cases here : b.channels[c]? with
  | none => rw [registrations, here]
  | some ch =>
    rw [registrations_of_channel here, isClosed_of_not_live (Bool.eq_false_iff.mp closed) here]
    rfl

/-- The next tag depends on the channel alone. -/
theorem tagOn_of_same (same : b'.channels[c]? = b.channels[c]?) : b'.tagOn c = b.tagOn c := by
  rw [tagOn, same, tagOn]

/-- An operation that does not concern confirmations leaves tags. -/
theorem Still.tagOn (still : Still b b') (c : Nat) : b'.tagOn c = b.tagOn c := by
  cases here : b.channels[c]? with
  | some ch =>
    obtain ⟨ch', there, stays⟩ := still.channels c ch here
    rw [tagOn_of_channel there, tagOn_of_channel here, stays.nextTag]
  | none =>
    cases there : b'.channels[c]? with
    | none => exact tagOn_of_same (there.trans here.symm)
    | some ch' =>
      rw [tagOn_of_channel there, (still.opened c ch' here there).1, Broker.tagOn, here]
      rfl

/-! ## Confirm mode -/

/-- Confirm mode begins with the first tag, unless it had begun. -/
theorem tagOn_confirmSelect (b : Broker) (c : Nat) : (b.confirmSelect c).2.tagOn c =
    match (b.confirmSelect c).1 with
    | .ok () => some ((b.tagOn c).getD 1)
    | .error _ => b.tagOn c := by
  unfold confirmSelect
  split
  · next live =>
    obtain ⟨ch, here, -⟩ := isLive_iff.mp live
    split
    · rfl
    · rw [tagOn_of_channel (channels_onChannel_self here _), tagOn_of_channel here]
  · rfl

/-- Confirm mode brings no tag to another channel. -/
theorem tagOn_confirmSelect_of_ne (b : Broker) (other : d ≠ c) :
    (b.confirmSelect c).2.tagOn d = b.tagOn d := by
  unfold confirmSelect
  split
  · split
    · rfl
    · exact tagOn_of_same (channels_onChannel_of_ne b other _)
  · rfl

/-! ## Registering -/

/-- A registration changes no tag. -/
theorem tagOn_notifyPublish (b : Broker) (c j d : Nat) :
    (b.notifyPublish c j).tagOn d = b.tagOn d := by
  unfold notifyPublish
  split
  · rw [tagOn, channels_onChannel, tagOn]
    by_cases own : c = d
    · rw [if_pos own]
      cases b.channels[d]? <;> rfl
    · rw [if_neg own]
  · rfl

/-! ## Accepting -/

section Accept

variable (live : b.isLive c = true) (delivery : Delivery)

include live

/-- A message that is accepted uses up a tag. -/
theorem tagOn_accept : (b.accept c delivery).broker.tagOn c = (b.tagOn c).map (· + 1) := by
  obtain ⟨ch, here, -⟩ := isLive_iff.mp live
  rw [tagOn_of_channel here]
  cases next : ch.nextTag with
  | none =>
    have channels := (accept_of_none here next delivery).1
    rw [tagOn_of_same (congrArg (·[c]?) channels), tagOn_of_channel here, next]
    rfl
  | some tag =>
    rw [tagOn_of_channel (accept_of_some here next delivery).1]
    rfl

/-- A message uses up no tag of another channel. -/
theorem tagOn_accept_of_ne (other : d ≠ c) :
    (b.accept c delivery).broker.tagOn d = b.tagOn d := by
  obtain ⟨ch, here, -⟩ := isLive_iff.mp live
  cases next : ch.nextTag with
  | none => exact tagOn_of_same (congrArg (·[d]?) (accept_of_none here next delivery).1)
  | some tag => exact tagOn_of_same ((accept_of_some here next delivery).2.1 d other)

/-- A sink that somebody takes from gets the confirmation. -/
theorem queueOf_accept (takes : b.Takes k)
    (there : b.registrations c k ≠ 0 → ∃ sink, b.sinks[k]? = some sink) :
    (b.accept c delivery).broker.queueOf k = b.queueOf k ++
      (b.tagOn c).elim [] fun tag => List.replicate (b.registrations c k) ⟨tag, b.nacks == 0⟩ := by
  obtain ⟨ch, here, -⟩ := isLive_iff.mp live
  rw [tagOn_of_channel here]
  cases next : ch.nextTag with
  | none =>
    rw [queueOf_of_sinks (accept_of_none here next delivery).2, Option.elim_none, List.append_nil]
  | some tag =>
    have sinks := (accept_of_some here next delivery).2.2
    rw [registrations_of_channel here, isClosed_of_live live here, if_neg Bool.false_ne_true] at there ⊢
    rw [queueOf, sinks, sinks_send, queueOf]
    cases found : b.sinks[k]? with
    | some sink =>
      obtain ⟨unbounded, connected⟩ := takes sink found
      simp only [Option.map_some, Option.getD_some, Sink.given, Option.elim_some,
        Sink.share_of_unbounded unbounded connected]
    | none =>
      have unregistered : ch.sinks.count k = 0 := by
        by_contra registered
        obtain ⟨sink, there⟩ := there registered
        cases found.symm.trans there
      rw [unregistered]
      rfl

end Accept

/-! ## Sinks -/

/-- Confirm mode leaves the sinks. -/
theorem sinks_confirmSelect (b : Broker) (c : Nat) : (b.confirmSelect c).2.sinks = b.sinks := by
  unfold confirmSelect
  split
  · split <;> rfl
  · rfl

/-- So does a registration. -/
theorem sinks_notifyPublish (b : Broker) (c j : Nat) : (b.notifyPublish c j).sinks = b.sinks := by
  unfold notifyPublish
  split <;> rfl

/-- What is taken from a sink was in its queue. -/
theorem queueOf_receive (b : Broker) (j : Nat) (limit : Option Nat) (k : Nat) :
    (if j = k then (b.receive k limit).1 else []) ++ (b.receive j limit).2.queueOf k = b.queueOf k := by
  unfold receive
  cases here : b.sinks[j]? with
  | none =>
    split
    · next own =>
      rw [← own, here]
      rfl
    · rfl
  | some sink =>
    by_cases own : j = k
    · subst own
      simp only [if_pos, here, queueOf, Array.getElem?_modify, Option.map_some, Option.getD_some,
        List.take_append_drop]
    · simp only [if_neg own, queueOf, Array.getElem?_modify, List.nil_append]

/-- A new sink is empty. -/
theorem queueOf_addSink (b : Broker) (capacity : Option Nat) (k : Nat) :
    (b.addSink capacity).2.queueOf k = b.queueOf k := by
  rw [queueOf, addSink, Array.getElem?_push]
  split
  · next new =>
    rw [queueOf, new, Array.getElem?_eq_none (Nat.le_refl _)]
    rfl
  · rfl

/-- Somebody takes from a sink only if it is another one that is dropped. -/
theorem queueOf_dropSink {j : Nat} (takes : (b.dropSink j).Takes k) :
    (b.dropSink j).queueOf k = b.queueOf k := by
  rw [Takes, dropSink] at takes
  rw [queueOf, dropSink, queueOf, Array.getElem?_modify]
  split
  · next own =>
    rw [Array.getElem?_modify, if_pos own] at takes
    cases here : b.sinks[k]? with
    | none => rfl
    | some sink =>
      rw [here] at takes
      exact nomatch (takes _ rfl).2
  · rfl

/-- Accepting keeps the limit of a sink, and who takes from it. -/
theorem sink_accept (live : b.isLive c = true) (delivery : Delivery) {sink : Sink}
    (here : b.sinks[k]? = some sink) : ∃ sink', (b.accept c delivery).broker.sinks[k]? = some sink' ∧
      sink'.capacity = sink.capacity ∧ sink'.connected = sink.connected := by
  obtain ⟨ch, at_c, -⟩ := isLive_iff.mp live
  cases next : ch.nextTag with
  | none => exact ⟨sink, by rw [(accept_of_none at_c next delivery).2, here], rfl, rfl⟩
  | some tag =>
    rw [(accept_of_some at_c next delivery).2.2, sinks_send, here]
    exact ⟨_, rfl, rfl, rfl⟩

end Broker

namespace Service

open Broker (Confirmation Exception Delivery Sink Takes)

/-- Who publishes on a channel, or puts it into confirm mode: a loop, or somebody else. -/
def Dealing.user? (c : Nat) : Dealing → Option (Option Nat)
  | .publish m => if m.channel = c then some (m.origin.map Prod.fst) else none
  | .select user d => if d = c then some user else none
  | _ => none

/-- The confirmations that a sink gets for a message. -/
def Sending.confirmations (b : Broker) (m : Sending) (k : Nat) : List Confirmation :=
  match Broker.accepted? (m.outcome b).value, b.tagOn m.channel with
  | some _, some tag => List.replicate (b.registrations m.channel k) ⟨tag, b.nacks == 0⟩
  | _, _ => []

namespace Dealing

/-- Whether a dealing registers a sink with a channel. -/
def registers (c k : Nat) : Dealing → Bool
  | .register d j => d == c && j == k
  | _ => false

/-- A dealing registers one sink on one channel. -/
theorem registers_iff {d : Dealing} {c k : Nat} : d.registers c k = true ↔ d = .register c k := by
  cases d <;> simp [registers]

/-- What a dealing takes from a sink. -/
def taken (b : Broker) (k : Nat) : Dealing → List Confirmation
  | .receive j limit => if j = k then (b.receive k limit).1 else []
  | _ => []

/-- What a dealing sends to a sink. -/
def confirmations (b : Broker) (k : Nat) : Dealing → List Confirmation
  | .publish m => m.confirmations b k
  | _ => []

namespace Does

variable {d : Dealing} {b b' : Broker} {c k : Nat}

/-- A sink keeps its limit, and gets nobody to take from it once it has nobody. -/
theorem sink (does : d.Does b b') {x : Sink} (here : b.sinks[k]? = some x) :
    ∃ x', b'.sinks[k]? = some x' ∧ x'.capacity = x.capacity ∧
      (x'.connected = true → x.connected = true) := by
  -- a sink is left alone, or written over by one that keeps its limit
  have same : b'.sinks = b.sinks → ∃ x', b'.sinks[k]? = some x' ∧ x'.capacity = x.capacity ∧
      (x'.connected = true → x.connected = true) := fun same => ⟨x, by rw [same, here], rfl, id⟩
  have written : ∀ {j : Nat} {f : Sink → Sink}, b'.sinks = b.sinks.modify j f →
      (∀ x, (f x).capacity = x.capacity ∧ ((f x).connected = true → x.connected = true)) →
      ∃ x', b'.sinks[k]? = some x' ∧ x'.capacity = x.capacity ∧
        (x'.connected = true → x.connected = true) := by
    intro j f sinks keeps
    rw [sinks, Array.getElem?_modify, here]
    split
    · exact ⟨f x, rfl, keeps x⟩
    · exact ⟨x, rfl, rfl, id⟩
  cases d with
  | publish m =>
    have publishes := publishes does
    generalize (m.outcome b).value = value at publishes
    cases publishes with
    | refused | rejected => exact same rfl
    | unknown => exact same (Broker.Still.shut b m.channel _).sinks
    | accepted live =>
      obtain ⟨x', there, capacity, connected⟩ := Broker.sink_accept live ⟨b.numberOf m.channel,
        m.exchange, m.routingKey, m.options, m.message⟩ here
      exact ⟨x', there, capacity, fun taken => connected.symm.trans taken⟩
  | select user c => exact same (by rw [show b' = _ from does, Broker.sinks_confirmSelect])
  | register c j => exact same (by rw [show b' = _ from does, Broker.sinks_notifyPublish])
  | receive j limit =>
    have after : b' = (b.receive j limit).2 := does
    unfold Broker.receive at after
    split at after
    · exact same (by rw [after])
    · next sink _ =>
      exact written (f := fun x => { x with queue := x.queue.drop (limit.getD sink.queue.length) })
        (by rw [after]) fun _ => ⟨rfl, id⟩
  | addSink capacity =>
    have inBounds := (Array.getElem?_eq_some_iff.mp here).1
    refine ⟨x, ?_, rfl, id⟩
    rw [show b' = _ from does, Broker.addSink, Array.getElem?_push, if_neg (Nat.ne_of_lt inBounds), here]
  | dropSink j =>
    exact written (f := fun x => { x with queue := [], connected := false })
      (by rw [show b' = _ from does]; rfl) fun x => ⟨rfl, nofun⟩
  | nack => exact same (by rw [show b' = _ from does]; rfl)
  | other => exact same (show Broker.Still b b' from does).sinks

/-- A sink that takes confirmations did so before. -/
theorem takes (does : d.Does b b') (takes : b'.Takes k) : b.Takes k := by
  intro x here
  obtain ⟨x', there, capacity, connected⟩ := does.sink here
  exact ⟨capacity.symm.trans (takes x' there).1, connected (takes x' there).2⟩

/-- Nobody but its users changes the next tag of a channel. -/
theorem tagOn_of_unused (does : d.Does b b') (unused : d.user? c = none) :
    b'.tagOn c = b.tagOn c := by
  cases d with
  | publish m =>
    have other : c ≠ m.channel := fun same => by rw [user?, if_pos same.symm] at unused; cases unused
    have publishes := publishes does
    generalize (m.outcome b).value = value at publishes
    cases publishes with
    | refused | rejected => rfl
    | unknown => exact (Broker.Still.shut b m.channel _).tagOn c
    | accepted live => exact Broker.tagOn_accept_of_ne live _ other
  | select user e =>
    have other : c ≠ e := fun same => by rw [user?, if_pos same.symm] at unused; cases unused
    rw [show b' = _ from does]
    exact Broker.tagOn_confirmSelect_of_ne b other
  | register e j =>
    rw [show b' = _ from does]
    exact Broker.tagOn_notifyPublish b e j c
  | receive j limit =>
    rw [show b' = _ from does]
    unfold Broker.receive
    split <;> rfl
  | nack | addSink | dropSink => rw [show b' = _ from does]; rfl
  | other => exact (show Broker.Still b b' from does).tagOn c

/-- A message uses up a tag of its channel if it is accepted. -/
theorem tagOn_publish {m : Sending} (does : (publish m).Does b b') : b'.tagOn m.channel =
    if (Broker.accepted? (m.outcome b).value).isSome then (b.tagOn m.channel).map (· + 1)
    else b.tagOn m.channel := by
  have publishes := publishes does
  generalize (m.outcome b).value = value at publishes ⊢
  cases publishes with
  | refused | rejected => rfl
  | unknown => exact (Broker.Still.shut b m.channel _).tagOn m.channel
  | accepted live => exact Broker.tagOn_accept live _

/-- What a dealing takes from a sink was there before, and what it sends comes last. -/
theorem queueOf (does : d.Does b b') (takes : b.Takes k) (takes' : b'.Takes k)
    (there : ∀ c, b.registrations c k ≠ 0 → ∃ sink, b.sinks[k]? = some sink) :
    d.taken b k ++ b'.queueOf k = b.queueOf k ++ d.confirmations b k := by
  -- most dealings leave the sinks alone, and then both sides are the queue as it was
  have same : b'.sinks = b.sinks → [] ++ b'.queueOf k = b.queueOf k ++ [] := fun same => by
    rw [Broker.queueOf_of_sinks same, List.nil_append, List.append_nil]
  cases d with
  | publish m =>
    have publishes := publishes does
    rw [confirmations, Sending.confirmations]
    generalize (m.outcome b).value = value at publishes ⊢
    cases publishes with
    | refused | rejected => exact same rfl
    | unknown => exact same (Broker.Still.shut b m.channel _).sinks
    | accepted live =>
      have queue := Broker.queueOf_accept live ⟨b.numberOf m.channel, m.exchange, m.routingKey,
        m.options, m.message⟩ takes (there m.channel)
      change [] ++ Broker.queueOf _ k = _
      rw [List.nil_append, queue]
      cases b.tagOn m.channel <;> rfl
  | select user c => exact same (by rw [show b' = _ from does, Broker.sinks_confirmSelect])
  | register c j => exact same (by rw [show b' = _ from does, Broker.sinks_notifyPublish])
  | receive j limit =>
    rw [show b' = _ from does]
    change (if j = k then (b.receive k limit).1 else []) ++ Broker.queueOf _ k = _ ++ []
    rw [Broker.queueOf_receive, List.append_nil]
  | addSink capacity =>
    rw [show b' = _ from does]
    change [] ++ Broker.queueOf _ k = _ ++ []
    rw [Broker.queueOf_addSink, List.nil_append, List.append_nil]
  | dropSink j =>
    rw [show b' = _ from does] at takes' ⊢
    change [] ++ Broker.queueOf _ k = _ ++ []
    rw [Broker.queueOf_dropSink takes', List.nil_append, List.append_nil]
  | nack => exact same (by rw [show b' = _ from does]; rfl)
  | other => exact same (show Broker.Still b b' from does).sinks

end Does

end Dealing

end Service

end Relay
