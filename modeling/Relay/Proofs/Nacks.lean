import Relay.Proofs.Confirming

/-!
# Nacks

A nack that was ordered waits for the next message that the broker accepts, on whatever channel. In
confirm mode that message is confirmed negatively; outside it the nack is spent without a word. Messages
that the broker refuses or rejects, or that close their channel, leave pending nacks alone.
-/

namespace Relay

namespace Broker

variable {b b' : Broker}

/-- Nobody gets a confirmation: queues can only get shorter. -/
def Silent (b b' : Broker) : Prop :=
  ∀ (k : Nat) (sink : Sink), b.sinks[k]? = some sink →
    ∃ sink', b'.sinks[k]? = some sink' ∧ sink'.queue <:+ sink.queue

namespace Silent

theorem of_sinks (same : b'.sinks = b.sinks) : Silent b b' :=
  fun _ sink here => ⟨sink, by rw [same, here], List.suffix_rfl⟩

/-- A sink is written over, and its queue gets no longer. -/
theorem modify {k : Nat} {f : Sink → Sink} (sinks : b'.sinks = b.sinks.modify k f)
    (shorter : ∀ sink, (f sink).queue <:+ sink.queue) : Silent b b' := by
  intro j sink here
  rw [sinks, Array.getElem?_modify, here]
  split
  · exact ⟨f sink, rfl, shorter sink⟩
  · exact ⟨sink, rfl, List.suffix_rfl⟩

theorem publish {c : Nat} {exchange routingKey : String} {options : PublishOptions}
    {message : Message} {value : Except Exception (Option Delivery)}
    (publishes : Publishes b c exchange routingKey options message value b')
    (nothing : accepted? value = none) : Silent b b' := by
  cases publishes with
  | refused | rejected => exact of_sinks rfl
  | unknown => exact of_sinks (Still.shut b c _).sinks
  | accepted => cases nothing

end Silent

end Broker

namespace Service

open Broker (Exception Delivery Silent)

variable {s : Service} {a : Act}

/-- Without a publish nobody gets a confirmation. -/
theorem Dealing.Does.silent {d : Dealing} {b b' : Broker} (does : d.Does b b')
    (other : ∀ m, d ≠ .publish m) : Silent b b' := by
  cases d with
  | publish m => exact absurd rfl (other m)
  | select l c =>
    rw [show b' = _ from does]
    unfold Broker.confirmSelect
    split
    · split <;> exact .of_sinks rfl
    · exact .of_sinks rfl
  | register c k =>
    rw [show b' = _ from does]
    unfold Broker.notifyPublish
    split <;> exact .of_sinks rfl
  | nack => rw [show b' = _ from does]; exact .of_sinks rfl
  | receive k limit =>
    rw [show b' = _ from does]
    unfold Broker.receive
    split
    · exact .of_sinks rfl
    · next sink here =>
      -- what is received is taken from the front, so a suffix of the queue is left
      exact .modify (f := fun k => { k with queue := k.queue.drop (limit.getD sink.queue.length) })
        rfl fun _ => List.drop_suffix _ _
  | addSink capacity =>
    rw [show b' = _ from does]
    intro k sink here
    have inBounds := (Array.getElem?_eq_some_iff.mp here).1
    refine ⟨sink, ?_, List.suffix_rfl⟩
    rw [Broker.addSink, Array.getElem?_push, if_neg (Nat.ne_of_lt inBounds), here]
  | dropSink k =>
    rw [show b' = _ from does]
    exact .modify (f := fun k => { k with queue := [], connected := false }) rfl
      fun _ => List.nil_suffix
  | other => exact .of_sinks does.sinks

/-- An act that has no message accepted sends no confirmation. -/
theorem silent_of_no_acceptance (nothing : s.acceptance? a = none) :
    Silent s.broker (s.act a).broker := by
  cases found : s.handling? a with
  | none => exact (s.deals a).silent (ne_publish_of_handling? found)
  | some h =>
    rw [acceptance?, found, Option.bind_some] at nothing
    exact .publish (publishes_of_handling found) nothing

/-- What an acceptance does to pending nacks, and to those who take confirmations on its channel. -/
structure Spends (s : Service) (a : Act) (channel : Nat) (delivery : Delivery) : Prop where
  published : (s.act a).broker.published = s.broker.published ++ [delivery]
  nacks : (s.act a).broker.nacks = s.broker.nacks - 1
  confirmed : ∃ ch, s.broker.channels[channel]? = some ch ∧ (s.act a).broker.sinks =
    match ch.nextTag with
    | none => s.broker.sinks
    | some tag => (Broker.send ⟨tag, s.broker.nacks == 0⟩ ch.sinks s.broker.sinks).2.1

theorem spends {h : Handling} {delivery : Delivery} (handles : s.handling? a = some h)
    (accepted : h.delivery? = some delivery) : Spends s a h.sending.channel delivery := by
  have log := (publishes_of_handling handles).log accepted
  obtain ⟨live, after⟩ := (publishes_of_handling handles).of_accepted accepted
  obtain ⟨ch, here, -⟩ := Broker.isLive_iff.mp live
  refine ⟨log.1, log.2, ch, here, ?_⟩
  rw [after]
  cases next : ch.nextTag with
  | none => exact (Broker.accept_of_none here next delivery).2
  | some tag => exact (Broker.accept_of_some here next delivery).2.2

/-- The messages of a run that were accepted while a nack was pending, in order. -/
def nacked (acts : List Act) : List Delivery :=
  gather (fun s a => if s.broker.nacks = 0 then none else s.acceptance? a) fresh acts

/-- The nacks that a run ordered. -/
def ordered (acts : List Act) : List Unit :=
  gather (fun s a => if (s.dealing a).nacks = 0 then none else some ()) fresh acts

/-- What was ordered is pending, or was spent on a message. -/
theorem length_ordered (acts : List Act) :
    (ordered acts).length = (fresh.perform acts).broker.nacks + (nacked acts).length := by
  induction acts using List.reverseRecOn with
  | nil => rfl
  | append_singleton acts a ih =>
    have orders : (ordered (acts ++ [a])).length =
        (ordered acts).length + ((fresh.perform acts).dealing a).nacks := by
      rw [ordered, gather_concat, List.length_append, ← ordered]
      cases (fresh.perform acts).dealing a <;> rfl
    have spent : nacked (acts ++ [a]) = nacked acts ++
        (if (fresh.perform acts).broker.nacks = 0 then none
          else (fresh.perform acts).acceptance? a).toList := gather_concat _ fresh acts a
    rw [orders, ih, spent, List.length_append, perform_concat]
    cases accepted : (fresh.perform acts).acceptance? a with
    | none =>
      rw [(log_of_no_acceptance accepted).2, ite_self, Option.toList_none, List.length_nil]
      omega
    | some delivery =>
      -- an act that sends a message orders no nack
      obtain ⟨h, handles, -⟩ := Option.bind_eq_some_iff.mp accepted
      have orderless : (Dealing.publish h.sending).nacks = 0 := rfl
      rw [(handling?_eq_some.mp handles).1, (log_of_acceptance accepted).2, orderless]
      split
      · next free => simp [free]
      · next pending =>
        rw [Option.toList_some, List.length_singleton]
        omega

/-- For everything that can happen, and whatever act comes next: a message that is accepted goes into the log
and uses up a nack, if one is pending, on whatever channel; in confirm mode it is confirmed, negatively
exactly if a nack was pending, and outside it nobody learns of it. No other act uses up a nack or sends a
confirmation, and the nacks that were ordered are those still pending and those spent on a message. -/
theorem nack_spent_on_next_acceptance (acts : List Act) (a : Act) :
    let s := fresh.perform acts
    (∀ h delivery, s.handling? a = some h → h.delivery? = some delivery →
      Spends s a h.sending.channel delivery) ∧
    (s.acceptance? a = none → (s.act a).broker.published = s.broker.published ∧
      (s.act a).broker.nacks = s.broker.nacks + (s.dealing a).nacks ∧
      Silent s.broker (s.act a).broker) ∧
    (ordered acts).length = s.broker.nacks + (nacked acts).length := by
  intro s
  refine ⟨fun h delivery => spends, fun nothing => ?_, length_ordered acts⟩
  have log := log_of_no_acceptance nothing
  exact ⟨log.1, log.2, silent_of_no_acceptance nothing⟩

/-- A nack is ordered for a channel in confirm mode, and the next message there spends it. -/
theorem nack_spent_in_confirm_mode :
    let acts : List Act := [.command (.openChannel 1) rfl, .command (.confirmSelect 0) rfl,
      .command (.sink none) rfl, .command (.notifyPublish 0 0) rfl, .command .nackNext rfl]
    let a : Act := .command (.publishOn 0 "" "key" {} {}) rfl
    Spends (fresh.perform acts) a 0 ⟨1, "", "key", {}, {}⟩ :=
  (nack_spent_on_next_acceptance [.command (.openChannel 1) rfl, .command (.confirmSelect 0) rfl,
    .command (.sink none) rfl, .command (.notifyPublish 0 0) rfl, .command .nackNext rfl]
    (.command (.publishOn 0 "" "key" {} {}) rfl)).1
    ⟨⟨none, 0, "", "key", {}, {}⟩, true, .ok (some ⟨1, "", "key", {}, {}⟩)⟩ _ rfl rfl

/-- A message on a channel that is not in confirm mode spends a nack, so that the next message that is
confirmed is confirmed positively. -/
theorem nack_spent_outside_confirm_mode :
    let ordered : List Act := [.command (.openChannel 1) rfl, .command .nackNext rfl]
    let publish : Act := .command (.publishOn 0 "" "key" {} {}) rfl
    let confirmed : List Act := [.command (.confirmSelect 0) rfl, .command (.sink none) rfl,
      .command (.notifyPublish 0 0) rfl, publish]
    let s := fresh.perform ordered
    s.broker.nacks = 1 ∧ s.broker.channels[0]?.map Broker.Channel.nextTag = some none ∧
      (s.act publish).broker.nacks = 0 ∧
      ((s.act publish).perform confirmed).broker.sinks[0]?.map Broker.Sink.queue =
        some [⟨1, true⟩] :=
  ⟨rfl, rfl, rfl, rfl⟩

end Service

end Relay
