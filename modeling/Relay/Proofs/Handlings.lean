import Relay.Proofs.Dealings

/-!
# What becomes of messages that are sent

A broker refuses a message on a closed channel, rejects it, closes the channel since nobody declared the
exchange, or accepts it: `publish_cases` tells the four apart with everything that each leaves. `handlings`
lists what a run's broker made of every message that it was sent, in order, with the loop and the call that
each stems from. The log of the broker is exactly what was accepted.
-/

namespace Relay

namespace Broker

variable {b b' : Broker} {c : Nat}

/-- What becomes of a message that is published on a channel. -/
inductive Publishes (b : Broker) (c : Nat) (exchange routingKey : String) (options : PublishOptions)
    (message : Message) : Except Exception (Option Delivery) → Broker → Prop
  | refused (closed : b.isLive c = false) :
      Publishes b c exchange routingKey options message (.error .channelClosed) b
  | rejected {error : Exception} {later : List Exception} (live : b.isLive c = true)
      (ordered : b.rejections = error :: later) :
      Publishes b c exchange routingKey options message (.error error) { b with rejections := later }
  | unknown (live : b.isLive c = true) (free : b.rejections = [])
      (absent : b.hasExchange exchange = false) :
      Publishes b c exchange routingKey options message (.ok none)
        (b.shut c (some (.unknownExchange exchange)))
  | accepted (live : b.isLive c = true) (free : b.rejections = [])
      (there : b.hasExchange exchange = true) :
      Publishes b c exchange routingKey options message
        (.ok (some ⟨b.numberOf c, exchange, routingKey, options, message⟩))
        (b.accept c ⟨b.numberOf c, exchange, routingKey, options, message⟩).broker

/-- Each publish is one of the four cases. -/
theorem publish_cases (b : Broker) (c : Nat) (exchange routingKey : String)
    (options : PublishOptions) (message : Message) :
    Publishes b c exchange routingKey options message
      (b.publish c exchange routingKey options message).value
      (b.publish c exchange routingKey options message).broker := by
  unfold Broker.publish
  split
  · next live =>
    split
    · next ordered => exact .rejected live ordered
    · next free =>
      split
      · next there => exact .accepted live free there
      · next absent => exact .unknown live free (Bool.eq_false_iff.mpr absent)
  · next closed => exact .refused (Bool.eq_false_iff.mpr closed)

/-! ## Accepting -/

/-- A confirmation changes neither the log nor the pending nacks. -/
theorem published_confirm (b : Broker) (c : Nat) (ack : Bool) :
    (b.confirm c ack).broker.published = b.published ∧ (b.confirm c ack).broker.nacks = b.nacks := by
  unfold confirm
  split
  · exact ⟨rfl, rfl⟩
  · split <;> exact ⟨rfl, rfl⟩

/-- A message that is accepted ends up in the log, and uses up a nack if one is pending. -/
theorem published_accept (b : Broker) (c : Nat) (delivery : Delivery) :
    (b.accept c delivery).broker.published = b.published ++ [delivery] ∧
      (b.accept c delivery).broker.nacks = b.nacks - 1 := by
  unfold accept
  simp only []
  split
  · next none =>
    obtain ⟨published, nacks⟩ := published_confirm { b with published := b.published ++ [delivery] } c
      true
    exact ⟨published, by rw [nacks, none]⟩
  · exact published_confirm { b with published := b.published ++ [delivery], nacks := b.nacks - 1 } c
      false

/-- What a broker accepted, by its answer. -/
def accepted? : Except Exception (Option Delivery) → Option Delivery
  | .ok delivery => delivery
  | .error _ => none

section Log

variable {exchange routingKey : String} {options : PublishOptions} {message : Message}
  {value : Except Exception (Option Delivery)}

/-- A message is accepted on a live channel, and in no other case. -/
theorem Publishes.of_accepted {delivery : Delivery}
    (publishes : Publishes b c exchange routingKey options message value b')
    (accepted : accepted? value = some delivery) :
    b.isLive c = true ∧ b' = (b.accept c delivery).broker := by
  cases publishes with
  | refused | rejected | unknown => cases accepted
  | accepted live =>
    cases accepted
    exact ⟨live, rfl⟩

/-- What is accepted is added to the log, and uses up a nack if one is pending. -/
theorem Publishes.log {delivery : Delivery}
    (publishes : Publishes b c exchange routingKey options message value b')
    (accepted : accepted? value = some delivery) :
    b'.published = b.published ++ [delivery] ∧ b'.nacks = b.nacks - 1 := by
  obtain ⟨-, rfl⟩ := publishes.of_accepted accepted
  exact published_accept b c delivery

/-- What is not accepted leaves log and nacks as they are. -/
theorem Publishes.log_of_none
    (publishes : Publishes b c exchange routingKey options message value b')
    (nothing : accepted? value = none) : b'.published = b.published ∧ b'.nacks = b.nacks := by
  cases publishes with
  | refused | rejected => exact ⟨rfl, rfl⟩
  | unknown =>
    have still := Still.shut b c (some (.unknownExchange exchange))
    exact ⟨still.published, still.nacks⟩
  | accepted => cases nothing

end Log

/-- Confirming leaves every channel in its state. -/
theorem channels_confirm (b : Broker) (c : Nat) (ack : Bool) {d : Nat} {ch : Channel}
    (here : b.channels[d]? = some ch) :
    ∃ ch', (b.confirm c ack).broker.channels[d]? = some ch' ∧ ch'.number = ch.number ∧
      ch'.state = ch.state := by
  unfold confirm
  split
  · exact ⟨ch, here, rfl, rfl⟩
  · split
    · exact ⟨ch, here, rfl, rfl⟩
    · simp only []
      rw [channels_onChannel, show (_ : Broker).channels[d]? = some ch from here]
      split <;> exact ⟨_, rfl, rfl, rfl⟩

/-- Accepting a message leaves the number and the state of every channel. -/
theorem channels_accept (b : Broker) (c : Nat) (delivery : Delivery) {d : Nat} {ch : Channel}
    (here : b.channels[d]? = some ch) :
    ∃ ch', (b.accept c delivery).broker.channels[d]? = some ch' ∧ ch'.number = ch.number ∧
      ch'.state = ch.state := by
  unfold accept
  simp only []
  split <;> exact channels_confirm _ _ _ here

/-! ## What channels keep -/

/-- Channels keep their numbers, and those that have closed stay closed for the same reason. -/
def Lasts (b b' : Broker) : Prop :=
  ∀ (d : Nat) (ch : Channel), b.channels[d]? = some ch → ∃ ch', b'.channels[d]? = some ch' ∧
    ch'.number = ch.number ∧ ∀ reason, ch.state = .closed reason → ch'.state = .closed reason

namespace Lasts

/-- Nothing happens. -/
theorem refl (b : Broker) : Lasts b b := fun _ ch here => ⟨ch, here, rfl, fun _ h => h⟩

/-- Channels that last twice last. -/
theorem trans {b'' : Broker} (h : Lasts b b') (h' : Lasts b' b'') : Lasts b b'' := by
  intro d ch here
  obtain ⟨ch', here', number, closed⟩ := h d ch here
  obtain ⟨ch'', here'', number', closed'⟩ := h' d ch' here'
  exact ⟨ch'', here'', number'.trans number, fun r was => closed' r (closed r was)⟩

/-- No channel changes. -/
theorem of_channels (same : b'.channels = b.channels) : Lasts b b' :=
  fun _ ch here => ⟨ch, by rw [same, here], rfl, fun _ h => h⟩

/-- What leaves a broker still lets its channels last. -/
theorem of_still (still : Still b b') : Lasts b b' := by
  intro d ch here
  obtain ⟨ch', there, stays⟩ := still.channels d ch here
  exact ⟨ch', there, stays.number, stays.closed⟩

/-- A channel changes, but neither its number nor its state. -/
theorem onChannel {f : Channel → Channel} (number : ∀ ch, (f ch).number = ch.number)
    (state : ∀ ch, (f ch).state = ch.state) : Lasts b (b.onChannel c f) := by
  intro d ch here
  rw [channels_onChannel, here]
  split
  · exact ⟨f ch, rfl, number ch, fun r closed => (state ch).trans closed⟩
  · exact ⟨ch, rfl, rfl, fun _ h => h⟩

/-- A publish may close its channel, and opens none again. -/
theorem publish (b : Broker) (c : Nat) (exchange routingKey : String) (options : PublishOptions)
    (message : Message) : Lasts b (b.publish c exchange routingKey options message).broker := by
  have publishes := publish_cases b c exchange routingKey options message
  generalize (b.publish c exchange routingKey options message).broker = after at publishes
  generalize (b.publish c exchange routingKey options message).value = value at publishes
  cases publishes with
  | refused => exact refl b
  | rejected => exact of_channels rfl
  | unknown => exact of_still (.shut b c _)
  | accepted =>
    intro d ch here
    obtain ⟨ch', there, number, state⟩ := channels_accept b c _ here
    exact ⟨ch', there, number, fun r closed => state.trans closed⟩

/-- Confirm mode leaves the number and the state of a channel. -/
theorem confirmSelect (b : Broker) (c : Nat) : Lasts b (b.confirmSelect c).2 := by
  unfold Broker.confirmSelect
  split
  · split
    · exact of_channels rfl
    · exact onChannel (fun _ => rfl) fun _ => rfl
  · exact refl b

/-- So does the registration of a sink. -/
theorem notifyPublish (b : Broker) (c k : Nat) : Lasts b (b.notifyPublish c k) := by
  unfold Broker.notifyPublish
  split
  · exact onChannel (fun _ => rfl) fun _ => rfl
  · exact refl b

/-- Taking confirmations out of a sink touches no channel. -/
theorem receive (b : Broker) (k : Nat) (limit : Option Nat) : Lasts b (b.receive k limit).2 := by
  unfold Broker.receive
  split <;> exact of_channels rfl

end Lasts

end Broker

namespace Service

open Broker (Exception Delivery Lasts)

variable {s s' : Service} {a : Act}

/-- What a broker makes of a message is one of the four cases. -/
theorem Sending.publishes (m : Sending) (b : Broker) : Broker.Publishes b m.channel m.exchange
    m.routingKey m.options m.message (m.outcome b).value (m.outcome b).broker :=
  Broker.publish_cases b m.channel m.exchange m.routingKey m.options m.message

/-- So is what a dealing with a message leaves. -/
theorem Dealing.Does.publishes {m : Sending} {b b' : Broker} (does : (Dealing.publish m).Does b b') :
    Broker.Publishes b m.channel m.exchange m.routingKey m.options m.message (m.outcome b).value b' := by
  rw [show b' = _ from does]
  exact m.publishes b

/-- Channels last whatever a broker deals with. -/
theorem Dealing.Does.lasts {d : Dealing} {b b' : Broker} (does : d.Does b b') : Lasts b b' := by
  cases d with
  | publish m => rw [show b' = _ from does]; exact .publish _ _ _ _ _ _
  | select l c => rw [show b' = _ from does]; exact .confirmSelect _ _
  | register c k => rw [show b' = _ from does]; exact .notifyPublish _ _ _
  | receive k limit => rw [show b' = _ from does]; exact .receive _ _ _
  | nack | addSink | dropSink => rw [show b' = _ from does]; exact .of_channels rfl
  | other => exact .of_still does

/-- They last over every run. -/
theorem lasts_perform (s : Service) (acts : List Act) : Lasts s.broker (s.perform acts).broker := by
  induction acts generalizing s with
  | nil => exact .refl _
  | cons a acts ih => exact (s.deals a).lasts.trans (ih (s.act a))

/-! ## Handlings -/

/-- What a broker made of a message. -/
structure Handling where
  sending : Sending
  /-- Whether the exchange was there at that moment. -/
  known : Bool
  /-- The answer of the broker, with what it accepted. -/
  value : Except Exception (Option Delivery)

namespace Handling

/-- What the broker accepted. -/
def delivery? (h : Handling) : Option Delivery := Broker.accepted? h.value

/-- The answer to whoever sent the message. -/
def result (h : Handling) : Except Exception Unit := h.value.map fun _ => ()

/-- The call that the message stems from. -/
def caller? (h : Handling) : Option Nat := h.sending.origin.map Prod.snd

end Handling

/-- What the broker makes of the message that an act sends it. -/
def handling? (s : Service) (a : Act) : Option Handling :=
  match s.dealing a with
  | .publish m => some ⟨m, s.broker.hasExchange m.exchange, (m.outcome s.broker).value⟩
  | _ => none

/-- What the broker made of the messages of a run, in order. -/
def handlings (acts : List Act) : List Handling := gather handling? fresh acts

/-- The last act adds what the broker made of its message, if it sent one. -/
theorem handlings_concat (acts : List Act) (a : Act) :
    handlings (acts ++ [a]) = handlings acts ++ ((fresh.perform acts).handling? a).toList :=
  gather_concat handling? fresh acts a

/-- An act whose message the broker handles. -/
theorem handling?_eq_some {h : Handling} :
    s.handling? a = some h ↔ s.dealing a = .publish h.sending ∧
      h.known = s.broker.hasExchange h.sending.exchange ∧
      h.value = (h.sending.outcome s.broker).value := by
  unfold handling?
  obtain ⟨sending, known, value⟩ := h
  split
  · next m published =>
    rw [published]
    simp only [Option.some.injEq, Handling.mk.injEq, Dealing.publish.injEq]
    constructor
    · rintro ⟨rfl, rfl, rfl⟩
      exact ⟨rfl, rfl, rfl⟩
    · rintro ⟨rfl, rfl, rfl⟩
      exact ⟨rfl, rfl, rfl⟩
  · next other =>
    refine ⟨nofun, fun h => ?_⟩
    exact absurd h.1 (other sending)

/-- An act that sends no message publishes nothing. -/
theorem ne_publish_of_handling? (none : s.handling? a = none) (m : Sending) :
    s.dealing a ≠ .publish m := by
  intro publishes
  rw [handling?, publishes] at none
  cases none

/-- The broker after an act that sends a message. -/
theorem publishes_of_handling {h : Handling} (handles : s.handling? a = some h) :
    Broker.Publishes s.broker h.sending.channel h.sending.exchange h.sending.routingKey
      h.sending.options h.sending.message h.value (s.act a).broker := by
  obtain ⟨publishes, -, value⟩ := handling?_eq_some.mp handles
  have does := s.deals a
  rw [publishes] at does
  rw [value]
  exact does.publishes

/-- How many nacks a dealing orders. -/
def Dealing.nacks : Dealing → Nat
  | .nack => 1
  | _ => 0

/-- Without a publish the log stays, and nothing uses up a nack. -/
theorem Dealing.Does.of_not_publish {d : Dealing} {b b' : Broker} (does : d.Does b b')
    (other : ∀ m, d ≠ .publish m) :
    b'.published = b.published ∧ b'.nacks = b.nacks + d.nacks := by
  cases d with
  | publish m => exact absurd rfl (other m)
  | select l c =>
    rw [show b' = _ from does]
    unfold Broker.confirmSelect
    split
    · split <;> exact ⟨rfl, rfl⟩
    · exact ⟨rfl, rfl⟩
  | register c k =>
    rw [show b' = _ from does]
    unfold Broker.notifyPublish
    split <;> exact ⟨rfl, rfl⟩
  | receive k limit =>
    rw [show b' = _ from does]
    unfold Broker.receive
    split <;> exact ⟨rfl, rfl⟩
  | nack | addSink | dropSink => rw [show b' = _ from does]; exact ⟨rfl, rfl⟩
  | other => exact ⟨does.published, does.nacks⟩

/-- What the broker accepts by an act. -/
def acceptance? (s : Service) (a : Act) : Option Delivery := (s.handling? a).bind Handling.delivery?

/-- An act that has a message accepted adds it to the log and uses up a nack, if one is pending. -/
theorem log_of_acceptance {delivery : Delivery} (accepted : s.acceptance? a = some delivery) :
    (s.act a).broker.published = s.broker.published ++ [delivery] ∧
      (s.act a).broker.nacks = s.broker.nacks - 1 := by
  obtain ⟨h, handles, accepted⟩ := Option.bind_eq_some_iff.mp accepted
  exact (publishes_of_handling handles).log accepted

/-- Any other act leaves the log, and uses up no nack. -/
theorem log_of_no_acceptance (nothing : s.acceptance? a = none) :
    (s.act a).broker.published = s.broker.published ∧
      (s.act a).broker.nacks = s.broker.nacks + (s.dealing a).nacks := by
  cases found : s.handling? a with
  | none => exact (s.deals a).of_not_publish (ne_publish_of_handling? found)
  | some h =>
    -- a message that was handled but not accepted leaves the log as well
    rw [acceptance?, found, Option.bind_some] at nothing
    rw [(handling?_eq_some.mp found).1]
    exact (publishes_of_handling found).log_of_none nothing

/-- The log of the broker is what it accepted. -/
theorem published_perform (acts : List Act) :
    (fresh.perform acts).broker.published = (handlings acts).filterMap Handling.delivery? := by
  induction acts using List.reverseRecOn with
  | nil => rfl
  | append_singleton acts a ih =>
    have last : ((fresh.perform acts).handling? a).toList.filterMap Handling.delivery? =
        ((fresh.perform acts).acceptance? a).toList := by
      rw [acceptance?]
      cases (fresh.perform acts).handling? a with
      | none => rfl
      | some h => cases given : h.delivery? <;> simp [given]
    rw [perform_concat, handlings_concat, List.filterMap_append, ← ih, last]
    cases found : (fresh.perform acts).acceptance? a with
    | none => rw [(log_of_no_acceptance found).1, Option.toList_none, List.append_nil]
    | some delivery => rw [(log_of_acceptance found).1, Option.toList_some]

end Service

end Relay
