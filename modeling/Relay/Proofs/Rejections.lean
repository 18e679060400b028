import Relay.Proofs.Changes

/-!
# What publishing does, and who meets a rejection

Publishing a message on a channel does one of four things, by the channel, the rejections that wait and the
exchange; `HasEffect` tells each with all that it changes. What was told to be rejected waits in a queue:
`rejectionsOrdered` lists the errors that a run ordered, and `rejectionsMet` those that a publish on an open
channel met. Both are one list but for the errors that still wait, so every error goes to exactly one
publish, in the order in which the errors were ordered, and a closed channel uses up none.
-/

namespace Relay

namespace Broker

/-- One channel closes, and those who listen to it are told so; nothing else changes. -/
structure Closes (b b' : Broker) (c : Nat) (ch : Channel) (reason : CloseReason) : Prop where
  own : b'.channels[c]? = some { ch with state := .closed reason, listeners := [], sinks := [] }
  others : ∀ d, d ≠ c → b'.channels[d]? = b.channels[d]?
  notices : ∀ n : Nat, b'.notices[n]? =
    if n ∈ ch.listeners then b.notices[n]?.map fun _ => .told reason else b.notices[n]?
  rest : b' = { b with channels := b'.channels, notices := b'.notices }

/-- One message goes into the log and uses up a nack, if one is pending. In confirm mode the channel counts
it, and sinks hear of it; nothing else changes. -/
structure Appends (b b' : Broker) (c : Nat) (ch : Channel) (delivery : Delivery) : Prop where
  own : ∃ sinks, b'.channels[c]? = some { ch with nextTag := ch.nextTag.map (· + 1), sinks }
  others : ∀ d, d ≠ c → b'.channels[d]? = b.channels[d]?
  outside : ch.nextTag = none → b'.channels = b.channels ∧ b'.sinks = b.sinks
  rest : b' = { b with
    published := b.published ++ [delivery], nacks := b.nacks - 1, channels := b'.channels,
    sinks := b'.sinks }

/-- What publishing a message on a channel answers, and the broker that it leaves. -/
inductive HasEffect (b : Broker) (c : Nat) (ch : Channel) (exchange routingKey : String)
    (options : PublishOptions) (message : Message) :
    Except Exception (Option Delivery) → Broker → Prop
  /-- The channel has closed: nothing changes, and no rejection or nack is used up. -/
  | refused (closed : ch.state ≠ .live) :
      HasEffect b c ch exchange routingKey options message
        (.error ⟨504, "channel/connection is not open"⟩) b
  /-- The oldest rejection is used up, whether the exchange is there or not. -/
  | rejected {error : Exception} {later : List Exception} (live : ch.state = .live)
      (waits : b.rejections = error :: later) :
      HasEffect b c ch exchange routingKey options message (.error error)
        { b with rejections := later }
  /-- Nobody declared the exchange: nothing is recorded, and the channel closes. -/
  | closing {b' : Broker} (live : ch.state = .live) (free : b.rejections = [])
      (named : exchange ≠ "") (undeclared : exchange ∉ b.exchanges)
      (closes : Closes b b' c ch (some ⟨404, "no exchange '" ++ exchange ++ "' in vhost '/'"⟩)) :
      HasEffect b c ch exchange routingKey options message (.ok none) b'
  /-- The message is recorded as it is. -/
  | accepted {b' : Broker} (live : ch.state = .live) (free : b.rejections = [])
      (there : exchange = "" ∨ exchange ∈ b.exchanges)
      (appends : Appends b b' c ch ⟨ch.number, exchange, routingKey, options, message⟩) :
      HasEffect b c ch exchange routingKey options message
        (.ok (some ⟨ch.number, exchange, routingKey, options, message⟩)) b'

variable {b : Broker} {c : Nat} {ch : Channel}

/-- A channel that somebody holds exists. -/
theorem exists_of_isHeld (held : b.isHeld c = true) : ∃ ch, b.channels[c]? = some ch := by
  unfold isHeld at held
  split at held
  · next ch here => exact ⟨ch, here⟩
  · cases held

/-- The default exchange is always there. -/
theorem hasExchange_iff {exchange : String} :
    b.hasExchange exchange = true ↔ exchange = "" ∨ exchange ∈ b.exchanges := by
  simp [hasExchange]

/-- Closing a channel that is live tells those who listen to it, and changes nothing else. -/
theorem closes_shut (here : b.channels[c]? = some ch) (live : ch.state = .live)
    (reason : CloseReason) : Closes b (b.shut c reason) c ch reason where
  own := by
    rw [channels_shut, Array.getElem?_modify, if_pos rfl, here, Option.map_some,
      Channel.ended_of_live (by rw [Channel.isClosed, live]; rfl)]
  others d other := by rw [channels_shut, Array.getElem?_modify, if_neg (Ne.symm other)]
  notices n := by
    have shuts : (b.shut c reason).notices = (b.setNotices ch.listeners (.told reason)).notices := by
      simp only [shut, here, Channel.isClosed, live]
      rfl
    rw [shuts, notices_setNotices]
    by_cases inBounds : n < b.notices.size <;> simp [inBounds]
  rest := shut_eq b c reason

/-- Confirming changes one channel and the sinks. -/
theorem confirm_eq (b : Broker) (c : Nat) (ack : Bool) : (b.confirm c ack).broker =
    { b with
      channels := (b.confirm c ack).broker.channels
      sinks := (b.confirm c ack).broker.sinks } := by
  unfold confirm
  split
  · rfl
  · split <;> rfl

/-- A message that is accepted is added to the log, with the number of its channel. -/
theorem appends_accept (here : b.channels[c]? = some ch) (delivery : Delivery) :
    Appends b (b.accept c delivery).broker c ch delivery where
  own := by
    rw [channels_of_accept, Array.getElem?_modify, if_pos rfl, here, Option.map_some]
    obtain ⟨number, state, listeners, nextTag, sinks, holders⟩ := ch
    cases nextTag <;> exact ⟨_, rfl⟩
  others d other := by rw [channels_of_accept, Array.getElem?_modify, if_neg (Ne.symm other)]
  outside none := accept_of_none here none delivery
  rest := by
    rw [accept_eq]
    exact confirm_eq _ _ _

/-- Publishing has one of four effects. -/
theorem hasEffect_of_publishes {exchange routingKey : String} {options : PublishOptions}
    {message : Message} {value : Except Exception (Option Delivery)} {b' : Broker}
    (here : b.channels[c]? = some ch)
    (publishes : Publishes b c exchange routingKey options message value b') :
    HasEffect b c ch exchange routingKey options message value b' := by
  have state : ∀ {r : Bool}, b.isLive c = r → (ch.state = .live ↔ r = true) := by
    rintro r rfl
    simp [isLive, here, Channel.isClosed]
  have number : b.numberOf c = ch.number := by rw [numberOf, here]
  cases publishes with
  | refused closed => exact .refused (mt (state closed).mp Bool.false_ne_true)
  | rejected live waits => exact .rejected ((state live).mpr rfl) waits
  | unknown live free absent =>
    have missing := mt hasExchange_iff.mpr (Bool.eq_false_iff.mp absent)
    have opened := (state live).mpr rfl
    exact .closing opened free (fun same => missing (.inl same)) (fun there => missing (.inr there))
      (closes_shut here opened _)
  | accepted live free there =>
    rw [number]
    exact .accepted ((state live).mpr rfl) free (hasExchange_iff.mp there) (appends_accept here _)

end Broker

namespace Service

open Broker (Channel Exception PublishOptions Publishes HasEffect)

variable {s : Service} {a : Act} {h : Handling}

/-! ## Rejections that wait -/

/-- The error that a deed has a publish rejected with. -/
def Deed.rejection? : Deed → Option Exception
  | rejectNext error => some error
  | _ => none

/-- The error that a message met. -/
def Handling.error? (h : Handling) : Option Exception :=
  match h.value with
  | .error e => some e
  | .ok _ => none

/-- What becomes of the message that an act publishes on a channel that is open. -/
def attempt? (s : Service) (a : Act) : Option Handling :=
  (s.handling? a).filter fun h => s.broker.isLive h.sending.channel

/-- What became of the messages of a run that were published on open channels, in order. -/
def attempts (acts : List Act) : List Handling := gather attempt? fresh acts

/-- The errors that a run ordered for publishes, in order. -/
def rejectionsOrdered (acts : List Act) : List Exception :=
  gather (fun s a => (s.deed? a).bind Deed.rejection?) fresh acts

/-- The errors that publishes on open channels met in a run, in order. -/
def rejectionsMet (acts : List Act) : List Exception := (attempts acts).filterMap Handling.error?

/-- Whoever lets a channel go leaves the rejections. -/
theorem rejections_letGo (b : Broker) (c : Nat) : (b.letGo c).rejections = b.rejections := by
  unfold Broker.letGo
  split
  · rfl
  · simp only []
    split <;> rfl

/-- So does opening one. -/
theorem rejections_openLast (b : Broker) (count : Nat) :
    (b.openLast count).broker.rejections = b.rejections := by
  refine Broker.openLast_induct (P := fun b' => b'.rejections = b.rejections) b count rfl ?_ ?_
  · intro b' same
    unfold Broker.openChannel
    split <;> exact same
  · exact fun b' c _ same => (rejections_letGo b' c).trans same

/-- Nothing but a publish uses up a rejection, and one that is ordered waits behind the others. -/
theorem rejections_apply {d : Deed} (b : Broker) (other : ∀ m, d ≠ .publish m) :
    (d.apply b).rejections = b.rejections ++ d.rejection?.toList := by
  -- of all deeds only the order itself adds anything, so for each other one the queue is the same
  have unordered : ∀ {b' : Broker}, b'.rejections = b.rejections →
      b'.rejections = b.rejections ++ (none : Option Exception).toList :=
    fun same => same.trans (List.append_nil _).symm
  cases d with
  | publish m => exact absurd rfl (other m)
  | rejectNext e => rfl
  | restore | nackNext | failConfirmSelect | hold | addSink | dropSink => exact unordered rfl
  | declare name =>
    refine unordered ?_
    change (b.declare name).rejections = _
    unfold Broker.declare
    split <;> rfl
  | openLast count => exact unordered (rejections_openLast b count)
  | disconnect error =>
    refine unordered ?_
    change (b.disconnect error).broker.rejections = _
    rw [Broker.disconnect_eq]
    refine Broker.shutAll_induct (P := fun b' => b'.rejections = b.rejections) _ _ rfl ?_
    intro b' c _ same
    rw [Broker.shut_eq]
    exact same
  | close c =>
    refine unordered ?_
    change (b.close c).broker.rejections = _
    rw [Broker.broker_close, Broker.shut_eq]
  | terminate c reason =>
    refine unordered ?_
    change (b.terminate c reason).broker.rejections = _
    rw [Broker.broker_terminate, Broker.shut_eq]
  | listen c =>
    refine unordered ?_
    change (b.notifyClose c).2.rejections = _
    unfold Broker.notifyClose
    split
    · rfl
    · simp only []
      split <;> rfl
  | select l c =>
    refine unordered ?_
    change (b.confirmSelect c).2.rejections = _
    unfold Broker.confirmSelect
    split
    · split <;> rfl
    · rfl
  | register c k =>
    refine unordered ?_
    change (b.notifyPublish c k).rejections = _
    unfold Broker.notifyPublish
    split <;> rfl
  | letGo c => exact unordered (rejections_letGo b c)
  | receive k limit =>
    refine unordered ?_
    change (b.receive k limit).2.rejections = _
    unfold Broker.receive
    split <;> rfl

/-- An act that publishes a message asks for just that. -/
theorem deed_of_handling (handles : s.handling? a = some h) : s.deed? a = some (.publish h.sending) := by
  have publishes := (handling?_eq_some.mp handles).1
  rw [dealing_eq] at publishes
  cases asks : s.deed? a with
  | none => rw [asks] at publishes; cases publishes
  | some d =>
    rw [asks] at publishes
    cases d with
    | publish m =>
      cases publishes
      rfl
    | _ => cases publishes

/-- A message on an open channel meets the oldest rejection that waits, if there is one, and leaves the
others. -/
theorem error_of_publishes {b b' : Broker} {c : Nat} {exchange routingKey : String}
    {options : PublishOptions} {message : Message} (live : b.isLive c = true)
    (publishes : Publishes b c exchange routingKey options message h.value b') :
    h.error? = b.rejections.head? ∧ b'.rejections = b.rejections.tail := by
  unfold Handling.error?
  generalize h.value = value at publishes
  cases publishes with
  | refused closed => rw [closed] at live; cases live
  | rejected _ waits => rw [waits]; exact ⟨rfl, rfl⟩
  | unknown _ free => rw [Broker.shut_eq, free]; exact ⟨rfl, rfl⟩
  | accepted _ free => rw [Broker.accept_eq, Broker.confirm_eq, free]; exact ⟨rfl, rfl⟩

/-- A publish on an open channel meets the oldest rejection that waits, if there is one, and leaves the
others. -/
theorem error_of_attempt (attempted : s.attempt? a = some h) :
    h.error? = s.broker.rejections.head? ∧ (s.act a).broker.rejections = s.broker.rejections.tail := by
  obtain ⟨handles, live⟩ := Option.filter_eq_some_iff.mp attempted
  exact error_of_publishes live (publishes_of_handling handles)

/-- A publish on a channel that has closed changes nothing. -/
theorem spared_of_closed (handles : s.handling? a = some h)
    (closed : s.broker.isLive h.sending.channel = false) :
    h.value = .error .channelClosed ∧ (s.act a).broker = s.broker := by
  have publishes := publishes_of_handling handles
  generalize (s.act a).broker = after at publishes
  generalize h.value = value at publishes
  cases publishes with
  | refused => exact ⟨rfl, rfl⟩
  | rejected live | unknown live | accepted live => rw [closed] at live; cases live

/-- What waits before an act, with what the act orders, is what a publish meets in it and what waits then. -/
theorem rejections_act (s : Service) (a : Act) :
    s.broker.rejections ++ ((s.deed? a).bind Deed.rejection?).toList =
      ((s.attempt? a).bind Handling.error?).toList ++ (s.act a).broker.rejections := by
  cases handles : s.handling? a with
  | some h =>
    rw [deed_of_handling handles, show (some (Deed.publish h.sending)).bind Deed.rejection? = none from rfl,
      Option.toList_none, List.append_nil]
    cases live : s.broker.isLive h.sending.channel with
    | true =>
      have attempted : s.attempt? a = some h := Option.filter_eq_some_iff.mpr ⟨handles, live⟩
      rw [attempted, Option.bind_some, (error_of_attempt attempted).1, (error_of_attempt attempted).2]
      cases s.broker.rejections <;> rfl
    | false =>
      have unmet : s.attempt? a = none := by simp [attempt?, handles, live]
      rw [unmet, (spared_of_closed handles live).2]
      rfl
  | none =>
    have unmet : s.attempt? a = none := by simp [attempt?, handles]
    rw [unmet, broker_act]
    cases asks : s.deed? a with
    | none => exact List.append_nil _
    | some d =>
      refine (rejections_apply s.broker fun m same => ?_).symm
      exact ne_publish_of_handling? handles m (by rw [dealing_eq, asks, same]; rfl)

/-- The last act adds its attempt to publish, if it made one. -/
theorem attempts_concat (acts : List Act) (a : Act) :
    attempts (acts ++ [a]) = attempts acts ++ ((fresh.perform acts).attempt? a).toList :=
  gather_concat attempt? fresh acts a

/-- What a run ordered was met by a publish, or still waits. -/
theorem rejectionsOrdered_eq (acts : List Act) :
    rejectionsOrdered acts = rejectionsMet acts ++ (fresh.perform acts).broker.rejections := by
  induction acts using List.reverseRecOn with
  | nil => rfl
  | append_singleton acts a ih =>
    have met : rejectionsMet (acts ++ [a]) = rejectionsMet acts ++
        (((fresh.perform acts).attempt? a).bind Handling.error?).toList := by
      rw [rejectionsMet, attempts_concat, List.filterMap_append, rejectionsMet]
      cases (fresh.perform acts).attempt? a with
      | none => rfl
      | some h => cases found : h.error? <;> simp [found]
    rw [rejectionsOrdered, gather_concat, ← rejectionsOrdered, ih, met, perform_concat,
      List.append_assoc, List.append_assoc, rejections_act]

/-- Whatever the broker accepted, a publish on an open channel brought. -/
theorem delivery?_of_attempts (acts : List Act) :
    (attempts acts).filterMap Handling.delivery? = (handlings acts).filterMap Handling.delivery? := by
  induction acts using List.reverseRecOn with
  | nil => rfl
  | append_singleton acts a ih =>
    rw [attempts_concat, handlings_concat, List.filterMap_append, List.filterMap_append, ih]
    congr 1
    cases handles : (fresh.perform acts).handling? a with
    | none => simp [attempt?, handles]
    | some h =>
      cases live : (fresh.perform acts).broker.isLive h.sending.channel with
      | true =>
        have attempted : (fresh.perform acts).attempt? a = some h :=
          Option.filter_eq_some_iff.mpr ⟨handles, live⟩
        rw [attempted]
      | false =>
        have refused := (spared_of_closed handles live).1
        simp [attempt?, handles, live, Handling.delivery?, refused, Broker.accepted?]

/-- Who meets a rejection in a run. -/
structure RejectsInTurn (acts : List Act) : Prop where
  /-- Every error that was ordered was met once, in order, or still waits. -/
  queue : rejectionsOrdered acts = rejectionsMet acts ++ (fresh.perform acts).broker.rejections
  /-- A publish on an open channel meets the oldest error that none before it met, and none if all were. -/
  turn : ∀ first a rest h, acts = first ++ a :: rest → (fresh.perform first).attempt? a = some h →
    h.error? = (rejectionsOrdered first)[(rejectionsMet first).length]?
  /-- A publish on a channel that has closed meets none of them. -/
  spares : ∀ first a rest h, acts = first ++ a :: rest → (fresh.perform first).handling? a = some h →
    (fresh.perform first).broker.isLive h.sending.channel = false →
    h.error? = some ⟨504, "channel/connection is not open"⟩ ∧
      ((fresh.perform first).act a).broker = (fresh.perform first).broker
  /-- The log is what was accepted of the messages on open channels. -/
  log : (fresh.perform acts).broker.published = (attempts acts).filterMap Handling.delivery?

/-- Over every run the rejections are used up in the order in which they were set up. -/
theorem rejectsInTurn (acts : List Act) : RejectsInTurn acts where
  queue := rejectionsOrdered_eq acts
  turn first a rest h _ attempted := by
    rw [(error_of_attempt attempted).1, rejectionsOrdered_eq first,
      List.getElem?_append_right (Nat.le_refl _), Nat.sub_self, List.head?_eq_getElem?]
  spares first a rest h _ handles closed := by
    obtain ⟨refused, same⟩ := spared_of_closed handles closed
    exact ⟨by rw [Handling.error?, refused]; rfl, same⟩
  log := (published_perform acts).trans (delivery?_of_attempts acts).symm

/-- For everything that can happen: whatever message is published next on a channel has one of four effects
with all that each leaves alone, and so has every message that the next act publishes. The errors that were
ordered go to publishes on open channels, one to each in the order of both, and the log is what was
accepted. -/
theorem publish_has_one_of_four_effects (acts : List Act) :
    let s := fresh.perform acts
    (∀ (c : Nat) (ch : Channel) (exchange routingKey : String) (options : PublishOptions)
      (message : Message), s.broker.channels[c]? = some ch →
      HasEffect s.broker c ch exchange routingKey options message
        (s.broker.publish c exchange routingKey options message).value
        (s.broker.publish c exchange routingKey options message).broker) ∧
    (∀ a h, s.handling? a = some h → ∃ ch, s.broker.channels[h.sending.channel]? = some ch ∧
      HasEffect s.broker h.sending.channel ch h.sending.exchange h.sending.routingKey
        h.sending.options h.sending.message h.value (s.act a).broker) ∧
    RejectsInTurn acts := by
  intro s
  refine ⟨fun c ch exchange routingKey options message here => ?_, fun a h handles => ?_,
    rejectsInTurn acts⟩
  · exact Broker.hasEffect_of_publishes here (Broker.publish_cases _ _ _ _ _ _)
  · have held := held_of_deed (hearing_perform acts) (manned_perform acts) (deed_of_handling handles)
      (c := h.sending.channel) rfl
    obtain ⟨ch, here⟩ := Broker.exists_of_isHeld held
    exact ⟨ch, here, Broker.hasEffect_of_publishes here (publishes_of_handling handles)⟩

/-- Two errors wait while a message goes to a channel that has closed, and then one to an exchange that nobody
declared: the first uses up no error, the second meets the older one, and the next would meet the other. -/
theorem closed_channel_meets_no_rejection :
    let acts : List Act := [.command (.openChannel 1) rfl, .command (.openChannel 1) rfl,
      .command (.rejectNext ⟨311, "too large"⟩) rfl, .command (.rejectNext ⟨313, "no consumers"⟩) rfl,
      .command (.close 0) rfl, .command (.publishOn 0 "" "key" {} {}) rfl,
      .command (.publishOn 1 "absent" "key" {} {}) rfl]
    let b := (fresh.perform acts).broker
    rejectionsMet acts = [⟨311, "too large"⟩] ∧ b.rejections = [⟨313, "no consumers"⟩] ∧
      RejectsInTurn acts ∧
      HasEffect b 0 { number := 1, state := .closed none } "" "key" {} {}
        (.error ⟨504, "channel/connection is not open"⟩) b ∧
      HasEffect b 1 { number := 2 } "absent" "key" {} {} (.error ⟨313, "no consumers"⟩)
        { b with rejections := [] } := by
  intro acts b
  obtain ⟨effect, -, inTurn⟩ := publish_has_one_of_four_effects acts
  exact ⟨rfl, rfl, inTurn, effect 0 _ "" "key" {} {} rfl, effect 1 _ "absent" "key" {} {} rfl⟩

end Service

end Relay
