import Relay.Proofs.FanOut
import Relay.Proofs.Users

/-!
# Confirmations across reconnects

The confirmations of a publisher come in on its sink from one channel after another. As long as the sink
takes everything, nothing else uses it, and every loop of the publisher has a channel of its own that
nobody else uses, each message accepted in confirm mode is confirmed exactly once: the confirmations come
in the order of the log of the broker, and on every channel their tags run 1, 2, 3 and so on. `Conforms`
is what this asks of a run, and `Linked` how tags, registrations and confirmations are linked throughout.
-/

namespace Relay.Service

open Broker (Confirmation Exception Delivery)

variable {s : Service} {t c p k : Nat} {l : Loop} {a : Act} {acts : List Act} {h : Handling}

/-! ## What a run makes of confirmations -/

/-- Whether a loop was granted confirm mode. -/
def granted (acts : List Act) (t : Nat) : Bool := (stepsOf acts t).any SetupStep.isGrant

/-- Whether a loop registered the sink of its publisher. -/
def registered (acts : List Act) (t : Nat) : Bool := (stepsOf acts t).any SetupStep.isRegistration

/-- The channels on which loops of a publisher were granted confirm mode. -/
def confirmedChannels (acts : List Act) (p : Nat) : List Nat :=
  ((fresh.perform acts).channelsOf p).filterMap fun x => if granted acts x.1 then some x.2 else none

/-- Whether a message was accepted on a channel on which a loop of a publisher was granted confirm mode. -/
def isConfirmable (acts : List Act) (p : Nat) (h : Handling) : Bool :=
  h.delivery?.isSome && (confirmedChannels acts p).contains h.sending.channel

/-- The messages that were accepted on such channels, in the order of the log of the broker. -/
def confirmable (acts : List Act) (p : Nat) : List Handling :=
  (handlings acts).filter (isConfirmable acts p)

/-- How many of them were accepted on one channel. -/
def deliveredOn (acts : List Act) (p c : Nat) : Nat :=
  (confirmable acts p).countP fun h => h.sending.channel == c

/-- What was taken from a sink in the course of a run, and what waits in it in the end. -/
def received (acts : List Act) (k : Nat) : List Confirmation :=
  (gather (fun s a => some ((s.dealing a).taken s.broker k)) fresh acts).flatten ++
    (fresh.perform acts).broker.queueOf k

/-- The tags that the messages accepted on one channel were confirmed with, if confirmations are dealt out
to messages in order. -/
def tagsOn (acts : List Act) (p k c : Nat) : List Nat :=
  (((confirmable acts p).zip (received acts k)).filter fun x => x.1.sending.channel == c).map
    fun x => x.2.tag

/-- A sink that takes everything receives what is sent to it. -/
theorem received_concat_of (takes : (fresh.perform (acts ++ [a])).broker.Takes k)
    (there : ∀ c, (fresh.perform acts).broker.registrations c k ≠ 0 →
      ∃ sink, (fresh.perform acts).broker.sinks[k]? = some sink) :
    received (acts ++ [a]) k = received acts k ++
      ((fresh.perform acts).dealing a).confirmations (fresh.perform acts).broker k := by
  have deals := (fresh.perform acts).deals a
  rw [← perform_concat] at deals
  have queue := deals.queueOf (k := k) (deals.takes takes) takes there
  rw [received, gather_concat, List.flatten_append, Option.toList_some, List.flatten_singleton,
    List.append_assoc, queue, ← List.append_assoc, ← received]

/-! ## What is asked of a run -/

/-- The sinks that were registered with channels directly. -/
def registeredDirectly (acts : List Act) : List Nat :=
  gather (fun _ a => match a with | .command (.notifyPublish _ k) _ => some k | _ => none) fresh acts

/-- The moments at which a publisher was there, but not yet its sink. -/
def unprovided (acts : List Act) (p k : Nat) : List Unit :=
  gather (fun s _ => if p < s.publishers.size ∧ s.broker.sinks.size ≤ k then some () else none) fresh
    acts

/-- A publisher confirms to a sink that takes everything and that nothing else uses, and its loops are
given channels that nobody else uses. -/
structure Conforms (acts : List Act) (p k : Nat) : Prop where
  provided : unprovided acts p k = []
  configured : p < (fresh.perform acts).publishers.size →
    ((fresh.perform acts).publisher p).sink = some k
  sole : ∀ q < (fresh.perform acts).publishers.size,
    ((fresh.perform acts).publisher q).sink = some k → q = p
  unregistered : k ∉ registeredDirectly acts
  takes : (fresh.perform acts).broker.Takes k
  apart : ∀ x ∈ (fresh.perform acts).channelsOf p, ∀ y ∈ (fresh.perform acts).channelsOf p,
    x.2 = y.2 → x = y
  alone : ∀ x ∈ (fresh.perform acts).channelsOf p, ∀ user ∈ usersOf acts x.2, user = some x.1

namespace Conforms

/-- What is asked of a run is asked of its beginning. -/
theorem of_concat (conforms : Conforms (acts ++ [a]) p k) : Conforms acts p k := by
  have grows := ((sound_perform acts).act a).2
  obtain ⟨provided, configured, sole, unregistered, takes, apart, alone⟩ := conforms
  rw [unprovided, gather_concat, List.append_eq_nil_iff] at provided
  rw [registeredDirectly, gather_concat, List.mem_append, not_or] at unregistered
  simp only [perform_concat] at configured sole takes
  have sink : ∀ q < (fresh.perform acts).publishers.size,
      (((fresh.perform acts).act a).publisher q).sink = ((fresh.perform acts).publisher q).sink :=
    fun q inBounds => (congrArg Publisher.sink (grows.founded q inBounds) :)
  refine ⟨provided.1, fun inBounds => ?_, fun q inBounds own => ?_, unregistered.1,
    ((fresh.perform acts).deals a).takes takes, fun x given y given' => ?_,
    fun x given user uses => ?_⟩
  · rw [← sink p inBounds]
    exact configured (Nat.lt_of_lt_of_le inBounds grows.size)
  · exact sole q (Nat.lt_of_lt_of_le inBounds grows.size) ((sink q inBounds).trans own)
  · exact apart x (channelsOf_concat a given) y (channelsOf_concat a given')
  · refine alone x (channelsOf_concat a given) user ?_
    rw [usersOf_concat]
    exact List.mem_append_left _ uses

/-- A publisher that has a channel has its sink. -/
theorem sink_of_channel (conforms : Conforms acts p k)
    (given : (t, c) ∈ (fresh.perform acts).channelsOf p) :
    ((fresh.perform acts).publisher p).sink = some k := by
  obtain ⟨l, here, rfl, -⟩ := mem_channelsOf.mp given
  exact conforms.configured ((sound_perform acts).bounded.task t (.loop l) (loop?_eq_some.mp here))

/-- The sink is there as long as the publisher has a channel. -/
theorem exists_sink (conforms : Conforms (acts ++ [a]) p k)
    (given : (t, c) ∈ (fresh.perform acts).channelsOf p) :
    ∃ sink, (fresh.perform acts).broker.sinks[k]? = some sink := by
  obtain ⟨l, here, rfl, -⟩ := mem_channelsOf.mp given
  have inBounds := (sound_perform acts).bounded.task t (.loop l) (loop?_eq_some.mp here)
  have provided := conforms.provided
  rw [unprovided, gather_concat, List.append_eq_nil_iff, Option.toList_eq_nil_iff,
    ite_eq_right_iff] at provided
  have inBounds : k < (fresh.perform acts).broker.sinks.size :=
    Nat.lt_of_not_le fun beyond => nomatch provided.2 ⟨inBounds, beyond⟩
  exact ⟨_, Array.getElem?_eq_getElem inBounds⟩

/-- Only a loop of the publisher registers the sink, with its own channel. -/
theorem registering (conforms : Conforms (acts ++ [a]) p k)
    (registers : (fresh.perform acts).dealing a = .register c k) :
    ∃ t l notice, a = .move t ∧ (fresh.perform acts).loop? t = some l ∧
      (fresh.perform acts).isHeldUp l = false ∧ l.stage = .confirming notice (.leaving (.ok ())) ∧
      ((fresh.perform acts).publisher l.publisher).sink = some k ∧
      (t, c) ∈ (fresh.perform acts).channelsOf p := by
  rcases registering_of_register registers with ⟨handle, passive, rfl⟩ |
    ⟨t, l, notice, moved, here, free, stage, channel, sink⟩
  · have unregistered := conforms.unregistered
    rw [registeredDirectly, gather_concat, List.mem_append, not_or] at unregistered
    exact absurd (List.mem_singleton_self k) unregistered.2
  · have inBounds := (sound_perform acts).bounded.task t (.loop l) (loop?_eq_some.mp here)
    have own : l.publisher = p := conforms.of_concat.sole _ inBounds sink
    exact ⟨t, l, notice, moved, here, free, stage, sink,
      mem_channelsOf.mpr ⟨l, here, own, channel⟩⟩

/-- A channel of the publisher is used by its loop only. -/
theorem user (conforms : Conforms (acts ++ [a]) p k)
    (given : (t, c) ∈ (fresh.perform (acts ++ [a])).channelsOf p) {user : Option Nat}
    (uses : ((fresh.perform acts).dealing a).user? c = some user) : user = some t := by
  refine conforms.alone _ given user ?_
  rw [usersOf_concat, List.mem_append, Option.mem_toList]
  exact .inr uses

end Conforms

/-! ## Confirmable messages -/

/-- Confirmed channels are those of loops that were granted confirm mode. -/
theorem mem_confirmedChannels : c ∈ confirmedChannels acts p ↔
    ∃ t, (t, c) ∈ (fresh.perform acts).channelsOf p ∧ granted acts t = true := by
  rw [confirmedChannels, List.mem_filterMap]
  constructor
  · rintro ⟨⟨t, d⟩, given, found⟩
    simp only [Option.ite_none_right_eq_some, Option.some.injEq] at found
    obtain ⟨granted, rfl⟩ := found
    exact ⟨t, given, granted⟩
  · rintro ⟨t, given, granted⟩
    exact ⟨(t, c), given, if_pos granted⟩

/-- On a channel of the publisher it is for its loop to be granted confirm mode. -/
theorem Conforms.mem_confirmedChannels_iff (conforms : Conforms acts p k)
    (given : (t, c) ∈ (fresh.perform acts).channelsOf p) :
    c ∈ confirmedChannels acts p ↔ granted acts t = true := by
  rw [mem_confirmedChannels]
  refine ⟨fun ⟨t', given', granted⟩ => ?_, fun granted => ⟨t, given, granted⟩⟩
  obtain ⟨rfl, -⟩ := Prod.mk.inj (conforms.apart _ given' _ given rfl)
  exact granted

/-- A loop is granted confirm mode by one of its steps. -/
theorem granted_concat (acts : List Act) (a : Act) (t : Nat) : granted (acts ++ [a]) t =
    (granted acts t || ((fresh.perform acts).stepBy a t).any SetupStep.isGrant) := by
  rw [granted, stepsOf_concat, List.any_append, ← granted]
  cases (fresh.perform acts).stepBy a t <;> simp

/-- So it is with its registration. -/
theorem registered_concat (acts : List Act) (a : Act) (t : Nat) : registered (acts ++ [a]) t =
    (registered acts t || ((fresh.perform acts).stepBy a t).any SetupStep.isRegistration) := by
  rw [registered, stepsOf_concat, List.any_append, ← registered]
  cases (fresh.perform acts).stepBy a t <;> simp

/-- The loop of a channel was done with setting up when a message was handled on the channel. -/
theorem Conforms.prepared (conforms : Conforms (acts ++ [a]) p k)
    (given : (t, c) ∈ (fresh.perform (acts ++ [a])).channelsOf p)
    (inside : h ∈ handlings (acts ++ [a])) (on : h.sending.channel = c) :
    (fresh.perform acts).Prepared t c := by
  subst on
  have user := conforms.alone _ given _ (mem_usersOf_of_handling inside)
  rw [handlings_concat, List.mem_append, Option.mem_toList] at inside
  rcases inside with before | now
  · exact prepared_of_mem_handlings before user
  · exact prepared_of_handling now user

/-- Whether a message is confirmable is settled when it is handled. -/
theorem Conforms.isConfirmable_concat (conforms : Conforms (acts ++ [a]) p k)
    (inside : h ∈ handlings (acts ++ [a])) :
    isConfirmable (acts ++ [a]) p h = isConfirmable acts p h := by
  have same : h.sending.channel ∈ confirmedChannels (acts ++ [a]) p ↔
      h.sending.channel ∈ confirmedChannels acts p := by
    rw [mem_confirmedChannels, mem_confirmedChannels]
    constructor
    · rintro ⟨t, given, granted⟩
      have prepared := conforms.prepared given inside rfl
      rw [granted_concat, prepared.stepBy, Option.any_none, Bool.or_false] at granted
      refine ⟨t, (channelsOf_before given).resolve_right fun absent => ?_, granted⟩
      obtain ⟨l, here, -⟩ := prepared
      exact nomatch absent.symm.trans here
    · rintro ⟨t, given, granted⟩
      exact ⟨t, channelsOf_concat a given, by rw [granted_concat, granted, Bool.true_or]⟩
  rw [isConfirmable, isConfirmable, Bool.eq_iff_iff]
  simp only [Bool.and_eq_true, List.contains_iff_mem, same]

/-- The confirmable message that an act hands over. -/
def confirmableBy? (acts : List Act) (p : Nat) (a : Act) : Option Handling :=
  ((fresh.perform acts).handling? a).filter (isConfirmable acts p)

/-- The last act adds the message that it has accepted on a confirmed channel, if any. -/
theorem Conforms.confirmable_concat (conforms : Conforms (acts ++ [a]) p k) :
    confirmable (acts ++ [a]) p = confirmable acts p ++ (confirmableBy? acts p a).toList := by
  rw [confirmable, List.filter_congr fun h inside => conforms.isConfirmable_concat inside,
    handlings_concat, List.filter_append, confirmable, confirmableBy?]
  cases (fresh.perform acts).handling? a with
  | none => rfl
  | some h => cases confirms : isConfirmable acts p h <;> simp [confirms, Option.filter]

/-- That message counts on its own channel. -/
theorem Conforms.deliveredOn_concat (conforms : Conforms (acts ++ [a]) p k) (c : Nat) :
    deliveredOn (acts ++ [a]) p c = deliveredOn acts p c +
      if (confirmableBy? acts p a).any fun h => h.sending.channel == c then 1 else 0 := by
  rw [deliveredOn, conforms.confirmable_concat, List.countP_append, ← deliveredOn]
  cases confirmableBy? acts p a with
  | none => rfl
  | some h => simp [List.countP_cons]

/-- On a channel on which confirm mode was not granted nothing is confirmable. -/
theorem Conforms.deliveredOn_of_ungranted (conforms : Conforms acts p k)
    (given : (t, c) ∈ (fresh.perform acts).channelsOf p) (ungranted : granted acts t = false) :
    deliveredOn acts p c = 0 := by
  refine List.countP_eq_zero.mpr fun h inside on => ?_
  have confirms := (List.mem_filter.mp inside).2
  rw [isConfirmable, Bool.and_eq_true, List.contains_iff_mem, eq_of_beq on,
    conforms.mem_confirmedChannels_iff given, ungranted] at confirms
  cases confirms.2

/-- A channel that was given to a loop just now is not in confirm mode. -/
theorem Conforms.tags_of_new (conforms : Conforms (acts ++ [a]) p k)
    (given : (t, c) ∈ (fresh.perform (acts ++ [a])).channelsOf p)
    (absent : (fresh.perform acts).loop? t = none) :
    (fresh.perform (acts ++ [a])).broker.tagOn c = none ∧ granted (acts ++ [a]) t = false := by
  have grantless : granted (acts ++ [a]) t = false := by
    rw [granted, stepsOf_concat, stepsOf_of_absent acts absent, stepBy_of_absent absent]
    rfl
  refine ⟨tagOn_of_usersOf (List.eq_nil_iff_forall_not_mem.mpr fun user uses => ?_), grantless⟩
  obtain rfl := conforms.alone _ given user uses
  rw [usersOf_concat, List.mem_append, Option.mem_toList] at uses
  rcases uses with before | now
  · obtain ⟨l, here, -⟩ := loop_of_mem_usersOf before
    exact nomatch absent.symm.trans here
  · obtain ⟨l, -, here, -⟩ := loop_of_user now
    exact nomatch absent.symm.trans here

/-- A loop that registers the sink does so for the first time. -/
theorem Conforms.registered_of_register (conforms : Conforms (acts ++ [a]) p k)
    (given : (t, c) ∈ (fresh.perform acts).channelsOf p)
    (registers : (fresh.perform acts).dealing a = .register c k) :
    registered acts t = false ∧
      ((fresh.perform acts).stepBy a t).any SetupStep.isRegistration = true := by
  obtain ⟨t', l, notice, rfl, here, free, leaving, sink, own⟩ := conforms.registering registers
  obtain ⟨rfl, -⟩ := Prod.mk.inj (conforms.of_concat.apart _ own _ given rfl)
  refine ⟨by rw [registered, stepsOf_of_leaving here leaving]; rfl, ?_⟩
  rw [stepBy_move here, free, loopSetup?, leaving]
  simp only [Bool.false_eq_true, if_false, sink]
  rfl

/-- Only a dealing that registers the sink is the step of a loop that does. -/
theorem Conforms.registered_of_not_register (conforms : Conforms (acts ++ [a]) p k)
    (given : (t, c) ∈ (fresh.perform acts).channelsOf p)
    (other : (fresh.perform acts).dealing a ≠ .register c k) :
    ((fresh.perform acts).stepBy a t).any SetupStep.isRegistration = false := by
  refine Bool.eq_false_iff.mpr fun registers => ?_
  obtain ⟨l, j, here, sink, deals⟩ := register_of_isRegistration registers
  obtain ⟨own, channel⟩ := of_mem_channelsOf given here
  rw [own] at sink
  cases sink.symm.trans (conforms.of_concat.sink_of_channel given)
  exact other (by rw [deals, channel])

/-- With a channel that no loop of the publisher was given the sink is not registered. -/
theorem Conforms.registers_of_nobody (conforms : Conforms (acts ++ [a]) p k)
    (nobody : ∀ t, (t, c) ∉ (fresh.perform acts).channelsOf p) :
    ((fresh.perform acts).dealing a).registers c k = false := by
  refine Bool.eq_false_iff.mpr fun registers => ?_
  obtain ⟨t, -, -, -, -, -, -, -, own⟩ := conforms.registering (Dealing.registers_iff.mp registers)
  exact nobody t own

/-! ## The link between tags, registrations and confirmations -/

/-- The next tag of the channel of a loop, if the loop was granted confirm mode, counts the messages accepted
so far. -/
def Tagged (acts : List Act) (p t c : Nat) : Prop :=
  (fresh.perform acts).broker.tagOn c =
    if granted acts t then some (deliveredOn acts p c + 1) else none

/-- How tags, registrations and confirmations are linked. -/
structure Linked (acts : List Act) (p k : Nat) : Prop where
  tags : ∀ t c, (t, c) ∈ (fresh.perform acts).channelsOf p → Tagged acts p t c
  registered : ∀ t c, (t, c) ∈ (fresh.perform acts).channelsOf p →
    (fresh.perform acts).broker.registrations c k =
      if (fresh.perform acts).broker.isLive c && registered acts t then 1 else 0
  others : ∀ c, (∀ t, (t, c) ∉ (fresh.perform acts).channelsOf p) →
    (fresh.perform acts).broker.registrations c k = 0
  length : (received acts k).length = (confirmable acts p).length
  order : ∀ c, tagsOn acts p k c = List.range' 1 (deliveredOn acts p c)

/-- A loop that serves was granted confirm mode exactly if it registered the sink. -/
theorem granted_eq_registered (here : (fresh.perform acts).loop? t = some l)
    (serving : l.stage.isServing = true) (done : l.stage.isSetUp = true)
    (sink : ((fresh.perform acts).publisher l.publisher).sink = some k) :
    granted acts t = registered acts t := by
  have setsUp := setsUp_perform acts here
  cases setsUp with
  | nothing _ _ unwanted => exact nomatch sink.symm.trans (unwanted serving done)
  | awaiting _ place => rw [place] at done; cases done
  | registered steps => rw [granted, Service.registered, steps]; rfl
  | unwanted _ _ none => exact nomatch sink.symm.trans none
  | reported steps => rw [granted, Service.registered, steps]; rfl
  | dropped _ place => rw [place] at serving; cases serving

namespace Linked

/-- Before anything happens nothing was delivered and nothing confirmed. -/
theorem nil : Linked [] p k where
  tags t c given := by cases given
  registered t c given := by cases given
  others _ _ := rfl
  length := rfl
  order _ := rfl

section Act

variable (linked : Linked acts p k) (conforms : Conforms (acts ++ [a]) p k)

include linked conforms

/-- A sink that somebody registered exists. -/
theorem exists_sink (c : Nat) (listens : (fresh.perform acts).broker.registrations c k ≠ 0) :
    ∃ sink, (fresh.perform acts).broker.sinks[k]? = some sink := by
  by_cases given : ∃ t, (t, c) ∈ (fresh.perform acts).channelsOf p
  · obtain ⟨t, given⟩ := given
    exact conforms.exists_sink given
  · exact absurd (linked.others c fun t own => given ⟨t, own⟩) listens

/-- The sink gets what the last act confirms. -/
theorem received_concat : received (acts ++ [a]) k = received acts k ++
    ((fresh.perform acts).dealing a).confirmations (fresh.perform acts).broker k :=
  received_concat_of conforms.takes (linked.exists_sink conforms)

/-- On a channel of the publisher a message that is accepted is confirmed with the next tag, if confirm
mode was granted. -/
theorem confirmations_of_given {delivery : Delivery}
    (handles : (fresh.perform acts).handling? a = some h) (accepted : h.delivery? = some delivery)
    (given : (t, h.sending.channel) ∈ (fresh.perform acts).channelsOf p) :
    h.sending.confirmations (fresh.perform acts).broker k = if granted acts t then
      [⟨deliveredOn acts p h.sending.channel + 1, (fresh.perform acts).broker.nacks == 0⟩]
      else [] := by
  obtain ⟨sends, -, value⟩ := handling?_eq_some.mp handles
  have user := conforms.user (channelsOf_concat a given)
    (by rw [sends, Dealing.user?, if_pos rfl] : ((fresh.perform acts).dealing a).user? _ = some _)
  -- the loop of the channel is its only user, so the message is its own
  obtain ⟨⟨t', u⟩, origin, rfl⟩ := Option.map_eq_some_iff.mp user
  obtain ⟨_, l, _, _, -, here, -, publishing, -, sending⟩ :=
    handling_of_caller handles (u := u) (by rw [Handling.caller?, origin]; rfl)
  cases origin.symm.trans (congrArg Sending.origin sending)
  have sink : ((fresh.perform acts).publisher l.publisher).sink = some k := by
    rw [(of_mem_channelsOf given here).1]
    exact conforms.of_concat.sink_of_channel given
  have same := granted_eq_registered here (by rw [publishing]; rfl) (by rw [publishing]; rfl) sink
  have live := ((publishes_of_handling handles).of_accepted accepted).1
  rw [Handling.delivery?] at accepted
  have tag := linked.tags _ _ given
  rw [Tagged] at tag
  rw [Sending.confirmations, ← value, accepted, tag, linked.registered _ _ given, live, ← same]
  cases granted acts t' <;> rfl

/-- A message that is accepted is confirmed with the next tag if it is confirmable, and not at all
otherwise. -/
theorem confirmations : ((fresh.perform acts).dealing a).confirmations (fresh.perform acts).broker k =
    (confirmableBy? acts p a).toList.map fun h =>
      ⟨deliveredOn acts p h.sending.channel + 1, (fresh.perform acts).broker.nacks == 0⟩ := by
  rw [confirmableBy?]
  cases handles : (fresh.perform acts).handling? a with
  | none =>
    have other := ne_publish_of_handling? handles
    cases deals : (fresh.perform acts).dealing a with
    | publish m => exact absurd deals (other m)
    | _ => rfl
  | some h =>
    obtain ⟨sends, -, value⟩ := handling?_eq_some.mp handles
    rw [sends, Dealing.confirmations, Option.filter]
    cases accepted : h.delivery? with
    | none =>
      rw [isConfirmable, accepted, Sending.confirmations, ← value]
      rw [Handling.delivery?] at accepted
      rw [accepted]
      rfl
    | some delivery =>
      rw [isConfirmable, accepted, Option.isSome_some, Bool.true_and]
      -- only the channels of the publisher have its sink registered
      by_cases given : ∃ t, (t, h.sending.channel) ∈ (fresh.perform acts).channelsOf p
      · obtain ⟨t, given⟩ := given
        have confirmed := conforms.of_concat.mem_confirmedChannels_iff given
        rw [linked.confirmations_of_given conforms handles accepted given]
        cases granted : granted acts t with
        | true => simp [confirmed.mpr granted]
        | false => simp [mt confirmed.mp (Bool.eq_false_iff.mp granted)]
      · have unconfirmed : h.sending.channel ∉ confirmedChannels acts p := fun inside => by
          obtain ⟨t, own, -⟩ := mem_confirmedChannels.mp inside
          exact given ⟨t, own⟩
        have none := linked.others h.sending.channel fun t own => given ⟨t, own⟩
        have silent : h.sending.confirmations (fresh.perform acts).broker k = [] := by
          rw [Sending.confirmations, none]
          split <;> rfl
        simp [silent, unconfirmed]

/-- After another act there are as many confirmations as deliveries. -/
theorem length_concat : (received (acts ++ [a]) k).length = (confirmable (acts ++ [a]) p).length := by
  rw [linked.received_concat conforms, conforms.confirmable_concat, linked.confirmations conforms,
    List.length_append, List.length_append, List.length_map, linked.length]

/-- The tags of each channel are still the numbers from 1 up. -/
theorem order_concat (c : Nat) :
    tagsOn (acts ++ [a]) p k c = List.range' 1 (deliveredOn (acts ++ [a]) p c) := by
  have order := linked.order c
  rw [tagsOn] at order
  rw [tagsOn, linked.received_concat conforms, conforms.confirmable_concat,
    linked.confirmations conforms, conforms.deliveredOn_concat, List.zip_append linked.length.symm,
    List.filter_append, List.map_append, order]
  cases confirmableBy? acts p a with
  | none => simp
  | some h =>
    by_cases on : h.sending.channel = c
    · simp [on, List.range'_1_concat, Nat.add_comm 1]
    · simp [on]

/-- The tags of a channel that its loop does not use now stay. -/
theorem tags_of_unused (given : (t, c) ∈ (fresh.perform acts).channelsOf p)
    (unused : ((fresh.perform acts).dealing a).user? c = none) :
    Tagged (acts ++ [a]) p t c := by
  have grantless : ((fresh.perform acts).stepBy a t).any SetupStep.isGrant = false := by
    refine Bool.eq_false_iff.mpr fun grants => ?_
    obtain ⟨l, here, selects⟩ := select_of_isGrant grants
    rw [selects, (of_mem_channelsOf given here).2, Dealing.user?, if_pos rfl] at unused
    cases unused
  have elsewhere : (confirmableBy? acts p a).any (fun h => h.sending.channel == c) = false := by
    refine Bool.eq_false_iff.mpr fun on => ?_
    cases found : confirmableBy? acts p a with
    | none =>
      rw [found] at on
      cases on
    | some h =>
      rw [found] at on
      have handles := (Option.filter_eq_some_iff.mp found).1
      rw [(handling?_eq_some.mp handles).1, Dealing.user?, if_pos (eq_of_beq on)] at unused
      cases unused
  rw [Tagged, granted_concat, grantless, Bool.or_false, conforms.deliveredOn_concat, elsewhere,
    perform_concat, ((fresh.perform acts).deals a).tagOn_of_unused unused]
  exact linked.tags t c given

/-- A message uses up a tag if it is confirmable. -/
theorem tags_of_publish {m : Sending} (given : (t, m.channel) ∈ (fresh.perform acts).channelsOf p)
    (sends : (fresh.perform acts).dealing a = .publish m)
    (user : m.origin.map Prod.fst = some t) :
    Tagged (acts ++ [a]) p t m.channel := by
  let h : Handling := ⟨m, (fresh.perform acts).broker.hasExchange m.exchange,
    (m.outcome (fresh.perform acts).broker).value⟩
  have handles : (fresh.perform acts).handling? a = some h := by rw [handling?, sends]
  have does := (fresh.perform acts).deals a
  rw [sends] at does
  have confirmed := conforms.of_concat.mem_confirmedChannels_iff given
  have before := linked.tags t _ given
  rw [Tagged] at before
  rw [Tagged, granted_concat, (prepared_of_handling handles user).stepBy, Option.any_none,
    Bool.or_false, conforms.deliveredOn_concat, perform_concat, does.tagOn_publish, before,
    confirmableBy?, handles, Option.filter, isConfirmable, Handling.delivery?]
  change (if (Broker.accepted? h.value).isSome then _ else _) = _
  cases Broker.accepted? h.value with
  | none => rfl
  | some delivery =>
    cases granted : granted acts t with
    | true => simp [confirmed.mpr granted, h]
    | false => simp

/-- Confirm mode begins with the first tag. -/
theorem tags_of_select (given : (t, c) ∈ (fresh.perform acts).channelsOf p)
    (selects : (fresh.perform acts).dealing a = .select (some t) c) :
    Tagged (acts ++ [a]) p t c := by
  obtain ⟨l, notice, rfl, here, free, entering, channel⟩ := confirming_of_select selects
  have ungranted : granted acts t = false := by rw [granted, stepsOf_of_entering here entering]; rfl
  have does := (fresh.perform acts).deals (.move t)
  rw [selects] at does
  have asks : (fresh.perform acts).stepBy (.move t) t =
      some (.selected ((fresh.perform acts).broker.confirmSelect c).1) := by
    rw [stepBy_move here, free, loopSetup?, entering, channel]
    rfl
  have silent : confirmableBy? acts p (.move t) = none := by
    rw [confirmableBy?, handling?, selects]
    rfl
  -- the channel was not in confirm mode, so the first tag is next
  have outside := linked.tags t c given
  rw [Tagged, ungranted] at outside
  rw [Tagged, granted_concat, ungranted, asks, conforms.deliveredOn_concat, silent,
    conforms.of_concat.deliveredOn_of_ungranted given ungranted, perform_concat,
    show (_ : Broker) = _ from does, Broker.tagOn_confirmSelect, outside]
  cases ((fresh.perform acts).broker.confirmSelect c).1 <;> rfl

/-- A channel with its sink gives the next delivery the next tag. -/
theorem tags_concat (given : (t, c) ∈ (fresh.perform (acts ++ [a])).channelsOf p) :
    Tagged (acts ++ [a]) p t c := by
  rcases channelsOf_before given with given' | absent
  · cases uses : ((fresh.perform acts).dealing a).user? c with
    | none => exact linked.tags_of_unused conforms given' uses
    | some user =>
      obtain rfl := conforms.user given uses
      cases deals : (fresh.perform acts).dealing a with
      | publish m =>
        rw [deals] at uses
        simp only [Dealing.user?, Option.ite_none_right_eq_some, Option.some.injEq] at uses
        obtain ⟨rfl, user⟩ := uses
        exact linked.tags_of_publish conforms given' deals user
      | select user d =>
        rw [deals] at uses
        simp only [Dealing.user?, Option.ite_none_right_eq_some, Option.some.injEq] at uses
        obtain ⟨rfl, rfl⟩ := uses
        exact linked.tags_of_select conforms given' deals
      | _ =>
        rw [deals] at uses
        cases uses
  · obtain ⟨tag, granted⟩ := conforms.tags_of_new given absent
    rw [Tagged, tag, granted]
    rfl

/-- The sink is registered with a channel that is live, once its loop has registered it. -/
theorem registered_concat (given : (t, c) ∈ (fresh.perform (acts ++ [a])).channelsOf p) :
    (fresh.perform (acts ++ [a])).broker.registrations c k =
      if (fresh.perform (acts ++ [a])).broker.isLive c && Service.registered (acts ++ [a]) t then 1
      else 0 := by
  have registrations := registrations_act a conforms.of_concat.takes (linked.exists_sink conforms) c
  rw [← perform_concat] at registrations
  rw [registrations, Service.registered_concat]
  cases live : (fresh.perform (acts ++ [a])).broker.isLive c with
  | false => rfl
  | true =>
    rcases channelsOf_before given with given' | absent
    · have before : (fresh.perform acts).broker.isLive c = true := isLive_of_concat given' live
      rw [linked.registered t c given', before]
      by_cases registers : (fresh.perform acts).dealing a = .register c k
      · obtain ⟨first, now⟩ := conforms.registered_of_register given' registers
        rw [first, now, Dealing.registers_iff.mpr registers]
        rfl
      · rw [conforms.registered_of_not_register given' registers,
          Bool.eq_false_iff.mpr (mt Dealing.registers_iff.mp registers), Bool.or_false]
        rfl
    · -- the loop is new, and no other loop of the publisher had its channel
      have nobody : ∀ t', (t', c) ∉ (fresh.perform acts).channelsOf p := fun t' own => by
        obtain ⟨rfl, -⟩ := Prod.mk.inj (conforms.apart _ (channelsOf_concat a own) _ given rfl)
        obtain ⟨l, here, -⟩ := mem_channelsOf.mp own
        exact nomatch absent.symm.trans here
      rw [linked.others c nobody, conforms.registers_of_nobody nobody, Service.registered,
        stepsOf_of_absent acts absent, stepBy_of_absent absent]
      rfl

/-- Where a sink is not registered by a loop, it is not registered at all. -/
theorem others_concat (unused : ∀ t, (t, c) ∉ (fresh.perform (acts ++ [a])).channelsOf p) :
    (fresh.perform (acts ++ [a])).broker.registrations c k = 0 := by
  have unused' : ∀ t, (t, c) ∉ (fresh.perform acts).channelsOf p :=
    fun t own => unused t (channelsOf_concat a own)
  rw [perform_concat, registrations_act a conforms.of_concat.takes (linked.exists_sink conforms),
    linked.others c unused', conforms.registers_of_nobody unused']
  exact ite_self 0

end Act

/-- Over every run that conforms, deliveries and confirmations belong together. -/
theorem perform (conforms : Conforms acts p k) : Linked acts p k := by
  induction acts using List.reverseRecOn with
  | nil => exact nil
  | append_singleton acts a ih =>
    have linked := ih conforms.of_concat
    exact ⟨fun t c => linked.tags_concat conforms, fun t c => linked.registered_concat conforms,
      fun c => linked.others_concat conforms, linked.length_concat conforms,
      linked.order_concat conforms⟩

end Linked

/-- For everything that can happen while a publisher confirms to a sink that takes everything and that
nothing else uses, and its loops are given channels that nobody else uses: of the messages in the log of the
broker, those accepted on a channel of the publisher in confirm mode are confirmed, each exactly once and in
order, with the tags 1, 2, 3 and so on for each channel, and no other message is. Every loop asks for confirm
mode once at most; a refusal it reports exactly once, with its next move, and goes on to serve, unless it is
dropped before. The owner is told nothing else. -/
theorem one_confirmation_per_delivery (acts : List Act) (p k : Nat) (conforms : Conforms acts p k) :
    let s := fresh.perform acts
    s.broker.published = (handlings acts).filterMap Handling.delivery? ∧
    (received acts k).length = (confirmable acts p).length ∧
    (∀ c, tagsOn acts p k c = List.range' 1 (deliveredOn acts p c)) ∧
    (∀ t l, s.loop? t = some l → SetsUp acts t l) ∧
    (∀ t l notice e, s.loop? t = some l → l.stage = .confirming notice (.leaving (.error e)) →
      s.isHeldUp l = false → ReportsAndServes (acts ++ [.move t]) t e) ∧
    s.errorsTold = (setups acts).filterMap fun x => x.2.error? := by
  intro s
  have linked := Linked.perform conforms
  exact ⟨published_perform acts, linked.length, linked.order, fun t l => setsUp_perform acts,
    fun t l notice e => reportsAndServes_of_leaving, errorsTold_perform acts⟩

/-- A publisher is served twice and publishes a message each time; the first channel refuses confirm
mode. -/
def reconnection : List Act :=
  let serve (channel loop : Nat) : List Act := [.command (.openChannel 1) rfl,
    .command (.serve 0 channel true) rfl, .move loop, .move loop, .move loop]
  let publish (call loop : Nat) : List Act := [.command (.publish 0 none {} false true) rfl, .move call,
    .move loop, .move loop, .move loop, .move call]
  [.command (.sink none) rfl, .command (.publisher "" "key" {} (some 0)) rfl,
    .command (.failConfirmSelect (.connectionForced "")) rfl] ++
    serve 0 0 ++ publish 1 0 ++ [.command (.close 0) rfl, .move 0] ++ serve 1 2 ++ publish 3 2

/-- Of two messages that are accepted on two channels, the one in confirm mode is confirmed, and the
refusal of the other channel is reported. -/
theorem confirmations_across_reconnect :
    Conforms reconnection 0 0 ∧ (fresh.perform reconnection).broker.published.length = 2 ∧
      received reconnection 0 = [⟨1, true⟩] ∧
      (fresh.perform reconnection).errorsTold = [.connectionForced ""] ∧
      tagsOn reconnection 0 0 1 = List.range' 1 (deliveredOn reconnection 0 1) := by
  have conforms : Conforms reconnection 0 0 := by
    refine ⟨by decide +kernel, fun _ => by decide +kernel, by decide +kernel, by decide +kernel, ?_,
      by decide +kernel, by decide +kernel⟩
    have there : (fresh.perform reconnection).broker.sinks[0]? = some ⟨none, [⟨1, true⟩], true⟩ := by
      decide +kernel
    intro sink here
    cases there.symm.trans here
    exact ⟨rfl, rfl⟩
  exact ⟨conforms, by decide +kernel, by decide +kernel, by decide +kernel,
    (one_confirmation_per_delivery reconnection 0 0 conforms).2.2.1 1⟩

end Relay.Service
