import Relay.Proofs.Confirming
import Relay.Proofs.Manning

/-!
# What becomes of a channel

A deed changes the channel that it is about, and no other: `Deed.change` says how. Losing the connection
closes the channels that are in the registry and held, and channels that are opened come after those that
are there. `channels_apply` puts this together, so what a deed does to the state of a channel, to those who
hold it and to those who listen to it can be read off `Deed.onto`.

A deed is about a channel that somebody holds (`held_of_deed`), which is what keeps a channel that everybody
has let go as it is.
-/

namespace Relay

namespace Broker

namespace Channel

/-- A channel that has closed; one that had closed before keeps its reason. -/
def ended (reason : CloseReason) (ch : Channel) : Channel :=
  if ch.isClosed then ch else { ch with state := .closed reason, listeners := [], sinks := [] }

/-- A notice is registered with a channel that is live. -/
def heard (notice : Nat) (ch : Channel) : Channel :=
  if ch.isClosed then ch else { ch with listeners := ch.listeners ++ [notice] }

/-- A channel that is live gets into confirm mode, unless the request is refused. -/
def selected (failure : Option Exception) (ch : Channel) : Channel :=
  if ch.isClosed || failure.isSome then ch else { ch with nextTag := some (ch.nextTag.getD 1) }

/-- A sink is registered with a channel that is live. -/
def joined (sink : Nat) (ch : Channel) : Channel :=
  if ch.isClosed then ch else { ch with sinks := ch.sinks ++ [sink] }

/-- A message that is accepted is confirmed to the sinks of a channel in confirm mode. -/
def confirmed (ack : Bool) (sinks : Array Sink) (ch : Channel) : Channel :=
  match ch.nextTag with
  | none => ch
  | some tag => { ch with nextTag := some (tag + 1), sinks := (send ⟨tag, ack⟩ ch.sinks sinks).1 }

/-- One more holds a channel. -/
def kept (ch : Channel) : Channel := { ch with holders := ch.holders + 1 }

/-- One of those who hold a channel lets it go, and nobody listens to a channel that has vanished. -/
def left (ch : Channel) : Channel :=
  { ch with holders := ch.holders - 1, listeners := if ch.holders ≤ 1 then [] else ch.listeners }

variable {ch : Channel} {reason : CloseReason}

/-- A channel that had closed stays as it is. -/
theorem ended_of_closed (closed : ch.isClosed = true) : ch.ended reason = ch := by
  rw [ended, if_pos closed]

/-- A live channel closes, and forgets its listeners and sinks. -/
theorem ended_of_live (live : ch.isClosed = false) : ch.ended reason =
    { ch with state := .closed reason, listeners := [], sinks := [] } := by
  rw [ended, live]
  rfl

/-- Either way the channel has closed. -/
@[simp] theorem isClosed_ended : (ch.ended reason).isClosed = true := by
  unfold ended
  split
  · next closed => exact closed
  · rfl

/-- A second reason does nothing. -/
@[simp] theorem ended_ended (reason' : CloseReason) :
    (ch.ended reason).ended reason' = ch.ended reason := ended_of_closed isClosed_ended

/-- Closing a channel leaves it with those who hold it. -/
@[simp] theorem holders_ended : (ch.ended reason).holders = ch.holders := by
  unfold ended
  split <;> rfl

/-! Registering, confirm mode and confirmations keep the state of a channel, and those who hold it. -/

@[simp] theorem state_heard (n : Nat) : (ch.heard n).state = ch.state := by
  unfold heard
  split <;> rfl

@[simp] theorem holders_heard (n : Nat) : (ch.heard n).holders = ch.holders := by
  unfold heard
  split <;> rfl

@[simp] theorem state_selected (failure : Option Exception) :
    (ch.selected failure).state = ch.state := by
  unfold selected
  split <;> rfl

@[simp] theorem holders_selected (failure : Option Exception) :
    (ch.selected failure).holders = ch.holders := by
  unfold selected
  split <;> rfl

@[simp] theorem listeners_selected (failure : Option Exception) :
    (ch.selected failure).listeners = ch.listeners := by
  unfold selected
  split <;> rfl

@[simp] theorem state_joined (k : Nat) : (ch.joined k).state = ch.state := by
  unfold joined
  split <;> rfl

@[simp] theorem holders_joined (k : Nat) : (ch.joined k).holders = ch.holders := by
  unfold joined
  split <;> rfl

@[simp] theorem listeners_joined (k : Nat) : (ch.joined k).listeners = ch.listeners := by
  unfold joined
  split <;> rfl

@[simp] theorem state_confirmed (ack : Bool) (sinks : Array Sink) :
    (ch.confirmed ack sinks).state = ch.state := by
  unfold confirmed
  split <;> rfl

@[simp] theorem holders_confirmed (ack : Bool) (sinks : Array Sink) :
    (ch.confirmed ack sinks).holders = ch.holders := by
  unfold confirmed
  split <;> rfl

@[simp] theorem listeners_confirmed (ack : Bool) (sinks : Array Sink) :
    (ch.confirmed ack sinks).listeners = ch.listeners := by
  unfold confirmed
  split <;> rfl

@[simp] theorem state_left : ch.left.state = ch.state := rfl

/-- Whether a channel has closed is told by its state. -/
theorem isClosed_of_state {ch' : Channel} (same : ch'.state = ch.state) :
    ch'.isClosed = ch.isClosed := by
  rw [isClosed, same, isClosed]

/-- Whether a channel is held is told by its holders. -/
theorem isHeld_of_holders {ch' : Channel} (same : ch'.holders = ch.holders) :
    ch'.isHeld = ch.isHeld := by
  rw [isHeld, same, isHeld]

end Channel

variable {b : Broker} {c d : Nat} {ch : Channel}

/-! ## The operations on one channel -/

/-- Two ways to change a channel that agree on the one that is there. -/
theorem modify_congr {f g : Channel → Channel}
    (same : ∀ ch, b.channels[c]? = some ch → f ch = g ch) :
    b.channels.modify c f = b.channels.modify c g := by
  apply Array.ext_getElem?
  intro d
  rw [Array.getElem?_modify, Array.getElem?_modify]
  split
  · next own =>
    subst own
    cases here : b.channels[c]? with
    | none => rfl
    | some ch => rw [Option.map_some, Option.map_some, same ch here]
  · rfl

/-- One channel changes as two functions say that agree on it. -/
theorem channels_onChannel_congr {b' : Broker} {f g : Channel → Channel}
    (kept : b'.channels = b.channels) (same : ∀ ch, b.channels[c]? = some ch → f ch = g ch) :
    (b'.onChannel c f).channels = b.channels.modify c g := by
  rw [onChannel, kept]
  exact modify_congr same

/-- A change that leaves the channel that is there as it is. -/
theorem modify_of_same {f : Channel → Channel} (same : ∀ ch, b.channels[c]? = some ch → f ch = ch) :
    b.channels = b.channels.modify c f := by
  apply Array.ext_getElem?
  intro d
  rw [Array.getElem?_modify]
  split
  · next own =>
    subst own
    cases here : b.channels[c]? with
    | none => rfl
    | some ch => rw [Option.map_some, same ch here]
  · rfl

/-- Whether a channel that exists is held. -/
theorem isHeld_eq (here : b.channels[c]? = some ch) : b.isHeld c = ch.isHeld := by
  rw [isHeld, here]

/-- A channel that is shut ends for the reason given. -/
theorem channels_shut (b : Broker) (c : Nat) (reason : CloseReason) :
    (b.shut c reason).channels = b.channels.modify c (.ended reason) := by
  unfold shut
  cases here : b.channels[c]? with
  | none => exact modify_of_same fun ch there => nomatch here.symm.trans there
  | some x =>
    simp only []
    split
    · next closed =>
      refine modify_of_same fun ch there => ?_
      cases here.symm.trans there
      exact Channel.ended_of_closed closed
    · next live =>
      refine channels_onChannel_congr rfl fun ch there => ?_
      cases here.symm.trans there
      exact (Channel.ended_of_live (Bool.eq_false_iff.mpr live)).symm

/-- A channel that is not live cannot be shut. -/
theorem shut_of_not_live (closed : ¬ b.isLive c = true) (reason : CloseReason) :
    b.shut c reason = b := by
  unfold shut
  cases here : b.channels[c]? with
  | none => rfl
  | some ch => exact if_pos (isClosed_of_not_live closed here)

/-- A close from this side shuts the channel, also where it had closed. -/
theorem broker_close (b : Broker) (c : Nat) : (b.close c).broker = b.shut c none := by
  unfold close
  split
  · rfl
  · next closed => exact (shut_of_not_live closed none).symm

/-- So does one from the side of the broker. -/
theorem broker_terminate (b : Broker) (c : Nat) (reason : CloseReason) :
    (b.terminate c reason).broker = b.shut c reason := by
  unfold terminate
  split
  · rfl
  · next closed => exact (shut_of_not_live closed reason).symm

/-- A notice is registered with the next index. -/
theorem channels_notifyClose (b : Broker) (c : Nat) :
    (b.notifyClose c).2.channels = b.channels.modify c (.heard b.notices.size) := by
  cases live : b.isLive c with
  | true =>
    rw [notifyClose_of_live live]
    refine channels_onChannel_congr rfl fun ch here => ?_
    rw [Channel.heard, isClosed_of_live live here]
    rfl
  | false =>
    obtain ⟨x, -, same⟩ := notifyClose_of_not_live live
    rw [same]
    refine modify_of_same fun ch here => ?_
    rw [Channel.heard, isClosed_of_not_live (Bool.eq_false_iff.mp live) here]
    rfl

/-- A channel gets into confirm mode unless a refusal is pending. -/
theorem channels_confirmSelect (b : Broker) (c : Nat) :
    (b.confirmSelect c).2.channels = b.channels.modify c (.selected b.confirmFailure) := by
  unfold confirmSelect
  split
  · next live =>
    split
    · next refused =>
      refine modify_of_same fun ch _ => ?_
      rw [Channel.selected, refused, Option.isSome_some, Bool.or_true]
      rfl
    · next granted =>
      refine channels_onChannel_congr rfl fun ch here => ?_
      rw [Channel.selected, granted, isClosed_of_live live here]
      rfl
  · next closed =>
    refine modify_of_same fun ch here => ?_
    rw [Channel.selected, isClosed_of_not_live closed here, Bool.true_or]
    rfl

/-- A sink is registered. -/
theorem channels_notifyPublish (b : Broker) (c k : Nat) :
    (b.notifyPublish c k).channels = b.channels.modify c (.joined k) := by
  unfold notifyPublish
  split
  · next live =>
    refine channels_onChannel_congr rfl fun ch here => ?_
    rw [Channel.joined, isClosed_of_live live here]
    rfl
  · next closed =>
    refine modify_of_same fun ch here => ?_
    rw [Channel.joined, isClosed_of_not_live closed here]
    rfl

/-- A channel loses a holder. -/
theorem channels_letGo (b : Broker) (c : Nat) :
    (b.letGo c).channels = b.channels.modify c .left := by
  unfold letGo
  cases here : b.channels[c]? with
  | none => exact modify_of_same fun ch there => nomatch here.symm.trans there
  | some x =>
    simp only []
    have fewer := channels_onChannel_self here fun ch => { ch with holders := ch.holders - 1 }
    apply Array.ext_getElem?
    intro d
    rw [Array.getElem?_modify]
    by_cases own : c = d
    · subst own
      rw [if_pos rfl, here, Option.map_some, Channel.left]
      split
      · exact channels_onChannel_self (b := Broker.setNotices (b.onChannel c _) _ _) fewer _
      · exact fewer
    · rw [if_neg own]
      split
      · exact (channels_onChannel_of_ne (Broker.setNotices _ _ _) (Ne.symm own) _).trans
          (channels_onChannel_of_ne b (Ne.symm own) _)
      · exact channels_onChannel_of_ne b (Ne.symm own) _

/-- A confirmation takes the next tag and drops the sinks that are gone. -/
theorem channels_of_confirm (b : Broker) (c : Nat) (ack : Bool) :
    (b.confirm c ack).broker.channels = b.channels.modify c (.confirmed ack b.sinks) := by
  unfold confirm
  cases here : b.channels[c]? with
  | none => exact modify_of_same fun ch there => nomatch here.symm.trans there
  | some x =>
    simp only []
    cases next : x.nextTag with
    | none =>
      refine modify_of_same fun ch there => ?_
      cases here.symm.trans there
      rw [Channel.confirmed, next]
    | some tag =>
      refine channels_onChannel_congr rfl fun ch there => ?_
      cases here.symm.trans there
      rw [Channel.confirmed, next]

/-- An accepted message is confirmed, negatively if a nack is pending. -/
theorem channels_of_accept (b : Broker) (c : Nat) (delivery : Delivery) :
    (b.accept c delivery).broker.channels =
      b.channels.modify c (.confirmed (b.nacks == 0) b.sinks) := by
  rw [accept_eq]
  exact channels_of_confirm _ c _

/-! ## Losing the connection -/

/-- Shutting a channel changes channels and notices only. -/
theorem shut_eq (b : Broker) (c : Nat) (reason : CloseReason) : b.shut c reason =
    { b with channels := (b.shut c reason).channels, notices := (b.shut c reason).notices } := by
  unfold shut
  split
  · rfl
  · split <;> rfl

/-- The broker with channels closed one after the other. -/
def shutAll (b : Broker) (cs : List Nat) (reason : CloseReason) : Broker :=
  cs.foldl (fun b c => b.shut c reason) b

/-- The first channel is shut before the others. -/
theorem shutAll_cons (b : Broker) (c : Nat) (cs : List Nat) (reason : CloseReason) :
    b.shutAll (c :: cs) reason = (b.shut c reason).shutAll cs reason := rfl

/-- Of all channels those of the list end. -/
theorem channels_shutAll (b : Broker) (cs : List Nat) (reason : CloseReason) (d : Nat) :
    (b.shutAll cs reason).channels[d]? =
      if d ∈ cs then b.channels[d]?.map (.ended reason) else b.channels[d]? := by
  induction cs generalizing b with
  | nil => rfl
  | cons c cs ih =>
    rw [shutAll_cons, ih, channels_shut, Array.getElem?_modify]
    by_cases own : c = d
    · subst own
      cases b.channels[c]? <;> simp
    · simp [own, Ne.symm own]

/-- What every single closing keeps, closing one channel after the other keeps. -/
theorem shutAll_induct {P : Broker → Prop} {reason : CloseReason} (cs : List Nat) (b : Broker)
    (start : P b) (shuts : ∀ b' c, c ∈ cs → P b' → P (b'.shut c reason)) :
    P (b.shutAll cs reason) := by
  induction cs generalizing b with
  | nil => exact start
  | cons c cs ih =>
    refine ih _ (shuts b c List.mem_cons_self start) fun b' d later => shuts b' d ?_
    exact List.mem_cons_of_mem c later

/-- Losing the connection closes the channels that it reaches. -/
theorem disconnect_eq (b : Broker) (error : Exception) : (b.disconnect error).broker =
    { b with available := false, registry := [] }.shutAll (b.registry.filter b.isHeld) (some error) :=
  rfl

/-- The channels that are registered and held end with the error of the lost connection. -/
theorem channels_disconnect (b : Broker) (error : Exception) (c : Nat) :
    (b.disconnect error).broker.channels[c]? = b.channels[c]?.map fun ch =>
      if c ∈ b.registry ∧ ch.isHeld = true then ch.ended (some error) else ch := by
  rw [disconnect_eq, channels_shutAll]
  change (if _ then b.channels[c]?.map _ else b.channels[c]?) = _
  cases here : b.channels[c]? with
  | none => simp
  | some ch =>
    simp only [List.mem_filter, isHeld_eq here, Option.map_some]
    split <;> rfl

/-! ## Opening -/

/-- A channel is opened behind those that are there, if the broker is available. -/
theorem channels_openChannel (b : Broker) : b.openChannel.broker.channels =
    if b.available then b.channels.push { number := b.nextNumber } else b.channels := by
  unfold openChannel
  split <;> rfl

/-- Opening channels and keeping the last is opening channels and letting go of new ones. -/
theorem openLast_induct {P : Broker → Prop} (b : Broker) (count : Nat) (start : P b)
    (opens : ∀ b', P b' → P b'.openChannel.broker)
    (lets : ∀ b' c, b.channels.size ≤ c → P b' → P (b'.letGo c)) : P (b.openLast count).broker := by
  -- the channel that was opened last is a new one
  have again : ∀ (n c : Nat) (b' : Broker) (notes : List Note), P b' → b.channels.size ≤ c →
      b.channels.size ≤ b'.channels.size → P (reopen n c b' notes).broker := by
    intro n
    induction n with
    | zero => exact fun _ _ _ now _ _ => now
    | succ n ih =>
      intro c b' notes now new longer
      have next := opens b' now
      have heeds := heeds_openChannel b'
      rw [reopen]
      split
      · next c' b'' opened result =>
        rw [result] at next heeds
        have new' : b'.channels.size ≤ c' := Array.getElem?_eq_none_iff.mp (openChannel_ok result).1
        exact ih c' _ _ (lets b'' c new next) (longer.trans new')
          (longer.trans (heeds.channels.trans (heeds_letGo b'' c).channels))
      · next result =>
        rw [result] at next
        exact next
  have first := opens b start
  have heeds := heeds_openChannel b
  unfold openLast
  split
  · next c b' notes result =>
    rw [result] at first heeds
    exact again _ _ _ _ first (Array.getElem?_eq_none_iff.mp (openChannel_ok result).1) heeds.channels
  · exact first

/-- Channels that are there stay as they are while others are opened. -/
theorem channels_openLast (count : Nat) (here : b.channels[c]? = some ch) :
    (b.openLast count).broker.channels[c]? = some ch := by
  have old := (Array.getElem?_eq_some_iff.mp here).1
  refine openLast_induct (P := fun b' => b'.channels[c]? = some ch) b count here
    (fun b' there => ?_) fun b' d new there => ?_
  · have old' := (Array.getElem?_eq_some_iff.mp there).1
    rw [channels_openChannel]
    split
    · rw [Array.getElem?_push, if_neg (Nat.ne_of_lt old'), there]
    · exact there
  · rw [channels_letGo, Array.getElem?_modify, if_neg (Nat.ne_of_gt (Nat.lt_of_lt_of_le old new)), there]

/-- Channels that are opened are live, and nobody listens to them yet. -/
theorem opened_openLast (count : Nat) (absent : b.channels[c]? = none)
    (there : (b.openLast count).broker.channels[c]? = some ch) :
    ch.state = .live ∧ ch.listeners = [] ∧ ch.nextTag = none ∧ ch.sinks = [] := by
  refine openLast_induct (P := fun b' => ∀ ch, b'.channels[c]? = some ch →
    ch.state = .live ∧ ch.listeners = [] ∧ ch.nextTag = none ∧ ch.sinks = []) b count
    (fun ch here => nomatch absent.symm.trans here) (fun b' before x found => ?_)
    (fun b' d _ before x found => ?_) ch there
  · rw [channels_openChannel] at found
    split at found
    · rw [Array.getElem?_push] at found
      split at found
      · cases found
        exact ⟨rfl, rfl, rfl, rfl⟩
      · exact before x found
    · exact before x found
  · rw [channels_letGo, Array.getElem?_modify] at found
    split at found
    · obtain ⟨y, here, rfl⟩ := Option.map_eq_some_iff.mp found
      obtain ⟨live, listeners, nextTag, sinks⟩ := before y here
      refine ⟨live, ?_, nextTag, sinks⟩
      simp only [Channel.left, listeners, ite_self]
    · exact before x found

end Broker

namespace Service

open Broker (Channel Exception)

variable {s : Service} {b : Broker} {d : Deed} {c : Nat} {ch : Channel}

/-! ## Deeds -/

/-- What a deed does to the channel that it is about. -/
def Deed.change (b : Broker) : Deed → Channel → Channel
  | close _ => .ended none
  | terminate _ reason => .ended reason
  | listen _ => .heard b.notices.size
  | select _ _ => .selected b.confirmFailure
  | register _ k => .joined k
  | publish m => fun ch =>
    if ch.isClosed || !b.rejections.isEmpty then ch
    else if b.hasExchange m.exchange then ch.confirmed (b.nacks == 0) b.sinks
    else ch.ended (some (.unknownExchange m.exchange))
  | hold _ => .kept
  | letGo _ => .left
  | _ => id

/-- What a deed does to a channel. -/
def Deed.onto (b : Broker) (d : Deed) (c : Nat) (ch : Channel) : Channel :=
  if d.channel? = some c then d.change b ch
  else
    match d with
    | disconnect error => if c ∈ b.registry ∧ ch.isHeld = true then ch.ended (some error) else ch
    | _ => ch

/-- What a publish makes of its channel. -/
theorem channels_publish (b : Broker) (m : Sending) : (m.outcome b).broker.channels =
    b.channels.modify m.channel (Deed.change b (.publish m)) := by
  have publishes := m.publishes b
  generalize (m.outcome b).broker = b' at publishes ⊢
  generalize (m.outcome b).value = value at publishes
  cases publishes with
  | refused closed =>
    refine Broker.modify_of_same fun ch here => ?_
    have closed := Broker.isClosed_of_not_live (Bool.eq_false_iff.mp closed) here
    simp [Deed.change, closed]
  | rejected live ordered =>
    refine Broker.modify_of_same fun ch here => ?_
    simp [Deed.change, ordered]
  | unknown live free absent =>
    rw [Broker.channels_shut]
    refine Broker.modify_congr fun ch here => ?_
    simp [Deed.change, Broker.isClosed_of_live live here, free, absent]
  | accepted live free there =>
    rw [Broker.channels_of_accept]
    refine Broker.modify_congr fun ch here => ?_
    simp [Deed.change, Broker.isClosed_of_live live here, free, there]

/-- What a deed makes of the channels that are there. -/
theorem channels_apply (here : b.channels[c]? = some ch) :
    (d.apply b).channels[c]? = some (d.onto b c ch) := by
  -- a change of one channel
  have one : ∀ {channels : Array Channel} {e : Nat} {f : Channel → Channel},
      channels = b.channels.modify e f →
      channels[c]? = some (if some e = some c then f ch else ch) := by
    rintro channels e f rfl
    rw [Array.getElem?_modify, here]
    by_cases own : e = c <;> simp [own]
  cases d with
  | declare exchange =>
    simp only [Deed.apply, Broker.declare]
    split <;> exact here
  | openLast count =>
    exact Broker.channels_openLast count here
  | disconnect error =>
    refine (Broker.channels_disconnect b error c).trans ?_
    rw [here]
    rfl
  | restore | rejectNext | nackNext | failConfirmSelect | addSink | dropSink => exact here
  | receive k limit =>
    simp only [Deed.apply, Broker.receive]
    split <;> exact here
  | close e => exact one ((congrArg _ (Broker.broker_close b e)).trans (Broker.channels_shut b e none))
  | terminate e reason =>
    exact one ((congrArg _ (Broker.broker_terminate b e reason)).trans (Broker.channels_shut b e reason))
  | listen e => exact one (Broker.channels_notifyClose b e)
  | select user e => exact one (Broker.channels_confirmSelect b e)
  | register e k => exact one (Broker.channels_notifyPublish b e k)
  | publish m => exact one (channels_publish b m)
  | hold e => exact one rfl
  | letGo e => exact one (Broker.channels_letGo b e)

/-- What a deed does to the channel that it is about. -/
theorem onto_of_about (about : d.channel? = some c) : d.onto b c ch = d.change b ch := if_pos about

/-- A deed does nothing to another channel, unless the connection is lost. -/
theorem onto_of_ne (other : d.channel? ≠ some c) (linked : ∀ error, d ≠ .disconnect error) :
    d.onto b c ch = ch := by
  unfold Deed.onto
  rw [if_neg other]
  split
  · next error => exact absurd rfl (linked error)
  · rfl

/-- Only opening adds channels. -/
theorem size_apply (closed : ∀ count, d ≠ .openLast count) :
    (d.apply b).channels.size = b.channels.size := by
  cases d with
  | openLast count => exact absurd rfl (closed count)
  | declare exchange =>
    simp only [Deed.apply, Broker.declare]
    split <;> rfl
  | disconnect error =>
    exact Broker.shutAll_induct (P := fun b' => b'.channels.size = b.channels.size) _ _ rfl
      fun b' c _ same => by rw [Broker.channels_shut, Array.size_modify, same]
  | restore | rejectNext | nackNext | failConfirmSelect | addSink | dropSink => rfl
  | receive k limit =>
    simp only [Deed.apply, Broker.receive]
    split <;> rfl
  | close e =>
    rw [Deed.apply, Broker.broker_close, Broker.channels_shut, Array.size_modify]
  | terminate e reason =>
    rw [Deed.apply, Broker.broker_terminate, Broker.channels_shut, Array.size_modify]
  | listen e => rw [Deed.apply, Broker.channels_notifyClose, Array.size_modify]
  | select user e => rw [Deed.apply, Broker.channels_confirmSelect, Array.size_modify]
  | register e k => rw [Deed.apply, Broker.channels_notifyPublish, Array.size_modify]
  | publish m => rw [Deed.apply, channels_publish, Array.size_modify]
  | hold e => exact Array.size_modify
  | letGo e => rw [Deed.apply, Broker.channels_letGo, Array.size_modify]

/-- Unless channels are opened, those that are there were there before. -/
theorem exists_of_apply (closed : ∀ count, d ≠ .openLast count)
    (there : (d.apply b).channels[c]? = some ch) :
    ∃ x, b.channels[c]? = some x ∧ ch = d.onto b c x := by
  have inBounds := (Array.getElem?_eq_some_iff.mp there).1
  rw [size_apply closed] at inBounds
  refine ⟨_, Array.getElem?_eq_getElem inBounds, ?_⟩
  exact Option.some.inj (there.symm.trans (channels_apply (Array.getElem?_eq_getElem inBounds)))

/-- A channel that has closed stays closed. -/
theorem isClosed_onto (closed : ch.isClosed = true) : (d.onto b c ch).isClosed = true := by
  unfold Deed.onto
  split
  · cases d with
    | close | terminate => exact Channel.isClosed_ended
    | listen => rwa [Deed.change, Channel.isClosed_of_state (Channel.state_heard _)]
    | select => rwa [Deed.change, Channel.isClosed_of_state (Channel.state_selected _)]
    | register => rwa [Deed.change, Channel.isClosed_of_state (Channel.state_joined _)]
    | publish m => simp only [Deed.change, closed, Bool.true_or, if_true]
    | _ => exact closed
  · split
    · split
      · exact Channel.isClosed_ended
      · exact closed
    · exact closed

/-- Nobody holds a channel again that everybody has let go, unless by taking it over. -/
theorem isHeld_of_onto (held : d = .hold c → ch.isHeld = true)
    (now : (d.onto b c ch).isHeld = true) : ch.isHeld = true := by
  unfold Deed.onto at now
  split at now
  · next about =>
    cases d with
    | hold e =>
      cases about
      exact held rfl
    | close | terminate =>
      rwa [Deed.change, Channel.isHeld_of_holders Channel.holders_ended] at now
    | listen => rwa [Deed.change, Channel.isHeld_of_holders (Channel.holders_heard _)] at now
    | select => rwa [Deed.change, Channel.isHeld_of_holders (Channel.holders_selected _)] at now
    | register => rwa [Deed.change, Channel.isHeld_of_holders (Channel.holders_joined _)] at now
    | publish m =>
      simp only [Deed.change] at now
      split at now
      · exact now
      · split at now
        · rwa [Channel.isHeld_of_holders (Channel.holders_confirmed _ _)] at now
        · rwa [Channel.isHeld_of_holders Channel.holders_ended] at now
    | letGo e =>
      simp only [Deed.change, Channel.left, Channel.isHeld, bne_iff_ne] at now ⊢
      omega
    | _ => cases about
  · split at now
    · split at now
      · next reached => exact reached.2
      · exact now
    · exact now

/-! ## Deeds are about channels that are held -/

/-- Who claims a channel holds it. -/
theorem isHeld_of_claims (hearing : Hearing s) (manned : Manned s) {x : Nat ⊕ Nat}
    (claims : s.Claims c x) : s.broker.isHeld c = true := by
  have here := Array.getElem?_eq_getElem (hearing.exist_of_claims claims)
  obtain ⟨K, all, fits⟩ := manned.hands c _ here
  have positive : 0 < K.card := Finset.card_pos.mpr ⟨x, all x claims⟩
  rw [Broker.isHeld_eq here, Broker.Channel.isHeld, bne_iff_ne]
  exact Nat.ne_of_gt (Nat.lt_of_lt_of_le positive fits)

/-- A command on a handle concerns a channel that somebody claims: the outside, by that handle. -/
theorem claims_of_map {h : Nat} {f : Nat → Deed} (own : ∀ e, (f e).channel? = some e)
    (asks : (s.heldChannel? h).map f = some d) (about : d.channel? = some c) :
    ∃ x, s.Claims c x := by
  obtain ⟨e, held, rfl⟩ := Option.map_eq_some_iff.mp asks
  rw [own] at about
  cases about
  exact ⟨.inl h, held⟩

/-- A command concerns the channel of a handle that the outside holds. -/
theorem claims_of_commandDeed {command : Command} (asks : s.commandDeed? command = some d)
    (about : d.channel? = some c) : ∃ x, s.Claims c x := by
  cases command with
  | close | confirmSelect | terminate | publishOn | listen | dropChannel =>
    exact claims_of_map (fun _ => rfl) asks about
  | notifyPublish h k =>
    obtain ⟨e, held, asks⟩ := Option.bind_eq_some_iff.mp asks
    split at asks
    · cases asks
      cases about
      exact ⟨.inl h, held⟩
    · cases asks
  | receive | dropSink =>
    rw [commandDeed?] at asks
    split at asks
    · cases asks
      cases about
    · cases asks
  | serve n h =>
    obtain ⟨p, -, asks⟩ := Option.bind_eq_some_iff.mp asks
    exact claims_of_map (fun _ => rfl) asks about
  | dropTask t =>
    obtain ⟨l, here, asks⟩ := Option.bind_eq_some_iff.mp asks
    split at asks
    · cases asks
    · next alive =>
      cases asks
      cases about
      exact ⟨.inr t, l, here, Bool.eq_false_iff.mpr alive, rfl⟩
  | _ => cases asks <;> cases about

/-- Only a loop that is not over asks anything. -/
theorem alive_of_loopDeed {t : Nat} {l : Loop} (asks : s.loopDeed? t l = some d) :
    (Task.loop l).isOver = false := by
  cases stage : l.stage with
  | finished | dropped =>
    rw [loopDeed?, stage] at asks
    cases asks
  | _ => simp [Task.isOver, stage]

/-- A loop concerns its own channel. -/
theorem channel_of_loopDeed {t : Nat} {l : Loop} (asks : s.loopDeed? t l = some d) :
    d.channel? = some (s.channelOf l.handle) := by
  -- case by case over the stages, as `loopDeed?` reads them: where it asks at all, it names the loop's own
  -- channel
  unfold loopDeed? at asks
  cases stage : l.stage with
  | fresh | idle =>
    simp only [stage] at asks
    split at asks <;> cases asks
    rfl
  | closing f phase => cases phase <;> simp only [stage] at asks <;> cases asks <;> rfl
  | confirming notice phase =>
    cases phase with
    | entering =>
      simp only [stage] at asks
      cases asks
      rfl
    | leaving result =>
      cases result with
      | error =>
        simp only [stage] at asks
        cases asks
      | ok =>
        simp only [stage] at asks
        obtain ⟨k, -, rfl⟩ := Option.map_eq_some_iff.mp asks
        rfl
  | publishing notice u phase =>
    cases phase with
    | entering =>
      simp only [stage] at asks
      obtain ⟨call, -, rfl⟩ := Option.map_eq_some_iff.mp asks
      rfl
    | leaving =>
      simp only [stage] at asks
      cases asks
  | finished | dropped =>
    simp only [stage] at asks
    cases asks

/-- A deed is about a channel that somebody holds. -/
theorem held_of_deed (hearing : Hearing s) (manned : Manned s) {a : Act} (asks : s.deed? a = some d)
    (about : d.channel? = some c) : s.broker.isHeld c = true := by
  cases a with
  | command command passive =>
    obtain ⟨x, claims⟩ := claims_of_commandDeed asks about
    exact isHeld_of_claims hearing manned claims
  | move t =>
    rw [deed?] at asks
    split at asks
    · next l here =>
      split at asks
      · cases asks
      · have same := (channel_of_loopDeed asks).symm.trans about
        exact isHeld_of_claims hearing manned
          (x := .inr t) ⟨l, here, alive_of_loopDeed asks, Option.some.inj same⟩
    · cases asks

/-- What holds of a new broker, and what every deed keeps that is about a channel that somebody holds, holds
of the broker of a service whatever happens. -/
theorem broker_perform_induct {P : Broker → Prop} (start : P Broker.fresh)
    (step : ∀ (b : Broker) (d : Deed), (∀ c, d.channel? = some c → b.isHeld c = true) → P b →
      P (d.apply b))
    (acts : List Act) : P (fresh.perform acts).broker := by
  induction acts using List.reverseRecOn with
  | nil => exact start
  | append_singleton acts a ih =>
    rw [perform_concat, broker_act]
    cases asks : (fresh.perform acts).deed? a with
    | none => exact ih
    | some d =>
      exact step _ d (fun c about =>
        held_of_deed (hearing_perform acts) (manned_perform acts) asks about) ih

end Service

end Relay
