import Relay.Proofs.Changes
import Relay.Proofs.Nacks
import Relay.Proofs.Tags

/-!
# Who gets confirmations

A confirmation goes to every sink once for each of its registrations with the channel, as far as the sink has
room, and whatever becomes of the other sinks. Registrations of sinks that nobody takes from are forgotten
with the next confirmation, and all others last until the channel closes. So a sink that is never full and
never dropped gets the confirmations of a channel without a gap from the moment when it is registered there.
-/

namespace Relay

namespace Broker

/-- The sinks that are registered with a channel, in order, each as often as it is registered. -/
def sinksOn (b : Broker) (c : Nat) : List Nat := (b.channels[c]?.map Channel.sinks).getD []

/-- A channel that has closed has no sinks. -/
def Quiet (b : Broker) : Prop :=
  ∀ (c : Nat) (ch : Channel), b.channels[c]? = some ch → ch.isClosed = true → ch.sinks = []

variable {b b' : Broker} {c k : Nat} {ch : Channel}

/-- The sinks on a channel are those that it keeps. -/
theorem sinksOn_of_channel (here : b.channels[c]? = some ch) : b.sinksOn c = ch.sinks := by
  rw [sinksOn, here]
  rfl

/-- On a channel that is not there is no sink. -/
theorem sinksOn_of_absent (absent : b.channels[c]? = none) : b.sinksOn c = [] := by
  rw [sinksOn, absent]
  rfl

/-- A sink is on a channel as often as it is registered there. -/
theorem count_sinksOn (quiet : Quiet b) (c k : Nat) :
    (b.sinksOn c).count k = b.registrations c k := by
  cases here : b.channels[c]? with
  | none =>
    rw [sinksOn_of_absent here, registrations, here]
    rfl
  | some ch =>
    rw [sinksOn_of_channel here, registrations_of_channel here]
    split
    · next closed =>
      rw [quiet c ch here closed]
      rfl
    · rfl

/-- Forgetting the sinks that nobody takes from does not matter for one that somebody takes from. -/
theorem count_filter_isTaken {ks : List Nat} {sinks : Array Sink}
    (taken : ks.count k ≠ 0 → isTaken sinks k = true) :
    (ks.filter (isTaken sinks)).count k = ks.count k := by
  by_cases listed : ks.count k = 0
  · have fewer : (ks.filter (isTaken sinks)).count k ≤ ks.count k := List.filter_sublist.count_le k
    omega
  · exact List.count_filter (taken listed)

/-- Closing a channel leaves it without sinks. -/
theorem Channel.sinks_ended {reason : CloseReason} (quiet : ch.isClosed = true → ch.sinks = []) :
    (ch.ended reason).sinks = [] := by
  cases closed : ch.isClosed with
  | true => rw [ended_of_closed closed, quiet closed]
  | false => rw [ended_of_live closed]

end Broker

namespace Service

open Broker (Channel Confirmation Exception Quiet Silent Sink Takes)

variable {s : Service} {acts : List Act} {a : Act} {b b' : Broker} {c k : Nat} {ch : Channel}

/-! ## Sending -/

/-- A confirmation goes to all sinks that are registered. -/
theorem Dealing.Does.sinks_of_confirming {d : Dealing} {x : Confirmation} (does : d.Does b b')
    (confirms : d.confirming? b c = some x) (k : Nat) :
    b'.sinks[k]? = b.sinks[k]?.map (Sink.given x ((b.sinksOn c).count k)) := by
  obtain ⟨m, delivery, rfl, rfl, accepted, next, ack⟩ := confirming?_eq_some.mp confirms
  obtain ⟨live, rfl⟩ := does.publishes.of_accepted accepted
  obtain ⟨ch, here, -⟩ := Broker.isLive_iff.mp live
  rw [Broker.tagOn_of_channel here] at next
  rw [(Broker.accept_of_some here next delivery).2.2, ← ack, Broker.sinks_send,
    Broker.sinksOn_of_channel here]

/-- Where nothing is confirmed, nobody gets a confirmation. -/
theorem Dealing.Does.silent_of_unconfirmed {d : Dealing} (does : d.Does b b')
    (unconfirmed : ∀ c, d.confirming? b c = none) : Silent b b' := by
  by_cases publishes : ∃ m, d = .publish m
  · obtain ⟨m, rfl⟩ := publishes
    cases accepted : Broker.accepted? (m.outcome b).value with
    | none => exact .publish does.publishes accepted
    | some delivery =>
      obtain ⟨live, rfl⟩ := does.publishes.of_accepted accepted
      obtain ⟨ch, here, -⟩ := Broker.isLive_iff.mp live
      cases next : ch.nextTag with
      | none => exact .of_sinks (Broker.accept_of_none here next delivery).2
      | some tag =>
        have confirms := confirming?_eq_some.mpr ⟨m, delivery, rfl, rfl, accepted,
          (Broker.tagOn_of_channel here).trans next, (rfl : (⟨tag, b.nacks == 0⟩ : Confirmation).ack = _)⟩
        rw [unconfirmed] at confirms
        cases confirms
  · exact does.silent fun m same => publishes ⟨m, same⟩

/-! ## Registrations -/

namespace Dealing

/-- The sink that a dealing registers with a channel. -/
def joining (c : Nat) : Dealing → List Nat
  | .register d k => if d = c then [k] else []
  | _ => []

/-- What a dealing makes of the sinks of a channel that stays live: a confirmation forgets those that nobody
takes from, and a registration comes last. -/
def sinksAfter (b : Broker) (c : Nat) (ks : List Nat) (d : Dealing) : List Nat :=
  (if (d.confirming? b c).isSome then ks.filter (Broker.isTaken b.sinks) else ks) ++ d.joining c

/-- What confirms nothing and registers nothing leaves the sinks on a channel. -/
theorem sinksAfter_of_none {d : Dealing} {ks : List Nat} (unconfirmed : d.confirming? b c = none)
    (joins : d.joining c = []) : d.sinksAfter b c ks = ks := by
  rw [sinksAfter, unconfirmed, joins]
  exact List.append_nil _

end Dealing

variable {d : Deed}

/-- A deed that is about another channel, or about none, confirms nothing on this one and registers nothing
with it. -/
theorem sinksAfter_of_ne (other : d.channel? ≠ some c) (ks : List Nat) :
    d.dealing.sinksAfter b c ks = ks := by
  cases d with
  | publish m =>
    refine Dealing.sinksAfter_of_none ?_ rfl
    refine Option.eq_none_iff_forall_not_mem.mpr fun x confirms => ?_
    obtain ⟨_, -, same, own, -⟩ := Dealing.confirming?_eq_some.mp confirms
    cases same
    exact other (congrArg some own)
  | register e k =>
    refine Dealing.sinksAfter_of_none rfl (if_neg fun own => ?_)
    exact other (congrArg some own)
  | select user e =>
    exact Dealing.sinksAfter_of_none (Dealing.confirming?_of_not_publish (by simp [Deed.dealing])) rfl
  | _ => exact Dealing.sinksAfter_of_none rfl rfl

/-- What a message makes of the sinks of its channel. -/
theorem sinks_publish {m : Sending} (here : b.channels[m.channel]? = some ch)
    (quiet : ch.isClosed = true → ch.sinks = []) :
    (Deed.change b (.publish m) ch).sinks = if (Deed.change b (.publish m) ch).isClosed then []
      else (Dealing.publish m).sinksAfter b m.channel ch.sinks := by
  have publishes := m.publishes b
  have joins : (Dealing.publish m).joining m.channel = [] := rfl
  rw [Dealing.sinksAfter, joins, List.append_nil, Dealing.confirming?, Dealing.mark?, if_pos rfl,
    Broker.tagOn_of_channel here]
  generalize (m.outcome b).broker = b' at publishes
  generalize (m.outcome b).value = value at publishes ⊢
  cases publishes with
  | refused closed =>
    have closed := Broker.isClosed_of_not_live (Bool.eq_false_iff.mp closed) here
    simp [Deed.change, closed, quiet closed]
  | rejected live ordered =>
    simp [Deed.change, ordered, Broker.isClosed_of_live live here, Broker.accepted?]
  | unknown live free absent =>
    simp [Deed.change, Broker.isClosed_of_live live here, free, absent,
      Channel.sinks_ended quiet]
  | accepted live free there =>
    have unshut := Broker.isClosed_of_live live here
    have stays : (ch.confirmed (b.nacks == 0) b.sinks).isClosed = false :=
      (Channel.isClosed_of_state (Channel.state_confirmed _ _)).trans unshut
    have change : Deed.change b (.publish m) ch = ch.confirmed (b.nacks == 0) b.sinks := by
      simp [Deed.change, unshut, free, there]
    rw [change, stays]
    cases next : ch.nextTag with
    | none => simp [Channel.confirmed, next, Broker.accepted?]
    | some tag => simp [Channel.confirmed, next, Broker.accepted?, Broker.send_kept]

/-- What a deed makes of the sinks of a channel. -/
theorem sinks_onto (here : b.channels[c]? = some ch) (quiet : ch.isClosed = true → ch.sinks = []) :
    (d.onto b c ch).sinks =
      if (d.onto b c ch).isClosed then [] else d.dealing.sinksAfter b c ch.sinks := by
  -- channels that close have no sinks, and others keep theirs as they are
  have ends : ∀ reason, (ch.ended reason).sinks =
      if (ch.ended reason).isClosed then [] else d.dealing.sinksAfter b c ch.sinks := fun reason => by
    rw [Channel.isClosed_ended, if_pos rfl, Channel.sinks_ended quiet]
  have stays : ∀ ch' : Channel, ch'.sinks = ch.sinks → ch'.state = ch.state →
      d.dealing.sinksAfter b c ch.sinks = ch.sinks →
      ch'.sinks = if ch'.isClosed then [] else d.dealing.sinksAfter b c ch.sinks := by
    intro ch' sinks state after
    rw [Channel.isClosed_of_state state, after, sinks]
    split
    · next closed => exact quiet closed
    · rfl
  by_cases about : d.channel? = some c
  · rw [onto_of_about about]
    cases d with
    | close e | terminate e => exact ends _
    | listen e =>
      refine stays _ ?_ (Channel.state_heard _) (Dealing.sinksAfter_of_none rfl rfl)
      rw [Deed.change, Channel.heard]
      split <;> rfl
    | select user e =>
      refine stays _ ?_ (Channel.state_selected _) (Dealing.sinksAfter_of_none
        (Dealing.confirming?_of_not_publish (by simp [Deed.dealing])) rfl)
      rw [Deed.change, Channel.selected]
      split <;> rfl
    | register e k =>
      cases about
      rw [Deed.change, Channel.isClosed_of_state (Channel.state_joined k), Channel.joined]
      split
      · next closed => exact quiet closed
      · simp [Deed.dealing, Dealing.sinksAfter, Dealing.joining, Dealing.confirming?, Dealing.mark?]
    | publish m =>
      cases about
      exact sinks_publish here quiet
    | hold e | letGo e => exact stays _ rfl rfl (Dealing.sinksAfter_of_none rfl rfl)
    | _ => cases about
  · have after := sinksAfter_of_ne (b := b) about ch.sinks
    by_cases loses : ∃ error, d = .disconnect error
    · obtain ⟨error, rfl⟩ := loses
      have onto : (Deed.disconnect error).onto b c ch =
          if c ∈ b.registry ∧ ch.isHeld = true then ch.ended (some error) else ch := rfl
      rw [onto]
      by_cases reached : c ∈ b.registry ∧ ch.isHeld = true
      · rw [if_pos reached]
        exact ends _
      · rw [if_neg reached]
        exact stays ch rfl rfl after
    · rw [onto_of_ne about fun error same => loses ⟨error, same⟩]
      exact stays ch rfl rfl after

/-- What a deed makes of all the sinks that are registered. -/
theorem sinksOn_apply (quiet : Quiet b) (d : Deed) (c : Nat) : (d.apply b).sinksOn c =
    if (d.apply b).isLive c then d.dealing.sinksAfter b c (b.sinksOn c) else [] := by
  cases here : b.channels[c]? with
  | some ch =>
    have there := channels_apply (d := d) here
    rw [Broker.sinksOn_of_channel there, Broker.isLive_eq there, Broker.sinksOn_of_channel here,
      sinks_onto here (quiet c ch here)]
    cases (d.onto b c ch).isClosed <;> rfl
  | none =>
    cases there : (d.apply b).channels[c]? with
    | none =>
      rw [Broker.sinksOn_of_absent there, Broker.isLive, there]
      rfl
    | some ch =>
      -- the channel was opened just now
      cases d with
      | openLast count =>
        obtain ⟨-, -, -, sinks⟩ := Broker.opened_openLast count here there
        rw [Broker.sinksOn_of_channel there, sinks, Broker.sinksOn_of_absent here]
        exact (ite_self _).symm
      | _ =>
        obtain ⟨x, found, -⟩ := exists_of_apply (by simp) there
        cases here.symm.trans found

/-- Channels that have closed have no sinks, whatever happens. -/
theorem quiet_perform (acts : List Act) : Quiet (fresh.perform acts).broker := by
  refine broker_perform_induct (P := Quiet) (fun c ch here => by cases here)
    (fun b d _ quiet c ch here closed => ?_) acts
  rw [← Broker.sinksOn_of_channel here, sinksOn_apply quiet, Broker.isLive_eq here, closed]
  rfl

/-- An act that leaves a channel open leaves on it the sinks that its dealing leaves. -/
theorem sinksOn_act (acts : List Act) (a : Act) (c : Nat) :
    ((fresh.perform acts).act a).broker.sinksOn c =
      if ((fresh.perform acts).act a).broker.isLive c then
        ((fresh.perform acts).dealing a).sinksAfter (fresh.perform acts).broker c
          ((fresh.perform acts).broker.sinksOn c)
      else [] := by
  have quiet := quiet_perform acts
  rw [broker_act, dealing_eq]
  cases (fresh.perform acts).deed? a with
  | some d => exact sinksOn_apply quiet d c
  | none =>
    rw [obey]
    cases here : (fresh.perform acts).broker.channels[c]? with
    | none =>
      rw [Broker.sinksOn_of_absent here, Broker.isLive, here]
      rfl
    | some ch =>
      rw [Broker.sinksOn_of_channel here, Broker.isLive_eq here]
      cases closed : ch.isClosed with
      | true => exact quiet c ch here closed
      | false => exact (Dealing.sinksAfter_of_none rfl rfl).symm

/-- A sink joins by being registered. -/
theorem count_joining (d : Dealing) (c k : Nat) :
    (d.joining c).count k = if d.registers c k then 1 else 0 := by
  cases d with
  | register e j =>
    simp only [Dealing.joining, Dealing.registers, Bool.and_eq_true, beq_iff_eq]
    by_cases own : e = c
    · by_cases same : j = k <;> simp [own, same]
    · simp [own]
  | _ => rfl

/-- A sink that somebody takes from stays registered as long as the channel is live. -/
theorem registrations_act (a : Act) (takes : (fresh.perform acts).broker.Takes k)
    (there : ∀ c, (fresh.perform acts).broker.registrations c k ≠ 0 →
      ∃ sink, (fresh.perform acts).broker.sinks[k]? = some sink) (c : Nat) :
    ((fresh.perform acts).act a).broker.registrations c k =
      if ((fresh.perform acts).act a).broker.isLive c then
        (fresh.perform acts).broker.registrations c k +
          if ((fresh.perform acts).dealing a).registers c k then 1 else 0
      else 0 := by
  have quiet := quiet_perform acts
  have quiet' := quiet_perform (acts ++ [a])
  rw [perform_concat] at quiet'
  have kept : (((fresh.perform acts).broker.sinksOn c).filter
      (Broker.isTaken (fresh.perform acts).broker.sinks)).count k =
      ((fresh.perform acts).broker.sinksOn c).count k :=
    Broker.count_filter_isTaken fun listens => by
      rw [Broker.count_sinksOn quiet] at listens
      obtain ⟨sink, found⟩ := there c listens
      rw [Broker.isTaken, found]
      exact (takes sink found).2
  rw [← Broker.count_sinksOn quiet', sinksOn_act]
  split
  · rw [Dealing.sinksAfter, List.count_append, count_joining]
    split
    · rw [kept, Broker.count_sinksOn quiet]
    · rw [Broker.count_sinksOn quiet]
  · rfl

/-- What an act means for those who take confirmations. -/
structure FansOut (s : Service) (a : Act) : Prop where
  /-- A confirmation goes to every sink once for each registration, as far as it has room. -/
  sends : ∀ c x, (s.dealing a).confirming? s.broker c = some x → ∀ k : Nat,
    (s.act a).broker.sinks[k]? = s.broker.sinks[k]?.map (Sink.given x ((s.broker.sinksOn c).count k))
  /-- Nothing else goes to a sink. -/
  silent : (∀ c, (s.dealing a).confirming? s.broker c = none) → Silent s.broker (s.act a).broker
  /-- Registrations last, unless the channel closes or nobody takes from the sink. -/
  registered : ∀ c, (s.act a).broker.sinksOn c = if (s.act a).broker.isLive c then
    (s.dealing a).sinksAfter s.broker c (s.broker.sinksOn c) else []

/-- Over every run each confirmation goes to the sinks on its channel. -/
theorem fansOut_perform (acts : List Act) (a : Act) : FansOut (fresh.perform acts) a where
  sends _ _ confirms := ((fresh.perform acts).deals a).sinks_of_confirming confirms
  silent := ((fresh.perform acts).deals a).silent_of_unconfirmed
  registered := sinksOn_act acts a

end Service

end Relay
