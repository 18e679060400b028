import Relay.Proofs.Changes

/-!
# The registry

Losing the connection closes the channels of the registry that somebody holds. The registry gains a channel
when it is opened, loses those that nobody holds whenever another one is opened, and is emptied when the
connection is lost; closing a channel or letting it go does not touch it. It covers what it has to cover all
the same: `Registered` says that every channel that is held and live is in it exactly once, and that there is
no such channel during an outage.
-/

namespace Relay

namespace Broker

/-- Every channel that is held and live is registered once, and there is none during an outage. -/
structure Registered (b : Broker) : Prop where
  once : ∀ c, b.isHeld c = true → b.isLive c = true → b.registry.count c = 1
  exist : ∀ c ∈ b.registry, c < b.channels.size
  away : b.available = false → ∀ c, b.isHeld c = true → b.isLive c = false

variable {b b' : Broker} {c : Nat} {ch : Channel}

/-- A new broker has no channels and is available. -/
theorem Registered.fresh : Registered fresh where
  once c held := by cases held
  exist c inside := by cases inside
  away out := by cases out

namespace Registered

/-- No channel is taken up again, and the registry stays as it is. -/
theorem of_fewer (registered : Registered b) (registry : b'.registry = b.registry)
    (available : b'.available = b.available) (longer : b.channels.size ≤ b'.channels.size)
    (fewer : ∀ c, b'.isHeld c = true → b'.isLive c = true → b.isHeld c = true ∧ b.isLive c = true) :
    Registered b' where
  once c held live := by
    obtain ⟨held, live⟩ := fewer c held live
    rw [registry, registered.once c held live]
  exist c inside := Nat.lt_of_lt_of_le (registered.exist c (registry ▸ inside)) longer
  away out c held := by
    rw [available] at out
    refine Bool.eq_false_iff.mpr fun live => ?_
    obtain ⟨held, live⟩ := fewer c held live
    rw [registered.away out c held] at live
    cases live

/-- Opening a channel registers it and prunes those that nobody holds. -/
theorem openChannel (registered : Registered b) : Registered b.openChannel.broker := by
  unfold Broker.openChannel
  split
  · next available =>
    have channels := channels_push b { number := b.nextNumber }
    have old : ∀ {c}, c ≠ b.channels.size →
        Broker.isHeld { b with channels := b.channels.push { number := b.nextNumber } } c = b.isHeld c ∧
          Broker.isLive { b with channels := b.channels.push { number := b.nextNumber } } c =
            b.isLive c := fun {c} other => by
      constructor
      · rw [Broker.isHeld, channels, if_neg other, Broker.isHeld]
      · exact isLive_of_channel (by rw [channels, if_neg other])
    refine ⟨fun c held live => ?_, fun c inside => ?_, fun out => ?_⟩
    · change (b.registry.filter b.isHeld ++ [b.channels.size]).count c = 1
      by_cases new : c = b.channels.size
      · have absent : c ∉ b.registry.filter b.isHeld := fun inside =>
          Nat.ne_of_lt (registered.exist c (List.mem_of_mem_filter inside)) new
        rw [List.count_append, List.count_eq_zero.mpr absent, new, List.count_singleton_self]
      · obtain ⟨sameHeld, sameLive⟩ := old new
        have held : b.isHeld c = true := sameHeld.symm.trans held
        have live : b.isLive c = true := sameLive.symm.trans live
        rw [List.count_append, List.count_filter held, registered.once c held live,
          List.count_eq_zero.mpr (by simpa using new)]
    · change c < (b.channels.push _).size
      rw [Array.size_push]
      rcases List.mem_append.mp inside with before | last
      · exact Nat.lt_succ_of_lt (registered.exist c (List.mem_of_mem_filter before))
      · rw [List.mem_singleton.mp last]
        exact Nat.lt_succ_self _
    · rw [show b.available = false from out] at available
      cases available
  · exact registered

end Registered

/-- Shutting a channel touches neither the registry nor the connection. -/
theorem link_shut (b : Broker) (c : Nat) (reason : CloseReason) :
    (b.shut c reason).registry = b.registry ∧ (b.shut c reason).available = b.available ∧
      (b.shut c reason).nextNumber = b.nextNumber := by
  rw [shut_eq]
  exact ⟨rfl, rfl, rfl⟩

end Broker

namespace Service

open Broker (Channel Exception Registered)

variable {b : Broker} {d : Deed}

/-- Whether a deed is about the connection. -/
def Deed.links : Deed → Bool
  | openLast _ | disconnect _ | restore => true
  | _ => false

/-- Only what is about the connection touches the registry and the number of the next channel. -/
theorem link_apply (unlinked : d.links = false) :
    (d.apply b).registry = b.registry ∧ (d.apply b).available = b.available ∧
      (d.apply b).nextNumber = b.nextNumber := by
  cases d with
  | openLast | disconnect | restore => cases unlinked
  | close c => rw [Deed.apply, Broker.broker_close]; exact Broker.link_shut b c none
  | terminate c reason => rw [Deed.apply, Broker.broker_terminate]; exact Broker.link_shut b c reason
  | declare exchange =>
    simp only [Deed.apply, Broker.declare]
    split <;> exact ⟨rfl, rfl, rfl⟩
  | listen c =>
    simp only [Deed.apply, Broker.notifyClose]
    split
    · exact ⟨rfl, rfl, rfl⟩
    · split <;> exact ⟨rfl, rfl, rfl⟩
  | select user c =>
    simp only [Deed.apply, Broker.confirmSelect]
    split
    · split <;> exact ⟨rfl, rfl, rfl⟩
    · exact ⟨rfl, rfl, rfl⟩
  | register c k =>
    simp only [Deed.apply, Broker.notifyPublish]
    split <;> exact ⟨rfl, rfl, rfl⟩
  -- a publish may shut its channel or confirm; neither is about the connection
  | publish m =>
    have publishes := m.publishes b
    change (m.outcome b).broker.registry = _ ∧ (m.outcome b).broker.available = _ ∧
      (m.outcome b).broker.nextNumber = _
    generalize (m.outcome b).broker = b' at publishes ⊢
    generalize (m.outcome b).value = value at publishes
    cases publishes with
    | refused | rejected => exact ⟨rfl, rfl, rfl⟩
    | unknown => exact Broker.link_shut b _ _
    | accepted =>
      rw [Broker.accept_eq]
      unfold Broker.confirm
      split
      · exact ⟨rfl, rfl, rfl⟩
      · split <;> exact ⟨rfl, rfl, rfl⟩
  | letGo c =>
    simp only [Deed.apply, Broker.letGo]
    split
    · exact ⟨rfl, rfl, rfl⟩
    · split <;> exact ⟨rfl, rfl, rfl⟩
  | receive k limit =>
    simp only [Deed.apply, Broker.receive]
    split <;> exact ⟨rfl, rfl, rfl⟩
  | hold | rejectNext | nackNext | failConfirmSelect | addSink | dropSink => exact ⟨rfl, rfl, rfl⟩

/-- Deeds that do not touch the registry keep it right, since none takes a channel over that nobody holds.
-/
theorem registered_of_unlinked (registered : Registered b) (unlinked : d.links = false)
    (held : ∀ c, d = .hold c → b.isHeld c = true) : Registered (d.apply b) := by
  have closed : ∀ count, d ≠ .openLast count := fun count same => by
    rw [same] at unlinked
    cases unlinked
  obtain ⟨registry, available, -⟩ := link_apply (b := b) unlinked
  refine registered.of_fewer registry available (Nat.le_of_eq (size_apply closed).symm)
    fun c now live => ?_
  obtain ⟨ch, there, -⟩ := Broker.isLive_iff.mp live
  obtain ⟨x, here, rfl⟩ := exists_of_apply closed there
  rw [Broker.isHeld_eq there] at now
  have before : d = .hold c → x.isHeld = true := fun own => by
    rw [← Broker.isHeld_eq here]
    exact held c own
  refine ⟨?_, ?_⟩
  · rw [Broker.isHeld_eq here]
    exact isHeld_of_onto before now
  · rw [Broker.isLive_eq there, Bool.not_eq_true'] at live
    rw [Broker.isLive_eq here, Bool.not_eq_true']
    exact Bool.eq_false_iff.mpr fun closed => by
      rw [isClosed_onto closed] at live
      cases live

/-- Losing the connection closes every channel that somebody holds, unless it had closed before. -/
theorem channels_disconnect (registered : Registered b) (error : Exception) {c : Nat} {ch : Channel}
    (here : b.channels[c]? = some ch) : (b.disconnect error).broker.channels[c]? =
      some (if ch.isHeld then ch.ended (some error) else ch) := by
  rw [Broker.channels_disconnect, here, Option.map_some]
  by_cases closed : ch.isClosed = true
  · rw [Broker.Channel.ended_of_closed closed, ite_self, ite_self]
  · by_cases held : ch.isHeld = true
    · -- a channel that is held and live is in the registry
      have once := registered.once c ((Broker.isHeld_eq here).trans held)
        ((Broker.isLive_eq here).trans (by rw [Bool.eq_false_iff.mpr closed]; rfl))
      have inside : c ∈ b.registry := List.count_pos_iff.mp (by rw [once]; exact Nat.one_pos)
      rw [if_pos ⟨inside, held⟩, if_pos held]
    · rw [if_neg fun both => held both.2, if_neg held]

/-- Losing the connection closes whatever the registry loses. -/
theorem registered_disconnect (registered : Registered b) (error : Exception) :
    Registered (b.disconnect error).broker := by
  have link : (b.disconnect error).broker.registry = [] :=
    Broker.shutAll_induct (P := fun b' => b'.registry = []) _ _ rfl fun b' c _ empty =>
      (Broker.link_shut b' c (some error)).1.trans empty
  have closed : ∀ c, (b.disconnect error).broker.isHeld c = true →
      (b.disconnect error).broker.isLive c = false := fun c held => by
    refine Bool.eq_false_iff.mpr fun live => ?_
    obtain ⟨ch, there, -⟩ := Broker.isLive_iff.mp live
    obtain ⟨x, here, -⟩ := exists_of_apply (d := .disconnect error) nofun there
    cases there.symm.trans (channels_disconnect registered error here)
    rw [Broker.isHeld_eq there] at held
    rw [Broker.isLive_eq there] at live
    by_cases before : x.isHeld = true
    · rw [if_pos before, Broker.Channel.isClosed_ended] at live
      cases live
    · rw [if_neg before] at held
      exact before held
  refine ⟨fun c held live => ?_, fun c inside => ?_, fun _ => closed⟩
  · rw [closed c held] at live
    cases live
  · rw [link] at inside
    cases inside

/-- Every deed keeps the registry as it should be. -/
theorem registered_apply (registered : Registered b)
    (held : ∀ c, d.channel? = some c → b.isHeld c = true) : Registered (d.apply b) := by
  cases d with
  | openLast count =>
    exact Broker.openLast_induct b count registered (fun _ before => before.openChannel)
      fun b' c _ before => registered_of_unlinked (d := .letGo c) before rfl nofun
  | disconnect error => exact registered_disconnect registered error
  | restore =>
    refine ⟨registered.once, registered.exist, fun out => ?_⟩
    cases out
  | hold c =>
    refine registered_of_unlinked registered rfl fun e same => ?_
    cases same
    exact held c rfl
  | _ => exact registered_of_unlinked registered rfl nofun

/-- The registry is right over every run. -/
theorem registered_perform (acts : List Act) : Registered (fresh.perform acts).broker :=
  broker_perform_induct .fresh (fun _ _ held before => registered_apply before held) acts

/-! ## Outages -/

/-- What a deed makes of the connection. -/
def Deed.switch? : Deed → Option Bool
  | disconnect _ => some false
  | restore => some true
  | _ => none

/-- Whether the connection is there after a run: the last disconnect or restore decides. -/
def connected (acts : List Act) : Bool :=
  (gather (fun s a => (s.deed? a).bind Deed.switch?) fresh acts).getLast?.getD true

/-- A deed switches the connection on or off, or leaves it. -/
theorem available_apply : (d.apply b).available = d.switch?.getD b.available := by
  cases d with
  | openLast count =>
    refine Broker.openLast_induct (P := fun b' => b'.available = b.available) b count rfl
      (fun b' same => ?_) fun b' c _ same => ?_
    · rw [← same]
      unfold Broker.openChannel
      split <;> rfl
    · exact (link_apply (d := .letGo c) rfl).2.1.trans same
  | disconnect error =>
    exact Broker.shutAll_induct (P := fun b' => b'.available = false) _ _ rfl fun b' c _ out =>
      (Broker.link_shut b' c (some error)).2.1.trans out
  | restore => rfl
  | _ => exact (link_apply rfl).2.1

/-- The connection is as the last switch left it. -/
theorem available_perform (acts : List Act) :
    (fresh.perform acts).broker.available = connected acts := by
  induction acts using List.reverseRecOn with
  | nil => rfl
  | append_singleton acts a ih =>
    rw [connected] at ih
    rw [perform_concat, broker_act, connected, gather_concat]
    cases (fresh.perform acts).deed? a with
    | none =>
      rw [obey, ih, Option.bind_none, Option.toList_none, List.append_nil]
    | some d =>
      rw [obey, available_apply, ih, Option.bind_some]
      cases d.switch? <;> simp

/-- Nothing comes of opening channels during an outage. -/
theorem step_openChannel_of_unavailable {s : Service} (out : s.broker.available = false) (count : Nat) :
    s.step (.openChannel count) = (s, .refused .unavailable) := by
  have refused : s.broker.openLast count = ⟨.error .unavailable, s.broker, []⟩ := by
    simp [Broker.openLast, Broker.openChannel, out]
  simp only [step, openHandle, refused]
  rfl

/-- For everything that can happen: who claims a channel holds it, and every channel that is held and live is
registered exactly once. From a disconnect to the next restore no channel that is held is live, and opening
channels fails with reply code 320 and changes nothing. A disconnect closes exactly the channels that are
held and live, for its own reason, and leaves all others as they are; a restore leaves all as they are. -/
theorem registry_covers_live_channels (acts : List Act) :
    let s := fresh.perform acts
    (∀ c x, s.Claims c x → s.broker.isHeld c = true) ∧
    (∀ c, s.broker.isHeld c = true → s.broker.isLive c = true → s.broker.registry.count c = 1) ∧
    (connected acts = false →
      (∀ c, s.broker.isHeld c = true → s.broker.isLive c = false) ∧
      (∀ count, s.step (.openChannel count) = (s, .refused .unavailable)) ∧
      Exception.unavailable.code = 320) ∧
    (∀ (error : Exception) (c : Nat) (ch : Channel), s.broker.channels[c]? = some ch →
      (s.step (.disconnect error)).1.broker.channels[c]? =
        some (if ch.isHeld && !ch.isClosed then
          { ch with state := .closed (some error), listeners := [], sinks := [] }
        else ch)) ∧
    (s.step .restore).1.broker.channels = s.broker.channels := by
  intro s
  have registered : Registered s.broker := registered_perform acts
  refine ⟨fun c x => isHeld_of_claims (hearing_perform acts) (manned_perform acts), registered.once,
    fun out => ?_, fun error c ch here => ?_, rfl⟩
  · rw [← available_perform] at out
    exact ⟨registered.away out, step_openChannel_of_unavailable out, rfl⟩
  · refine (channels_disconnect registered error here).trans (congrArg some ?_)
    cases closed : ch.isClosed with
    | true => rw [Channel.ended_of_closed closed, ite_self, Bool.not_true, Bool.and_false]; rfl
    | false => rw [Channel.ended_of_live closed, Bool.not_false, Bool.and_true]

/-- Several channels are opened, two of them are kept, and one of those is terminated. -/
def twoKept : List Act :=
  [.command (.openChannel 3) rfl, .command (.openChannel 4) rfl, .command (.terminate 0 none) rfl]

/-- The channel that is still live is registered, a disconnect closes it, and no other one is opened. -/
theorem outage_closes_kept_channel :
    let away := twoKept ++ [.command (.disconnect ⟨320, "gone"⟩) rfl]
    (fresh.perform twoKept).Claims 6 (.inl 1) ∧ (fresh.perform twoKept).broker.isLive 6 = true ∧
      (fresh.perform twoKept).broker.registry.count 6 = 1 ∧
      ((fresh.perform twoKept).step (.disconnect ⟨320, "gone"⟩)).1.broker.channels[6]? =
        some { number := 7, state := .closed (some ⟨320, "gone"⟩) } ∧
      connected away = false ∧ (fresh.perform away).broker.isHeld 6 = true ∧
      (fresh.perform away).broker.isLive 6 = false ∧
      (fresh.perform away).step (.openChannel 1) = (fresh.perform away, .refused .unavailable) := by
  intro away
  have claims : (fresh.perform twoKept).Claims 6 (.inl 1) := by
    change (fresh.perform twoKept).heldChannel? 1 = some 6
    decide +kernel
  have live : (fresh.perform twoKept).broker.isLive 6 = true := by decide +kernel
  have out : connected (twoKept ++ [.command (.disconnect ⟨320, "gone"⟩) rfl]) = false := by
    decide +kernel
  have there : (fresh.perform twoKept).broker.channels[6]? = some { number := 7 } := by decide +kernel
  obtain ⟨holds, once, -, cut, -⟩ := registry_covers_live_channels twoKept
  obtain ⟨closed, refused, -⟩ := (registry_covers_live_channels away).2.2.1 out
  have held : (fresh.perform away).broker.isHeld 6 = true := by
    decide +kernel
  exact ⟨claims, live, once 6 (holds 6 _ claims) live, cut _ 6 _ there, out, held, closed 6 held,
    refused 1⟩

end Service

end Relay
