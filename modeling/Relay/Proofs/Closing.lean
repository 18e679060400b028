import Relay.Proofs.Registry

/-!
# Closing channels

A channel is closed by a client, by the broker, by losing the connection, or by a message to an exchange that
nobody declared. `closings` lists the reasons that a run gave for closing a channel, and the first one is the
one that counts: `stateLeft` is the state that it leaves the channel in. Whoever listens to a channel has a
notice in a table; `Heard` says of that table that every notice tells what became of its channel, and of every
channel that those registered with it are the notices that still wait.
-/

namespace Relay

namespace Broker

/-- What somebody who listens to a channel has to learn. -/
def Channel.verdict (ch : Channel) : Notice :=
  match ch.state with
  | .closed reason => .told reason
  | .live => if ch.isHeld then .waiting else .lost

/-- Notices tell what became of the channels that they were registered with: `audience` lists these
channels, in order of the notices. -/
structure Heard (b : Broker) (audience : List Nat) : Prop where
  size : b.notices.size = audience.length
  exist : ∀ c ∈ audience, c < b.channels.size
  verdict : ∀ (n c : Nat) (ch : Channel), audience[n]? = some c → b.channels[c]? = some ch →
    b.notices[n]? = some ch.verdict
  listeners : ∀ (n c : Nat) (ch : Channel), b.channels[c]? = some ch →
    (n ∈ ch.listeners ↔ audience[n]? = some c ∧ ch.verdict = .waiting)

variable {b b' : Broker} {c d n : Nat} {ch : Channel} {f : Channel → Channel} {audience : List Nat}

/-- What a channel says to those who listen is told by its state and its holders. -/
theorem Channel.verdict_of_same {ch' : Channel} (state : ch'.state = ch.state)
    (held : ch'.isHeld = ch.isHeld) : ch'.verdict = ch.verdict := by
  rw [verdict, state, held, verdict]

/-- Another listener changes nothing about that. -/
@[simp] theorem Channel.verdict_heard (n : Nat) : (ch.heard n).verdict = ch.verdict :=
  verdict_of_same (state_heard n) (isHeld_of_holders (holders_heard n))

/-- Nor does confirm mode. -/
@[simp] theorem Channel.verdict_selected (failure : Option Exception) :
    (ch.selected failure).verdict = ch.verdict :=
  verdict_of_same (state_selected failure) (isHeld_of_holders (holders_selected failure))

/-- Nor does a sink. -/
@[simp] theorem Channel.verdict_joined (k : Nat) : (ch.joined k).verdict = ch.verdict :=
  verdict_of_same (state_joined k) (isHeld_of_holders (holders_joined k))

/-- Nor does a confirmation. -/
@[simp] theorem Channel.verdict_confirmed (ack : Bool) (sinks : Array Sink) :
    (ch.confirmed ack sinks).verdict = ch.verdict :=
  verdict_of_same (state_confirmed ack sinks) (isHeld_of_holders (holders_confirmed ack sinks))

/-- A live channel has those who listen wait, unless nobody holds it. -/
theorem Channel.verdict_of_live (live : ch.isClosed = false) :
    ch.verdict = if ch.isHeld then .waiting else .lost := by
  unfold isClosed at live
  unfold verdict
  cases state : ch.state with
  | live => rfl
  | closed r => rw [state] at live; cases live

/-- Those who listen wait just for live channels that somebody holds. -/
theorem Channel.verdict_eq_waiting : ch.verdict = .waiting ↔ ch.state = .live ∧ ch.isHeld = true := by
  unfold verdict
  cases ch.state with
  | live => cases ch.isHeld <;> simp
  | closed r => simp

/-- A new notice is added to those that listen as long as there is something to wait for. -/
theorem Channel.mem_listeners_heard (held : ch.isHeld = true) {k : Nat} :
    n ∈ (ch.heard k).listeners ↔ n ∈ ch.listeners ∨ n = k ∧ ch.verdict = .waiting := by
  rw [heard]
  cases closed : ch.isClosed with
  | true =>
    have settled : ch.verdict ≠ .waiting := fun waits => by
      rw [isClosed, (verdict_eq_waiting.mp waits).1] at closed
      cases closed
    simp [settled]
  | false =>
    have waits : ch.verdict = .waiting := by rw [verdict_of_live closed, if_pos held]
    simp [waits]

/-- An entry of a list with one more at the end. -/
theorem getElem?_concat {α : Type} {xs : List α} {x y : α} :
    (xs ++ [x])[n]? = some y ↔ xs[n]? = some y ∨ n = xs.length ∧ y = x := by
  rw [List.getElem?_append]
  grind

/-- A new notice comes after those that are there. -/
theorem notifyClose_fst (b : Broker) (c : Nat) : (b.notifyClose c).1 = b.notices.size := by
  cases live : b.isLive c with
  | true => rw [notifyClose_of_live live]
  | false =>
    obtain ⟨x, -, same⟩ := notifyClose_of_not_live live
    rw [same]

/-- A new notice tells at once what there is to tell. -/
theorem notices_notifyClose (here : b.channels[c]? = some ch) (held : ch.isHeld = true) :
    (b.notifyClose c).2.notices = b.notices.push ch.verdict := by
  unfold notifyClose Channel.verdict
  rw [here, held]
  cases state : ch.state with
  | closed reason => simp only [state]
  | live =>
    simp only [state]
    rfl

namespace Heard

/-- Before anything happens there is nobody to hear. -/
theorem fresh : Heard fresh [] where
  size := rfl
  exist c inside := by cases inside
  verdict n c ch inside := by cases inside
  listeners n c ch here := by cases here

/-- One channel changes, and those who listen to it are told so. -/
theorem write (heard : Heard b audience) (here : b.channels[c]? = some ch)
    (channels : b'.channels = b.channels.modify c f) (size : b'.notices.size = b.notices.size)
    (own : ∀ n : Nat, audience[n]? = some c → b'.notices[n]? = some (f ch).verdict)
    (others : ∀ n : Nat, audience[n]? ≠ some c → b'.notices[n]? = b.notices[n]?)
    (listeners : ∀ n : Nat, n ∈ (f ch).listeners ↔ audience[n]? = some c ∧ (f ch).verdict = .waiting) :
    Heard b' audience where
  size := size.trans heard.size
  exist d inside := by
    rw [channels, Array.size_modify]
    exact heard.exist d inside
  verdict n d x listens there := by
    rw [channels, Array.getElem?_modify] at there
    by_cases same : c = d
    · subst same
      rw [if_pos rfl, here] at there
      cases there
      exact own n listens
    · rw [if_neg same] at there
      rw [others n fun both => same (Option.some.inj (both.symm.trans listens))]
      exact heard.verdict n d x listens there
  listeners n d x there := by
    rw [channels, Array.getElem?_modify] at there
    by_cases same : c = d
    · subst same
      rw [if_pos rfl, here] at there
      cases there
      exact listeners n
    · rw [if_neg same] at there
      exact heard.listeners n d x there

/-- One channel changes, but nothing that those who listen to it could learn. -/
theorem modify (heard : Heard b audience) (channels : b'.channels = b.channels.modify c f)
    (notices : b'.notices = b.notices)
    (verdict : ∀ ch, b.channels[c]? = some ch → (f ch).verdict = ch.verdict)
    (listeners : ∀ ch, b.channels[c]? = some ch → (f ch).listeners = ch.listeners) :
    Heard b' audience := by
  cases here : b.channels[c]? with
  | none =>
    have same : b.channels = b.channels.modify c f :=
      modify_of_same fun ch there => nomatch here.symm.trans there
    rw [← same] at channels
    exact ⟨by rw [notices, heard.size], by rw [channels]; exact heard.exist,
      by rw [channels, notices]; exact heard.verdict, by rw [channels]; exact heard.listeners⟩
  | some ch =>
    refine heard.write here channels (by rw [notices]) (fun n listens => ?_) (fun n _ => by rw [notices])
      fun n => ?_
    · rw [notices, verdict ch here]
      exact heard.verdict n c ch listens here
    · rw [listeners ch here, verdict ch here]
      exact heard.listeners n c ch here

/-- Neither channels nor notices change. -/
theorem of_same (heard : Heard b audience) (channels : b'.channels = b.channels)
    (notices : b'.notices = b.notices) : Heard b' audience :=
  ⟨by rw [notices, heard.size], by rw [channels]; exact heard.exist,
    by rw [channels, notices]; exact heard.verdict, by rw [channels]; exact heard.listeners⟩

/-- Those who listen to a channel are told of its end. -/
theorem tell {x : Notice} (heard : Heard b audience) (here : b.channels[c]? = some ch)
    (channels : b'.channels = b.channels.modify c f)
    (notices : b'.notices = (b.setNotices ch.listeners x).notices) (told : x ≠ .waiting)
    (deaf : (f ch).listeners = [])
    (verdict : ch.verdict = .waiting → (f ch).verdict = x)
    (settled : ch.verdict ≠ .waiting → (f ch).verdict = ch.verdict) : Heard b' audience := by
  have lookup : ∀ n : Nat, b'.notices[n]? = if n ∈ ch.listeners ∧ n < b.notices.size then some x
      else b.notices[n]? := fun n => by rw [notices, notices_setNotices]
  refine heard.write here channels (by rw [notices, notices_size_setNotices]) (fun n listens => ?_)
    (fun n other => ?_) fun n => ?_
  · rw [lookup]
    by_cases waits : ch.verdict = .waiting
    · have inBounds : n < b.notices.size := by
        rw [heard.size]
        exact (List.getElem?_eq_some_iff.mp listens).1
      rw [if_pos ⟨(heard.listeners n c ch here).mpr ⟨listens, waits⟩, inBounds⟩, verdict waits]
    · rw [if_neg fun both => waits ((heard.listeners n c ch here).mp both.1).2, settled waits]
      exact heard.verdict n c ch listens here
  · rw [lookup, if_neg fun both => other ((heard.listeners n c ch here).mp both.1).1]
  · rw [deaf]
    refine ⟨fun inside => absurd inside List.not_mem_nil, fun both => ?_⟩
    by_cases waits : ch.verdict = .waiting
    · exact absurd ((verdict waits).symm.trans both.2) told
    · exact absurd ((settled waits).symm.trans both.2) waits

/-- When a channel is shut its listeners hear the reason. -/
theorem shut (heard : Heard b audience) (held : b.isHeld c = true) (reason : CloseReason) :
    Heard (b.shut c reason) audience := by
  by_cases live : b.isLive c = true
  · obtain ⟨ch, here, state⟩ := isLive_iff.mp live
    have unshut := isClosed_of_live live here
    have notices : (b.shut c reason).notices = (b.setNotices ch.listeners (.told reason)).notices := by
      simp only [Broker.shut, here, unshut, Bool.false_eq_true, if_false]
      rfl
    have ended : ch.ended reason = _ := Channel.ended_of_live unshut
    rw [isHeld_eq here] at held
    refine heard.tell here (channels_shut b c reason) notices (by simp) (by rw [ended])
      (fun _ => by rw [ended]; rfl) fun settled => ?_
    exact absurd (Channel.verdict_eq_waiting.mpr ⟨state, held⟩) settled
  · rw [shut_of_not_live live]
    exact heard

/-- When the last holder lets a live channel go its listeners hear that it is lost. -/
theorem letGo (heard : Heard b audience) (c : Nat) : Heard (b.letGo c) audience := by
  cases here : b.channels[c]? with
  | none =>
    simp only [Broker.letGo, here]
    exact heard
  | some ch =>
    -- only the last holder's leave is told; before it the channel is held afterwards as well
    by_cases last : ch.holders ≤ 1
    · have notices : (b.letGo c).notices = (b.setNotices ch.listeners .lost).notices := by
        rw [letGo_eq here, if_pos last]
        rfl
      have vacant : ch.left.isHeld = false := by
        rw [Channel.isHeld, Channel.left, Nat.sub_eq_zero_of_le last]
        rfl
      refine heard.tell here (channels_letGo b c) notices (by simp) (if_pos last) (fun waits => ?_)
        fun settled => ?_
      · obtain ⟨live, -⟩ := Channel.verdict_eq_waiting.mp waits
        simp only [Channel.verdict, Channel.state_left, live, vacant]
        rfl
      · unfold Channel.verdict at settled ⊢
        rw [Channel.state_left, vacant]
        cases state : ch.state with
        | closed r => rfl
        | live =>
          simp only [state] at settled
          split at settled
          · exact absurd rfl settled
          · next unheld => simp [unheld]
    · have notices : (b.letGo c).notices = b.notices := by
        rw [letGo_eq here, if_neg last]
        rfl
      have many := Nat.not_le.mp last
      refine heard.modify (channels_letGo b c) notices (fun x there => ?_) fun x there => ?_
      · cases here.symm.trans there
        refine Channel.verdict_of_same Channel.state_left ?_
        simp only [Channel.isHeld, Channel.left]
        rw [bne_iff_ne.mpr (by omega), bne_iff_ne.mpr (by omega)]
      · cases here.symm.trans there
        exact if_neg last

/-- To a new channel nobody listens yet. -/
theorem openChannel (heard : Heard b audience) : Heard b.openChannel.broker audience := by
  unfold Broker.openChannel
  split
  · have channels := channels_push b { number := b.nextNumber }
    have old : ∀ {n d : Nat}, audience[n]? = some d → d ≠ b.channels.size := fun {n d} listens =>
      Nat.ne_of_lt (heard.exist d (List.mem_of_getElem? listens))
    refine ⟨heard.size, fun d inside => ?_, fun n d x listens there => ?_, fun n d x there => ?_⟩
    · exact Nat.lt_of_lt_of_le (heard.exist d inside) (by simp)
    · have there := (channels d).symm.trans there
      rw [if_neg (old listens)] at there
      exact heard.verdict n d x listens there
    · have there := (channels d).symm.trans there
      split at there
      · next new =>
        cases there
        exact ⟨fun inside => absurd inside List.not_mem_nil, fun both => absurd new (old both.1)⟩
      · exact heard.listeners n d x there
  · exact heard

/-- A notice that is registered with a channel is added to those that are there. -/
theorem notifyClose (heard : Heard b audience) (held : b.isHeld c = true) :
    Heard (b.notifyClose c).2 (audience ++ [c]) := by
  cases here : b.channels[c]? with
  | none =>
    rw [Broker.isHeld, here] at held
    cases held
  | some ch =>
    rw [isHeld_eq here] at held
    have notices := notices_notifyClose here held
    have lookup : ∀ n : Nat, (b.notifyClose c).2.notices[n]? =
        if n = audience.length then some ch.verdict else b.notices[n]? := fun n => by
      rw [notices, Array.getElem?_push, heard.size]
    -- the table and the audience both grow by one entry, which is the new notice in each
    have listens : ∀ {n d : Nat}, (audience ++ [c])[n]? = some d ↔
        audience[n]? = some d ∨ n = audience.length ∧ d = c := getElem?_concat
    refine ⟨?_, fun d inside => ?_, fun n d x listening there => ?_, fun n d x there => ?_⟩
    · rw [notices, Array.size_push, heard.size, List.length_append, List.length_singleton]
    · rw [channels_notifyClose, Array.size_modify]
      rcases List.mem_append.mp inside with before | last
      · exact heard.exist d before
      · rw [List.mem_singleton.mp last]
        exact (Array.getElem?_eq_some_iff.mp here).1
    · rw [channels_notifyClose, Array.getElem?_modify] at there
      have verdict : ∀ y, b.channels[d]? = some y → x.verdict = y.verdict := fun y was => by
        rw [was] at there
        split at there
        · cases there
          exact Channel.verdict_heard _
        · cases there
          rfl
      rw [lookup]
      rcases listens.mp listening with before | ⟨new, rfl⟩
      · obtain ⟨inBounds, -⟩ := List.getElem?_eq_some_iff.mp before
        have was := Array.getElem?_eq_getElem (heard.exist d (List.mem_of_getElem? before))
        rw [if_neg (Nat.ne_of_lt inBounds), verdict _ was]
        exact heard.verdict n d _ before was
      · rw [if_pos new, verdict ch here]
    · rw [channels_notifyClose, Array.getElem?_modify] at there
      by_cases own : c = d
      · subst own
        rw [if_pos rfl, here] at there
        cases there
        rw [Channel.mem_listeners_heard held, heard.listeners n c ch here, Channel.verdict_heard,
          listens, heard.size, or_and_right]
        simp
      · rw [if_neg own] at there
        rw [heard.listeners n d x there, listens]
        have other : ¬(n = audience.length ∧ d = c) := fun both => own both.2.symm
        simp [other]

end Heard

/-- Shutting a channel leaves all channels with those who hold them. -/
theorem isHeld_shut (b : Broker) (c d : Nat) (reason : CloseReason) :
    (b.shut c reason).isHeld d = b.isHeld d := by
  simp only [isHeld, channels_shut, Array.getElem?_modify]
  cases b.channels[d]? with
  | none => simp
  | some ch => by_cases own : c = d <;> simp [own, Channel.isHeld]

/-- Losing the connection tells those who listen to the channels that it closes. -/
theorem Heard.disconnect (heard : Heard b audience) (error : Exception) :
    Heard (b.disconnect error).broker audience := by
  -- those who hold channels stay while one channel after the other is closed
  refine (shutAll_induct (P := fun b' => Heard b' audience ∧ ∀ d, b'.isHeld d = b.isHeld d)
    (b.registry.filter b.isHeld) { b with available := false, registry := [] }
    ⟨heard.of_same rfl rfl, fun _ => rfl⟩ fun b' c inside before => ?_).1
  refine ⟨before.1.shut ?_ _, fun d => (isHeld_shut b' c d _).trans (before.2 d)⟩
  rw [before.2 c]
  exact (List.mem_filter.mp inside).2

/-- A confirmation concerns no notice. -/
theorem Heard.confirm (heard : Heard b audience) (c : Nat) (ack : Bool) :
    Heard (b.confirm c ack).broker audience := by
  have notices : (b.confirm c ack).broker.notices = b.notices := by
    unfold Broker.confirm
    split
    · rfl
    · split <;> rfl
  exact heard.modify (channels_of_confirm b c ack) notices (fun _ _ => Channel.verdict_confirmed _ _)
    fun _ _ => Channel.listeners_confirmed _ _

end Broker

namespace Service

open Broker (Channel ChannelState CloseReason Exception Heard Notice Registered)

variable {s : Service} {b : Broker} {d : Deed} {c : Nat} {ch : Channel} {cs : List Nat}

/-! ## Notices -/

/-- The channel that a deed registers a new notice with. -/
def Deed.hears? : Deed → Option Nat
  | listen c => some c
  | _ => none

/-- A publish concerns no notice unless it shuts its channel. -/
theorem heard_publish (heard : Heard b cs) {m : Sending}
    (held : b.isHeld m.channel = true) : Heard (m.outcome b).broker cs := by
  have publishes := m.publishes b
  generalize (m.outcome b).broker = b' at publishes ⊢
  generalize (m.outcome b).value = value at publishes
  cases publishes with
  | refused => exact heard
  | rejected => exact heard.of_same rfl rfl
  | unknown => exact heard.shut held _
  | accepted =>
    rw [Broker.accept_eq]
    refine Heard.confirm ?_ _ _
    exact heard.of_same rfl rfl

/-- Every deed keeps notices as they should be. -/
theorem heard_apply (heard : Heard b cs)
    (held : ∀ c, d.channel? = some c → b.isHeld c = true) :
    Heard (d.apply b) (cs ++ d.hears?.toList) := by
  have quiet : ∀ {b' : Broker}, Heard b' cs → Heard b' (cs ++ (none : Option Nat).toList) :=
    fun same => by rwa [Option.toList_none, List.append_nil]
  cases d with
  | listen c => exact heard.notifyClose (held c rfl)
  | declare exchange =>
    refine quiet ?_
    simp only [Deed.apply, Broker.declare]
    split
    · exact heard
    · exact heard.of_same rfl rfl
  | openLast count =>
    exact quiet (Broker.openLast_induct (P := (Heard · cs)) b count heard
      (fun _ before => before.openChannel) fun _ c _ before => before.letGo c)
  | disconnect error => exact quiet (heard.disconnect error)
  | close c =>
    rw [Deed.apply, Broker.broker_close]
    exact quiet (heard.shut (held c rfl) none)
  | terminate c reason =>
    rw [Deed.apply, Broker.broker_terminate]
    exact quiet (heard.shut (held c rfl) reason)
  | publish m => exact quiet (heard_publish heard (held _ rfl))
  | letGo c => exact quiet (heard.letGo c)
  -- who takes over a channel finds it held, so nobody who listens is told anything
  | hold c =>
    refine quiet (heard.modify (c := c) (f := .kept) rfl rfl (fun ch here => ?_) fun _ _ => rfl)
    have before := held c rfl
    rw [Broker.isHeld_eq here] at before
    exact Channel.verdict_of_same rfl ((bne_iff_ne.mpr (Nat.succ_ne_zero _)).trans before.symm)
  | select user c =>
    have notices : (b.confirmSelect c).2.notices = b.notices := by
      unfold Broker.confirmSelect
      split
      · split <;> rfl
      · rfl
    exact quiet (heard.modify (Broker.channels_confirmSelect b c) notices
      (fun _ _ => Channel.verdict_selected _) fun _ _ => Channel.listeners_selected _)
  | register c k =>
    have notices : (b.notifyPublish c k).notices = b.notices := by
      unfold Broker.notifyPublish
      split <;> rfl
    exact quiet (heard.modify (Broker.channels_notifyPublish b c k) notices
      (fun _ _ => Channel.verdict_joined _) fun _ _ => Channel.listeners_joined _)
  | receive k limit =>
    refine quiet ?_
    simp only [Deed.apply, Broker.receive]
    split
    · exact heard
    · exact heard.of_same rfl rfl
  | restore | rejectNext | nackNext | failConfirmSelect | addSink | dropSink =>
    exact quiet (heard.of_same rfl rfl)

/-- The channels that notices were registered with, in order of the notices. -/
def audience (acts : List Act) : List Nat :=
  gather (fun s a => (s.deed? a).bind Deed.hears?) fresh acts

/-- Over every run every notice tells what became of its channel. -/
theorem heard_perform (acts : List Act) :
    Heard (fresh.perform acts).broker (audience acts) := by
  induction acts using List.reverseRecOn with
  | nil => exact .fresh
  | append_singleton acts a ih =>
    rw [perform_concat, broker_act, audience, gather_concat, ← audience]
    cases asks : (fresh.perform acts).deed? a with
    | none =>
      rw [Option.bind_none, Option.toList_none, List.append_nil]
      exact ih
    | some d =>
      exact heard_apply ih fun c about =>
        held_of_deed (hearing_perform acts) (manned_perform acts) asks about

/-! ## What closes a channel -/

/-- The reason for which a deed closes a channel, unless that had closed before. -/
def Deed.closing? (b : Broker) (c : Nat) : Deed → Option CloseReason
  | close e => if e = c then some none else none
  | terminate e reason => if e = c then some reason else none
  | disconnect error => if b.isHeld c then some (some error) else none
  | publish m =>
    if m.channel = c ∧ b.rejections.isEmpty ∧ b.hasExchange m.exchange = false then
      some (some (.unknownExchange m.exchange))
    else none
  | _ => none

/-- A deed gives no other channel a reason to close, unless the connection is lost. -/
theorem closing?_of_ne (other : d.channel? ≠ some c) (linked : ∀ error, d ≠ .disconnect error) :
    d.closing? b c = none := by
  have apart : ∀ {e : Nat}, some e ≠ some c → e ≠ c := fun other same => other (congrArg some same)
  cases d with
  | close | terminate => exact if_neg (apart other)
  | publish m => exact if_neg fun both => apart other both.1
  | disconnect error => exact absurd rfl (linked error)
  | _ => rfl

/-- A deed leaves the channel that it is about in the state that its reason brings, if it has one. -/
theorem state_change (about : d.channel? = some c) :
    (d.change b ch).state = (d.closing? b c).elim ch.state fun reason => (ch.ended reason).state := by
  cases d with
  | close | terminate =>
    cases about
    rw [Deed.closing?, if_pos rfl]
    rfl
  | listen => exact Channel.state_heard _
  | select => exact Channel.state_selected _
  | register => exact Channel.state_joined _
  | hold | letGo => rfl
  | publish m =>
    cases about
    simp only [Deed.change, Deed.closing?, true_and]
    cases closed : ch.isClosed with
    | true =>
      rw [Bool.true_or, if_pos rfl]
      split
      · exact congrArg _ (Channel.ended_of_closed closed).symm
      · rfl
    | false =>
      cases b.rejections.isEmpty with
      | false => simp
      | true => cases b.hasExchange m.exchange <;> simp
  | _ => cases about

/-- The state of a channel after a deed. -/
theorem state_apply (registered : Registered b) (here : b.channels[c]? = some ch) :
    (d.apply b).channels[c]?.map Channel.state =
      some ((d.closing? b c).elim ch.state fun reason => (ch.ended reason).state) := by
  by_cases about : d.channel? = some c
  · rw [channels_apply here, Option.map_some, onto_of_about about, state_change about]
  · by_cases links : ∃ error, d = .disconnect error
    · obtain ⟨error, rfl⟩ := links
      refine (congrArg _ (channels_disconnect registered error here)).trans ?_
      rw [Deed.closing?, Broker.isHeld_eq here, Option.map_some]
      split <;> rfl
    · have linked : ∀ error, d ≠ .disconnect error := fun error same => links ⟨error, same⟩
      rw [channels_apply here, Option.map_some, onto_of_ne about linked, closing?_of_ne about linked]
      rfl

/-- What is not there cannot be closed. -/
theorem closing?_of_absent (absent : b.channels[c]? = none)
    (held : ∀ c, d.channel? = some c → b.isHeld c = true) : d.closing? b c = none := by
  have unheld : b.isHeld c = false := by rw [Broker.isHeld, absent]
  by_cases links : ∃ error, d = .disconnect error
  · obtain ⟨error, rfl⟩ := links
    rw [Deed.closing?, unheld]
    rfl
  · refine closing?_of_ne (fun about => ?_) fun error same => links ⟨error, same⟩
    rw [held c about] at unheld
    cases unheld

/-- The reasons for which a run closed a channel, in order; all but the first came too late. -/
def closings (acts : List Act) (c : Nat) : List CloseReason :=
  gather (fun s a => (s.deed? a).bind (Deed.closing? s.broker c)) fresh acts

/-- The state that a channel is left in by a run: the first reason to close it counts. -/
def stateLeft (acts : List Act) (c : Nat) : ChannelState :=
  (closings acts c).head?.elim .live .closed

/-- The last act adds its reason, if it has one. -/
theorem closings_concat (acts : List Act) (a : Act) (c : Nat) : closings (acts ++ [a]) c =
    closings acts c ++
      (((fresh.perform acts).deed? a).bind (Deed.closing? (fresh.perform acts).broker c)).toList :=
  gather_concat _ fresh acts a

/-- A channel that stands as reasons to close it left it takes up the next one, unless it came too late. -/
theorem state_next {reasons : List CloseReason} (state : ch.state = reasons.head?.elim .live .closed)
    (next : Option CloseReason) : (next.elim ch.state fun reason => (ch.ended reason).state) =
      (reasons ++ next.toList).head?.elim .live .closed := by
  cases next with
  | none => rw [Option.toList_none, List.append_nil, Option.elim_none, state]
  | some reason =>
    cases reasons with
    | nil =>
      have live : ch.isClosed = false := by rw [Channel.isClosed, state]; rfl
      rw [Option.elim_some, Channel.ended_of_live live]
      rfl
    | cons first later =>
      have closed : ch.isClosed = true := by rw [Channel.isClosed, state]; rfl
      rw [Option.elim_some, Channel.ended_of_closed closed, state]
      rfl

/-- Channels stand as a run leaves them, and nothing closed one that is not there. -/
theorem state_perform (acts : List Act) (c : Nat) :
    (∀ ch, (fresh.perform acts).broker.channels[c]? = some ch → ch.state = stateLeft acts c) ∧
      ((fresh.perform acts).broker.channels[c]? = none → closings acts c = []) := by
  induction acts using List.reverseRecOn with
  | nil => exact ⟨fun ch here => (by cases here), fun _ => rfl⟩
  | append_singleton acts a ih =>
    obtain ⟨stands, free⟩ := ih
    rw [perform_concat, broker_act, stateLeft, closings_concat]
    cases asks : (fresh.perform acts).deed? a with
    | none =>
      rw [Option.bind_none, Option.toList_none, List.append_nil]
      exact ⟨stands, free⟩
    | some d =>
      -- nobody asks anything of a channel that does not exist, so there is no closing to count
      have held : ∀ c, d.channel? = some c → (fresh.perform acts).broker.isHeld c = true :=
        fun c about => held_of_deed (hearing_perform acts) (manned_perform acts) asks about
      rw [Option.bind_some]
      cases before : (fresh.perform acts).broker.channels[c]? with
      | some x =>
        have later := state_apply (d := d) (registered_perform acts) before
        refine ⟨fun ch there => ?_, fun gone => ?_⟩
        · rw [obey] at there
          rw [there, Option.map_some] at later
          rw [Option.some.inj later]
          exact state_next (stands x before) _
        · rw [obey] at gone
          rw [gone] at later
          cases later
      | none =>
        rw [closing?_of_absent before held, Option.toList_none, List.append_nil, free before]
        refine ⟨fun ch there => ?_, fun _ => rfl⟩
        by_cases opens : ∃ count, d = .openLast count
        · obtain ⟨count, rfl⟩ := opens
          exact (Broker.opened_openLast count before there).1
        · obtain ⟨x, here, -⟩ := exists_of_apply (fun count same => opens ⟨count, same⟩) there
          cases before.symm.trans here

/-- What a run leaves those who listen to a channel to learn: why it was closed first, if it was. -/
def verdictOn (acts : List Act) (c : Nat) : Notice :=
  match (closings acts c).head? with
  | some reason => .told reason
  | none => if (fresh.perform acts).broker.isHeld c then .waiting else .lost

/-- Every notice tells what became of the channel that it was registered with. -/
theorem notices_perform (acts : List Act) {n : Nat} (listens : (audience acts)[n]? = some c) :
    (fresh.perform acts).broker.notices[n]? = some (verdictOn acts c) := by
  have heard := heard_perform acts
  have here := Array.getElem?_eq_getElem (heard.exist c (List.mem_of_getElem? listens))
  have state := (state_perform acts c).1 _ here
  rw [heard.verdict n c _ listens here, Channel.verdict, state, stateLeft, verdictOn,
    Broker.isHeld_eq here]
  cases (closings acts c).head? <;> rfl

/-- A channel is live as long as nothing closed it. -/
theorem isLive_iff_nil (acts : List Act) (here : (fresh.perform acts).broker.channels[c]? = some ch) :
    (fresh.perform acts).broker.isLive c = true ↔ closings acts c = [] := by
  rw [Broker.isLive_eq here, Channel.isClosed, (state_perform acts c).1 ch here, stateLeft]
  cases closings acts c <;> simp

end Service

end Relay
