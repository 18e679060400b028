import Relay.Proofs.Handlings

/-!
# Channels that are held

A notice follows a channel if it is registered while the channel is live and was told the reason once the
channel has closed. Only the last holder that lets a live channel go leaves notices behind that never learn
of its end; `Clings` says of all other operations that they keep holders and notices, and `letGo` keeps
the notices of a channel that somebody else holds.
-/

namespace Relay.Broker

/-- A notice is registered with a channel, or was told why the channel closed. -/
def Follows (b : Broker) (n c : Nat) : Prop :=
  ∃ ch, b.channels[c]? = some ch ∧
    ((ch.state = .live ∧ n ∈ ch.listeners) ∨
      ∃ reason, ch.state = .closed reason ∧ b.notices[n]? = some (.told reason))

/-- How a broker goes on while nobody takes a channel over or lets one go. -/
structure Clings (b b' : Broker) : Prop extends Heeds b b' where
  holders : ∀ (c : Nat) (ch : Channel), b.channels[c]? = some ch →
    ∃ ch', b'.channels[c]? = some ch' ∧ ch'.holders = ch.holders
  follows : ∀ n c, b.Tuned → b.Follows n c → b'.Follows n c

variable {b b' b'' : Broker} {c d n : Nat} {f : Channel → Channel}

/-- What a notice that follows a channel has to say. -/
theorem Follows.notice {ch : Channel} {reason : CloseReason} (follows : b.Follows n c)
    (here : b.channels[c]? = some ch) (closed : ch.state = .closed reason) :
    b.notices[n]? = some (.told reason) := by
  obtain ⟨x, there, ⟨live, -⟩ | ⟨r, shut, told⟩⟩ := follows
  · rw [here] at there
    cases there
    rw [closed] at live
    cases live
  · rw [here] at there
    cases there
    rw [closed] at shut
    cases shut
    exact told

/-- A notice follows a channel that did not change, if it was told what it had been told. -/
theorem Follows.of_channel (follows : b.Follows n c) (same : b'.channels[c]? = b.channels[c]?)
    (told : ∀ r, b.notices[n]? = some (.told r) → b'.notices[n]? = some (.told r)) :
    b'.Follows n c := by
  obtain ⟨ch, here, live | ⟨r, shut, was⟩⟩ := follows
  · exact ⟨ch, by rw [same, here], .inl live⟩
  · exact ⟨ch, by rw [same, here], .inr ⟨r, shut, told r was⟩⟩

/-- Whoever was told keeps what it was told when those who listen to a channel are told something. -/
theorem told_setNotices {ch : Channel} {r : CloseReason} {x : Notice} (tuned : b.Tuned)
    (here : b.channels[c]? = some ch) (same : b'.notices = b.notices)
    (told : b.notices[n]? = some (.told r)) :
    (b'.setNotices ch.listeners x).notices[n]? = some (.told r) := by
  rw [notices_setNotices, if_neg, same, told]
  rintro ⟨inside, -⟩
  rw [tuned.waiting n c ⟨ch, here, inside⟩] at told
  cases told

/-- A live channel that is shut has closed for the reason given. -/
theorem channel_shut {ch : Channel} (here : b.channels[c]? = some ch) (live : ch.state = .live)
    (reason : CloseReason) :
    (b.shut c reason).channels[c]? =
      some { ch with state := .closed reason, listeners := [], sinks := [] } := by
  have open_ : ch.isClosed = false := by rw [Channel.isClosed, live]; rfl
  simp only [shut, here, open_, Bool.false_eq_true, if_false]
  exact channels_onChannel_self (b := b.setNotices ch.listeners _) here _

namespace Clings

/-- A broker that stays as it is clings to everything. -/
theorem refl (b : Broker) : Clings b b := ⟨.refl b, fun _ ch here => ⟨ch, here, rfl⟩, fun _ _ _ h => h⟩

/-- Holders and notices that are kept twice are kept. -/
theorem trans (h : Clings b b') (h' : Clings b' b'') : Clings b b'' where
  toHeeds := h.toHeeds.trans h'.toHeeds
  holders c ch here := by
    obtain ⟨ch', here', same⟩ := h.holders c ch here
    obtain ⟨ch'', here'', same'⟩ := h'.holders c ch' here'
    exact ⟨ch'', here'', same'.trans same⟩
  follows n c tuned follows := h'.follows n c (h.tuned tuned) (h.follows n c tuned follows)

/-- Neither channels nor notices change. -/
theorem of_fields (channels : b'.channels = b.channels) (notices : b'.notices = b.notices) :
    Clings b b' where
  toHeeds := .of_fields channels notices
  holders c ch here := ⟨ch, by rw [channels, here], rfl⟩
  follows n c _ follows := follows.of_channel (by rw [channels]) fun r told => by rw [notices, told]

/-- A channel changes, but not in its state, its listeners or its holders. -/
theorem onChannel (state : ∀ ch, (f ch).state = ch.state)
    (listeners : ∀ ch, (f ch).listeners = ch.listeners)
    (holders : ∀ ch, (f ch).holders = ch.holders) : Clings b (b.onChannel c f) where
  toHeeds := heeds_onChannel state listeners
  holders d ch here := by
    rw [channels_onChannel, here]
    split
    · exact ⟨f ch, rfl, holders ch⟩
    · exact ⟨ch, rfl, rfl⟩
  follows n d _ follows := by
    by_cases own : d = c
    · subst own
      obtain ⟨ch, here, live | ⟨r, shut, told⟩⟩ := follows
      · exact ⟨f ch, channels_onChannel_self here f, .inl (by rw [state, listeners]; exact live)⟩
      · exact ⟨f ch, channels_onChannel_self here f, .inr ⟨r, by rw [state]; exact shut, told⟩⟩
    · exact follows.of_channel (channels_onChannel_of_ne b own f) fun _ told => told

/-! ## Closing and listening -/

/-- Whoever listens to a channel that is shut is told the reason, so its notices follow it still. -/
theorem shut (b : Broker) (c : Nat) (reason : CloseReason) : Clings b (b.shut c reason) := by
  refine ⟨heeds_shut b c reason, fun d x there => ?_, fun n d tuned follows => ?_⟩
  all_goals unfold Broker.shut; split
  · exact ⟨x, there, rfl⟩
  · next ch here =>
    split
    · exact ⟨x, there, rfl⟩
    · rw [channels_onChannel, show (b.setNotices _ _).channels[d]? = some x from there]
      split <;> exact ⟨_, rfl, rfl⟩
  · exact follows
  · next ch here =>
    split
    · exact follows
    · next open_ =>
      by_cases own : d = c
      · -- the notice listens to the channel that closes, and so it is told
        subst own
        obtain ⟨x, there, ⟨-, inside⟩ | ⟨r, closed, -⟩⟩ := follows
        · cases here.symm.trans there
          have inBounds := (Array.getElem?_eq_some_iff.mp (tuned.waiting n d ⟨ch, here, inside⟩)).1
          refine ⟨_, channels_onChannel_self (b := b.setNotices ch.listeners _) here _,
            .inr ⟨reason, rfl, ?_⟩⟩
          exact (notices_setNotices b ch.listeners _ n).trans (if_pos ⟨inside, inBounds⟩)
        · cases here.symm.trans there
          exact absurd (Channel.isClosed_iff.mpr ⟨r, closed⟩) open_
      · exact follows.of_channel (channels_onChannel_of_ne (b.setNotices ch.listeners _) own _)
          fun r told => told_setNotices tuned here rfl told

/-- A new notice takes no other one's place. -/
theorem pushNotice (b : Broker) (x : Notice) :
    Clings b { b with notices := b.notices.push x } where
  toHeeds := heeds_pushNotice b x
  holders _ ch here := ⟨ch, here, rfl⟩
  follows n c _ follows := by
    refine follows.of_channel rfl fun r told => ?_
    rw [notices_push, if_neg (Nat.ne_of_lt (Array.getElem?_eq_some_iff.mp told).1), told]

/-- Asking for a notice adds one and perhaps a listener. -/
theorem notifyClose (b : Broker) (c : Nat) : Clings b (b.notifyClose c).2 := by
  cases live : b.isLive c with
  | false =>
    obtain ⟨x, -, same⟩ := notifyClose_of_not_live live
    rw [same]
    exact pushNotice b x
  | true =>
    rw [notifyClose_of_live live]
    refine ⟨heeds_register live, fun d ch here => ?_, fun n d tuned follows => ?_⟩
    all_goals unfold register
    · rw [channels_onChannel, show (_ : Broker).channels[d]? = some ch from here]
      split <;> exact ⟨_, rfl, rfl⟩
    · have pushed := (pushNotice b .waiting).follows n d tuned follows
      by_cases own : d = c
      · subst own
        obtain ⟨ch, here, ⟨live, inside⟩ | ⟨r, closed, told⟩⟩ := pushed
        · exact ⟨_, channels_onChannel_self here _,
            .inl ⟨live, List.mem_append_left _ inside⟩⟩
        · exact ⟨_, channels_onChannel_self here _, .inr ⟨r, closed, told⟩⟩
      · exact pushed.of_channel (channels_onChannel_of_ne _ own _) fun _ told => told

/-- A close from this side keeps holders and notices. -/
theorem close (b : Broker) (c : Nat) : Clings b (b.close c).broker := by
  unfold Broker.close
  split
  · exact shut b c none
  · exact refl b

/-- So does one from the side of the broker. -/
theorem terminate (b : Broker) (c : Nat) (reason : CloseReason) :
    Clings b (b.terminate c reason).broker := by
  unfold Broker.terminate
  split
  · exact shut b c reason
  · exact refl b

/-- So does a loss of the connection, channel after channel. -/
theorem disconnect (b : Broker) (error : Exception) : Clings b (b.disconnect error).broker := by
  have shutAll : ∀ (cs : List Nat) (b : Broker),
      Clings b (cs.foldl (fun b c => b.shut c (some error)) b) := by
    intro cs
    induction cs with
    | nil => exact refl
    | cons c cs ih => exact fun b => (shut b c _).trans (ih _)
  have away : Clings b { b with available := false, registry := [] } := of_fields rfl rfl
  exact away.trans (shutAll _ _)

/-- So does declaring an exchange. -/
theorem declare (b : Broker) (name : String) : Clings b (b.declare name) := by
  unfold Broker.declare
  split
  · exact refl b
  · exact of_fields rfl rfl

/-! ## Publishing and confirming -/

/-- A confirmation changes sinks and the next tag of a channel, but not who holds it. -/
theorem confirm (b : Broker) (c : Nat) (ack : Bool) : Clings b (b.confirm c ack).broker := by
  unfold Broker.confirm
  split
  · exact refl b
  · split
    · exact refl b
    · have sent : ∀ sinks, Clings b { b with sinks } := fun _ => of_fields rfl rfl
      exact (sent _).trans (onChannel (fun _ => rfl) (fun _ => rfl) fun _ => rfl)

/-- A publish keeps holders and notices, also where it shuts the channel. -/
theorem publish (b : Broker) (c : Nat) (exchange routingKey : String) (options : PublishOptions)
    (message : Message) : Clings b (b.publish c exchange routingKey options message).broker := by
  have confirmed : ∀ {b' : Broker} (ack : Bool), Clings b b' → Clings b (b'.confirm c ack).broker :=
    fun ack clings => clings.trans (confirm _ c ack)
  unfold Broker.publish
  split
  · split
    · exact of_fields rfl rfl
    · split
      · simp only [accept]
        split
        · exact confirmed true (of_fields rfl rfl)
        · exact confirmed false (of_fields rfl rfl)
      · exact shut b c _
  · exact refl b

/-- So does confirm mode. -/
theorem confirmSelect (b : Broker) (c : Nat) : Clings b (b.confirmSelect c).2 := by
  unfold Broker.confirmSelect
  split
  · split
    · exact of_fields rfl rfl
    · exact onChannel (fun _ => rfl) (fun _ => rfl) fun _ => rfl
  · exact refl b

/-- So does the registration of a sink. -/
theorem notifyPublish (b : Broker) (c k : Nat) : Clings b (b.notifyPublish c k) := by
  unfold Broker.notifyPublish
  split
  · exact onChannel (fun _ => rfl) (fun _ => rfl) fun _ => rfl
  · exact refl b

/-- So does taking confirmations out of a sink. -/
theorem receive (b : Broker) (k : Nat) (limit : Option Nat) : Clings b (b.receive k limit).2 := by
  unfold Broker.receive
  split
  · exact refl b
  · exact of_fields rfl rfl

/-! ## Opening -/

/-- A new channel is no channel that was there. -/
theorem openChannel (b : Broker) : Clings b b.openChannel.broker := by
  refine ⟨heeds_openChannel b, fun c ch here => ?_, fun n c _ follows => ?_⟩
  all_goals unfold Broker.openChannel; split
  · have old := Nat.ne_of_lt (Array.getElem?_eq_some_iff.mp here).1
    exact ⟨ch, by rw [channels_push, if_neg old, here], rfl⟩
  · exact ⟨ch, here, rfl⟩
  · have ⟨ch, here, _⟩ := follows
    have old := Nat.ne_of_lt (Array.getElem?_eq_some_iff.mp here).1
    exact follows.of_channel (by rw [channels_push, if_neg old]) fun _ told => told
  · exact follows

end Clings

/-! ## Taking channels over and letting them go -/

/-- A new notice follows its channel, if there is one. -/
theorem follows_notifyClose (inBounds : c < b.channels.size) :
    (b.notifyClose c).2.Follows (b.notifyClose c).1 c := by
  have here := Array.getElem?_eq_getElem inBounds
  generalize b.channels[c] = ch at here
  unfold notifyClose
  cases state : ch.state with
  | live =>
    simp only [here, state]
    exact ⟨_, channels_onChannel_self (b := { b with notices := b.notices.push .waiting }) here _,
      .inl ⟨state, by simp⟩⟩
  | closed r =>
    simp only [here, state]
    exact ⟨ch, here, .inr ⟨r, state, by rw [notices_push, if_pos rfl]⟩⟩

/-- Taking a channel over adds one to its holders and to no other's. -/
theorem holders_hold {ch : Channel} (here : b.channels[d]? = some ch) :
    ∃ ch', (b.hold c).channels[d]? = some ch' ∧
      ch'.holders = if d = c then ch.holders + 1 else ch.holders := by
  rw [hold, channels_onChannel, here]
  by_cases own : c = d
  · exact ⟨_, if_pos own, by rw [if_pos own.symm]⟩
  · exact ⟨_, if_neg own, by rw [if_neg (Ne.symm own)]⟩

/-- A notice follows its channel whoever takes one over. -/
theorem follows_hold (follows : b.Follows n d) : (b.hold c).Follows n d := by
  by_cases own : d = c
  · subst own
    obtain ⟨ch, here, live | closed⟩ := follows
    · exact ⟨_, channels_onChannel_self here _, .inl live⟩
    · exact ⟨_, channels_onChannel_self here _, .inr closed⟩
  · exact follows.of_channel (channels_onChannel_of_ne b own _) fun _ told => told

/-- Letting go of a channel that exists, with what becomes of the notices if nobody is left. -/
theorem letGo_eq {ch : Channel} (here : b.channels[c]? = some ch) :
    b.letGo c = if ch.holders ≤ 1 then
        (((b.onChannel c fun ch => { ch with holders := ch.holders - 1 }).setNotices ch.listeners
          .lost).onChannel c fun ch => { ch with listeners := [] })
      else b.onChannel c fun ch => { ch with holders := ch.holders - 1 } := by
  simp only [letGo, here]

/-- Letting go of a channel takes one from its holders and from no other's. -/
theorem holders_letGo {ch : Channel} (here : b.channels[d]? = some ch) :
    ∃ ch', (b.letGo c).channels[d]? = some ch' ∧
      ch'.holders = if d = c then ch.holders - 1 else ch.holders := by
  cases there : b.channels[c]? with
  | none =>
    have other : d ≠ c := by
      rintro rfl
      rw [here] at there
      cases there
    simp only [letGo, there]
    exact ⟨ch, here, (if_neg other).symm⟩
  | some x =>
    rw [letGo_eq there]
    by_cases own : d = c
    · subst own
      cases here.symm.trans there
      have fewer := channels_onChannel_self here fun ch => { ch with holders := ch.holders - 1 }
      split
      · exact ⟨_, channels_onChannel_self (b := Broker.setNotices _ _ _) fewer _, (if_pos rfl).symm⟩
      · exact ⟨_, fewer, (if_pos rfl).symm⟩
    · have fewer := (channels_onChannel_of_ne b own fun ch =>
        { ch with holders := ch.holders - 1 }).trans here
      split
      · exact ⟨ch, (channels_onChannel_of_ne (Broker.setNotices _ _ _) own _).trans fewer, rfl⟩
      · exact ⟨ch, fewer, rfl⟩

/-- A notice follows its channel as long as somebody holds it. -/
theorem follows_letGo (tuned : b.Tuned) (follows : b.Follows n d)
    (held : d = c → ∃ ch, b.channels[c]? = some ch ∧ 1 < ch.holders) : (b.letGo c).Follows n d := by
  cases there : b.channels[c]? with
  | none =>
    simp only [letGo, there]
    exact follows
  | some x =>
    rw [letGo_eq there]
    by_cases own : d = c
    · subst own
      obtain ⟨ch, here, many⟩ := held rfl
      cases here.symm.trans there
      -- somebody else holds the channel, so its listeners stay
      rw [if_neg (Nat.not_le.mpr many)]
      obtain ⟨ch, here, live | closed⟩ := follows
      · exact ⟨_, channels_onChannel_self here _, .inl live⟩
      · exact ⟨_, channels_onChannel_self here _, .inr closed⟩
    · have fewer : (b.onChannel c fun ch => { ch with holders := ch.holders - 1 }).Follows n d :=
        follows.of_channel (channels_onChannel_of_ne b own _) fun _ told => told
      split
      · refine fewer.of_channel (channels_onChannel_of_ne (Broker.setNotices _ _ _) own _)
          fun r told => ?_
        exact told_setNotices tuned there rfl told
      · exact fewer

/-! ### Opening and keeping the last -/

/-- A channel that was opened has the next number and stands where none was. -/
theorem openChannel_ok {b' : Broker} {notes : List Note} (opened : b.openChannel = ⟨.ok c, b', notes⟩) :
    b.channels[c]? = none ∧ b'.channels[c]? = some { number := b.nextNumber } := by
  unfold openChannel at opened
  split at opened
  · obtain ⟨rfl, rfl, -⟩ := Outcome.mk.inj opened |>.imp Except.ok.inj id
    exact ⟨Array.getElem?_eq_none (Nat.le_refl _), by rw [channels_push, if_pos rfl]⟩
  · cases opened

/-- Whoever lets a new channel go leaves the others alone. -/
theorem Clings.letGo_new (clings : Clings b b') (new : b.channels[c]? = none) :
    Clings b (b'.letGo c) where
  toHeeds := clings.toHeeds.trans (heeds_letGo b' c)
  holders d ch here := by
    obtain ⟨ch', here', same⟩ := clings.holders d ch here
    obtain ⟨ch'', here'', same'⟩ := holders_letGo (c := c) here'
    have other : d ≠ c := by
      rintro rfl
      rw [new] at here
      cases here
    exact ⟨ch'', here'', by rw [same', if_neg other, same]⟩
  follows n d tuned follows := by
    refine follows_letGo (clings.tuned tuned) (clings.follows n d tuned follows) fun own => ?_
    obtain ⟨ch, here, -⟩ := follows
    rw [own, new] at here
    cases here

/-- Opening more channels, each in place of the one before, touches no channel that was there at first.
The last one is new and held once. -/
theorem clings_reopen (k : Nat) (c : Nat) (b' : Broker) (notes : List Note) (clings : Clings b b')
    (new : b.channels[c]? = none) (kept : ∃ ch, b'.channels[c]? = some ch ∧ ch.holders = 1) :
    Clings b (reopen k c b' notes).broker ∧
      ∀ d, (reopen k c b' notes).value = .ok d → b.channels[d]? = none ∧
        ∃ ch, (reopen k c b' notes).broker.channels[d]? = some ch ∧ ch.holders = 1 := by
  -- the invariant is the statement itself: what is let go of next is new and held once
  induction k generalizing c b' notes with
  | zero =>
    refine ⟨clings, fun d opened => ?_⟩
    cases opened
    exact ⟨new, kept⟩
  | succ k ih =>
    have opens := Clings.openChannel b'
    unfold reopen
    split
    · next c' b'' opened result =>
      rw [result] at opens
      obtain ⟨absent, there⟩ := openChannel_ok result
      have new' : b.channels[c']? = none := by
        cases here : b.channels[c']? with
        | none => rfl
        | some ch =>
          obtain ⟨ch', here', -⟩ := clings.holders c' ch here
          rw [absent] at here'
          cases here'
      have apart : c' ≠ c := by
        rintro rfl
        obtain ⟨ch, here, -⟩ := kept
        rw [absent] at here
        cases here
      obtain ⟨ch, kept', holders⟩ := holders_letGo (c := c) there
      exact ih c' _ _ ((clings.trans opens).letGo_new new) new'
        ⟨ch, kept', by rw [holders, if_neg apart]⟩
    · next result =>
      rw [result] at opens
      exact ⟨clings.trans opens, nofun⟩

/-- The channel that is kept of those opened is new, and held once. -/
theorem clings_openLast (b : Broker) (count : Nat) :
    Clings b (b.openLast count).broker ∧
      ∀ d, (b.openLast count).value = .ok d → b.channels[d]? = none ∧
        ∃ ch, (b.openLast count).broker.channels[d]? = some ch ∧ ch.holders = 1 := by
  have opens := Clings.openChannel b
  unfold openLast
  split
  · next result =>
    rw [result] at opens
    obtain ⟨absent, there⟩ := openChannel_ok result
    exact clings_reopen _ _ _ _ opens absent ⟨_, there, rfl⟩
  · next other =>
    refine ⟨opens, fun d opened => ?_⟩
    cases result : b.openChannel with
    | mk value after notes =>
      rw [result] at opened
      exact absurd (by rw [result, show value = .ok d from opened]) (other d after notes)

end Relay.Broker
