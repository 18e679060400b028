import Relay.Broker.Publish

/-!
# Close notices

A notice that waits is registered with one channel, and that channel is live: whatever closes a channel
tells those registered with it, and whatever makes a channel vanish leaves none of them waiting.
`Tuned` says so of a broker. `Heeds` says how a broker goes on: who listens keeps listening until it is
told, nobody waits again, and a channel that has closed stays closed. Every operation of the broker is
of this kind.
-/

namespace Relay.Broker

/-- A notice is registered with a channel. -/
def Listens (b : Broker) (n c : Nat) : Prop :=
  ∃ ch, b.channels[c]? = some ch ∧ n ∈ ch.listeners

/-- Only channels that exist are listened to. -/
theorem Listens.lt_size {b : Broker} {n c : Nat} (h : b.Listens n c) : c < b.channels.size := by
  obtain ⟨ch, here, -⟩ := h
  exact (Array.getElem?_eq_some_iff.mp here).1

/-- Who is registered waits, with one channel, which is live. -/
structure Tuned (b : Broker) : Prop where
  waiting : ∀ n c, b.Listens n c → b.notices[n]? = some .waiting
  once : ∀ n c c', b.Listens n c → b.Listens n c' → c = c'
  live : ∀ n c, b.Listens n c → b.isLive c = true

/-- How a broker goes on. -/
structure Heeds (b b' : Broker) : Prop where
  notices : b.notices.size ≤ b'.notices.size
  channels : b.channels.size ≤ b'.channels.size
  listens : ∀ n c, n < b.notices.size → b.Listens n c →
    b'.Listens n c ∨ b'.notices[n]? ≠ some .waiting
  settled : ∀ n, n < b.notices.size → b'.notices[n]? = some .waiting → b.notices[n]? = some .waiting
  closed : ∀ c, c < b.channels.size → b.isLive c = false → b'.isLive c = false
  tuned : b.Tuned → b'.Tuned

namespace Heeds

variable {b b' b'' : Broker}

/-- A broker that stays as it is goes on. -/
theorem refl (b : Broker) : Heeds b b where
  notices := Nat.le_refl _
  channels := Nat.le_refl _
  listens _ _ _ h := .inl h
  settled _ _ h := h
  closed _ _ h := h
  tuned h := h

/-- Going on and going on again is going on. A notice that was told in the first part cannot wait
after the second, since nobody waits again. -/
theorem trans (h : Heeds b b') (h' : Heeds b' b'') : Heeds b b'' where
  notices := Nat.le_trans h.notices h'.notices
  channels := Nat.le_trans h.channels h'.channels
  listens n c inBounds listens := by
    have inBounds' := Nat.lt_of_lt_of_le inBounds h.notices
    rcases h.listens n c inBounds listens with listens | told
    · exact h'.listens n c inBounds' listens
    · exact .inr fun waits => told (h'.settled n inBounds' waits)
  settled n inBounds waits :=
    h.settled n inBounds (h'.settled n (Nat.lt_of_lt_of_le inBounds h.notices) waits)
  closed c inBounds shut :=
    h'.closed c (Nat.lt_of_lt_of_le inBounds h.channels) (h.closed c inBounds shut)
  tuned tuned := h'.tuned (h.tuned tuned)

/-- The same notices are registered with the same channels, and the same channels are live. -/
theorem of_same (notices : b'.notices = b.notices) (channels : b.channels.size ≤ b'.channels.size)
    (listens : ∀ n c, b'.Listens n c ↔ b.Listens n c)
    (live : ∀ c, c < b.channels.size → b'.isLive c = b.isLive c) : Heeds b b' := by
  refine
    { notices := Nat.le_of_eq (by rw [notices])
      channels := channels
      listens := fun n c _ h => .inl ((listens n c).mpr h)
      settled := fun n _ waits => by rwa [← notices]
      closed := fun c inBounds shut => by rwa [live c inBounds]
      tuned := fun tuned => ⟨fun n c h => ?_, fun n c c' h h' => ?_, fun n c h => ?_⟩ }
  · rw [notices]
    exact tuned.waiting n c ((listens n c).mp h)
  · exact tuned.once n c c' ((listens n c).mp h) ((listens n c').mp h')
  · have before := (listens n c).mp h
    rw [live c before.lt_size]
    exact tuned.live n c before

/-- Neither channels nor notices change. -/
theorem of_fields (channels : b'.channels = b.channels) (notices : b'.notices = b.notices) :
    Heeds b b' := by
  refine of_same notices (Nat.le_of_eq (by rw [channels])) (fun n c => ?_) fun c _ => ?_
  · rw [Listens, channels, Listens]
  · rw [isLive, channels, isLive]

end Heeds

variable {b : Broker} {c d n : Nat} {f : Channel → Channel}

/-! ## One channel -/

/-- The channels after one of them has been changed. -/
theorem channels_onChannel (b : Broker) (c : Nat) (f : Channel → Channel) (d : Nat) :
    (b.onChannel c f).channels[d]? = if c = d then b.channels[d]?.map f else b.channels[d]? :=
  Array.getElem?_modify

/-- A change of one channel leaves every other. -/
theorem channels_onChannel_of_ne (b : Broker) (other : d ≠ c) (f : Channel → Channel) :
    (b.onChannel c f).channels[d]? = b.channels[d]? := by
  rw [channels_onChannel, if_neg (Ne.symm other)]

/-- The changed channel itself. -/
theorem channels_onChannel_self {ch : Channel} (here : b.channels[c]? = some ch)
    (f : Channel → Channel) : (b.onChannel c f).channels[c]? = some (f ch) := by
  rw [channels_onChannel, if_pos rfl, here, Option.map_some]

/-- Changing a channel neither adds nor removes one. -/
theorem channels_size_onChannel (b : Broker) (c : Nat) (f : Channel → Channel) :
    (b.onChannel c f).channels.size = b.channels.size :=
  Array.size_modify

/-- Who listens to a channel is told by the entry of that channel alone. -/
theorem listens_of_channel {b' : Broker} (same : b'.channels[c]? = b.channels[c]?) :
    b'.Listens n c ↔ b.Listens n c := by
  rw [Listens, same, Listens]

/-- A channel is live if it exists and its state says so. -/
theorem isLive_iff : b.isLive c = true ↔ ∃ ch, b.channels[c]? = some ch ∧ ch.state = .live := by
  unfold isLive
  cases b.channels[c]? with
  | none => simp
  | some ch => simp [Channel.isClosed]

/-- Whether a channel that exists is live. -/
theorem isLive_eq (here : b.channels[c]? = some ch) : b.isLive c = !ch.isClosed := by
  rw [isLive, here]

/-- An existing channel that is not live has closed. -/
theorem isClosed_of_not_live (closed : ¬ b.isLive c = true) (here : b.channels[c]? = some ch) :
    ch.isClosed = true := by
  rw [isLive_eq here] at closed
  simpa using closed

/-- A live channel has not closed. -/
theorem isClosed_of_live (live : b.isLive c = true) (here : b.channels[c]? = some ch) :
    ch.isClosed = false := by
  rw [isLive_eq here] at live
  simpa using live

/-- Whether a channel is live is told by its entry alone. -/
theorem isLive_of_channel {b' : Broker} (same : b'.channels[c]? = b.channels[c]?) :
    b'.isLive c = b.isLive c := by
  rw [isLive, same, isLive]

/-- A channel changes, but neither its state nor who listens. -/
theorem heeds_onChannel (state : ∀ ch, (f ch).state = ch.state)
    (listeners : ∀ ch, (f ch).listeners = ch.listeners) : Heeds b (b.onChannel c f) := by
  refine .of_same rfl (Nat.le_of_eq (channels_size_onChannel b c f).symm) (fun n d => ?_)
    fun d _ => ?_
  · by_cases own : d = c
    · subst own
      cases here : b.channels[d]? <;> simp [Listens, channels_onChannel, here, listeners]
    · exact listens_of_channel (channels_onChannel_of_ne b own f)
  · by_cases own : d = c
    · subst own
      cases here : b.channels[d]? <;>
        simp [isLive, channels_onChannel, here, Channel.isClosed, state]
    · exact isLive_of_channel (channels_onChannel_of_ne b own f)

/-! ## Telling those who listen -/

/-- The notices after some of them have been set. -/
theorem notices_setNotices (b : Broker) (refs : List Nat) (x : Notice) (n : Nat) :
    (b.setNotices refs x).notices[n]? =
      if n ∈ refs ∧ n < b.notices.size then some x else b.notices[n]? := by
  have set : ∀ (refs : List Nat) (ns : Array Notice),
      (refs.foldl (fun ns r => ns.setIfInBounds r x) ns)[n]? =
        if n ∈ refs ∧ n < ns.size then some x else ns[n]? := by
    -- a notice named twice is set twice, to the same value, so the order of the list is of no matter
    intro refs
    induction refs with
    | nil => simp
    | cons r refs ih =>
      intro ns
      rw [List.foldl_cons, ih, Array.size_setIfInBounds, Array.getElem?_setIfInBounds]
      grind
  exact set refs b.notices

/-- Setting notices neither adds nor removes one. -/
theorem notices_size_setNotices (b : Broker) (refs : List Nat) (x : Notice) :
    (b.setNotices refs x).notices.size = b.notices.size := by
  have set : ∀ (refs : List Nat) (ns : Array Notice),
      (refs.foldl (fun ns r => ns.setIfInBounds r x) ns).size = ns.size := by
    intro refs
    induction refs with
    | nil => exact fun _ => rfl
    | cons r refs ih => exact fun ns => (ih _).trans Array.size_setIfInBounds
  exact set refs b.notices

section Tell

variable {ch : Channel} {x : Notice}

/-- The listeners of a channel are told, and nobody listens to it any more. -/
theorem listens_tell (here : b.channels[c]? = some ch) (listeners : (f ch).listeners = []) :
    ((b.setNotices ch.listeners x).onChannel c f).Listens n d ↔ d ≠ c ∧ b.Listens n d := by
  by_cases own : d = c
  · subst own
    have there := channels_onChannel_self (b := b.setNotices ch.listeners x) here f
    simp [Listens, there, listeners]
  · rw [listens_of_channel (channels_onChannel_of_ne (b.setNotices ch.listeners x) own f)]
    exact (and_iff_right own).symm

/-- Telling the listeners of a channel revives no channel. -/
theorem isLive_of_tell (here : b.channels[c]? = some ch)
    (state : (f ch).state = .live → ch.state = .live)
    (lives : ((b.setNotices ch.listeners x).onChannel c f).isLive d = true) : b.isLive d = true := by
  by_cases own : d = c
  · subst own
    obtain ⟨ch', found, lives⟩ := isLive_iff.mp lives
    rw [channels_onChannel_self (b := b.setNotices ch.listeners x) here f] at found
    cases found
    exact isLive_iff.mpr ⟨ch, here, state lives⟩
  · rwa [isLive_of_channel (channels_onChannel_of_ne (b.setNotices ch.listeners x) own f)] at lives

/-- Who still waits was not told. -/
theorem waiting_of_tell (told : x ≠ .waiting)
    (waits : (b.setNotices ch.listeners x).notices[n]? = some .waiting) :
    b.notices[n]? = some .waiting ∧ (n < b.notices.size → n ∉ ch.listeners) := by
  rw [notices_setNotices] at waits
  split at waits
  · exact absurd (Option.some.inj waits) told
  · next apart => exact ⟨waits, fun inBounds inside => apart ⟨inside, inBounds⟩⟩

/-- A broker goes on when a channel tells all its listeners and lets them go, whether it closes or
not. -/
theorem heeds_tell (here : b.channels[c]? = some ch) (told : x ≠ .waiting)
    (listeners : (f ch).listeners = []) (state : (f ch).state = .live → ch.state = .live) :
    Heeds b ((b.setNotices ch.listeners x).onChannel c f) := by
  have listens : ∀ {n d}, ((b.setNotices ch.listeners x).onChannel c f).Listens n d ↔
      d ≠ c ∧ b.Listens n d := listens_tell here listeners
  refine
    { notices := Nat.le_of_eq (notices_size_setNotices b _ x).symm
      channels := Nat.le_of_eq (channels_size_onChannel _ c f).symm
      listens := fun n d inBounds h => ?_
      settled := fun n _ waits => (waiting_of_tell told waits).1
      closed := fun d _ shut => ?_
      tuned := fun tuned => ⟨fun n d h => ?_, fun n d d' h h' => ?_, fun n d h => ?_⟩ }
  · by_cases own : d = c
    · -- those who listened to this channel have been told
      subst own
      obtain ⟨ch', there, inside⟩ := h
      rw [here] at there
      cases there
      exact .inr fun waits => (waiting_of_tell told waits).2 inBounds inside
    · exact .inl (listens.mpr ⟨own, h⟩)
  · exact Bool.eq_false_iff.mpr fun lives =>
      Bool.eq_false_iff.mp shut (isLive_of_tell here state lives)
  · -- who still listens is registered with another channel, and so was not told
    obtain ⟨other, before⟩ := listens.mp h
    have apart : n ∉ ch.listeners := fun inside =>
      other (tuned.once n d c before ⟨ch, here, inside⟩)
    have untold := notices_setNotices b ch.listeners x n
    rw [if_neg fun both => apart both.1, tuned.waiting n d before] at untold
    exact untold
  · exact tuned.once n d d' (listens.mp h).2 (listens.mp h').2
  · obtain ⟨other, before⟩ := listens.mp h
    rw [isLive_of_channel (channels_onChannel_of_ne _ other f)]
    exact tuned.live n d before

end Tell

/-! ## The operations -/

/-- A channel that is shut tells its listeners the reason. -/
theorem heeds_shut (b : Broker) (c : Nat) (reason : CloseReason) : Heeds b (b.shut c reason) := by
  unfold shut
  split
  · exact .refl b
  · next ch here =>
    split
    · exact .refl b
    · exact heeds_tell here nofun rfl nofun

/-- Another holder changes neither state nor listeners. -/
theorem heeds_hold (b : Broker) (c : Nat) : Heeds b (b.hold c) :=
  heeds_onChannel (fun _ => rfl) fun _ => rfl

/-- Letting go of a channel is a change of its holders or, by the last of them, the loss of all its
notices. -/
theorem heeds_letGo (b : Broker) (c : Nat) : Heeds b (b.letGo c) := by
  unfold letGo
  split
  · exact .refl b
  · next ch here =>
    have fewer : Heeds b (b.onChannel c fun ch => { ch with holders := ch.holders - 1 }) :=
      heeds_onChannel (fun _ => rfl) fun _ => rfl
    simp only []
    split
    · -- nobody is left to close the channel, so its listeners are told that it is lost
      have there := channels_onChannel_self here fun ch => { ch with holders := ch.holders - 1 }
      have told := heeds_tell (x := .lost) (f := fun ch => { ch with listeners := [] }) there nofun
        rfl fun lives => lives
      exact fewer.trans told
    · exact fewer

/-- A close from this side shuts the channel or does nothing. -/
theorem heeds_close (b : Broker) (c : Nat) : Heeds b (b.close c).broker := by
  unfold close
  split
  · exact heeds_shut b c none
  · exact .refl b

/-- A close from the side of the broker shuts the channel or does nothing. -/
theorem heeds_terminate (b : Broker) (c : Nat) (reason : CloseReason) :
    Heeds b (b.terminate c reason).broker := by
  unfold terminate
  split
  · exact heeds_shut b c reason
  · exact .refl b

/-- Asking for confirm mode takes at most the pending refusal or sets the first tag. -/
theorem heeds_confirmSelect (b : Broker) (c : Nat) : Heeds b (b.confirmSelect c).2 := by
  unfold confirmSelect
  split
  · split
    · exact .of_fields rfl rfl
    · exact heeds_onChannel (fun _ => rfl) fun _ => rfl
  · exact .refl b

/-- Registering a sink touches no listener. -/
theorem heeds_notifyPublish (b : Broker) (c s : Nat) : Heeds b (b.notifyPublish c s) := by
  unfold notifyPublish
  split
  · exact heeds_onChannel (fun _ => rfl) fun _ => rfl
  · exact .refl b

/-- A confirmation changes the sinks and the next tag of a channel. -/
theorem heeds_confirm (b : Broker) (c : Nat) (ack : Bool) : Heeds b (b.confirm c ack).broker := by
  unfold confirm
  split
  · exact .refl b
  · split
    · exact .refl b
    · have sent : ∀ sinks, Heeds b { b with sinks } := fun _ => .of_fields rfl rfl
      exact (sent _).trans (heeds_onChannel (fun _ => rfl) fun _ => rfl)

/-- Accepting a message changes the log and the pending nacks, and confirms. -/
theorem heeds_accept (b : Broker) (c : Nat) (delivery : Delivery) :
    Heeds b (b.accept c delivery).broker := by
  have confirmed : ∀ {b' : Broker} (ack : Bool), Heeds b b' → Heeds b (b'.confirm c ack).broker :=
    fun ack heeds => heeds.trans (heeds_confirm _ c ack)
  unfold accept
  simp only []
  split
  · exact confirmed true (.of_fields rfl rfl)
  · exact confirmed false (.of_fields rfl rfl)

/-- A publish is rejected, is accepted or shuts the channel. -/
theorem heeds_publish (b : Broker) (c : Nat) (exchange routingKey : String)
    (options : PublishOptions) (message : Message) :
    Heeds b (b.publish c exchange routingKey options message).broker := by
  unfold publish
  split
  · split
    · exact .of_fields rfl rfl
    · split
      · exact heeds_accept b c _
      · exact heeds_shut b c _
  · exact .refl b

/-- Declaring an exchange touches no channel. -/
theorem heeds_declare (b : Broker) (name : String) : Heeds b (b.declare name) := by
  unfold declare
  split
  · exact .refl b
  · exact .of_fields rfl rfl

/-- Taking confirmations out of a sink touches no channel. -/
theorem heeds_receive (b : Broker) (s : Nat) (limit : Option Nat) :
    Heeds b (b.receive s limit).2 := by
  unfold receive
  split
  · exact .refl b
  · exact .of_fields rfl rfl

/-- The channels with one more at the end. -/
theorem channels_push (b : Broker) (ch : Channel) (c : Nat) :
    { b with channels := b.channels.push ch }.channels[c]? =
      if c = b.channels.size then some ch else b.channels[c]? :=
  Array.getElem?_push

/-- Nobody is registered with a new channel. -/
theorem heeds_pushChannel (b : Broker) (ch : Channel) (unheard : ch.listeners = []) :
    Heeds b { b with channels := b.channels.push ch } := by
  have channels := channels_push b ch
  refine .of_same rfl ?_ (fun n c => ?_) fun c inBounds => ?_
  · rw [Array.size_push]
    exact Nat.le_succ _
  · by_cases new : c = b.channels.size
    · have absent : b.channels[c]? = none := Array.getElem?_eq_none (Nat.le_of_eq new.symm)
      simp [Listens, new, unheard]
    · exact listens_of_channel (by rw [channels, if_neg new])
  · exact isLive_of_channel (by rw [channels, if_neg (Nat.ne_of_lt inBounds)])

/-- Opening a channel adds one to which nobody listens, or does nothing. -/
theorem heeds_openChannel (b : Broker) : Heeds b b.openChannel.broker := by
  unfold openChannel
  split
  · exact (heeds_pushChannel b { number := b.nextNumber } rfl).trans (.of_fields rfl rfl)
  · exact .refl b

/-- A channel that was opened is there. -/
theorem lt_size_of_openChannel (opened : b.openChannel.value = .ok c) :
    c < b.openChannel.broker.channels.size := by
  unfold openChannel at opened ⊢
  split at opened
  · next available =>
    cases opened
    rw [if_pos available]
    exact Nat.lt_of_lt_of_eq (Nat.lt_succ_self _) (Array.size_push _).symm
  · cases opened

/-- Opening channels one after another, each in place of the one before, is going on. -/
theorem heeds_reopen (n : Nat) : ∀ (c : Nat) (b : Broker) (notes : List Note),
    Heeds b (reopen n c b notes).broker := by
  induction n with
  | zero => exact fun _ b _ => .refl b
  | succ n ih =>
    intro c b notes
    have opens := heeds_openChannel b
    rw [reopen]
    split
    · next opened =>
      rw [opened] at opens
      exact opens.trans ((heeds_letGo _ c).trans (ih _ _ _))
    · next refused =>
      rw [refused] at opens
      exact opens

/-- Opening some channels and keeping the last is going on. -/
theorem heeds_openLast (b : Broker) (count : Nat) : Heeds b (b.openLast count).broker := by
  have opens := heeds_openChannel b
  unfold openLast
  split
  · next opened =>
    rw [opened] at opens
    exact opens.trans (heeds_reopen _ _ _ _)
  · exact opens

/-- The channel that is kept of those opened is there. -/
theorem lt_size_of_reopen (n : Nat) : ∀ (c : Nat) (b : Broker) (notes : List Note) {c' : Nat},
    c < b.channels.size → (reopen n c b notes).value = .ok c' →
    c' < (reopen n c b notes).broker.channels.size := by
  induction n with
  | zero =>
    intro c b notes c' inBounds opened
    cases opened
    exact inBounds
  | succ n ih =>
    intro c b notes c' inBounds opened
    rw [reopen] at opened ⊢
    split at opened
    · next new _ result =>
      have last := lt_size_of_openChannel (congrArg Outcome.value result)
      rw [result] at last
      exact ih _ _ _ (Nat.lt_of_lt_of_le last (heeds_letGo _ c).channels) opened
    · cases opened

/-- The channel that is kept of those opened is there, also if it is the first. -/
theorem lt_size_of_openLast {count : Nat} (opened : (b.openLast count).value = .ok c) :
    c < (b.openLast count).broker.channels.size := by
  unfold openLast at opened ⊢
  split at opened
  · next result =>
    have first := lt_size_of_openChannel (congrArg Outcome.value result)
    rw [result] at first
    exact lt_size_of_reopen _ _ _ _ first opened
  · exact lt_size_of_openChannel opened

/-- A loss of the connection shuts one registered channel after another. -/
theorem heeds_disconnect (b : Broker) (error : Exception) :
    Heeds b (b.disconnect error).broker := by
  have shuts : ∀ (cs : List Nat) (b : Broker),
      Heeds b (cs.foldl (fun b c => b.shut c (some error)) b) := by
    -- on the registry, for every broker, since each channel is shut in what the last one left
    intro cs
    induction cs with
    | nil => exact .refl
    | cons c cs ih => exact fun b => (heeds_shut b c _).trans (ih _)
  have away : Heeds b { b with available := false, registry := [] } := .of_fields rfl rfl
  exact away.trans (shuts _ _)

/-! ## One channel among others -/

/-- Nothing changes but one channel and the notices that are registered with it. -/
structure Elsewhere (c : Nat) (b b' : Broker) : Prop where
  channels : ∀ d, d ≠ c → b'.channels[d]? = b.channels[d]?
  notices : ∀ n, ¬ b.Listens n c → b'.notices[n]? = b.notices[n]? ∧ ¬ b'.Listens n c
  rest : b' = { b with channels := b'.channels, notices := b'.notices }

namespace Elsewhere

/-- A broker that stays as it is changes nowhere. -/
theorem refl (c : Nat) (b : Broker) : Elsewhere c b b :=
  ⟨fun _ _ => rfl, fun _ silent => ⟨rfl, silent⟩, rfl⟩

/-- Two changes of the same channel are one. -/
theorem trans {b b' b'' : Broker} (h : Elsewhere c b b') (h' : Elsewhere c b' b'') :
    Elsewhere c b b'' where
  channels d other := (h'.channels d other).trans (h.channels d other)
  notices n silent := by
    obtain ⟨same, silent'⟩ := h.notices n silent
    obtain ⟨same', silent''⟩ := h'.notices n silent'
    exact ⟨same'.trans same, silent''⟩
  rest := by
    have first := h.rest
    have second := h'.rest
    rw [first] at second
    exact second

/-- Telling the listeners of a channel changes only that channel and their notices. -/
theorem tell {ch : Channel} {x : Notice} (here : b.channels[c]? = some ch)
    (listeners : (f ch).listeners = []) :
    Elsewhere c b ((b.setNotices ch.listeners x).onChannel c f) := by
  refine ⟨fun d other => channels_onChannel_of_ne _ other f, fun n silent => ⟨?_, fun h => ?_⟩, rfl⟩
  · have told := notices_setNotices b ch.listeners x n
    rw [if_neg fun both => silent ⟨ch, here, both.1⟩] at told
    exact told
  · exact ((listens_tell here listeners).mp h).1 rfl

/-- A channel changes, but not who listens to it. -/
theorem onChannel (listeners : ∀ ch, (f ch).listeners = ch.listeners) :
    Elsewhere c b (b.onChannel c f) := by
  refine ⟨fun d other => channels_onChannel_of_ne b other f, fun n silent => ⟨rfl, ?_⟩, rfl⟩
  rintro ⟨ch', found, inside⟩
  rw [channels_onChannel, if_pos rfl] at found
  obtain ⟨ch, here, rfl⟩ := Option.map_eq_some_iff.mp found
  rw [listeners] at inside
  exact silent ⟨ch, here, inside⟩

/-- A close changes only its channel. -/
theorem close (b : Broker) (c : Nat) : Elsewhere c b (b.close c).broker := by
  unfold Broker.close
  split
  · change Elsewhere c b (b.shut c none)
    unfold shut
    split
    · exact refl c b
    · next here =>
      split
      · exact refl c b
      · exact tell here rfl
  · exact refl c b

/-- Letting go of a channel changes only that channel, even if it vanishes. -/
theorem letGo (b : Broker) (c : Nat) : Elsewhere c b (b.letGo c) := by
  unfold Broker.letGo
  split
  · exact refl c b
  · next ch here =>
    have fewer : Elsewhere c b (b.onChannel c fun ch => { ch with holders := ch.holders - 1 }) :=
      onChannel fun _ => rfl
    simp only []
    split
    · have there := channels_onChannel_self here fun ch => { ch with holders := ch.holders - 1 }
      have told := tell (x := .lost) (f := fun ch => { ch with listeners := [] }) there rfl
      exact fewer.trans told
    · exact fewer

end Elsewhere

/-! ## Registering -/

/-- A new notice waits for the channel that it is registered with, or there is none to wait for. -/
structure Awaits (b : Broker) (n c : Nat) : Prop where
  lt_size : n < b.notices.size
  listens : b.notices[n]? = some .waiting → b.Listens n c

/-- A notice awaits its channel however the broker goes on. -/
theorem Awaits.heeds {b' : Broker} (awaits : Awaits b n c) (heeds : Heeds b b') :
    Awaits b' n c where
  lt_size := Nat.lt_of_lt_of_le awaits.lt_size heeds.notices
  listens waits := by
    have before := awaits.listens (heeds.settled n awaits.lt_size waits)
    rcases heeds.listens n c awaits.lt_size before with listens | told
    · exact listens
    · exact absurd waits told

/-- The notices with one more at the end. -/
theorem notices_push (b : Broker) (x : Notice) (n : Nat) :
    { b with notices := b.notices.push x }.notices[n]? =
      if n = b.notices.size then some x else b.notices[n]? :=
  Array.getElem?_push

/-- A notice that is settled from the start. -/
theorem heeds_pushNotice (b : Broker) (x : Notice) :
    Heeds b { b with notices := b.notices.push x } := by
  have notices := notices_push b x
  refine
    { notices := by rw [Array.size_push]; exact Nat.le_succ _
      channels := Nat.le_refl _
      listens := fun _ _ _ h => .inl h
      settled := fun n inBounds waits => ?_
      closed := fun _ _ shut => shut
      tuned := fun tuned => ⟨fun n c h => ?_, tuned.once, tuned.live⟩ }
  · rwa [notices, if_neg (Nat.ne_of_lt inBounds)] at waits
  · have before := tuned.waiting n c h
    have inBounds : n < b.notices.size := (Array.getElem?_eq_some_iff.mp before).1
    rw [notices, if_neg (Nat.ne_of_lt inBounds), before]

/-- The broker with a new notice that waits for a channel. -/
def register (b : Broker) (c : Nat) : Broker :=
  { b with notices := b.notices.push .waiting }.onChannel c fun ch =>
    { ch with listeners := ch.listeners ++ [b.notices.size] }

/-- Who asks for a notice of a live channel is registered. -/
theorem notifyClose_of_live (live : b.isLive c = true) :
    b.notifyClose c = (b.notices.size, b.register c) := by
  obtain ⟨ch, here, state⟩ := isLive_iff.mp live
  simp only [notifyClose, here, state]
  rfl

/-- Who asks for a notice of any other channel gets one that is settled already. -/
theorem notifyClose_of_not_live (shut : b.isLive c = false) :
    ∃ x, x ≠ .waiting ∧ b.notifyClose c = (b.notices.size, { b with notices := b.notices.push x }) := by
  unfold notifyClose
  simp only []
  cases here : b.channels[c]? with
  | none => exact ⟨.lost, nofun, rfl⟩
  | some ch =>
    cases state : ch.state with
    | live => exact absurd (isLive_iff.mpr ⟨ch, here, state⟩) (Bool.eq_false_iff.mp shut)
    | closed reason =>
      refine ⟨.told reason, nofun, ?_⟩
      simp only [state]

/-- Registering adds one notice to one channel. -/
theorem listens_register (live : b.isLive c = true) :
    (b.register c).Listens n d ↔ b.Listens n d ∨ n = b.notices.size ∧ d = c := by
  obtain ⟨ch, here, -⟩ := isLive_iff.mp live
  by_cases own : d = c
  · subst own
    have there : (b.register d).channels[d]? =
        some { ch with listeners := ch.listeners ++ [b.notices.size] } :=
      channels_onChannel_self (b := { b with notices := b.notices.push .waiting }) here _
    simp [Listens, there, here]
  · have same : (b.register c).channels[d]? = b.channels[d]? := channels_onChannel_of_ne _ own _
    rw [listens_of_channel same]
    simp [own]

/-- Registering leaves every channel as live as it was. -/
theorem isLive_register (b : Broker) (c d : Nat) : (b.register c).isLive d = b.isLive d := by
  by_cases own : d = c
  · subst own
    cases here : b.channels[d]? <;>
      simp [isLive, register, channels_onChannel, here, Channel.isClosed]
  · exact isLive_of_channel (channels_onChannel_of_ne _ own _)

/-- A broker goes on when a notice is registered with a live channel. -/
theorem heeds_register (live : b.isLive c = true) : Heeds b (b.register c) := by
  have notices : ∀ n, (b.register c).notices[n]? = _ := notices_push b .waiting
  have longer : (b.register c).notices.size = b.notices.size + 1 := Array.size_push _
  refine
    { notices := by rw [longer]; exact Nat.le_succ _
      channels := Nat.le_of_eq (channels_size_onChannel _ _ _).symm
      listens := fun n d _ h => .inl ((listens_register live).mpr (.inl h))
      settled := fun n inBounds waits => ?_
      closed := fun d _ shut => by rw [isLive_register, shut]
      tuned := fun tuned => ⟨fun n d h => ?_, fun n d d' h h' => ?_, fun n d h => ?_⟩ }
  · rwa [notices, if_neg (Nat.ne_of_lt inBounds)] at waits
  · rw [notices]
    split
    · rfl
    · next old =>
      rcases (listens_register live).mp h with before | ⟨new, -⟩
      · exact tuned.waiting n d before
      · exact absurd new old
  · -- the new notice is registered with no other channel, since those registered are in the table
    have old : ∀ {d}, b.Listens n d → n ≠ b.notices.size := fun before =>
      Nat.ne_of_lt (Array.getElem?_eq_some_iff.mp (tuned.waiting n _ before)).1
    rcases (listens_register live).mp h with before | ⟨new, rfl⟩
    · rcases (listens_register live).mp h' with before' | ⟨new', -⟩
      · exact tuned.once n d d' before before'
      · exact absurd new' (old before)
    · rcases (listens_register live).mp h' with before' | ⟨-, rfl⟩
      · exact absurd new (old before')
      · rfl
  · rw [isLive_register]
    rcases (listens_register live).mp h with before | ⟨-, rfl⟩
    · exact tuned.live n d before
    · exact live

/-- A broker goes on when a notice is asked for. -/
theorem heeds_notifyClose (b : Broker) (c : Nat) : Heeds b (b.notifyClose c).2 := by
  cases live : b.isLive c with
  | true =>
    rw [notifyClose_of_live live]
    exact heeds_register live
  | false =>
    obtain ⟨x, -, same⟩ := notifyClose_of_not_live live
    rw [same]
    exact heeds_pushNotice b x

/-- A new notice waits for its channel, unless that has closed. -/
theorem awaits_notifyClose (b : Broker) (c : Nat) :
    Awaits (b.notifyClose c).2 (b.notifyClose c).1 c := by
  cases live : b.isLive c with
  | true =>
    rw [notifyClose_of_live live]
    refine ⟨?_, fun _ => (listens_register live).mpr (.inr ⟨rfl, rfl⟩)⟩
    exact Nat.lt_of_lt_of_eq (Nat.lt_succ_self _) (Array.size_push _).symm
  | false =>
    obtain ⟨x, settled, same⟩ := notifyClose_of_not_live live
    rw [same]
    refine ⟨?_, fun waits => ?_⟩
    · exact Nat.lt_of_lt_of_eq (Nat.lt_succ_self _) (Array.size_push _).symm
    · rw [notices_push, if_pos rfl] at waits
      exact absurd (Option.some.inj waits) settled

end Relay.Broker
