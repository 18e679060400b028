import Relay.Proofs.Notices

/-!
# What messages and confirmations do not come of

Most operations of a broker accept no message, send no confirmation and put no channel into confirm mode:
opening, closing and holding channels, losing the connection, and giving orders other than a nack. `Still`
says so of a broker before and after. What such an operation can do to a channel is to close it, which
ends its confirmations, and `Channel.Stays` says what a channel keeps.
-/

namespace Relay.Broker

/-- What an operation leaves of a channel that takes no part in it, or is only closed by it. -/
structure Channel.Stays (ch ch' : Channel) : Prop where
  number : ch'.number = ch.number
  nextTag : ch'.nextTag = ch.nextTag
  sinks : ch'.sinks = ch.sinks ∨ ch'.isClosed = true ∧ ch'.sinks = []
  closed : ∀ reason, ch.state = .closed reason → ch'.state = .closed reason

namespace Channel

/-- A channel is closed for some reason. -/
theorem isClosed_iff {ch : Channel} : ch.isClosed = true ↔ ∃ reason, ch.state = .closed reason := by
  unfold isClosed
  cases ch.state <;> simp

namespace Stays

variable {ch ch' ch'' : Channel}

/-- A channel that nothing happens to stays as it is. -/
theorem refl (ch : Channel) : ch.Stays ch := ⟨rfl, rfl, .inl rfl, fun _ h => h⟩

/-- A channel that was closed is still closed. -/
theorem isClosed (h : ch.Stays ch') (closed : ch.isClosed = true) : ch'.isClosed = true := by
  obtain ⟨reason, closed⟩ := isClosed_iff.mp closed
  exact isClosed_iff.mpr ⟨reason, h.closed reason closed⟩

/-- What two operations in a row leave of a channel: its sinks, unless one of them closed it. -/
theorem trans (h : ch.Stays ch') (h' : ch'.Stays ch'') : ch.Stays ch'' where
  number := h'.number.trans h.number
  nextTag := h'.nextTag.trans h.nextTag
  sinks := by
    rcases h'.sinks with same | ended
    · rcases h.sinks with same' | ⟨closed, none⟩
      · exact .inl (same.trans same')
      · exact .inr ⟨h'.isClosed closed, same.trans none⟩
    · exact .inr ended
  closed reason closed := h'.closed reason (h.closed reason closed)

/-- A channel gets no sinks; it can only lose all of them at once. -/
theorem sinks_subset (h : ch.Stays ch') : ch'.sinks ⊆ ch.sinks := by
  rcases h.sinks with same | ⟨-, none⟩
  · rw [same]
    exact List.Subset.refl _
  · rw [none]
    exact List.nil_subset _

end Stays

end Channel

/-- No message is accepted and no confirmation sent, and no channel gets into confirm mode. -/
structure Still (b b' : Broker) : Prop where
  published : b'.published = b.published
  nacks : b'.nacks = b.nacks
  sinks : b'.sinks = b.sinks
  channels : ∀ (c : Nat) (ch : Channel), b.channels[c]? = some ch →
    ∃ ch', b'.channels[c]? = some ch' ∧ ch.Stays ch'
  opened : ∀ (c : Nat) (ch' : Channel), b.channels[c]? = none → b'.channels[c]? = some ch' →
    ch'.nextTag = none ∧ ch'.sinks = []

namespace Still

variable {b b' b'' : Broker}

/-- The messages, the confirmations and the channels are the same. -/
theorem of_fields (published : b'.published = b.published) (nacks : b'.nacks = b.nacks)
    (sinks : b'.sinks = b.sinks) (channels : b'.channels = b.channels) : Still b b' := by
  refine ⟨published, nacks, sinks, fun c ch here => ⟨ch, by rw [channels, here], .refl ch⟩, ?_⟩
  intro c ch' absent here
  rw [channels, absent] at here
  cases here

/-- A broker that nothing happens to. -/
theorem refl (b : Broker) : Still b b := of_fields rfl rfl rfl rfl

/-- One operation after the other. A channel that the first one opened is none of those that were there
before, so it has to be looked at in the second. -/
theorem trans (h : Still b b') (h' : Still b' b'') : Still b b'' where
  published := h'.published.trans h.published
  nacks := h'.nacks.trans h.nacks
  sinks := h'.sinks.trans h.sinks
  channels c ch here := by
    obtain ⟨ch', here', stays⟩ := h.channels c ch here
    obtain ⟨ch'', here'', stays'⟩ := h'.channels c ch' here'
    exact ⟨ch'', here'', stays.trans stays'⟩
  opened c ch'' absent here := by
    cases between : b'.channels[c]? with
    | none => exact h'.opened c ch'' between here
    | some ch' =>
      obtain ⟨nextTag, sinks⟩ := h.opened c ch' absent between
      obtain ⟨x, here', stays⟩ := h'.channels c ch' between
      rw [here] at here'
      cases here'
      refine ⟨stays.nextTag.trans nextTag, List.subset_nil.mp ?_⟩
      rw [← sinks]
      exact stays.sinks_subset

/-- An operation on one channel that leaves of it what has to stay; no channel is opened. -/
theorem onChannel {c : Nat} {f : Channel → Channel} (stays : ∀ ch : Channel, ch.Stays (f ch)) :
    Still b (b.onChannel c f) := by
  refine ⟨rfl, rfl, rfl, fun d ch here => ?_, fun d ch' absent here => ?_⟩
  · rw [channels_onChannel, here]
    split
    · exact ⟨f ch, rfl, stays ch⟩
    · exact ⟨ch, rfl, .refl ch⟩
  · rw [channels_onChannel, absent] at here
    split at here <;> cases here

/-- Telling notices touches no channel. -/
theorem setNotices (b : Broker) (refs : List Nat) (n : Notice) : Still b (b.setNotices refs n) :=
  of_fields rfl rfl rfl rfl

/-! ## Closing, listening and holding -/

/-- A channel that shuts loses its sinks, and says why in its state; nothing else is written. -/
theorem shut (b : Broker) (c : Nat) (reason : CloseReason) : Still b (b.shut c reason) := by
  unfold Broker.shut
  split
  · exact refl b
  · next ch here =>
    split
    · exact refl b
    · next live =>
      -- only the channel that closes is written over, and it was not closed before
      refine ⟨rfl, rfl, rfl, fun d x there => ?_, fun d x absent there => ?_⟩
      · rw [channels_onChannel]
        split
        · next own =>
          subst own
          cases here.symm.trans there
          refine ⟨_, congrArg (Option.map _) here, rfl, rfl, .inr ⟨rfl, rfl⟩, fun r closed => ?_⟩
          exact absurd (Channel.isClosed_iff.mpr ⟨r, closed⟩) live
        · exact ⟨x, there, .refl x⟩
      · rw [channels_onChannel, show (b.setNotices _ _).channels[d]? = none from absent] at there
        split at there <;> cases there

/-- A new notice is registered with an open channel, or told at once that the channel has closed. -/
theorem notifyClose (b : Broker) (c : Nat) : Still b (b.notifyClose c).2 := by
  unfold Broker.notifyClose
  simp only []
  split
  · exact of_fields rfl rfl rfl rfl
  · split
    · exact of_fields rfl rfl rfl rfl
    · have noted : Still b { b with notices := b.notices.push .waiting } := of_fields rfl rfl rfl rfl
      exact noted.trans (onChannel fun _ => ⟨rfl, rfl, .inl rfl, fun _ h => h⟩)

/-- One more holder is only counted. -/
theorem hold (b : Broker) (c : Nat) : Still b (b.hold c) :=
  onChannel fun _ => ⟨rfl, rfl, .inl rfl, fun _ h => h⟩

/-- The last holder that lets a channel go leaves those who listen without an answer, and nothing else. -/
theorem letGo (b : Broker) (c : Nat) : Still b (b.letGo c) := by
  have given : Still b (b.onChannel c fun ch => { ch with holders := ch.holders - 1 }) :=
    onChannel fun _ => ⟨rfl, rfl, .inl rfl, fun _ h => h⟩
  unfold Broker.letGo
  split
  · exact refl b
  · simp only []
    split
    · exact given.trans ((setNotices _ _ _).trans
        (onChannel fun _ => ⟨rfl, rfl, .inl rfl, fun _ h => h⟩))
    · exact given

/-- The client can shut a channel only if it is live; otherwise nothing happens. -/
theorem close (b : Broker) (c : Nat) : Still b (b.close c).broker := by
  unfold Broker.close
  split
  · exact shut b c none
  · exact refl b

/-- The same if the broker shuts it, for a reason of its own. -/
theorem terminate (b : Broker) (c : Nat) (reason : CloseReason) :
    Still b (b.terminate c reason).broker := by
  unfold Broker.terminate
  split
  · exact shut b c reason
  · exact refl b

/-! ## The connection -/

/-- A channel that is opened is in no confirm mode and has no sinks. -/
theorem openChannel (b : Broker) : Still b b.openChannel.broker := by
  unfold Broker.openChannel
  split
  · refine ⟨rfl, rfl, rfl, fun c ch here => ⟨ch, ?_, .refl ch⟩, fun c ch' absent here => ?_⟩
    · have inBounds := (Array.getElem?_eq_some_iff.mp here).1
      rw [channels_push, if_neg (Nat.ne_of_lt inBounds), here]
    · rw [channels_push, absent] at here
      split at here
      · cases here
        exact ⟨rfl, rfl⟩
      · cases here
  · exact refl b

/-- Of channels that are opened in a row, each is let go when the next one is open. The induction is on how many
are still to come. -/
theorem reopen (n : Nat) (c : Nat) (b : Broker) (notes : List Note) :
    Still b (reopen n c b notes).broker := by
  induction n generalizing c b notes with
  | zero => exact refl b
  | succ n ih =>
    have opens := openChannel b
    unfold Broker.reopen
    split
    · next opened =>
      rw [opened] at opens
      exact opens.trans ((letGo _ c).trans (ih _ _ _))
    · next refused =>
      rw [refused] at opens
      exact opens

/-- At least one channel is opened, unless the broker cannot be reached. -/
theorem openLast (b : Broker) (count : Nat) : Still b (b.openLast count).broker := by
  have opens := openChannel b
  unfold Broker.openLast
  split
  · next opened =>
    rw [opened] at opens
    exact opens.trans (reopen _ _ _ _)
  · exact opens

/-- A lost connection shuts every channel that is held, one after the other. -/
theorem disconnect (b : Broker) (error : Exception) : Still b (b.disconnect error).broker := by
  have shutAll : ∀ (cs : List Nat) (b : Broker),
      Still b (cs.foldl (fun b c => b.shut c (some error)) b) := by
    intro cs
    induction cs with
    | nil => exact refl
    | cons c cs ih => exact fun b => (shut b c _).trans (ih _)
  have away : Still b { b with available := false, registry := [] } := of_fields rfl rfl rfl rfl
  exact away.trans (shutAll _ _)

/-- A new exchange concerns later messages only. -/
theorem declare (b : Broker) (name : String) : Still b (b.declare name) := by
  unfold Broker.declare
  split
  · exact refl b
  · exact of_fields rfl rfl rfl rfl

end Still

end Relay.Broker
