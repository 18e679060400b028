import Relay.Proofs.Handlings

/-!
# What confirmations an acceptance sends

A message accepted on a channel in confirm mode is confirmed with the next tag to every sink that is
registered, once for each registration, and negatively exactly if a nack was pending. Outside confirm mode
nobody learns of it, though the nack is used up all the same.
-/

namespace Relay.Broker

variable {b : Broker} {c k : Nat} {ch : Channel}

/-! ## Sending to sinks -/

namespace Sink

/-- How many of some copies of a confirmation a sink gets: all of them, those for which it has room, or none
if nobody takes from it. -/
def share (copies : Nat) (s : Sink) : Nat :=
  if s.connected then
    match s.capacity with
    | none => copies
    | some n => min copies (n - s.queue.length)
  else 0

/-- A sink that was sent some copies of a confirmation. -/
def given (x : Confirmation) (copies : Nat) (s : Sink) : Sink :=
  { s with queue := s.queue ++ List.replicate (s.share copies) x }

variable {x : Confirmation} {s : Sink} {n : Nat}

@[simp] theorem given_zero : s.given x 0 = s := by
  have nothing : s.share 0 = 0 := by
    unfold share
    split
    · split
      · rfl
      · exact Nat.zero_min _
    · rfl
  rw [given, nothing, List.replicate_zero, List.append_nil]

theorem share_of_unbounded (unbounded : s.capacity = none) (connected : s.connected = true) :
    s.share n = n := by
  rw [share, if_pos connected, unbounded]

theorem share_of_gone (gone : s.connected = false) : s.share n = 0 := by
  rw [share, gone]
  rfl

/-- A sink without room misses one copy. -/
theorem given_succ_of_full (full : s.hasRoom = false) : s.given x (n + 1) = s.given x n := by
  cases bounded : s.capacity with
  | none =>
    rw [hasRoom, bounded] at full
    cases full
  | some m =>
    simp only [hasRoom, bounded, decide_eq_false_iff_not, Nat.not_lt] at full
    have none : m - s.queue.length = 0 := Nat.sub_eq_zero_of_le full
    simp only [given, share, bounded, none, Nat.min_zero]

/-- A sink with room gets one copy first. -/
theorem given_succ_of_room (connected : s.connected = true) (room : s.hasRoom = true) :
    s.given x (n + 1) = Sink.given x n { s with queue := s.queue ++ [x] } := by
  have share : s.share (n + 1) = share n { s with queue := s.queue ++ [x] } + 1 := by
    cases bounded : s.capacity with
    | none => simp [Sink.share, connected, bounded]
    | some m =>
      simp only [hasRoom, bounded, decide_eq_true_eq] at room
      simp only [Sink.share, connected, bounded, if_true, List.length_append, List.length_singleton]
      omega
  rw [given, share, List.replicate_succ, given, List.append_assoc, List.singleton_append]

end Sink

/-- Whether somebody takes from a sink. -/
def isTaken (sinks : Array Sink) (k : Nat) : Bool := sinks[k]?.any Sink.connected

/-- Writing to the queue of a sink changes nothing for those who take from it. -/
theorem isTaken_modify (sinks : Array Sink) (j : Nat) {f : Sink → Sink}
    (same : ∀ s, (f s).connected = s.connected) : isTaken (sinks.modify j f) = isTaken sinks := by
  funext k
  rw [isTaken, Array.getElem?_modify, isTaken]
  split
  · cases sinks[k]? <;> simp [same]
  · rfl

/-- A sink stays registered as often as it is, unless nobody takes from it. -/
theorem send_kept (x : Confirmation) (ks : List Nat) (sinks : Array Sink) :
    (send x ks sinks).1 = ks.filter (isTaken sinks) := by
  fun_induction send x ks sinks with
  | case1 => rfl
  | case2 j ks sinks absent ih =>
    rw [ih, List.filter_cons_of_neg (by simp [isTaken, absent])]
  | case3 j ks sinks sink here gone ih =>
    rw [ih, List.filter_cons_of_neg (by simpa [isTaken, here] using gone)]
  | case4 j ks sinks sink here connected room kept sinks' notes sent ih =>
    have taken : isTaken sinks j = true := by simpa [isTaken, here] using connected
    rw [sent, isTaken_modify sinks j] at ih
    · exact (congrArg (j :: ·) ih).trans (List.filter_cons_of_pos taken).symm
    · exact fun _ => rfl
  | case5 j ks sinks sink here connected full kept sinks' notes sent ih =>
    have taken : isTaken sinks j = true := by simpa [isTaken, here] using connected
    rw [sent] at ih
    exact (congrArg (j :: ·) ih).trans (List.filter_cons_of_pos taken).symm

/-- Every sink is sent one copy for each of its registrations, whatever becomes of the others. -/
theorem sinks_send (x : Confirmation) (ks : List Nat) (sinks : Array Sink) (k : Nat) :
    (send x ks sinks).2.1[k]? = sinks[k]?.map (Sink.given x (ks.count k)) := by
  -- a registration of another sink does not count
  have skip : ∀ {j : Nat} {ks : List Nat}, j ≠ k → (j :: ks).count k = ks.count k :=
    fun other => List.count_cons_of_ne other
  fun_induction send x ks sinks with
  | case1 sinks =>
    rw [List.count_nil]
    cases sinks[k]? <;> simp
  | case2 j ks sinks absent ih =>
    rw [ih]
    by_cases own : j = k
    · subst own
      rw [absent, Option.map_none, Option.map_none]
    · rw [skip own]
  | case3 j ks sinks sink here gone ih =>
    rw [ih]
    by_cases own : j = k
    · subst own
      have gone : sink.connected = false := by simpa using gone
      simp only [here, Option.map_some, Sink.given, Sink.share_of_gone gone]
    · rw [skip own]
  | case4 j ks sinks sink here connected room kept sinks' notes sent ih =>
    rw [sent] at ih
    rw [ih, Array.getElem?_modify]
    by_cases own : j = k
    · subst own
      have connected : sink.connected = true := by simpa using connected
      rw [if_pos rfl, here, Option.map_some, Option.map_some, Option.map_some, List.count_cons_self,
        Sink.given_succ_of_room connected room]
    · rw [if_neg own, skip own]
  | case5 j ks sinks sink here connected full kept sinks' notes sent ih =>
    rw [sent] at ih
    rw [ih]
    by_cases own : j = k
    · subst own
      rw [here, Option.map_some, Option.map_some, List.count_cons_self,
        Sink.given_succ_of_full (Bool.eq_false_iff.mpr full)]
    · rw [skip own]

/-! ## Accepting a message -/

/-- A message on a channel outside confirm mode is not confirmed. -/
theorem confirm_of_none (here : b.channels[c]? = some ch) (outside : ch.nextTag = none)
    (ack : Bool) : (b.confirm c ack).broker = b := by
  simp only [confirm, here, outside]

/-- In confirm mode the next tag is used up, and the sinks that are registered get the confirmation. -/
theorem confirm_of_some {tag : Nat} (here : b.channels[c]? = some ch) (next : ch.nextTag = some tag)
    (ack : Bool) :
    (b.confirm c ack).broker.channels[c]? =
        some { ch with
          nextTag := some (tag + 1), sinks := (send ⟨tag, ack⟩ ch.sinks b.sinks).1 } ∧
      (∀ d, d ≠ c → (b.confirm c ack).broker.channels[d]? = b.channels[d]?) ∧
      (b.confirm c ack).broker.sinks = (send ⟨tag, ack⟩ ch.sinks b.sinks).2.1 := by
  simp only [confirm, here, next]
  refine ⟨channels_onChannel_self (b := { b with sinks := _ }) here _, fun d other => ?_, rfl⟩
  exact channels_onChannel_of_ne { b with sinks := _ } other _

/-- Accepting is confirming after the message is recorded and a nack used up, if one is pending. -/
theorem accept_eq (b : Broker) (c : Nat) (delivery : Delivery) :
    b.accept c delivery =
      { b with published := b.published ++ [delivery], nacks := b.nacks - 1 }.confirm c
        (b.nacks == 0) := by
  unfold accept
  simp only []
  split
  · next none => rw [none]; rfl
  · next pending => rw [beq_false_of_ne pending]

/-- An acceptance outside confirm mode leaves channels and sinks. -/
theorem accept_of_none (here : b.channels[c]? = some ch) (outside : ch.nextTag = none)
    (delivery : Delivery) : (b.accept c delivery).broker.channels = b.channels ∧
      (b.accept c delivery).broker.sinks = b.sinks := by
  let recorded : Broker :=
    { b with published := b.published ++ [delivery], nacks := b.nacks - 1 }
  have there : recorded.channels[c]? = some ch := here
  have left := confirm_of_none there outside (b.nacks == 0)
  rw [accept_eq]
  exact ⟨(congrArg Broker.channels left :), (congrArg Broker.sinks left :)⟩

/-- What an acceptance in confirm mode leaves of the channel and of the sinks. -/
theorem accept_of_some {tag : Nat} (here : b.channels[c]? = some ch) (next : ch.nextTag = some tag)
    (delivery : Delivery) :
    (b.accept c delivery).broker.channels[c]? = some { ch with
        nextTag := some (tag + 1), sinks := (send ⟨tag, b.nacks == 0⟩ ch.sinks b.sinks).1 } ∧
      (∀ d, d ≠ c → (b.accept c delivery).broker.channels[d]? = b.channels[d]?) ∧
      (b.accept c delivery).broker.sinks = (send ⟨tag, b.nacks == 0⟩ ch.sinks b.sinks).2.1 := by
  let recorded : Broker :=
    { b with published := b.published ++ [delivery], nacks := b.nacks - 1 }
  have there : recorded.channels[c]? = some ch := here
  rw [accept_eq]
  exact confirm_of_some there next (b.nacks == 0)

end Relay.Broker
