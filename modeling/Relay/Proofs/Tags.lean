import Mathlib.Data.List.TakeWhile
import Relay.Proofs.Registrations

/-!
# Tags

On every channel the messages that are accepted are counted from the moment when confirm mode is first
granted, and the number of a message is the tag of its confirmation. `marks` lists what happens to the count
of a channel over a run, which is confirm mode granted and messages accepted and nothing else, and `counted`
the messages that count. So messages from before confirm mode, requests for it that are refused or come again,
and messages that are not accepted neither use up a tag nor begin again with the first.
-/

namespace Relay.Service

open Broker (Confirmation Delivery)

/-- What happens to the count of a channel. -/
inductive Mark where
  /-- Somebody is granted confirm mode. -/
  | granted
  /-- A message is accepted, and answered positively or negatively. -/
  | accepted (delivery : Delivery) (ack : Bool)

namespace Mark

/-- The mark of confirm mode. -/
def isGrant : Mark → Bool
  | granted => true
  | accepted .. => false

/-- The next tag after it: a message uses one up, and confirm mode brings the first one if there was none. -/
def next (tag : Option Nat) : Mark → Option Nat
  | granted => some (tag.getD 1)
  | accepted .. => tag.map (· + 1)

/-- The message that is accepted, with the answer to it. -/
def message? : Mark → Option (Delivery × Bool)
  | granted => none
  | accepted delivery ack => some (delivery, ack)

end Mark

namespace Dealing

/-- What a dealing does to the count of a channel. -/
def mark? (b : Broker) (c : Nat) : Dealing → Option Mark
  | .publish m =>
    if m.channel = c then
      (Broker.accepted? (m.outcome b).value).map (.accepted · (b.nacks == 0))
    else none
  | .select _ d =>
    if d = c then
      match (b.confirmSelect c).1 with
      | .ok () => some .granted
      | .error _ => none
    else none
  | _ => none

/-- The confirmation of the message that a dealing has accepted on a channel, if it is in confirm mode. -/
def confirming? (b : Broker) (c : Nat) (d : Dealing) : Option Confirmation :=
  match d.mark? b c with
  | some (.accepted _ ack) => (b.tagOn c).map (⟨·, ack⟩)
  | _ => none

end Dealing

/-- What happened to the count of a channel in the course of a run. -/
def marks (acts : List Act) (c : Nat) : List Mark :=
  gather (fun s a => (s.dealing a).mark? s.broker c) fresh acts

/-- Whether confirm mode was granted on a channel. -/
def isConfirming (acts : List Act) (c : Nat) : Bool := (marks acts c).any Mark.isGrant

/-- The messages that were accepted on a channel since confirm mode was first granted, with the answers. -/
def counted (acts : List Act) (c : Nat) : List (Delivery × Bool) :=
  ((marks acts c).dropWhile fun mark => !mark.isGrant).filterMap Mark.message?

/-- The confirmations of the messages that were accepted on a channel. -/
def confirmationsOn (acts : List Act) (c : Nat) : List Confirmation :=
  gather (fun s a => (s.dealing a).confirming? s.broker c) fresh acts

variable {acts : List Act} {a : Act} {b b' : Broker} {c : Nat} {d : Dealing}

/-! ## What an act does to a count -/

/-- Who does not use a channel leaves its count. -/
theorem Dealing.mark?_of_unused (unused : d.user? c = none) : d.mark? b c = none := by
  cases d with
  | publish m =>
    refine if_neg fun own => ?_
    rw [user?, if_pos own] at unused
    cases unused
  | select user e =>
    refine if_neg fun own => ?_
    rw [user?, if_pos own] at unused
    cases unused
  | _ => rfl

/-- Nothing else matters for the next tag of a channel. -/
theorem Dealing.Does.tagOn (does : d.Does b b') :
    b'.tagOn c = (d.mark? b c).elim (b.tagOn c) (Mark.next (b.tagOn c)) := by
  cases uses : d.user? c with
  | none => rw [mark?_of_unused uses, does.tagOn_of_unused uses, Option.elim_none]
  | some user =>
    cases d with
    | publish m =>
      rw [user?, Option.ite_none_right_eq_some] at uses
      obtain ⟨rfl, -⟩ := uses
      rw [does.tagOn_publish, mark?, if_pos rfl]
      cases Broker.accepted? (m.outcome b).value <;> rfl
    | select loop e =>
      rw [user?, Option.ite_none_right_eq_some] at uses
      obtain ⟨rfl, -⟩ := uses
      rw [show b' = _ from does, Broker.tagOn_confirmSelect, mark?, if_pos rfl]
      cases (b.confirmSelect e).1 <;> rfl
    | _ => cases uses

/-- A channel is marked with a message that is accepted on it. -/
theorem Dealing.mark?_eq_accepted {delivery : Delivery} {ack : Bool} :
    d.mark? b c = some (.accepted delivery ack) ↔ ∃ m, d = .publish m ∧ m.channel = c ∧
      Broker.accepted? (m.outcome b).value = some delivery ∧ ack = (b.nacks == 0) := by
  constructor
  · intro marked
    cases d with
    | publish m =>
      rw [mark?, Option.ite_none_right_eq_some, Option.map_eq_some_iff] at marked
      obtain ⟨own, _, accepted, same⟩ := marked
      cases same
      exact ⟨m, rfl, own, accepted, rfl⟩
    | select loop e =>
      rw [mark?, Option.ite_none_right_eq_some] at marked
      obtain ⟨-, marked⟩ := marked
      -- a channel that is put into confirm mode is marked too, but as no acceptance
      split at marked <;> cases marked
    | _ => cases marked
  · rintro ⟨m, rfl, own, accepted, rfl⟩
    rw [mark?, if_pos own, accepted]
    rfl

/-- What is confirmed is a message that is accepted on a channel in confirm mode. -/
theorem Dealing.confirming?_eq_some {x : Confirmation} : d.confirming? b c = some x ↔
    ∃ m delivery, d = .publish m ∧ m.channel = c ∧
      Broker.accepted? (m.outcome b).value = some delivery ∧ b.tagOn c = some x.tag ∧
      x.ack = (b.nacks == 0) := by
  constructor
  · intro confirms
    rw [confirming?] at confirms
    split at confirms
    · next delivery ack marked =>
      obtain ⟨m, publishes, own, accepted, ack⟩ := mark?_eq_accepted.mp marked
      obtain ⟨tag, next, rfl⟩ := Option.map_eq_some_iff.mp confirms
      exact ⟨m, delivery, publishes, own, accepted, next, ack⟩
    · cases confirms
  · rintro ⟨m, delivery, publishes, own, accepted, next, ack⟩
    rw [confirming?, mark?_eq_accepted.mpr ⟨m, publishes, own, accepted, rfl⟩, next, ← ack]
    rfl

/-- Nothing but a publish is confirmed. -/
theorem Dealing.confirming?_of_not_publish (other : ∀ m, d ≠ .publish m) :
    d.confirming? b c = none := by
  refine Option.eq_none_iff_forall_not_mem.mpr fun x confirms => ?_
  obtain ⟨m, -, publishes, -⟩ := confirming?_eq_some.mp confirms
  exact other m publishes

/-! ## Counting over a run -/

/-- The last act adds the mark that it leaves. -/
theorem marks_concat (acts : List Act) (a : Act) (c : Nat) : marks (acts ++ [a]) c = marks acts c ++
    (((fresh.perform acts).dealing a).mark? (fresh.perform acts).broker c).toList :=
  gather_concat _ fresh acts a

/-- A channel is in confirm mode from its first grant on. -/
theorem isConfirming_concat (acts : List Act) (a : Act) (c : Nat) : isConfirming (acts ++ [a]) c =
    (isConfirming acts c ||
      (((fresh.perform acts).dealing a).mark? (fresh.perform acts).broker c).any Mark.isGrant) := by
  rw [isConfirming, marks_concat, List.any_append, ← isConfirming]
  cases Dealing.mark? _ c _ <;> simp

/-- Before confirm mode is granted there is nothing that could count. -/
theorem dropWhile_marks : ((marks acts c).dropWhile fun mark => !mark.isGrant) = [] ↔
    isConfirming acts c = false := by
  rw [List.dropWhile_eq_nil_iff, isConfirming, List.any_eq_false]
  simp only [Bool.not_eq_true', Bool.not_eq_true]

/-- Before confirm mode no message counts. -/
theorem counted_of_not_isConfirming (outside : isConfirming acts c = false) : counted acts c = [] := by
  rw [counted, dropWhile_marks.mpr outside, List.filterMap_nil]

/-- A message counts if it is accepted in confirm mode. -/
theorem counted_concat (acts : List Act) (a : Act) (c : Nat) : counted (acts ++ [a]) c = counted acts c ++
    if isConfirming acts c then
      ((((fresh.perform acts).dealing a).mark? (fresh.perform acts).broker c).bind Mark.message?).toList
    else [] := by
  rw [counted, marks_concat, List.dropWhile_append]
  cases confirming : isConfirming acts c with
  | true =>
    -- what is dropped ends with the first grant, so once there is one the last act only adds at the end
    have begun : ((marks acts c).dropWhile fun mark => !mark.isGrant).isEmpty = false := by
      rw [← Bool.not_eq_true, List.isEmpty_iff, dropWhile_marks, confirming]
      exact Bool.noConfusion
    rw [begun, if_neg Bool.false_ne_true, if_pos rfl, List.filterMap_append, ← counted]
    cases Dealing.mark? _ c _ with
    | none => rfl
    | some mark => cases mark <;> rfl
  | false =>
    rw [dropWhile_marks.mpr confirming, counted_of_not_isConfirming confirming]
    cases Dealing.mark? _ c _ with
    | none => rfl
    | some mark => cases mark <;> rfl

/-- The next tag of a channel in confirm mode is one more than the messages that counted. -/
theorem tagOn_perform (acts : List Act) (c : Nat) : (fresh.perform acts).broker.tagOn c =
    if isConfirming acts c then some ((counted acts c).length + 1) else none := by
  induction acts using List.reverseRecOn with
  | nil => rfl
  | append_singleton acts a ih =>
    rw [perform_concat, ((fresh.perform acts).deals a).tagOn, ih, isConfirming_concat, counted_concat]
    cases confirming : isConfirming acts c with
    | true =>
      cases Dealing.mark? _ c _ with
      | none => simp
      | some mark => cases mark <;> simp [Mark.message?, Mark.next, Mark.isGrant]
    | false =>
      rw [counted_of_not_isConfirming confirming]
      cases Dealing.mark? _ c _ with
      | none => rfl
      | some mark => cases mark <;> rfl

/-- An act confirms a message with the next tag if it has one accepted in confirm mode. -/
theorem confirming?_act (acts : List Act) (a : Act) (c : Nat) :
    ((fresh.perform acts).dealing a).confirming? (fresh.perform acts).broker c =
      if isConfirming acts c then
        ((((fresh.perform acts).dealing a).mark? (fresh.perform acts).broker c).bind Mark.message?).map
          fun x => ⟨(counted acts c).length + 1, x.2⟩
      else none := by
  rw [Dealing.confirming?, tagOn_perform]
  cases isConfirming acts c with
  | true =>
    cases Dealing.mark? _ c _ with
    | none => rfl
    | some mark => cases mark <;> rfl
  | false =>
    cases Dealing.mark? _ c _ with
    | none => rfl
    | some mark => cases mark <;> rfl

/-- The last act adds the confirmation that it has sent. -/
theorem confirmationsOn_concat (acts : List Act) (a : Act) (c : Nat) :
    confirmationsOn (acts ++ [a]) c = confirmationsOn acts c ++
      (((fresh.perform acts).dealing a).confirming? (fresh.perform acts).broker c).toList :=
  gather_concat _ fresh acts a

/-- The messages that count are confirmed, each with its number. -/
theorem confirmationsOn_eq (acts : List Act) (c : Nat) :
    confirmationsOn acts c = ((counted acts c).zipIdx 1).map fun x => ⟨x.2, x.1.2⟩ := by
  induction acts using List.reverseRecOn with
  | nil => rfl
  | append_singleton acts a ih =>
    rw [confirmationsOn_concat, ih, confirming?_act, counted_concat]
    cases isConfirming acts c with
    | true =>
      cases Option.bind _ Mark.message? with
      | none => simp
      | some x => simp [List.zipIdx_append, Nat.add_comm]
    | false => simp

/-- The tags on a channel run 1, 2, 3 and so on. -/
theorem tags_confirmationsOn (acts : List Act) (c : Nat) :
    (confirmationsOn acts c).map Confirmation.tag = List.range' 1 (counted acts c).length := by
  rw [confirmationsOn_eq, List.map_map, ← List.zipIdx_map_snd]
  rfl

end Relay.Service
