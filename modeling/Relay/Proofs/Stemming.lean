import Relay.Proofs.Handlings
import Relay.Proofs.LoopMoves
import Relay.Proofs.Reports

/-!
# What stems from a call

The broker handles at most one message that stems from a call: none while no publish has begun for it, and
none before the loop that began one has handed the message over; afterwards exactly one, and the loop
carries what the broker answered until the caller has it. So what a caller is told is what the broker
answered to the one message that stems from the call.
-/

namespace Relay.Service

open Broker (Exception Delivery)
open Publisher (Failure)

variable {s s' : Service} {t u : Nat} {l : Loop} {c : Call} {a : Act} {acts : List Act} {h : Handling}

/-- What the broker made of the messages that stem from a call. -/
def stemming (acts : List Act) (u : Nat) : List Handling :=
  (handlings acts).filter fun h => h.caller? == some u

/-- A message that stems from a call is added to what does. -/
theorem stemming_of_handled (handles : (fresh.perform acts).handling? a = some h)
    (own : h.caller? = some u) : stemming (acts ++ [a]) u = stemming acts u ++ [h] := by
  rw [stemming, handlings_concat, handles, Option.toList_some, List.filter_append, ← stemming,
    List.filter_singleton, own, beq_self_eq_true, cond_true]

/-- Any other act adds nothing. -/
theorem stemming_of_unhandled
    (other : ∀ h, (fresh.perform acts).handling? a = some h → h.caller? ≠ some u) :
    stemming (acts ++ [a]) u = stemming acts u := by
  rw [stemming, handlings_concat, List.filter_append, ← stemming]
  cases found : (fresh.perform acts).handling? a with
  | none => exact List.append_nil _
  | some h =>
    rw [Option.toList_some, List.filter_singleton, beq_false_of_ne (other h found), cond_false,
      List.append_nil]

/-! ## Handing a message over -/

/-- A command that sends a message publishes it directly, on the channel of a handle. -/
theorem publishOn_of_dealing {c : Command} {m : Sending} (publishes : s.commandDealing c = .publish m) :
    ∃ handle exchange routingKey options message,
      c = .publishOn handle exchange routingKey options message ∧
        s.heldChannel? handle = some m.channel ∧
        m = ⟨none, m.channel, exchange, routingKey, options, message⟩ := by
  cases c with
  | publishOn handle exchange routingKey options message =>
    simp only [commandDealing] at publishes
    split at publishes
    · next held =>
      cases publishes
      exact ⟨_, _, _, _, _, rfl, held, rfl⟩
    · cases publishes
  | confirmSelect | dropSink | receive | notifyPublish =>
    simp only [commandDealing] at publishes
    repeat split at publishes
    all_goals cases publishes
  | _ => cases publishes

/-- A move that sends a message is that of a loop which publishes it for a call. -/
theorem publishing_of_dealing {m : Sending} (publishes : s.dealing (.move t) = .publish m) :
    ∃ l c notice u, s.loop? t = some l ∧ s.isHeldUp l = false ∧
      l.stage = .publishing notice u .entering ∧ s.call? u = some c ∧
      m = ⟨some (t, u), s.channelOf l.handle, (s.publisher l.publisher).exchange,
        c.request.routingKey, {}, c.request.message⟩ := by
  simp only [dealing] at publishes
  split at publishes
  · next l here =>
    split at publishes
    · cases publishes
    · next free =>
      unfold loopDealing at publishes
      split at publishes
      · cases publishes
      · split at publishes <;> cases publishes
      · next notice u stage =>
        split at publishes
        · next c there =>
          cases publishes
          exact ⟨l, c, notice, u, here, Bool.eq_false_iff.mpr free, stage, there, rfl⟩
        · cases publishes
      · cases publishes
  · cases publishes

/-- A message that stems from a call comes from the loop that publishes it. -/
theorem handling_of_caller (handles : s.handling? a = some h) (own : h.caller? = some u) :
    ∃ t l c notice, a = .move t ∧ s.loop? t = some l ∧ s.isHeldUp l = false ∧
      l.stage = .publishing notice u .entering ∧ s.call? u = some c ∧
      h.sending = ⟨some (t, u), s.channelOf l.handle, (s.publisher l.publisher).exchange,
        c.request.routingKey, {}, c.request.message⟩ := by
  obtain ⟨publishes, -, -⟩ := handling?_eq_some.mp handles
  rw [Handling.caller?] at own
  cases a with
  | command c passive =>
    obtain ⟨_, _, _, _, _, -, -, sent⟩ := publishOn_of_dealing publishes
    rw [sent] at own
    cases own
  | move t =>
    obtain ⟨l, c, notice, v, here, free, publishing, there, sent⟩ := publishing_of_dealing publishes
    rw [sent] at own
    cases own
    exact ⟨t, l, c, notice, rfl, here, free, publishing, there, sent⟩

/-- A loop that no wait holds up hands over the message that it publishes. -/
theorem handling_of_entering {notice : Option Nat} (here : s.loop? t = some l)
    (free : s.isHeldUp l = false) (publishing : l.stage = .publishing notice u .entering)
    (there : s.call? u = some c) :
    ∃ h, s.handling? (.move t) = some h ∧ h.caller? = some u := by
  let m : Sending := ⟨some (t, u), s.channelOf l.handle, (s.publisher l.publisher).exchange,
    c.request.routingKey, {}, c.request.message⟩
  refine ⟨⟨m, s.broker.hasExchange m.exchange, (m.outcome s.broker).value⟩, ?_, rfl⟩
  simp only [handling?, dealing, here, free, Bool.false_eq_true, if_false, loopDealing, publishing,
    there]
  rfl

/-- A loop that has handed over a message carries what the broker answered. -/
theorem loop_of_handled (handles : s.handling? a = some h) (own : h.caller? = some u) :
    ∃ t l notice, a = .move t ∧ h.sending.origin = some (t, u) ∧ s.loop? t = some l ∧
      l.stage = .publishing notice u .entering ∧
      (s.act a).loop? t = some { l with stage := .publishing notice u (.leaving h.result) } := by
  obtain ⟨t, l, c, notice, rfl, here, free, publishing, there, sending⟩ :=
    handling_of_caller handles own
  refine ⟨t, l, notice, rfl, by rw [sending], here, publishing, ?_⟩
  have value := (handling?_eq_some.mp handles).2.2
  rw [sending] at value
  have moves : s.move t = some (s.publishNow t l notice u) := by
    rw [move_of_loop here, moveLoop, free]
    simp only [Bool.false_eq_true, if_false, moveFreely, publishing]
  rw [act_move_of_some moves, Handling.result, value]
  unfold publishNow
  simp only [there]
  split <;> exact loop?_moveTo here _

/-! ## Loops on their way through a publish -/

/-- A loop that publishes was there before, has just begun, or has just handed over its message. -/
theorem publishing_before {notice : Option Nat} {phase : Phase} (sound : Sound s)
    (there : (s.act a).loop? t = some l) (publishing : l.stage = .publishing notice u phase) :
    s.loop? t = some l ∨
      (phase = .entering ∧ ∃ c, s.call? u = some c ∧ c.request.claimed = false) ∨
      ∃ x r, phase = .leaving r ∧ a = .move t ∧ s.loop? t = some x ∧
        x.stage = .publishing notice u .entering := by
  rcases sound.act_cases a with ⟨outer, -⟩ | ⟨k, x, stage, rfl, here, relocates, move⟩
  · exact .inl (outer.before (q := fun stage => stage = .publishing notice u phase) there publishing
      nofun nofun)
  · rcases relocates.before there with ⟨rfl, rfl⟩ | ⟨-, before⟩
    · obtain rfl : stage = .publishing notice u phase := publishing
      cases move with
      | accept _ _ _ begins => rcases begins with begins | begins <;> cases begins
      | begin _ _ _ _ _ _ _ _ _ _ claims =>
        obtain ⟨c, at_u, unclaimed, -⟩ := claims
        exact .inr (.inl ⟨rfl, c, call?_eq_some.mpr at_u, unclaimed⟩)
      | advance leads =>
        generalize before : x.stage = stage at leads
        cases leads with
        | publish => exact .inr (.inr ⟨x, _, rfl, rfl, here, before⟩)
    · exact .inl before

/-- A loop that publishes carries the call that it publishes for. -/
theorem carries_of_publishing {notice : Option Nat} {phase : Phase} (here : s.loop? t = some l)
    (publishing : l.stage = .publishing notice u phase) : s.carries t = some u := by
  rw [carries, loop?_eq_some.mp here, Option.bind_some, Task.caller?, publishing]
  rfl

/-- A call is carried by one loop at most. -/
theorem Sound.carrier_unique {k : Nat} (sound : Sound s) (carried : s.carries t = some u)
    (carried' : s.carries k = some u) : t = k := by
  obtain ⟨F, accounted⟩ := sound.accounted
  obtain ⟨h, fate⟩ := (accounted.carried t u).mp carried
  obtain ⟨h', fate'⟩ := (accounted.carried k u).mp carried'
  rw [fate] at fate'
  cases fate'
  rfl

/-- A publish has begun for a call that a loop carries, and for none that is unclaimed. -/
theorem Sound.publishesFor_of_carries (sound : Sound s) (carried : s.carries t = some u) :
    s.publishesFor u ≠ [] := by
  obtain ⟨F, accounted⟩ := sound.accounted
  obtain ⟨h, fate⟩ := (accounted.carried t u).mp carried
  obtain ⟨c, there⟩ := accounted.call?_of_underWay fate
  have publishes := (accounted.call u c there).publishesFor
  rw [fate] at publishes
  rw [publishes]
  exact nofun

/-- No publish has begun for a request that nobody has claimed. -/
theorem Sound.publishesFor_of_unclaimed (sound : Sound s) (there : s.call? u = some c)
    (unclaimed : c.request.claimed = false) : s.publishesFor u = [] := by
  obtain ⟨F, accounted⟩ := sound.accounted
  have fits := accounted.call u c there
  rw [fits.publishesFor]
  cases opener : (F u).opener? with
  | none => rfl
  | some x =>
    rw [(fits.claimed_of_opener opener).1] at unclaimed
    cases unclaimed

/-- A loop publishes for a call that is there. -/
theorem Sound.call_of_publishing {notice : Option Nat} {phase : Phase} (sound : Sound s)
    (here : s.loop? t = some l) (publishing : l.stage = .publishing notice u phase) :
    ∃ c, s.call? u = some c := by
  obtain ⟨F, accounted⟩ := sound.accounted
  exact call?_of_publishing accounted (loop?_eq_some.mp here) publishing

/-! ## One message at most -/

/-- The one message that stems from a call was handed over by a loop, and answered so. -/
def HandledOnce (acts : List Act) (u t : Nat) (r : Except Exception Unit) : Prop :=
  ∃ h, stemming acts u = [h] ∧ h.result = r ∧ h.sending.origin = some (t, u)

/-- What the broker has handled is what calls and loops know of. -/
structure Stems (acts : List Act) : Prop where
  once : ∀ u, (stemming acts u).length ≤ 1
  unopened : ∀ u, (fresh.perform acts).publishesFor u = [] → stemming acts u = []
  entering : ∀ t l notice u, (fresh.perform acts).loop? t = some l →
    l.stage = .publishing notice u .entering → stemming acts u = []
  leaving : ∀ t l notice u r, (fresh.perform acts).loop? t = some l →
    l.stage = .publishing notice u (.leaving r) → HandledOnce acts u t r
  returned : ∀ t u r, .returned t u r ∈ (fresh.perform acts).journal → HandledOnce acts u t r

namespace Stems

/-- Before anything happens nothing stems from a call. -/
theorem nil : Stems [] where
  once _ := Nat.zero_le 1
  unopened _ _ := rfl
  entering t l _ _ here := by cases here
  leaving t l _ _ _ here := by cases here
  returned t u r told := by cases told

section Act

variable (stems : Stems acts)

include stems

/-- What holds of a call whose message is handed over. -/
theorem handled (handles : (fresh.perform acts).handling? a = some h) (own : h.caller? = some u) :
    (stemming (acts ++ [a]) u).length ≤ 1 ∧
      (fresh.perform (acts ++ [a])).publishesFor u ≠ [] ∧
      (∀ t l notice, (fresh.perform (acts ++ [a])).loop? t = some l →
        l.stage ≠ .publishing notice u .entering) ∧
      (∀ t l notice r, (fresh.perform (acts ++ [a])).loop? t = some l →
        l.stage = .publishing notice u (.leaving r) → HandledOnce (acts ++ [a]) u t r) ∧
      ∀ t r, .returned t u r ∉ (fresh.perform (acts ++ [a])).journal := by
  have sound : Sound (fresh.perform acts) := sound_perform acts
  obtain ⟨t, l, notice, rfl, origin, here, publishing, there⟩ := loop_of_handled handles own
  have before := stems.entering t l notice u here publishing
  have after : stemming (acts ++ [.move t]) u = [h] := by
    rw [stemming_of_handled handles own, before, List.nil_append]
  have sound' : Sound (fresh.perform (acts ++ [.move t])) := sound_perform _
  rw [perform_concat] at sound' ⊢
  have carried := carries_of_publishing there rfl
  refine ⟨by rw [after]; exact Nat.le_refl 1, sound'.publishesFor_of_carries carried,
    fun k x n at_k stage => ?_, fun k x n r at_k stage => ?_, fun k r told => ?_⟩
  · obtain rfl := sound'.carrier_unique carried (carries_of_publishing at_k stage)
    rw [there] at at_k
    cases at_k
    cases stage
  · obtain rfl := sound'.carrier_unique carried (carries_of_publishing at_k stage)
    rw [there] at at_k
    cases at_k
    cases stage
    exact ⟨h, after, rfl, origin⟩
  · -- the loop has not come back yet, and no other loop was told of this call
    rcases (mem_journal_act sound rfl).mp told with now | earlier
    · simp only [report?, here, loopReport?, publishing, ite_self] at now
      cases now
    · obtain ⟨h', one, -⟩ := stems.returned k u r earlier
      rw [before] at one
      cases one

/-- What was handed over of a call stays, if nothing is handed over for it by an act. -/
theorem unhandled (same : stemming (acts ++ [a]) u = stemming acts u)
    (other : ∀ h, (fresh.perform acts).handling? a = some h → h.caller? ≠ some u) :
    ((fresh.perform (acts ++ [a])).publishesFor u = [] → stemming acts u = []) ∧
      (∀ t l notice, (fresh.perform (acts ++ [a])).loop? t = some l →
        l.stage = .publishing notice u .entering → stemming acts u = []) ∧
      (∀ t l notice r, (fresh.perform (acts ++ [a])).loop? t = some l →
        l.stage = .publishing notice u (.leaving r) → HandledOnce acts u t r) ∧
      ∀ t r, .returned t u r ∈ (fresh.perform (acts ++ [a])).journal → HandledOnce acts u t r := by
  have sound : Sound (fresh.perform acts) := sound_perform acts
  rw [perform_concat]
  refine ⟨fun unopened => stems.unopened u ?_, fun t l notice there publishing => ?_,
    fun t l notice r there publishing => ?_, fun t r told => ?_⟩
  · obtain ⟨added, longer⟩ := (sound.act a).2.journal
    rw [publishesFor, ← longer, List.filter_append, List.append_eq_nil_iff] at unopened
    exact unopened.2
  · rcases publishing_before sound there publishing with before | ⟨-, c, at_u, unclaimed⟩ |
      ⟨_, _, leaving, -⟩
    · exact stems.entering t l notice u before publishing
    · exact stems.unopened u (sound.publishesFor_of_unclaimed at_u unclaimed)
    · cases leaving
  · rcases publishing_before sound there publishing with before | ⟨entering, -⟩ |
      ⟨x, r', -, rfl, here, entering⟩
    · exact stems.leaving t l notice u r before publishing
    · cases entering
    · -- the loop handed over its message with this act
      exfalso
      obtain ⟨c, at_u⟩ := sound.call_of_publishing here entering
      cases free : (fresh.perform acts).isHeldUp x with
      | false =>
        obtain ⟨h, handles, own⟩ := handling_of_entering here free entering at_u
        exact other h handles own
      | true =>
        have stuck : (fresh.perform acts).move t = none := by
          rw [move_of_loop here, moveLoop, if_pos free]
        rw [act_move_of_none stuck, here] at there
        cases there
        rw [entering] at publishing
        cases publishing
  · rcases (mem_journal_act sound rfl).mp told with now | earlier
    · cases a with
      | command => cases now
      | move k =>
        simp only [report?] at now
        split at now
        · next l here =>
          split at now
          · cases now
          · unfold loopReport? at now
            split at now
            · cases now
            · next notice v result publishing =>
              obtain ⟨c, -, same⟩ := Option.map_eq_some_iff.mp now
              cases same
              exact stems.leaving _ l notice _ _ here publishing
            · cases now
        · cases now
    · exact stems.returned t u r earlier

/-- Every act keeps it so that one message stems from a call at most. -/
theorem act (a : Act) : Stems (acts ++ [a]) := by
  have split : ∀ u, (∃ h, (fresh.perform acts).handling? a = some h ∧ h.caller? = some u) ∨
      ∀ h, (fresh.perform acts).handling? a = some h → h.caller? ≠ some u := by
    intro u
    by_cases handled : ∃ h, (fresh.perform acts).handling? a = some h ∧ h.caller? = some u
    · exact .inl handled
    · exact .inr fun h handles own => handled ⟨h, handles, own⟩
  have kept : ∀ {u t r}, stemming (acts ++ [a]) u = stemming acts u → HandledOnce acts u t r →
      HandledOnce (acts ++ [a]) u t r := by
    rintro u t r same ⟨h, one, result, origin⟩
    exact ⟨h, by rw [same, one], result, origin⟩
  refine ⟨fun u => ?_, fun u unopened => ?_, fun t l notice u there publishing => ?_,
    fun t l notice u r there publishing => ?_, fun t u r told => ?_⟩
  all_goals rcases split u with ⟨h, handles, own⟩ | other
  · exact (stems.handled handles own).1
  · rw [stemming_of_unhandled other]
    exact stems.once u
  · exact absurd unopened (stems.handled handles own).2.1
  · rw [stemming_of_unhandled other]
    exact (stems.unhandled (stemming_of_unhandled other) other).1 unopened
  · exact absurd publishing ((stems.handled handles own).2.2.1 t l notice there)
  · rw [stemming_of_unhandled other]
    exact (stems.unhandled (stemming_of_unhandled other) other).2.1 t l notice there publishing
  · exact (stems.handled handles own).2.2.2.1 t l notice r there publishing
  · have same := stemming_of_unhandled other
    exact kept same ((stems.unhandled same other).2.2.1 t l notice r there publishing)
  · exact absurd told ((stems.handled handles own).2.2.2.2 t r)
  · have same := stemming_of_unhandled other
    exact kept same ((stems.unhandled same other).2.2.2 t r told)

end Act

/-- So does every run. -/
theorem perform (acts : List Act) : Stems acts := by
  induction acts using List.reverseRecOn with
  | nil => exact .nil
  | append_singleton acts a ih => exact ih.act a

end Stems

end Relay.Service
