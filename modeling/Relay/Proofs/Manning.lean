import Relay.Proofs.Holding
import Relay.Proofs.Hearing
import Mathlib.Data.Finset.Card

/-!
# Who holds a channel

A channel is held by its handle, until the outside gives that up, and by every loop that was given it and
is not over. The holders that the broker counts are at least these, so a channel on which a loop serves does
not vanish, and the notice that the loop listens to follows the channel: it waits while the channel is
live, and tells the reason once the channel has closed.
-/

namespace Relay.Service

open Broker (Clings Exception)
open Publisher (Detach Failure)

variable {s s' r : Service} {t : Nat} {l : Loop}

/-- Who holds a channel: a handle, or a loop that is not over. -/
def Claims (s : Service) (c : Nat) : Nat ⊕ Nat → Prop
  | .inl h => s.heldChannel? h = some c
  | .inr t => ∃ l, s.loop? t = some l ∧ (Task.loop l).isOver = false ∧ s.channelOf l.handle = c

/-- What happens to those who hold channels. -/
inductive Grip (s s' : Service) : Prop
  | rests (clings : Clings s.broker s'.broker) (claims : ∀ c x, s'.Claims c x → s.Claims c x)
  /-- Somebody opens a channel. -/
  | opens {c : Nat} {x : Nat ⊕ Nat} (clings : Clings s.broker s'.broker)
      (new : s.broker.channels[c]? = none)
      (once : ∃ ch, s'.broker.channels[c]? = some ch ∧ ch.holders = 1)
      (claims : ∀ d y, s'.Claims d y → s.Claims d y ∨ d = c ∧ y = x)
  /-- Somebody is given a channel. -/
  | joins {c : Nat} {x : Nat ⊕ Nat} (broker : s'.broker = s.broker.hold c)
      (claims : ∀ d y, s'.Claims d y → s.Claims d y ∨ d = c ∧ y = x)
  /-- Somebody lets a channel go. -/
  | leaves {c : Nat} {x : Nat ⊕ Nat} (own : s.Claims c x) (broker : s'.broker = s.broker.letGo c)
      (claims : ∀ d y, s'.Claims d y → s.Claims d y ∧ y ≠ x)

/-- The same handles are held by the outside. -/
theorem heldChannel?_of_handles (same : s'.handles = s.handles) (h : Nat) :
    s'.heldChannel? h = s.heldChannel? h := by
  rw [heldChannel?, same, heldChannel?]

/-- The same handles stand for the same channels. -/
theorem channelOf_of_handles (same : s'.handles = s.handles) (h : Nat) :
    s'.channelOf h = s.channelOf h := by
  rw [channelOf, same, channelOf]

section Push

variable {k : Handle} (pushed : s'.handles = s.handles.push k)

include pushed

/-- A new handle is held; the others are as they were. -/
theorem heldChannel?_of_push (held : k.held = true) (h : Nat) :
    s'.heldChannel? h = if h = s.handles.size then some k.channel else s.heldChannel? h := by
  rw [heldChannel?, pushed, Array.getElem?_push]
  by_cases last : h = s.handles.size
  · simp [last, held]
  · rw [if_neg last, if_neg last, heldChannel?]

/-- The handles that were there stand for the same channels. -/
theorem channelOf_of_push {h : Nat} (old : h < s.handles.size) : s'.channelOf h = s.channelOf h := by
  rw [channelOf, pushed, Array.getElem?_push, if_neg (Nat.ne_of_lt old), channelOf]

end Push

/-! ## What takes no channel over and lets none go -/

/-- Handles and listeners stay, and the broker goes on without a change of holders. -/
structure Rests (s s' : Service) : Prop where
  clings : Clings s.broker s'.broker
  handles : s'.handles = s.handles
  listeners : s'.listeners = s.listeners

namespace Rests

/-- Neither the broker nor handles and listeners change. -/
theorem of_fields (broker : s'.broker = s.broker) (handles : s'.handles = s.handles)
    (listeners : s'.listeners = s.listeners) : Rests s s' :=
  ⟨.of_fields (by rw [broker]) (by rw [broker]), handles, listeners⟩

/-- Nothing happens. -/
theorem refl (s : Service) : Rests s s := of_fields rfl rfl rfl

/-- Two changes without a change of holders are one. -/
theorem trans (h : Rests s s') (h' : Rests s' r) : Rests s r :=
  ⟨h.clings.trans h'.clings, h'.handles.trans h.handles, h'.listeners.trans h.listeners⟩

/-- Answering requests takes no channel over and lets none go. -/
theorem answerDead (s : Service) (count : Nat) (ts : List Nat) :
    Rests s (s.answerDead count ts).1 := by
  induction ts generalizing s count with
  | nil => exact refl s
  | cons t ts ih =>
    unfold Service.answerDead
    split
    · exact ih s count
    · split
      · exact ih s count
      · next opened _ _ =>
        have written : ∀ x, Rests s (s.setTask t x) := fun _ => of_fields rfl rfl rfl
        exact (written _).trans (ih _ _)

/-- Nor does emptying an intake. -/
theorem drain (s : Service) (p : Nat) : Rests s (s.drain p) := by
  have answered := answerDead s 0 (s.publisher p).intake.order
  unfold Service.drain
  simp only []
  split
  · exact answered.trans (of_fields rfl rfl rfl)
  · exact answered.trans (of_fields rfl rfl rfl)

/-- Nor does a cancellation. -/
theorem cancel (s : Service) (p : Nat) : Rests s (s.cancel p).1 := by
  cases dead : (s.publisher p).dead with
  | true =>
    rw [cancel_of_dead dead]
    exact of_fields rfl rfl rfl
  | false =>
    have sentenced : Rests s (s.sentence p) := of_fields rfl rfl rfl
    rw [cancel_of_live dead]
    exact sentenced.trans (drain _ p)

/-- Nor does telling the owner. -/
theorem retire (s : Service) (p : Nat) : Rests s (s.retire p) := by
  unfold Service.retire
  split
  · exact refl s
  · exact of_fields rfl rfl rfl

/-- Nor does asking for a close notice. -/
theorem listen (s : Service) (t : Nat) (l : Loop) : Rests s (s.listen t l).1 := by
  unfold Service.listen
  simp only []
  split
  · exact of_fields rfl rfl rfl
  · exact ⟨.notifyClose _ _, rfl, rfl⟩

/-- A loop that begins to close its channel still holds it. -/
theorem beginClose (s : Service) (t : Nat) (l : Loop) (farewell : Farewell) :
    Rests s (s.beginClose t l farewell) := of_fields rfl rfl rfl

/-- A loop that attaches itself was given its channel before. -/
theorem attach (s : Service) (t : Nat) (l : Loop) : Rests s (s.attach t l) := by
  have cleared : Rests s (s.onPublisher l.publisher fun p => { p with status := .clear }) :=
    of_fields rfl rfl rfl
  have listens := cleared.trans (listen _ t l)
  unfold Service.attach
  simp only []
  split
  · exact listens.trans (of_fields rfl rfl rfl)
  · exact listens.trans (of_fields rfl rfl rfl)

/-- The first move of a loop takes no channel over and lets none go. -/
theorem beginLoop (s : Service) (t : Nat) (l : Loop) : Rests s (s.beginLoop t l) := by
  have taken : Rests s (s.onPublisher l.publisher fun p => { p with loop := some t }) :=
    of_fields rfl rfl rfl
  unfold Service.beginLoop
  split
  · exact of_fields rfl rfl rfl
  · simp only []
    split
    · have noted : ∀ r n, Rests r (Service.note r l.publisher n) := fun _ _ => of_fields rfl rfl rfl
      exact taken.trans ((retire _ _).trans ((noted _ _).trans (beginClose _ t l _)))
    · exact taken.trans (attach _ t l)

/-- Nor does the end of confirm mode. -/
theorem endConfirm (s : Service) (t : Nat) (l : Loop) (notice : Option Nat)
    (result : Except Exception Unit) : Rests s (s.endConfirm t l notice result) := by
  unfold Service.endConfirm
  simp only []
  split
  · exact ⟨.notifyPublish _ _ _, rfl, rfl⟩
  · exact of_fields rfl rfl rfl
  · exact of_fields rfl rfl rfl

/-- Nor does taking up a request. -/
theorem takeUp (s : Service) (t : Nat) (l : Loop) (notice : Option Nat) (u : Nat) :
    Rests s (s.takeUp t l notice u) := by
  unfold Service.takeUp
  split
  · exact refl s
  · split
    · exact of_fields rfl rfl rfl
    · exact of_fields rfl rfl rfl

/-- A publish may close the channel, which changes nobody's hold on it. -/
theorem publishNow (s : Service) (t : Nat) (l : Loop) (notice : Option Nat) (u : Nat) :
    Rests s (s.publishNow t l notice u) := by
  unfold Service.publishNow
  split
  · exact of_fields rfl rfl rfl
  · simp only []
    split
    · exact ⟨.publish _ _ _ _ _ _, rfl, rfl⟩
    · exact ⟨.publish _ _ _ _ _ _, rfl, rfl⟩

/-- Giving a result to the caller takes no channel over and lets none go. -/
theorem endPublish (s : Service) (t : Nat) (l : Loop) (notice : Option Nat) (u : Nat)
    (result : Except Exception Unit) : Rests s (s.endPublish t l notice u result) := by
  unfold Service.endPublish
  split
  · exact of_fields rfl rfl rfl
  · simp only []
    split
    · exact of_fields rfl rfl rfl
    · exact of_fields rfl rfl rfl

/-- A call has no hold on a channel and cannot lose one. -/
theorem moveCall {c : Call} (moves : s.moveCall t c = some s') : Rests s s' := by
  unfold Service.moveCall at moves
  split at moves
  · cases moves
    unfold beginCall
    split
    · exact of_fields rfl rfl rfl
    · split
      · exact (cancel s c.publisher).trans (of_fields rfl rfl rfl)
      · exact of_fields rfl rfl rfl
  · obtain ⟨result, -, rfl⟩ := Option.map_eq_some_iff.mp moves
    exact of_fields rfl rfl rfl
  · cases moves
  · cases moves

/-- So neither can one that is dropped. -/
theorem dropCall (s : Service) (t : Nat) (c : Call) : Rests s (s.dropCall t c) := by
  unfold Service.dropCall
  split
  · exact of_fields rfl rfl rfl
  · exact of_fields rfl rfl rfl
  · exact refl s
  · exact refl s

/-- Nor one that is abandoned. -/
theorem abandonCall (s : Service) (l : Loop) : Rests s (s.abandonCall l) := by
  unfold Service.abandonCall
  split
  · exact refl s
  · split
    · exact refl s
    · exact of_fields rfl rfl rfl

end Rests

/-! ## Loops that end -/

/-- A loop lets its channel go, and is over. -/
structure Lets (s : Service) (t : Nat) (l : Loop) (s' : Service) : Prop where
  broker : s'.broker = s.broker.letGo (s.channelOf l.handle)
  handles : s'.handles = s.handles
  listeners : s'.listeners = s.listeners
  ended : ∃ x, s'.loop? t = some x ∧ (Task.loop x).isOver = true

/-- A loop that leaves changes neither handles nor listeners. -/
theorem tables_detach (s : Service) (l : Loop) :
    (s.detach l).handles = s.handles ∧ (s.detach l).listeners = s.listeners := by
  unfold detach
  simp only []
  split <;> exact ⟨rfl, rfl⟩

/-- A loop that ends lets its channel go. -/
theorem lets_endLoop (here : s.loop? t = some l) (tasks : r.tasks = s.tasks)
    (broker : r.broker = s.broker) (handles : r.handles = s.handles)
    (listeners : r.listeners = s.listeners) (reason : Detach) :
    Lets s t l (r.endLoop t l reason) := by
  obtain ⟨handles', listeners'⟩ := tables_detach r l
  have there : r.tasks[t]? = some (.loop l) := by rw [tasks, loop?_eq_some.mp here]
  refine ⟨?_, handles'.trans handles, listeners'.trans listeners, { l with stage := .finished reason }, ?_,
    rfl⟩
  · rw [show (r.endLoop t l reason).broker = _ from broker_detach r l, broker,
      channelOf_of_handles handles]
  · exact loop?_eq_some.mpr ((tasks_endLoop there reason t).trans (if_pos rfl))

/-- So does one that is dropped, unless it was over. -/
theorem lets_dropLoop (here : s.loop? t = some l) (alive : (Task.loop l).isOver = false) :
    Lets s t l (s.dropLoop t l) := by
  have abandoned := Rests.abandonCall s l
  obtain ⟨handles, listeners⟩ := tables_detach (s.abandonCall l) l
  refine ⟨?_, ?_, ?_, { l with stage := .dropped }, ?_, rfl⟩
  · rw [dropLoop_of_not_over alive, ← broker_abandonCall s l,
      ← channelOf_of_handles abandoned.handles]
    exact broker_detach (s.abandonCall l) l
  · rw [dropLoop_of_not_over alive]
    exact handles.trans abandoned.handles
  · rw [dropLoop_of_not_over alive]
    exact listeners.trans abandoned.listeners
  · exact loop?_eq_some.mpr ((tasks_dropLoop (loop?_eq_some.mp here) alive t).trans (if_pos rfl))

/-- So does one that has closed its channel. -/
theorem lets_endClose {farewell : Farewell} {result : Except Exception Unit}
    (here : s.loop? t = some l) : Lets s t l (s.endClose t l farewell result) := by
  unfold endClose
  simp only []
  split <;> refine lets_endLoop here ?_ ?_ ?_ ?_ _ <;> rfl

/-- A loop between two requests keeps its channel, or lets it go and is over. -/
theorem moveIdle_rests_or_lets {notice : Option Nat} (here : s.loop? t = some l)
    (moves : s.moveIdle t l notice = some s') : Rests s s' ∨ Lets s t l s' := by
  unfold moveIdle at moves
  simp only [] at moves
  split at moves
  · cases moves
    exact .inl ((Rests.drain s _).trans ((Rests.retire _ _).trans (.beginClose _ t l _)))
  · split at moves
    · cases moves
      refine .inr (lets_endLoop here ?_ ?_ ?_ ?_ _) <;> rfl
    · cases moves
      refine .inr (lets_endLoop here ?_ ?_ ?_ ?_ _) <;> rfl
    · cases moves
      refine .inr (lets_endLoop here ?_ ?_ ?_ ?_ _) <;> rfl
    · obtain ⟨⟨u, rest⟩, -, rfl⟩ := Option.map_eq_some_iff.mp moves
      have taken : Rests s (s.withIntake l.publisher rest) := .of_fields rfl rfl rfl
      exact .inl (taken.trans (.takeUp _ t l notice u))

/-- A loop that moves keeps its channel, or lets it go and is over. -/
theorem moveFreely_rests_or_lets (here : s.loop? t = some l)
    (moves : s.moveFreely t l = some s') : Rests s s' ∨ Lets s t l s' := by
  unfold moveFreely at moves
  split at moves
  · cases moves
    exact .inl (.beginLoop s t l)
  · cases moves
    exact .inl ⟨.close _ _, rfl, rfl⟩
  · cases moves
    exact .inr (lets_endClose here)
  · cases moves
    exact .inl ⟨.confirmSelect _ _, rfl, rfl⟩
  · cases moves
    exact .inl (.endConfirm s t l _ _)
  · exact moveIdle_rests_or_lets here moves
  · cases moves
    exact .inl (.publishNow s t l _ _)
  · cases moves
    exact .inl (.endPublish s t l _ _ _)
  · cases moves
  · cases moves

/-- A new call is no loop. -/
theorem loop?_of_pushed_call {c : Call} (k : Nat) :
    ({ s with tasks := s.tasks.push (.call c) } : Service).loop? k = s.loop? k := by
  rw [loop?_of_write (tasks_push s _) k]
  split
  · next last =>
    rw [loop?, Array.getElem?_eq_none (Nat.le_of_eq last.symm)]
    rfl
  · rfl

namespace Grip

/-- No loop begins or ends, and handles and holders stay. -/
theorem of_handles (clings : Clings s.broker s'.broker) (handles : s'.handles = s.handles)
    (loops : ∀ k, s'.loop? k = s.loop? k) : Grip s s' := by
  refine .rests clings fun c x claims => ?_
  cases x with
  | inl h =>
    rw [Claims, heldChannel?_of_handles handles] at claims
    exact claims
  | inr k =>
    obtain ⟨l, there, alive, own⟩ := claims
    rw [channelOf_of_handles handles] at own
    exact ⟨l, (loops k).symm.trans there, alive, own⟩

/-- Nobody takes a channel over or lets one go, and no loop begins or ends. -/
theorem of_rests (rests : Rests s s') (loops : ∀ k, s'.loop? k = s.loop? k) : Grip s s' :=
  of_handles rests.clings rests.handles loops

/-- Nothing happens. -/
theorem refl (s : Service) : Grip s s := of_rests (.refl s) fun _ => rfl

/-- Only the broker changes, without a change of holders. -/
theorem of_clings {b : Broker} (clings : Clings s.broker b) : Grip s { s with broker := b } :=
  of_handles clings rfl fun _ => rfl

/-- An operation of the broker that changes no holders. -/
theorem after {α : Type} {o : Broker.Outcome α} (clings : Clings s.broker o.broker) :
    Grip s (s.after o) :=
  of_handles clings rfl fun _ => rfl

/-- A loop moves on with its channel. -/
theorem of_moved {stage : LoopStage} (rests : Rests s s') (here : s.loop? t = some l)
    (alive : (Task.loop l).isOver = false) (relocates : Relocates s t l s' stage) : Grip s s' := by
  refine .rests rests.clings fun c x claims => ?_
  cases x with
  | inl h =>
    rw [Claims, heldChannel?_of_handles rests.handles] at claims
    exact claims
  | inr k =>
    obtain ⟨x, there, going, own⟩ := claims
    rw [channelOf_of_handles rests.handles] at own
    rcases relocates.before there with ⟨rfl, rfl⟩ | ⟨-, before⟩
    · exact ⟨l, here, alive, own⟩
    · exact ⟨x, before, going, own⟩

/-- A loop lets its channel go. -/
theorem of_lets (lets : Lets s t l s') (here : s.loop? t = some l)
    (alive : (Task.loop l).isOver = false)
    (others : ∀ k x, k ≠ t → s'.loop? k = some x → s.loop? k = some x) : Grip s s' := by
  refine .leaves (c := s.channelOf l.handle) (x := .inr t) ⟨l, here, alive, rfl⟩ lets.broker
    fun d y claims => ?_
  cases y with
  | inl h =>
    rw [Claims, heldChannel?_of_handles lets.handles] at claims
    exact ⟨claims, Sum.inl_ne_inr⟩
  | inr k =>
    obtain ⟨x, there, going, own⟩ := claims
    rw [channelOf_of_handles lets.handles] at own
    have apart : k ≠ t := by
      rintro rfl
      obtain ⟨x', ended, isOver⟩ := lets.ended
      rw [there] at ended
      cases ended
      rw [isOver] at going
      cases going
    exact ⟨⟨x, others k x apart there, going, own⟩, fun same => apart (Sum.inr.inj same)⟩

/-! ### Commands -/

/-- A command on a channel does what it does for the channel found. -/
theorem withChannel {h : Nat} {f : Nat → Service × Answer}
    (inner : ∀ c, s.heldChannel? h = some c → Grip s (f c).1) : Grip s (s.withChannel h f).1 := by
  rw [withChannel_eq]
  split
  · next c held => exact inner c held
  · exact refl s

/-- A command on a publisher does what it does for the publisher found. -/
theorem withPublisher {n : Nat} {f : Nat → Service × Answer} (inner : ∀ p, Grip s (f p).1) :
    Grip s (s.withPublisher n f).1 := by
  unfold Service.withPublisher
  split
  · exact inner _
  · exact refl s

/-- A command on a sink does what it does for a sink that is there. -/
theorem withSink {k : Nat} {f : Service × Answer} (inner : Grip s f.1) :
    Grip s (s.withSink k f).1 := by
  unfold Service.withSink
  split
  · exact inner
  · exact refl s

/-- A handle changes, but neither its channel nor whether the outside holds it. -/
theorem onHandle {h : Nat} {f : Handle → Handle} (channel : ∀ k, (f k).channel = k.channel)
    (held : ∀ k, (f k).held = k.held) : Grip s (s.onHandle h f) := by
  have handles : ∀ k : Nat, (s.onHandle h f).handles[k]? =
      if h = k then s.handles[k]?.map f else s.handles[k]? := fun k => Array.getElem?_modify
  have same : ∀ k, (s.onHandle h f).heldChannel? k = s.heldChannel? k := by
    intro k
    rw [heldChannel?, handles, heldChannel?]
    by_cases own : h = k
    · cases s.handles[k]? <;> simp [own, channel, held]
    · rw [if_neg own]
  have stays : ∀ k, (s.onHandle h f).channelOf k = s.channelOf k := by
    intro k
    rw [channelOf, handles, channelOf]
    split
    · cases s.handles[k]? <;> simp [channel]
    · rfl
  refine .rests (.refl _) fun c x claims => ?_
  cases x with
  | inl k =>
    rw [Claims, same] at claims
    exact claims
  | inr k =>
    obtain ⟨l, there, alive, own⟩ := claims
    rw [stays] at own
    exact ⟨l, there, alive, own⟩

/-- The outside lets the channel of a handle go. -/
theorem dropHandle {h c : Nat} (held : s.heldChannel? h = some c) : Grip s (s.dropHandle h) := by
  have handles : ∀ k : Nat, (s.dropHandle h).handles[k]? =
      if h = k then s.handles[k]?.map fun x => { x with held := false } else s.handles[k]? :=
    fun k => Array.getElem?_modify
  have channel := channelOf_of_held held
  have stays : ∀ k, (s.dropHandle h).channelOf k = s.channelOf k := by
    intro k
    rw [channelOf, handles, channelOf]
    split
    · cases s.handles[k]? <;> rfl
    · rfl
  have broker : (s.dropHandle h).broker = s.broker.letGo c := by
    rw [← channel]
    rfl
  refine .leaves (x := .inl h) held broker fun d y claims => ?_
  cases y with
  | inl k =>
    rw [Claims, heldChannel?, handles] at claims
    by_cases own : h = k
    · subst own
      rw [if_pos rfl] at claims
      cases found : s.handles[h]? <;> simp [found] at claims
    · rw [if_neg own] at claims
      exact ⟨claims, fun same => own (Sum.inl.inj same).symm⟩
  | inr k =>
    obtain ⟨l, there, alive, own⟩ := claims
    rw [stays] at own
    exact ⟨⟨l, there, alive, own⟩, Sum.inr_ne_inl⟩

/-- The outside opens channels and holds the last. -/
theorem openHandle (s : Service)
    (handled : ∀ t l, s.loop? t = some l → l.handle < s.handles.size) (count : Nat) :
    Grip s (s.openHandle count).1 := by
  obtain ⟨clings, opens⟩ := Broker.clings_openLast s.broker count
  unfold Service.openHandle
  simp only []
  split
  · next c opened =>
    obtain ⟨new, once⟩ := opens c opened
    refine .opens (x := .inl s.handles.size) clings new once fun d y claims => ?_
    -- the new handle is the last, and loops refer to older ones
    cases y with
    | inl h =>
      rw [Claims, heldChannel?_of_push (s := s) rfl rfl] at claims
      split at claims
      · next last =>
        cases claims
        exact .inr ⟨rfl, by rw [last]⟩
      · exact .inl claims
    | inr k =>
      obtain ⟨l, there, alive, own⟩ := claims
      rw [channelOf_of_push (s := s) rfl (handled k l there)] at own
      exact .inl ⟨l, there, alive, own⟩
  · exact after clings

/-- A new loop is given a channel. -/
theorem serve {h c p : Nat} (held : s.heldChannel? h = some c) :
    Grip s { s with
      broker := s.broker.hold c, tasks := s.tasks.push (.loop { publisher := p, handle := h }) } := by
  have loops : ∀ k, ({ s with
      broker := s.broker.hold c, tasks := s.tasks.push (.loop { publisher := p, handle := h }) } :
        Service).loop? k =
      if k = s.tasks.size then some { publisher := p, handle := h } else s.loop? k :=
    loop?_of_write (tasks_push s _)
  have channel := channelOf_of_held held
  refine .joins (c := c) (x := .inr s.tasks.size) rfl fun d y claims => ?_
  cases y with
  | inl k => exact .inl claims
  | inr k =>
    obtain ⟨l, there, alive, own⟩ := claims
    rw [loops] at there
    split at there
    · next last =>
      cases there
      refine .inr ⟨?_, by rw [last]⟩
      rw [← own, ← channel]
      rfl
    · exact .inl ⟨l, there, alive, own⟩

/-- A dropped task lets go of a channel if it is a loop that was not over. -/
theorem drop (s : Service) (t : Nat) : Grip s (s.drop t) := by
  unfold Service.drop
  split
  · next c here => exact of_rests (.dropCall s t c) (Calm.dropCall (a := none) here).loops
  · next l here =>
    by_cases isOver : (Task.loop l).isOver = true
    · rw [dropLoop_of_over isOver]
      exact refl s
    · have alive := Bool.eq_false_iff.mpr isOver
      have here := loop?_eq_some.mpr here
      refine of_lets (lets_dropLoop here alive) here alive fun k x apart there => ?_
      rw [loop?, tasks_dropLoop (loop?_eq_some.mp here) alive, if_neg apart] at there
      split at there
      · rw [bind_map_of_same loop?_abandon] at there
        exact there
      · exact there
  · exact refl s

/-- A command that polls nothing. -/
theorem step {c : Command} (handled : ∀ t l, s.loop? t = some l → l.handle < s.handles.size)
    (passive : c.polls = false) : Grip s (s.step c).1 := by
  -- most commands leave every loop where it was, so only the handles can have changed hands
  have rests : ∀ {s' : Service}, Rests s s' → s'.tasks = s.tasks → Grip s s' :=
    fun rests same => of_rests rests (loop?_of_tasks same)
  unfold Service.step
  cases c with
  | declare name => exact of_clings (.declare _ name)
  | rejectNext | nackNext | failConfirmSelect | sink => exact of_clings (.of_fields rfl rfl)
  | published => exact refl s
  | disconnect error => exact after (.disconnect _ error)
  | restore => exact after (.of_fields rfl rfl)
  | openChannel count => exact openHandle s handled count
  | close h => exact withChannel fun c _ => after (.close _ c)
  | terminate h reason => exact withChannel fun c _ => after (.terminate _ c reason)
  | confirmSelect h => exact withChannel fun c _ => of_clings (.confirmSelect _ c)
  | listen h => exact withChannel fun c _ => of_handles (.notifyClose _ c) rfl fun _ => rfl
  | dropChannel h => exact withChannel fun _ held => dropHandle held
  | hold | release | mute => exact withChannel fun _ _ => onHandle (fun _ => rfl) fun _ => rfl
  | notifyPublish h k =>
    exact withChannel fun c _ => withSink (of_clings (.notifyPublish _ c k))
  | publishOn h =>
    refine withChannel fun c _ => ?_
    unfold publishOn
    simp only []
    split <;> exact rests ⟨.publish _ _ _ _ _ _, rfl, rfl⟩ rfl
  | check l =>
    simp only []
    unfold check
    split
    · exact refl s
    · exact refl s
    · split
      · exact refl s
      · exact of_handles (.of_fields rfl rfl) rfl fun _ => rfl
      · exact of_handles (.of_fields rfl rfl) rfl fun _ => rfl
  | receive k limit => exact withSink (of_clings (.receive _ k limit))
  | dropSink => exact withSink (of_clings (.of_fields rfl rfl))
  | publisher => exact rests (.of_fields rfl rfl rfl) rfl
  | clone => exact withPublisher fun _ => rests (.of_fields rfl rfl rfl) rfl
  | profile => exact withPublisher fun _ => refl s
  | cancel => exact withPublisher fun p => of_rests (.cancel s p) (Calm.cancel (a := none) s p).loops
  -- a task that is only put in has not looked at its channel, but a loop already holds the handle
  | publish n key message overtaken deferred =>
    cases deferred with
    | false => cases passive
    | true => exact withPublisher fun _ => of_rests (.of_fields rfl rfl rfl) loop?_of_pushed_call
  | write n body deferred overtaken =>
    cases deferred with
    | false => cases passive
    | true => exact withPublisher fun _ => of_rests (.of_fields rfl rfl rfl) loop?_of_pushed_call
  | serve n h deferred =>
    cases deferred with
    | false => cases passive
    | true => exact withPublisher fun _ => withChannel fun _ held => serve held
  | poll | settle => cases passive
  | dropTask t =>
    simp only []
    split
    · exact drop s t
    · exact refl s

end Grip

/-- What an act does to those who hold channels. -/
theorem grip_act (sound : Sound s)
    (handled : ∀ t l, s.loop? t = some l → l.handle < s.handles.size) (a : Act) :
    Grip s (s.act a) := by
  cases a with
  | command c passive => exact .step handled passive
  | move t =>
    cases moves : s.move t with
    | none =>
      rw [act_move_of_none moves]
      exact .refl s
    | some s' =>
      rw [act_move_of_some moves]
      cases here : s.tasks[t]? with
      | none =>
        rw [move_of_absent here] at moves
        cases moves
      | some x =>
        cases x with
        | call c =>
          have moves := (move_of_call here).symm.trans moves
          exact .of_rests (.moveCall moves) (Calm.moveCall (a := none) sound here moves).loops
        | loop l =>
          have here := loop?_eq_some.mpr here
          obtain ⟨stage, relocates, move⟩ := moves_loop sound here moves
          have freely : s.moveFreely t l = some s' := by
            rw [move_of_loop here, moveLoop] at moves
            split at moves
            · cases moves
            · exact moves
          rcases moveFreely_rests_or_lets here freely with rests | lets
          · exact .of_moved rests here move.alive relocates
          · exact .of_lets lets here move.alive fun k x apart => (relocates.other apart).mp

/-! ## The count -/

/-- Nobody claims a channel that is not there. -/
theorem Hearing.exist_of_claims {c : Nat} {x : Nat ⊕ Nat} (hearing : Hearing s)
    (claims : s.Claims c x) : c < s.broker.channels.size := by
  cases x with
  | inl h =>
    rw [← channelOf_of_held claims]
    refine hearing.held h ?_
    rw [Claims, heldChannel?] at claims
    split at claims
    · next here => exact (Array.getElem?_eq_some_iff.mp here).1
    · cases claims
  | inr t =>
    obtain ⟨l, here, -, rfl⟩ := claims
    exact hearing.held _ (hearing.handles t l here)

/-- The holders that the broker counts are at least those who claim a channel, and the notices of loops
follow their channels. -/
structure Manned (s : Service) : Prop where
  hands : ∀ (c : Nat) (ch : Broker.Channel), s.broker.channels[c]? = some ch →
    ∃ K : Finset (Nat ⊕ Nat), (∀ x, s.Claims c x → x ∈ K) ∧ K.card ≤ ch.holders
  follows : ∀ t l n, s.loop? t = some l → l.stage.notice? = some n →
    s.broker.Follows n (s.channelOf l.handle)

/-- A loop that listens to a notice is not over. -/
theorem LoopStage.alive_of_notice {n : Nat} (notice : l.stage.notice? = some n) :
    (Task.loop l).isOver = false := by
  cases stage : l.stage with
  | finished | dropped =>
    rw [stage] at notice
    cases notice
  | _ => simp [Task.isOver, stage]

/-! ### New notices -/

/-- A notice that a loop registers follows the channel of the loop. -/
theorem follows_listen {n : Nat} (exist : s.channelOf l.handle < s.broker.channels.size)
    (notice : (s.listen t l).2 = some n) :
    (s.listen t l).1.broker.Follows n (s.channelOf l.handle) := by
  unfold listen at notice ⊢
  simp only [] at notice ⊢
  split at notice
  · cases notice
  · next heard =>
    cases notice
    rw [if_neg heard]
    exact Broker.follows_notifyClose exist

/-- A loop that attaches its channel goes on with the notice that it has registered. -/
theorem attach_eq (s : Service) (t : Nat) (l : Loop) :
    let cleared := s.onPublisher l.publisher fun p => { p with status := .clear }
    ∃ (r : Service) (stage : LoopStage), s.attach t l = r.moveTo t l stage ∧ r.tasks = s.tasks ∧
      r.broker = (cleared.listen t l).1.broker ∧ stage.notice? = (cleared.listen t l).2 := by
  intro cleared
  have tasks : (cleared.listen t l).1.tasks = s.tasks := (listen_alike cleared t l).tasks
  unfold attach
  simp only []
  split
  · exact ⟨_, _, rfl, tasks, rfl, rfl⟩
  · exact ⟨_, _, rfl, tasks, rfl, rfl⟩

/-- A loop that begins listens to a notice that follows its channel. -/
theorem follows_beginLoop {x : Loop} {n : Nat} (here : s.loop? t = some l)
    (exist : s.channelOf l.handle < s.broker.channels.size)
    (there : (s.beginLoop t l).loop? t = some x) (notice : x.stage.notice? = some n) :
    (s.beginLoop t l).broker.Follows n (s.channelOf l.handle) := by
  -- the place to which the loop moves tells its notice
  have moved : ∀ {r : Service} {stage : LoopStage}, r.tasks = s.tasks →
      (r.moveTo t l stage).loop? t = some x → stage.notice? = some n := by
    intro r stage same found
    rw [loop?_moveTo ((loop?_of_tasks same t).trans here) stage] at found
    cases found
    exact notice
  have closes : ∀ {r : Service} {farewell : Farewell}, r.tasks = s.tasks →
      (r.beginClose t l farewell).loop? t ≠ some x :=
    fun {r farewell} same found => nomatch moved (r := r.record _) same found
  let taken := s.onPublisher l.publisher fun p => { p with loop := some t }
  have begins : s.beginLoop t l = taken.attach t l := by
    unfold beginLoop at there ⊢
    split at there
    · exact absurd there (closes rfl)
    · next vacant =>
      rw [if_neg vacant]
      simp only [] at there ⊢
      split at there
      · exact absurd there (closes (tasks_retire _ _))
      · next live => exact if_neg live
  obtain ⟨r, stage, attaches, tasks, broker, own⟩ := attach_eq taken t l
  rw [begins, attaches] at there ⊢
  rw [show (r.moveTo t l stage).broker = _ from broker]
  exact follows_listen exist (own.symm.trans (moved tasks there))

namespace Manned

/-- In a service that nobody has used there is no channel to hold. -/
theorem fresh : Manned fresh where
  hands c ch here := by cases here
  follows t l n here := by cases here

/-- A channel that was not there is claimed by whoever opens it. -/
theorem hands_of_new (hearing : Hearing s) (grip : Grip s s') {c : Nat} {ch' : Broker.Channel}
    (before : s.broker.channels[c]? = none) (there : s'.broker.channels[c]? = some ch') :
    ∃ K : Finset (Nat ⊕ Nat), (∀ x, s'.Claims c x → x ∈ K) ∧ K.card ≤ ch'.holders := by
  have unclaimed : ∀ x, ¬ s.Claims c x := fun x claims => by
    have exist := Array.getElem?_eq_getElem (hearing.exist_of_claims claims)
    rw [before] at exist
    cases exist
  cases grip with
  | rests clings claims =>
    exact ⟨∅, fun x now => absurd (claims c x now) (unclaimed x), Nat.zero_le _⟩
  | @opens d y clings new once claims =>
    by_cases own : c = d
    · subst own
      obtain ⟨x, here, one⟩ := once
      cases there.symm.trans here
      refine ⟨{y}, fun x now => ?_, by rw [one, Finset.card_singleton]⟩
      rcases claims c x now with was | ⟨-, rfl⟩
      · exact absurd was (unclaimed x)
      · exact Finset.mem_singleton_self x
    · refine ⟨∅, fun x now => ?_, Nat.zero_le _⟩
      rcases claims c x now with was | ⟨same, -⟩
      · exact absurd was (unclaimed x)
      · exact absurd same own
  | @joins d y broker claims =>
    rw [broker, Broker.hold, Broker.channels_onChannel, before] at there
    split at there <;> cases there
  | @leaves d y own broker claims =>
    exact ⟨∅, fun x now => absurd (claims c x now).1 (unclaimed x), Nat.zero_le _⟩

/-- Those who claim a channel that was there are those who claimed it, with whoever joins and without whoever
leaves. -/
theorem hands_of_grip (manned : Manned s) (hearing : Hearing s) (grip : Grip s s') {c : Nat}
    {ch' : Broker.Channel} (there : s'.broker.channels[c]? = some ch') :
    ∃ K : Finset (Nat ⊕ Nat), (∀ x, s'.Claims c x → x ∈ K) ∧ K.card ≤ ch'.holders := by
  cases before : s.broker.channels[c]? with
  | none => exact hands_of_new hearing grip before there
  | some ch =>
    -- the bound is the set that bounded those who claimed before, with one added or one removed
    obtain ⟨K, all, fits⟩ := manned.hands c ch before
    cases grip with
    | rests clings claims =>
      obtain ⟨x, here, same⟩ := clings.holders c ch before
      cases there.symm.trans here
      exact ⟨K, fun y now => all y (claims c y now), by rw [same]; exact fits⟩
    | @opens d y clings new once claims =>
      obtain ⟨x, here, same⟩ := clings.holders c ch before
      cases there.symm.trans here
      refine ⟨K, fun z now => ?_, by rw [same]; exact fits⟩
      rcases claims c z now with was | ⟨rfl, -⟩
      · exact all z was
      · rw [before] at new
        cases new
    | @joins d y broker claims =>
      obtain ⟨x, here, more⟩ := Broker.holders_hold (c := d) before
      rw [broker] at there
      cases there.symm.trans here
      by_cases own : c = d
      · refine ⟨insert y K, fun z now => ?_, ?_⟩
        · rcases claims c z now with was | ⟨-, rfl⟩
          · exact Finset.mem_insert_of_mem (all z was)
          · exact Finset.mem_insert_self z K
        · rw [more, if_pos own]
          exact (Finset.card_insert_le y K).trans (Nat.succ_le_succ fits)
      · refine ⟨K, fun z now => ?_, by rw [more, if_neg own]; exact fits⟩
        rcases claims c z now with was | ⟨same, -⟩
        · exact all z was
        · exact absurd same own
    | @leaves d y own broker claims =>
      obtain ⟨x, here, fewer⟩ := Broker.holders_letGo (c := d) before
      rw [broker] at there
      cases there.symm.trans here
      by_cases same : c = d
      · subst same
        refine ⟨K.erase y, fun z now => ?_, ?_⟩
        · obtain ⟨was, other⟩ := claims c z now
          exact Finset.mem_erase.mpr ⟨other, all z was⟩
        · rw [fewer, if_pos rfl, Finset.card_erase_of_mem (all y own)]
          exact Nat.sub_le_sub_right fits 1
      · exact ⟨K, fun z now => all z (claims c z now).1, by rw [fewer, if_neg same]; exact fits⟩

/-- The notice of a loop that holds its channel goes on following it. -/
theorem follows_of_grip {n c : Nat} (manned : Manned s) (hearing : Hearing s) (grip : Grip s s')
    (before : s.broker.Follows n c) (claims : s'.Claims c (.inr t)) : s'.broker.Follows n c := by
  cases grip with
  | rests clings => exact clings.follows n c hearing.tuned before
  | opens clings => exact clings.follows n c hearing.tuned before
  | joins broker =>
    rw [broker]
    exact Broker.follows_hold before
  | @leaves d x own broker others =>
    rw [broker]
    refine Broker.follows_letGo hearing.tuned before fun same => ?_
    subst same
    obtain ⟨was, other⟩ := others c (.inr t) claims
    obtain ⟨ch, here, -⟩ := before
    obtain ⟨K, all, fits⟩ := manned.hands c ch here
    refine ⟨ch, here, Nat.lt_of_lt_of_le ?_ fits⟩
    exact Finset.one_lt_card.mpr ⟨_, all _ was, _, all _ own, other⟩

/-- Whatever happens, the notices that loops listen to follow their channels. -/
theorem follows_act (manned : Manned s) (sound : Sound s) (hearing : Hearing s) (a : Act) {n : Nat}
    (there : (s.act a).loop? t = some l) (notice : l.stage.notice? = some n) :
    (s.act a).broker.Follows n ((s.act a).channelOf l.handle) := by
  have grip := grip_act sound hearing.handles a
  have alive := LoopStage.alive_of_notice notice
  have kept := (surroundings_act sound a).channelOf
  -- a loop that was there with the same notice still claims the channel
  have stays : ∀ {x : Loop}, s.loop? t = some x → x.handle = l.handle →
      x.stage.notice? = some n → (s.act a).broker.Follows n ((s.act a).channelOf l.handle) := by
    intro x here same held
    have before := manned.follows t x n here held
    rw [same, ← kept _ (same ▸ hearing.handles t x here)] at before
    exact manned.follows_of_grip hearing grip before ⟨l, there, alive, rfl⟩
  rcases sound.act_cases a with ⟨outer, -⟩ | ⟨k, x, stage, rfl, here, relocates, move⟩
  · exact stays (outer.before (q := fun stage => stage.notice? = some n) there notice nofun nofun)
      rfl notice
  · rcases relocates.before there with ⟨rfl, rfl⟩ | ⟨-, before⟩
    · by_cases fresh : x.stage = .fresh
      · have begins : s.act (.move k) = s.beginLoop k x := act_move_of_some (move_of_fresh here fresh)
        have inBounds := hearing.handles k x here
        rw [kept _ inBounds, begins]
        rw [begins] at there
        exact follows_beginLoop here (hearing.held _ inBounds) there notice
      · refine stays here rfl ?_
        cases move with
        | refuse | retire | fail => cases notice
        | accept new => exact absurd new fresh
        | begin idle => rw [idle]; exact notice
        | advance leads =>
          rcases leads.notice? with same | none
          · exact same.symm.trans notice
          · exact nomatch none.symm.trans notice
    · exact stays before rfl notice

/-- Every act keeps the count of the broker above those who claim a channel. -/
theorem act (manned : Manned s) (sound : Sound s) (hearing : Hearing s) (a : Act) :
    Manned (s.act a) where
  hands _ _ there := manned.hands_of_grip hearing (grip_act sound hearing.handles a) there
  follows _ _ _ there notice := manned.follows_act sound hearing a there notice

/-- So does every run. -/
theorem perform (manned : Manned s) (sound : Sound s) (hearing : Hearing s) (acts : List Act) :
    Manned (s.perform acts) := by
  induction acts generalizing s with
  | nil => exact manned
  | cons a acts ih =>
    exact ih (manned.act sound hearing a) (sound.act a).1 (hearing.act sound a)

end Manned

/-- In every service that acts reach, a channel has at least as many holders as claim it. -/
theorem manned_perform (acts : List Act) : Manned (Service.fresh.perform acts) :=
  Manned.fresh.perform .fresh .fresh acts

end Relay.Service
