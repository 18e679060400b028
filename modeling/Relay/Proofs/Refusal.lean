import Relay.Proofs.Hearing

/-!
# What a refused loop does

A loop that finds another attached to its publisher closes the channel that it was offered, gives it up,
and ends. `Harmless` says what none of its moves touches: publishers with their intakes, calls and other
loops, the owner, and every channel but the one offered. So a loop that serves on another channel goes
on as if nothing had happened.
-/

namespace Relay.Service

open Broker (Exception Elsewhere)
open Publisher (Detach)

variable {s s' s'' : Service} {t : Nat} {l : Loop} {phase : Phase}

/-- The operations on channels that a task began, the last first. -/
def begun (s : Service) (t : Nat) : List Event := s.journal.filter fun e => e.begunBy? = some t

/-- What there is to see of a refused loop: lines of the log, the close of its channel and its end. -/
inductive Event.OfRefused (t h : Nat) : Event → Prop
  | noted (n : Note) : OfRefused t h (.noted n)
  | close : OfRefused t h (.began t h .close)
  | ended (v : Value) : OfRefused t h (.ended t v)
  | dropped : OfRefused t h (.dropped t)

/-- Only a refused loop, its channel and the log change. -/
structure Harmless (s : Service) (t h : Nat) (s' : Service) : Prop where
  publishers : s'.publishers = s.publishers
  names : s'.names = s.names
  handles : s'.handles = s.handles
  listeners : s'.listeners = s.listeners
  tasks : ∀ k, k ≠ t → s'.tasks[k]? = s.tasks[k]?
  broker : Elsewhere (s.channelOf h) s.broker s'.broker
  journal : ∃ added, s'.journal = added ++ s.journal ∧ ∀ e ∈ added, e.OfRefused t h

namespace Harmless

variable {h : Nat}

/-- The broker changes at the channel that was offered. -/
theorem of_broker {b : Broker} (elsewhere : Elsewhere (s.channelOf h) s.broker b) :
    Harmless s t h { s with broker := b } :=
  ⟨rfl, rfl, rfl, rfl, fun _ _ => rfl, elsewhere, [], rfl,
    fun _ inside => absurd inside List.not_mem_nil⟩

/-- Nothing happens. -/
theorem refl (s : Service) (t h : Nat) : Harmless s t h s := of_broker (.refl _ _)

/-- What is harmless twice is harmless: the handle stands for the same channel the second time. -/
theorem trans (first : Harmless s t h s') (second : Harmless s' t h s'') : Harmless s t h s'' where
  publishers := second.publishers.trans first.publishers
  names := second.names.trans first.names
  handles := second.handles.trans first.handles
  listeners := second.listeners.trans first.listeners
  tasks k other := (second.tasks k other).trans (first.tasks k other)
  broker := by
    have same : s'.channelOf h = s.channelOf h := by rw [channelOf, first.handles, channelOf]
    exact first.broker.trans (same ▸ second.broker)
  journal := by
    obtain ⟨added, longer, own⟩ := first.journal
    obtain ⟨added', longer', own'⟩ := second.journal
    refine ⟨added' ++ added, by rw [longer', longer, List.append_assoc], fun e inside => ?_⟩
    rcases List.mem_append.mp inside with later | earlier
    · exact own' e later
    · exact own e earlier

/-- An event is recorded that a refused loop may cause. -/
theorem record {e : Event} (own : e.OfRefused t h) : Harmless s t h (s.record e) :=
  ⟨rfl, rfl, rfl, rfl, fun _ _ => rfl, .refl _ _, [e], rfl,
    fun _ inside => List.mem_singleton.mp inside ▸ own⟩

/-- A log line is one of these. -/
theorem note (s : Service) (t h p : Nat) (n : Publisher.Note) : Harmless s t h (s.note p n) :=
  record (.noted _)

/-- The loop itself is written over. -/
theorem setTask (s : Service) (t h : Nat) (x : Task) : Harmless s t h (s.setTask t x) :=
  ⟨rfl, rfl, rfl, rfl, fun k other => by rw [tasks_setTask, if_neg other], .refl _ _, [], rfl,
    fun _ inside => absurd inside List.not_mem_nil⟩

/-- An operation on the channel that was offered changes no other. -/
theorem after {α : Type} {o : Broker.Outcome α}
    (elsewhere : Elsewhere (s.channelOf h) s.broker o.broker) : Harmless s t h (s.after o) := by
  obtain ⟨added, longer, noted⟩ := journal_after s o
  refine ⟨rfl, rfl, rfl, rfl, fun _ _ => rfl, elsewhere, added, longer, fun e inside => ?_⟩
  obtain ⟨n, rfl⟩ := noted e inside
  exact .noted _

/-- A refused loop gives up its channel, but no publisher. -/
theorem detach (refused : l.stage.isAttached = false) : Harmless s t l.handle (s.detach l) := by
  unfold Service.detach
  simp only [refused, Bool.false_eq_true, if_false]
  exact of_broker (.letGo _ _)

/-- A loop that is not attached ends, and frees no publisher. -/
theorem endLoop (refused : l.stage.isAttached = false) (reason : Detach) :
    Harmless s t l.handle (s.endLoop t l reason) :=
  (detach refused).trans ((setTask _ t _ _).trans (record (.ended _)))

end Harmless

/-! ## The moves of a refused loop -/

/-- A loop that begins while another is attached. -/
theorem beginLoop_of_attached (taken : (s.publisher l.publisher).attached = true) :
    s.beginLoop t l = (s.note l.publisher .secondLoopRefused).beginClose t l .refused := by
  rw [beginLoop, if_pos taken]

/-- The first move of a refused loop begins the close of its channel and nothing else. -/
theorem harmless_beginLoop (taken : (s.publisher l.publisher).attached = true) :
    Harmless s t l.handle (s.beginLoop t l) ∧
      (s.beginLoop t l).begun t = .began t l.handle .close :: s.begun t := by
  rw [beginLoop_of_attached taken]
  refine ⟨(Harmless.note s t l.handle _ _).trans
    ((Harmless.record .close).trans (.setTask _ t _ _)), ?_⟩
  have began : Event.begunBy? (.began t l.handle .close) = some t := rfl
  have noted : Event.begunBy? (.noted (.publisher l.publisher .secondLoopRefused)) = none := rfl
  change List.filter _ (_ :: _ :: s.journal) = _
  rw [List.filter_cons, List.filter_cons, began, noted]
  simp [begun]

/-- A loop that was refused is not attached. -/
theorem isAttached_of_refused (refused : l.stage = .closing .refused phase) :
    l.stage.isAttached = false := by
  rw [refused]
  rfl

/-- Once it has begun, a refused loop begins nothing more. -/
theorem harmless_endClose {result : Except Exception Unit}
    (refused : l.stage = .closing .refused (.leaving result)) :
    Harmless s t l.handle (s.endClose t l .refused result) ∧
      Keeps none s (s.endClose t l .refused result) := by
  have unattached := isAttached_of_refused refused
  have ends : ∀ {r : Service}, Keeps none s r → Keeps none s (r.endLoop t l .alreadyAttached) :=
    fun keeps => keeps.trans ((Keeps.detach _ l).trans ((Keeps.setTask t _).trans (.record rfl)))
  unfold endClose
  simp only []
  cases result with
  | ok => exact ⟨.endLoop unattached _, ends (.refl s)⟩
  | error e =>
    exact ⟨(Harmless.note s t l.handle _ _).trans (.endLoop unattached _), ends (.note _ _ _)⟩

/-- The close of the channel that was offered is harmless, and begins nothing. -/
theorem harmless_close (s : Service) (t : Nat) (l : Loop) (stage : LoopStage) :
    let s' := (s.after (s.broker.close (s.channelOf l.handle))).moveTo t l stage
    Harmless s t l.handle s' ∧ Keeps none s s' :=
  ⟨(Harmless.after (.close _ _)).trans (.setTask _ t _ _),
    (Keeps.after (Broker.heeds_close _ _)).trans (.setTask t _)⟩

/-- Every later move of a refused loop is harmless, and begins nothing. -/
theorem harmless_move (here : s.loop? t = some l) (refused : l.stage = .closing .refused phase)
    (moves : s.move t = some s') : Harmless s t l.handle s' ∧ Keeps none s s' := by
  rw [move, loop?_eq_some.mp here] at moves
  simp only [moveLoop] at moves
  split at moves
  · cases moves
  · cases phase with
    | entering =>
      simp only [moveFreely, refused, Option.some.injEq] at moves
      subst moves
      exact harmless_close s t l _
    | leaving result =>
      simp only [moveFreely, refused, Option.some.injEq] at moves
      subst moves
      exact harmless_endClose refused

/-- A refused loop that is dropped lets go of its channel, and no call is abandoned. -/
theorem harmless_drop (here : s.loop? t = some l) (refused : l.stage = .closing .refused phase) :
    Harmless s t l.handle (s.drop t) := by
  have alive : (Task.loop l).isOver = false := by simp [Task.isOver, refused]
  have uncalled : s.abandonCall l = s := by
    unfold abandonCall
    rw [refused]
    rfl
  have dropped : s.drop t = s.dropLoop t l := by rw [drop, loop?_eq_some.mp here]
  rw [dropped, dropLoop_of_not_over alive, uncalled]
  exact (Harmless.detach (isAttached_of_refused refused)).trans
    ((Harmless.setTask _ t _ _).trans (.record .dropped))

/-! ## Polled to its end -/

/-- A refused loop that nothing holds up ends when it is polled. -/
theorem moves_of_leaving {result : Except Exception Unit} {n : Nat} (here : s.loop? t = some l)
    (refused : l.stage = .closing .refused (.leaving result))
    (free : s.mustWait l.handle .close .after = false) :
    (moves t (n + 1) s).valueOf t = some (.detached .alreadyAttached) := by
  have unhindered : s.isHeldUp l = false := by
    rw [isHeldUp, refused]
    exact free
  have moved : s.move t = some (s.endClose t l .refused result) := by
    rw [move, loop?_eq_some.mp here]
    simp only [moveLoop, unhindered, Bool.false_eq_true, if_false, moveFreely, refused]
  have ended := (moves_endClose here refused).1.own
  have isOver : (s.endClose t l .refused result).move t = none :=
    move_of_over (loop?_eq_some.mp ended) rfl
  rw [moves, moved]
  simp only []
  rw [moves_of_stuck isOver, valueOf, loop?_eq_some.mp ended]
  rfl

/-- A refused loop that is about to close its channel makes two moves to its end. -/
theorem moves_of_entering {n : Nat} (here : s.loop? t = some l)
    (refused : l.stage = .closing .refused .entering)
    (free : ∀ side, s.mustWait l.handle .close side = false) :
    (moves t (n + 2) s).valueOf t = some (.detached .alreadyAttached) := by
  have unhindered : s.isHeldUp l = false := by
    rw [isHeldUp, refused]
    exact free .before
  have moved : s.move t = some ((s.after (s.broker.close (s.channelOf l.handle))).moveTo t l
      (.closing .refused (.leaving (s.broker.close (s.channelOf l.handle)).value))) := by
    rw [move, loop?_eq_some.mp here]
    simp only [moveLoop, unhindered, Bool.false_eq_true, if_false, moveFreely, refused]
  have calm : Calm (some t) s (s.after (s.broker.close (s.channelOf l.handle))) :=
    .after (Broker.heeds_close _ _)
  rw [moves, moved]
  exact moves_of_leaving (calm.relocates here _).own rfl (free .after)

/-- A loop that is about to be refused makes three. -/
theorem moves_of_refused {n : Nat} (here : s.loop? t = some l) (fresh : l.stage = .fresh)
    (taken : (s.publisher l.publisher).attached = true)
    (free : ∀ side, s.mustWait l.handle .close side = false) :
    (moves t (n + 3) s).valueOf t = some (.detached .alreadyAttached) := by
  have calm : Calm (some t) s ((s.note l.publisher .secondLoopRefused).record
      (.began t l.handle .close)) := (Calm.note _ _ _).trans (.began rfl rfl)
  rw [moves, move_of_fresh here fresh, beginLoop_of_attached taken]
  exact moves_of_entering (calm.relocates here (.closing .refused .entering)).own rfl free

/-- A loop that is refused, or is about to be, returns from its next poll, unless it has to wait for the
close of its channel. -/
theorem poll_of_refused (here : s.loop? t = some l)
    (refused : l.stage = .fresh ∧ (s.publisher l.publisher).attached = true ∨
      ∃ phase, l.stage = .closing .refused phase)
    (free : ∀ side, s.mustWait l.handle .close side = false) :
    (s.poll t).valueOf t = some (.detached .alreadyAttached) := by
  -- three moves are within the bound of a poll, whatever waits in the intake
  have bound : s.moveBound t = 3 * (s.publisher l.publisher).intake.size + 7 + 3 := by
    rw [moveBound, loop?_eq_some.mp here]
  rw [poll, bound]
  rcases refused with ⟨fresh, taken⟩ | ⟨phase, closing⟩
  · exact moves_of_refused here fresh taken free
  · cases phase with
    | entering => exact moves_of_entering (n := 3 * _ + 8) here closing free
    | leaving result => exact moves_of_leaving (n := 3 * _ + 9) here closing (free .after)

end Relay.Service
