import Relay.Proofs.Kinds

/-!
# Idle loops leave nothing offered

A request is handed off only to a loop that stands idle, and then it is taken before those offered. So
the order in which requests are taken is the order in which they were put in only if nothing is offered
while an idle loop has nothing handed off to it. This holds between turns: a loop that is polled takes
what is offered before it stands idle at the end. While a task is polled it holds of all other loops.
-/

namespace Relay.Service

open Broker (Exception)

variable {s s' : Service} {t : Nat} {a : Option Nat}

/-- The task at an index is a loop that is ready for requests. -/
def Idle (s : Service) (l : Nat) : Prop :=
  ∃ x notice, s.tasks[l]? = some (.loop x) ∧ x.stage = .idle notice

/-- Where an attached loop other than a given one is idle, something is handed off or nothing is
offered. -/
def RestedBut (a : Option Nat) (s : Service) : Prop :=
  ∀ p l, a ≠ some l → (s.publisher p).loop = some l → s.Idle l →
    (s.publisher p).intake.handedOff = none → (s.publisher p).intake.offered = []

/-- Where an attached loop is idle, something is handed off or nothing is offered. -/
abbrev Rested : Service → Prop := RestedBut none

/-- Where all loops are rested, all but one are. -/
theorem Rested.but (rested : Rested s) (a : Option Nat) : RestedBut a s :=
  fun p l _ => rested p l nofun

/-! ## Idle loops after a change -/

/-- Whether a task is a loop that is ready for requests. -/
def Task.idle? : Task → Option Unit
  | .call _ => none
  | .loop l =>
    match l.stage with
    | .idle _ => some ()
    | _ => none

/-- A loop is idle just if its task is read as an idle one. -/
theorem idle_iff {l : Nat} : s.Idle l ↔ s.tasks[l]?.bind Task.idle? = some () := by
  unfold Idle
  cases s.tasks[l]? with
  | none => simp
  | some x =>
    cases x with
    | call c => simp [Task.idle?]
    | loop x => cases stage : x.stage <;> simp [Task.idle?, stage]

/-- Writing a task over makes no other loop idle. -/
theorem idle_of_ne {x : Task} {l : Nat} (other : l ≠ t)
    (tasks : ∀ u : Nat, s'.tasks[u]? = if u = t then some x else s.tasks[u]?) (idle : s'.Idle l) :
    s.Idle l := by
  rw [idle_iff, bind_of_write tasks, if_neg other] at idle
  exact idle_iff.mpr idle

/-- A task is written over by one that is no idle loop. -/
theorem idle_of_write {x : Task} {l : Nat}
    (tasks : ∀ u : Nat, s'.tasks[u]? = if u = t then some x else s.tasks[u]?)
    (busy : x.idle? = none) (idle : s'.Idle l) : s.Idle l := by
  refine idle_of_ne ?_ tasks idle
  rintro rfl
  rw [idle_iff, bind_of_write tasks, if_pos rfl, busy] at idle
  cases idle

/-- Nor does writing a loop and a call over. -/
theorem idle_of_pair {x : Loop} {c : Call} {caller l : Nat} (other : l ≠ t)
    (tasks : ∀ u : Nat, s'.tasks[u]? = if u = t then some (.loop x)
      else if u = caller then some (.call c) else s.tasks[u]?) (idle : s'.Idle l) : s.Idle l := by
  obtain ⟨y, notice, here, stage⟩ := idle
  rw [tasks, if_neg other] at here
  split at here
  · cases here
  · exact ⟨y, notice, here, stage⟩

/-- Stranding a task changes calls only. -/
theorem idle?_strand (x : Task) : x.strand.idle? = x.idle? := by
  cases x <;> rfl

/-- Abandoning a task changes calls only. -/
theorem idle?_abandon (x : Task) : x.abandon.idle? = x.idle? := by
  cases x <;> rfl

/-- Emptying an intake makes no loop idle. -/
theorem idle_drain {p l : Nat} (idle : (s.drain p).Idle l) : s.Idle l := by
  rw [idle_iff, bind_drain idle?_strand] at idle
  exact idle_iff.mpr idle

/-- Nor does a cancellation. -/
theorem idle_cancel {p l : Nat} (idle : (s.cancel p).1.Idle l) : s.Idle l := by
  rw [idle_iff, bind_cancel idle?_strand] at idle
  exact idle_iff.mpr idle

namespace RestedBut

/-- What a change may do to publishers with idle loops. -/
theorem frame (rested : RestedBut a s)
    (loop : ∀ p l, a ≠ some l → (s'.publisher p).loop = some l → (s.publisher p).loop = some l)
    (idle : ∀ l, a ≠ some l → s'.Idle l → s.Idle l)
    (intake : ∀ p l, a ≠ some l → (s'.publisher p).loop = some l → s'.Idle l →
      (s'.publisher p).intake = (s.publisher p).intake ∨
        ((s'.publisher p).intake.handedOff = none → (s'.publisher p).intake.offered = [])) :
    RestedBut a s' := by
  intro p l other attached idle' vacant
  rcases intake p l other attached idle' with same | none
  · rw [same] at vacant ⊢
    exact rested p l other (loop p l other attached) (idle l other idle') vacant
  · exact none vacant

/-- Publishers keep their loops and intakes. -/
theorem of_publishers (rested : RestedBut a s)
    (publisher : ∀ p, (s'.publisher p).loop = (s.publisher p).loop ∧
      (s'.publisher p).intake = (s.publisher p).intake)
    (idle : ∀ l, a ≠ some l → s'.Idle l → s.Idle l) : RestedBut a s' :=
  rested.frame (fun p l _ attached => by rw [← (publisher p).1, attached]) idle
    fun p _ _ _ _ => .inl (publisher p).2

/-- A publisher that changes in neither loop nor intake, among all. -/
theorem onPublisher {p : Nat} {f : Publisher → Publisher}
    (loop : (f (s.publisher p)).loop = (s.publisher p).loop)
    (intake : (f (s.publisher p)).intake = (s.publisher p).intake) :
    ∀ q, ((s.onPublisher p f).publisher q).loop = (s.publisher q).loop ∧
      ((s.onPublisher p f).publisher q).intake = (s.publisher q).intake :=
  fun q => ⟨publisher_onPublisher_congr Publisher.loop loop q,
    publisher_onPublisher_congr Publisher.intake intake q⟩

/-- An empty intake offers nothing. -/
theorem drain (rested : RestedBut a s) (p : Nat) : RestedBut a (s.drain p) := by
  refine rested.frame (fun q l _ attached => by rw [← loop_drain s p q, attached])
    (fun l _ => idle_drain) fun q l _ _ _ => ?_
  rw [publisher_drain]
  split
  · exact .inr fun _ => rfl
  · exact .inl rfl

/-- A cancellation empties the intake or changes nothing. -/
theorem cancel (rested : RestedBut a s) (p : Nat) : RestedBut a (s.cancel p).1 := by
  refine rested.frame (fun q l _ attached => by rw [← loop_cancel s p q, attached])
    (fun l _ => idle_cancel) fun q l _ _ _ => ?_
  rcases intake_cancel s p q with same | empty
  · exact .inl same
  · exact .inr fun _ => by rw [empty]

/-- A loop that leaves its publisher is not attached to it any more. -/
theorem detach {l : Loop} (rested : RestedBut a s)
    (publisher : ∀ p, s'.publisher p = (s.detach l).publisher p)
    (idle : ∀ l, s'.Idle l → s.Idle l) : RestedBut a s' := by
  refine rested.frame (fun p k _ attached => ?_) (fun k _ => idle k) fun p k _ _ _ => .inl ?_
  · rw [publisher, publisher_detach] at attached
    split at attached
    · cases attached
    · exact attached
  · rw [publisher]
    exact (Accounted.orders_detach s l p).1

/-- A request that is put in while an idle loop has nothing handed off to it is handed off. -/
theorem enqueue {c : Call} (rested : RestedBut a s) (inBounds : c.publisher < s.publishers.size)
    (here : s.tasks[t]? = some (.call c)) : RestedBut a (s.enqueue t c) := by
  have before : ∀ l, (s.enqueue t c).Idle l → s.Idle l :=
    fun l => idle_of_write (tasks_enqueue here) rfl
  have loop : ∀ p, ((s.enqueue t c).publisher p).loop = (s.publisher p).loop :=
    publisher_onPublisher_congr Publisher.loop rfl
  refine rested.frame (fun p l _ attached => by rw [← loop p, attached]) (fun l _ => before l)
    fun p l _ attached idle => ?_
  rw [loop p] at attached
  rw [publisher_enqueue]
  simp only [inBounds, and_true]
  split
  · next own =>
    refine .inr fun vacant => ?_
    -- the idle loop is the one attached, so the request was not offered but handed off
    have ready : s.isReady c.publisher = true := by
      obtain ⟨x, notice, there, stage⟩ := before l idle
      obtain ⟨publisher, handle, stage'⟩ := x
      cases stage
      rw [own] at attached
      rw [isReady, attached]
      simp only [there]
    rw [ready] at vacant
    unfold Publisher.Intake.put at vacant
    split at vacant
    · cases vacant
    · next busy =>
      rw [vacant] at busy
      simp at busy
  · exact .inl rfl

/-- A call that is dropped leaves the intake at most. -/
theorem dropCall {c : Call} (rested : RestedBut a s) (here : s.tasks[t]? = some (.call c)) :
    RestedBut a (s.dropCall t c) := by
  by_cases isOver : (Task.call c).isOver = true
  · rw [dropCall_of_over isOver]
    exact rested
  have alive := Bool.eq_false_iff.mpr isOver
  have publisher := publisher_dropCall (s := s) (t := t) alive
  have loop : ∀ p, ((s.dropCall t c).publisher p).loop = (s.publisher p).loop := by
    intro p
    rcases publisher p with same | ⟨-, same⟩
    · rw [same]
    · rw [same]
  have before : ∀ l, (s.dropCall t c).Idle l → s.Idle l :=
    fun l => idle_of_write (tasks_dropCall here alive) rfl
  refine rested.frame (fun p l _ attached => by rw [← loop p, attached]) (fun l _ => before l)
    fun p l other attached idle => ?_
  rw [loop p] at attached
  rcases publisher p with same | ⟨-, left⟩
  · exact .inl (by rw [same])
  · refine .inr fun vacant => ?_
    rw [left] at vacant ⊢
    have none := rested p l other attached (before l idle) vacant
    simp [Publisher.Intake.leave, none]

/-- A loop that is dropped is attached no more. -/
theorem dropLoop {l : Loop} (rested : RestedBut a s) (here : s.tasks[t]? = some (.loop l)) :
    RestedBut a (s.dropLoop t l) := by
  by_cases isOver : (Task.loop l).isOver = true
  · rw [dropLoop_of_over isOver]
    exact rested
  have alive := Bool.eq_false_iff.mpr isOver
  refine rested.detach (publisher_dropLoop alive) fun k idle => ?_
  rw [idle_iff, tasks_dropLoop here alive] at idle
  apply idle_iff.mpr
  split at idle
  · cases idle
  · split at idle
    · rw [bind_map_of_same idle?_abandon] at idle
      exact idle
    · exact idle

/-- A loop that takes a request out of the intake is the one attached to the publisher. -/
theorem take {l : Loop} {notice : Option Nat} {i : Publisher.Intake}
    (rested : RestedBut (some t) s) (moored : Moored s) (here : s.tasks[t]? = some (.loop l))
    (idle : l.stage = .idle notice) :
    RestedBut (some t) (s.withIntake l.publisher i) := by
  have attached := (moored l.publisher t).mpr (mooring_of_attached here (by rw [idle]; rfl))
  have loop := publisher_onPublisher_congr Publisher.loop (s := s) (p := l.publisher)
    (f := fun p => { p with intake := i }) rfl
  refine rested.frame (fun p k _ other => by rw [← loop p, other]) (fun _ _ idle => idle)
    fun p k other attached' _ => .inl ?_
  rw [loop p] at attached'
  rw [publisher_onPublisher]
  split
  · next own =>
    rw [own.1, attached] at attached'
    exact absurd attached' other
  · rfl

/-- The step of a task leaves all other loops rested. -/
theorem step (rested : RestedBut a s) (sound : Sound s) (h : Step s a s') : RestedBut a s' := by
  have same : ∀ p, (s.publisher p).loop = (s.publisher p).loop ∧
      (s.publisher p).intake = (s.publisher p).intake := fun _ => ⟨rfl, rfl⟩
  -- the task that acts is not among the loops in question
  have apart : ∀ {t l : Nat}, some t ≠ some l → l ≠ t :=
    fun other same => other (congrArg some same.symm)
  cases h with
  | quiet alike =>
    refine rested.of_publishers (fun p => by rw [alike.publisher]; exact ⟨rfl, rfl⟩) fun l _ idle => ?_
    unfold Idle at idle ⊢
    rw [alike.tasks] at idle
    exact idle
  | cancel _ _ => exact rested.cancel _
  | refuse here _ _ | learn here _ _ =>
    exact rested.of_publishers same fun l _ => idle_of_write (tasks_endCall here _) rfl
  | request here _ _ => exact rested.enqueue (sound.bounded.task _ _ here) here
  | @attach t l stage here _ vacant _ _ =>
    have inBounds : l.publisher < s.publishers.size := sound.bounded.task t _ here
    have written := publisher_onPublisher s l.publisher (fun p => { p with loop := some t })
    refine rested.frame (fun p k other attached => ?_)
      (fun k other => idle_of_ne (s := s) (apart other)
        (tasks_moveTo (s := s.onPublisher l.publisher _) here stage))
      fun p k _ _ _ => .inl (publisher_onPublisher_congr Publisher.intake rfl p)
    have attached' := congrArg Publisher.loop (written p) ▸ attached
    split at attached'
    · exact absurd attached' other
    · exact attached'
  | status | forget => exact rested.of_publishers (onPublisher rfl rfl) fun _ _ idle => idle
  | drain _ => exact rested.drain _
  | advance here _ _ _ =>
    exact rested.of_publishers same fun l other => idle_of_ne (apart other) (tasks_moveTo here _)
  | skip here idle _ _ _ => exact rested.take sound.moored here idle
  | @begin t l notice caller c rest here idle _ _ there _ =>
    have taken := rested.take (i := rest) sound.moored here idle
    exact taken.of_publishers (fun _ => ⟨rfl, rfl⟩) fun k other => idle_of_pair (apart other)
      (tasks_openRequest (s := s.withIntake l.publisher _) here there notice)
  | answer here _ there =>
    exact rested.of_publishers same fun l other =>
      idle_of_pair (apart other) (tasks_closeRequest here there _ _)
  | endLoop here _ _ =>
    exact rested.detach (fun _ => rfl) fun _ => idle_of_write (tasks_endLoop here _) rfl
  | dropCall here => exact rested.dropCall here
  | dropLoop here => exact rested.dropLoop here
  | @issue x new _ =>
    refine rested.of_publishers same fun l _ => idle_of_write (tasks_push s x) ?_
    -- a new loop is not idle
    rw [← new]
    cases x <;> rfl
  | @addPublisher q new =>
    have pushed : ∀ p, (s.addPublisher q).1.publisher p = _ := publisher_push s q
    refine rested.of_publishers (fun p => ?_) fun _ _ idle => idle
    rw [pushed]
    split
    · next at_end =>
      rw [new.2.1, new.2.2, publisher, at_end, Array.getElem?_eq_none (Nat.le_refl _)]
      exact ⟨rfl, rfl⟩
    · exact ⟨rfl, rfl⟩
  | addName => exact rested.of_publishers same fun _ _ idle => idle

end RestedBut

/-! ## Between turns -/

/-- An idle loop that cannot move has nothing to take. -/
theorem order_of_stuck {l : Loop} {notice : Option Nat} (here : s.tasks[t]? = some (.loop l))
    (idle : l.stage = .idle notice) (stuck : s.move t = none) :
    (s.publisher l.publisher).intake.order = [] := by
  have free : s.isHeldUp l = false := by rw [isHeldUp, idle]; rfl
  rw [move, here] at stuck
  simp only [moveLoop, free, Bool.false_eq_true, if_false, moveFreely, idle, moveIdle] at stuck
  split at stuck
  · cases stuck
  · split at stuck
    · cases stuck
    · cases stuck
    · cases stuck
    · exact Publisher.Intake.take?_eq_none_iff.mp (Option.map_eq_none_iff.mp stuck)

/-- In a service that nobody has used no loop is attached. -/
theorem Rested.fresh : Rested fresh := by
  intro p l _ attached
  cases attached

/-- After a turn all loops are rested, the one that was polled included. -/
theorem Rested.turn (rested : Rested s) (sound : Sound s) (h : Turn s s') : Rested s' := by
  cases h with
  | outside h => exact RestedBut.step rested sound h
  | poll t =>
    have steps : ∀ {r : Service}, Steps t s r → RestedBut (some t) r := by
      intro r h
      induction h with
      | refl => exact rested.but _
      | tail before h ih => exact ih.step (sound.steps before) h
    intro p l _ attached idle vacant
    by_cases own : l = t
    · -- the loop that was polled cannot move any more, so it left nothing to take
      subst own
      obtain ⟨x, notice, here, stage⟩ := idle
      have moored := (sound.steps (sound.poll l)).moored p l
      rw [attached, mooring_of_attached here (by rw [stage]; rfl)] at moored
      have home : x.publisher = p := Option.some.inj (moored.mp rfl)
      have empty := order_of_stuck here stage (sound.move_poll l)
      rw [home, Publisher.Intake.order, vacant] at empty
      exact empty
    · exact steps (sound.poll t) p l (fun same => own (Option.some.inj same).symm) attached idle vacant

end Relay.Service
