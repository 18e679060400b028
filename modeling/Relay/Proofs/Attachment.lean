import Relay.Proofs.Growth

/-!
# Attachment

A publisher's record of its loop and the places where loops stand agree: `Moored` says that a
publisher names a task exactly if that task is a loop of the publisher and stands at one of the places
of an attached loop. So at most one loop is attached to a publisher. `Bounded` says that names, tasks
and decisive events refer to entries that exist.

Both hold of a new service and are kept by every step.
-/

namespace Relay.Service

open Broker (Exception)

/-! ## References -/

/-- The tasks that a decisive event speaks of. -/
def Event.tasks : Event → List Nat
  | .began l _ (.publish caller ..) => [l, caller]
  | .returned l caller _ => [l, caller]
  | .requested t | .ended t _ | .dropped t => [t]
  | _ => []

/-- Whatever is referred to exists. -/
structure Bounded (s : Service) : Prop where
  name : ∀ n p : Nat, s.names[n]? = some p → p < s.publishers.size
  task : ∀ (t : Nat) (x : Task), s.tasks[t]? = some x → x.publisher < s.publishers.size
  event : ∀ e ∈ s.history, ∀ t ∈ e.tasks, t < s.tasks.size
  caller : ∀ t, .requested t ∈ s.history → ∃ c, s.tasks[t]? = some (.call c)

/-- Tasks that were issued alike belong to the same publisher. -/
theorem Task.publisher_eq_of_issued {x y : Task} (same : y.issued = x.issued) :
    y.publisher = x.publisher := by
  cases x <;> cases y <;> simp_all [Task.issued, Task.publisher]

/-- A task that is found is in the table. -/
theorem lt_size_of_task {s : Service} {t : Nat} {x : Task} (here : s.tasks[t]? = some x) :
    t < s.tasks.size := (Array.getElem?_eq_some_iff.mp here).1

/-- What a step adds to the history speaks of tasks that exist. -/
theorem Adds.lt_size {s : Service} {a : Option Nat} {e : Event} (h : Adds s a e) :
    ∀ t ∈ e.tasks, t < s.tasks.size := by
  cases h with
  | cancelled => exact fun t mem => absurd mem List.not_mem_nil
  | refused here | requested here | learnt here | endedLoop here | dropped here =>
    exact fun t mem => List.mem_singleton.mp mem ▸ lt_size_of_task here
  | began here _ _ _ there | returned here _ there =>
    intro t mem
    rcases List.mem_cons.mp mem with rfl | mem
    · exact lt_size_of_task here
    · exact List.mem_singleton.mp mem ▸ lt_size_of_task there

namespace Bounded

/-- A new service refers to nothing. -/
theorem fresh : Bounded fresh where
  name n p here := by cases here
  task t x here := by cases here
  event e mem := absurd mem List.not_mem_nil
  caller t mem := absurd mem List.not_mem_nil

variable {s s' : Service} {a : Option Nat}

/-- Tasks do not go away. -/
theorem size_le (h : Step s a s') : s.tasks.size ≤ s'.tasks.size := by
  refine Nat.le_of_not_lt fun less => ?_
  obtain ⟨x', here', -⟩ := h.grows.issued _ _ (Array.getElem?_eq_getElem less)
  exact absurd (lt_size_of_task here') (Nat.lt_irrefl _)

/-- A step records events of tasks that are there. -/
theorem event_step (bounded : Bounded s) (h : Step s a s') :
    ∀ e ∈ s'.history, ∀ t ∈ e.tasks, t < s'.tasks.size := by
  intro e mem t named
  apply Nat.lt_of_lt_of_le _ (size_le h)
  rcases h.adds with same | ⟨e', adds, longer⟩
  · exact bounded.event e (same ▸ mem) t named
  · rw [longer] at mem
    rcases List.mem_cons.mp mem with rfl | mem
    · exact adds.lt_size t named
    · exact bounded.event e mem t named

/-- A request is recorded for a call only. -/
theorem caller_step (bounded : Bounded s) (h : Step s a s') :
    ∀ t, .requested t ∈ s'.history → ∃ c, s'.tasks[t]? = some (.call c) := by
  intro t mem
  have before : ∃ c, s.tasks[t]? = some (.call c) := by
    rcases h.adds with same | ⟨e', adds, longer⟩
    · exact bounded.caller t (same ▸ mem)
    · rw [longer] at mem
      rcases List.mem_cons.mp mem with rfl | mem
      · cases adds with
        | requested here _ _ => exact ⟨_, here⟩
      · exact bounded.caller t mem
  obtain ⟨c, here⟩ := before
  obtain ⟨c', there, -⟩ := h.grows.call here
  exact ⟨c', there⟩

/-- References stay within the tables, since these only grow. -/
theorem step (bounded : Bounded s) (h : Step s a s') : Bounded s' := by
  have event := bounded.event_step h
  have caller := bounded.caller_step h
  rcases h.alters_or_adds with alters | ⟨x, -, inBounds, rfl⟩ | ⟨p, -, rfl⟩ | ⟨p, inBounds, rfl⟩
  · refine ⟨fun n p here => ?_, fun t x' here' => ?_, event, caller⟩
    · rw [alters.sameNames] at here
      rw [alters.samePublishers]
      exact bounded.name n p here
    · -- a task may have changed, but not the publisher it was issued for
      have inBounds : t < s.tasks.size := alters.sameTasks ▸ lt_size_of_task here'
      obtain ⟨y, here, same⟩ :=
        alters.issued t s.tasks[t] (Array.getElem?_eq_getElem inBounds)
      rw [here'] at here
      cases here
      rw [alters.samePublishers, Task.publisher_eq_of_issued same]
      exact bounded.task t _ (Array.getElem?_eq_getElem inBounds)
  · refine ⟨bounded.name, fun t y here => ?_, event, caller⟩
    rw [tasks_push] at here
    split at here
    · cases here
      exact inBounds
    · exact bounded.task t y here
  · have longer : (s.addPublisher p).1.publishers.size = s.publishers.size + 1 := Array.size_push _
    refine ⟨fun n q here => ?_, fun t y here => ?_, event, caller⟩
    · rw [longer]
      rw [addPublisher, Array.getElem?_push] at here
      split at here
      · cases here
        exact Nat.lt_succ_self _
      · exact Nat.lt_succ_of_lt (bounded.name n q here)
    · rw [longer]
      exact Nat.lt_succ_of_lt (bounded.task t y here)
  · refine ⟨fun n q here => ?_, bounded.task, event, caller⟩
    rw [addName, Array.getElem?_push] at here
    split at here
    · cases here
      exact inBounds
    · exact bounded.name n q here

end Bounded

/-! ## Moorings -/

/-- The publisher that a task is attached to. -/
def Task.mooring : Task → Option Nat
  | .call _ => none
  | .loop l => if l.stage.isAttached then some l.publisher else none

/-- The publisher that the task at an index is attached to. -/
def mooring (s : Service) (t : Nat) : Option Nat := s.tasks[t]?.bind Task.mooring

/-- Publishers know exactly the loops that are attached to them. -/
def Moored (s : Service) : Prop := ∀ p l, (s.publisher p).loop = some l ↔ s.mooring l = some p

/-- A task is moored to a publisher just if it is a loop of it and attached. -/
theorem mooring_eq_some {s : Service} {t p : Nat} :
    s.mooring t = some p ↔
      ∃ l, s.tasks[t]? = some (.loop l) ∧ l.stage.isAttached = true ∧ l.publisher = p := by
  unfold mooring
  cases here : s.tasks[t]? with
  | none => simp
  | some x =>
    cases x with
    | call c => simp [Task.mooring]
    | loop l => simp [Task.mooring]

/-- A loop at a place of an attached one is moored to its publisher. -/
theorem mooring_of_attached {s : Service} {t : Nat} {l : Loop} (here : s.tasks[t]? = some (.loop l))
    (attached : l.stage.isAttached = true) : s.mooring t = some l.publisher :=
  mooring_eq_some.mpr ⟨l, here, attached, rfl⟩

/-- One task changes. -/
theorem mooring_of_tasks {s s' : Service} {t : Nat} {x : Task}
    (tasks : ∀ u : Nat, s'.tasks[u]? = if u = t then some x else s.tasks[u]?) (u : Nat) :
    s'.mooring u = if u = t then x.mooring else s.mooring u :=
  bind_of_write tasks u

namespace Moored

variable {s s' : Service} {t : Nat}

/-- In a new service nobody is moored. -/
theorem fresh : Moored fresh := by
  intro p l
  have noLoop : (Service.fresh.publisher p).loop = none := rfl
  have noTask : Service.fresh.mooring l = none := rfl
  rw [noLoop, noTask]
  simp

/-- Nothing that matters to moorings changes. -/
theorem congr (moored : Moored s) (loop : ∀ p, (s'.publisher p).loop = (s.publisher p).loop)
    (mooring : ∀ u, s'.mooring u = s.mooring u) : Moored s' := fun p l => by
  rw [loop p, mooring l]
  exact moored p l

/-- One task changes without changing its mooring. -/
theorem congr_task (moored : Moored s) {x y : Task} (here : s.tasks[t]? = some y)
    (loop : ∀ p, (s'.publisher p).loop = (s.publisher p).loop)
    (tasks : ∀ u : Nat, s'.tasks[u]? = if u = t then some x else s.tasks[u]?)
    (same : x.mooring = y.mooring) : Moored s' :=
  moored.congr loop (bind_of_write_same here tasks same)

/-- Stranding a task changes calls only. -/
theorem mooring_strand (x : Task) : x.strand.mooring = x.mooring := by
  cases x <;> rfl

/-- Abandoning a task changes calls only. -/
theorem mooring_abandon (x : Task) : x.abandon.mooring = x.mooring := by
  cases x <;> rfl

/-- Emptying an intake moors and unmoors nobody. -/
theorem drain (moored : Moored s) (p : Nat) : Moored (s.drain p) :=
  moored.congr (loop_drain s p) (bind_drain mooring_strand s p)

/-- Nor does a cancellation. -/
theorem cancel (moored : Moored s) (p : Nat) : Moored (s.cancel p).1 :=
  moored.congr (loop_cancel s p) (bind_cancel mooring_strand s p)

/-- A loop that is moored nowhere any more has left its publisher. -/
theorem detach (moored : Moored s) {l : Loop} {x : Task} (here : s.tasks[t]? = some (.loop l))
    (inBounds : l.publisher < s.publishers.size) (unmoored : x.mooring = none)
    (publisher : ∀ p, s'.publisher p = (s.detach l).publisher p)
    (tasks : ∀ u, s'.mooring u = if u = t then x.mooring else s.mooring u) : Moored s' := by
  intro p u
  rw [publisher p, publisher_detach, tasks u]
  simp only [inBounds, and_true]
  by_cases attached : l.stage.isAttached = true
  · have home := (moored l.publisher t).mpr (mooring_of_attached here attached)
    by_cases own : p = l.publisher
    · subst own
      simp only [attached, and_self, if_true, reduceCtorEq, false_iff]
      split
      · simp [unmoored]
      · next other =>
        intro there
        rw [← moored, home] at there
        exact other (Option.some.inj there).symm
    · simp only [own, and_false, if_false]
      rw [moored p u]
      split
      · next at_t =>
        rw [at_t, mooring_of_attached here attached, unmoored]
        simp [Ne.symm own]
      · rfl
  · simp only [attached, Bool.false_eq_true, false_and, if_false]
    rw [moored p u]
    split
    · next at_t =>
      rw [at_t, unmoored, mooring, here]
      simp [Task.mooring, attached]
    · rfl

/-- A loop that attaches itself to a vacant publisher is the only one there. -/
theorem attach {l : Loop} {stage : LoopStage} (moored : Moored s)
    (inBounds : l.publisher < s.publishers.size) (here : s.tasks[t]? = some (.loop l))
    (fresh : l.stage = .fresh) (vacant : (s.publisher l.publisher).loop = none)
    (attached : stage.isAttached = true) :
    Moored ((s.onPublisher l.publisher fun p => { p with loop := some t }).moveTo t l stage) := by
  have now : (Task.loop { l with stage }).mooring = some l.publisher := if_pos attached
  have unmoored : s.mooring t = none := by
    rw [Service.mooring, here]
    simp [Task.mooring, fresh, LoopStage.isAttached]
  intro p u
  rw [mooring_of_tasks (s := s) (tasks_moveTo (s := s.onPublisher l.publisher _) here stage), now]
  have written := publisher_onPublisher s l.publisher (fun p => { p with loop := some t }) p
  simp only [inBounds, and_true] at written
  rw [show ((s.onPublisher l.publisher _).moveTo t l stage).publisher p = _ from written]
  by_cases own : p = l.publisher
  · subst own
    simp only [if_true, Option.some.injEq]
    split
    · next at_t => simp [at_t]
    · next other =>
      -- no other loop is attached to a publisher that was vacant
      simp only [Ne.symm other, false_iff]
      rw [show s.mooring u = some l.publisher ↔ (s.publisher l.publisher).loop = some u from
        (moored _ _).symm, vacant]
      rintro ⟨⟩
  · simp only [own, if_false]
    rw [moored p u]
    split
    · next at_t => simp [at_t, unmoored, Ne.symm own]
    · rfl

/-- A loop and a call change, and the loop stays attached. -/
theorem pair {l : Loop} {stage : LoopStage} {caller : Nat} {c c' : Call} (moored : Moored s)
    (here : s.tasks[t]? = some (.loop l)) (there : s.tasks[caller]? = some (.call c))
    (tasks : ∀ u : Nat, s'.tasks[u]? = if u = t then some (.loop { l with stage })
      else if u = caller then some (.call c') else s.tasks[u]?)
    (loop : ∀ p, (s'.publisher p).loop = (s.publisher p).loop)
    (attached : l.stage.isAttached = true) (still : stage.isAttached = true) : Moored s' := by
  refine moored.congr loop fun u => ?_
  rw [Service.mooring, tasks u]
  split
  · next at_t =>
    rw [at_t, mooring_of_attached here attached]
    exact if_pos still
  · split
    · next at_caller => rw [at_caller, Service.mooring, there]; rfl
    · rfl

/-- Nor does dropping a call. -/
theorem dropCall {c : Call} (moored : Moored s) (here : s.tasks[t]? = some (.call c)) :
    Moored (s.dropCall t c) := by
  by_cases isOver : (Task.call c).isOver = true
  · rw [dropCall_of_over isOver]
    exact moored
  · have alive := Bool.eq_false_iff.mpr isOver
    refine moored.congr_task here (fun p => ?_) (tasks_dropCall here alive) rfl
    rcases publisher_dropCall (s := s) (t := t) alive p with same | ⟨-, same⟩
    · rw [same]
    · rw [same]

/-- A loop that is dropped leaves its place and the record of its publisher. -/
theorem dropLoop {l : Loop} (moored : Moored s) (inBounds : l.publisher < s.publishers.size)
    (here : s.tasks[t]? = some (.loop l)) : Moored (s.dropLoop t l) := by
  by_cases isOver : (Task.loop l).isOver = true
  · rw [dropLoop_of_over isOver]
    exact moored
  · have alive := Bool.eq_false_iff.mpr isOver
    refine moored.detach here inBounds (x := .loop { l with stage := .dropped }) rfl
      (publisher_dropLoop alive) fun u => ?_
    rw [Service.mooring, tasks_dropLoop here alive, Service.mooring]
    split
    · rfl
    · split
      · exact bind_map_of_same mooring_abandon _
      · rfl

/-- A new task is attached nowhere. -/
theorem issue {x : Task} (moored : Moored s) (new : x.issued = x) :
    Moored { s with tasks := s.tasks.push x } := by
  refine moored.congr (fun _ => rfl) fun u => ?_
  rw [mooring_of_tasks (tasks_push s x)]
  split
  · next at_end =>
    rw [Service.mooring, at_end, Array.getElem?_eq_none (Nat.le_refl _), ← new]
    cases x <;> rfl
  · rfl

/-- A new publisher names no loop. -/
theorem addPublisher {q : Publisher} (moored : Moored s) (vacant : q.loop = none) :
    Moored (s.addPublisher q).1 := by
  refine moored.congr (fun p => ?_) fun _ => rfl
  rw [show (s.addPublisher q).1.publisher p = _ from publisher_push s q p]
  split
  · next at_end =>
    rw [vacant, publisher, at_end, Array.getElem?_eq_none (Nat.le_refl _)]
    rfl
  · rfl

/-- Every step keeps record and places in agreement. -/
theorem step {a : Option Nat} (moored : Moored s) (bounded : Bounded s) (h : Step s a s') :
    Moored s' := by
  cases h with
  | quiet alike =>
    refine moored.congr (fun p => ?_) fun u => ?_
    · rw [publisher, alike.publishers, publisher]
    · rw [Service.mooring, alike.tasks, Service.mooring]
  | cancel _ _ => exact moored.cancel _
  -- a call is never moored, whatever becomes of it; of the loops only those that attach or end change the
  -- record
  | refuse here _ _ | learn here _ _ =>
    exact moored.congr_task here (fun _ => rfl) (tasks_endCall here _) rfl
  | request here _ _ =>
    exact moored.congr_task here (publisher_onPublisher_congr Publisher.loop rfl)
      (tasks_enqueue here) rfl
  | attach here fresh vacant attached _ =>
    exact moored.attach (bounded.task _ _ here) here fresh vacant attached
  | status _ | forget | skip _ _ _ _ _ =>
    exact moored.congr (publisher_onPublisher_congr Publisher.loop rfl) fun _ => rfl
  | drain _ => exact moored.drain _
  | advance here attached _ _ =>
    refine moored.congr_task here (fun _ => rfl) (tasks_moveTo here _) ?_
    simp only [Task.mooring, attached]
  | begin here idle _ _ there _ =>
    exact moored.pair here there (tasks_openRequest (s := s.withIntake _ _) here there _)
      (publisher_onPublisher_congr Publisher.loop rfl) (by rw [idle]; rfl) rfl
  | answer here publishing there =>
    exact moored.pair here there (tasks_closeRequest here there _ _) (fun _ => rfl)
      (by rw [publishing]; rfl) rfl
  | @endLoop t l reason here free _ =>
    exact moored.detach here (bounded.task t _ here)
      (x := .loop { l with stage := .finished reason }) rfl (fun _ => rfl)
      (mooring_of_tasks (tasks_endLoop here reason))
  | dropCall here => exact moored.dropCall here
  | dropLoop here => exact moored.dropLoop (bounded.task _ _ here) here
  | issue new _ => exact moored.issue new
  | addPublisher new => exact moored.addPublisher new.2.1
  | addName _ => exact moored.congr (fun _ => rfl) fun _ => rfl

end Moored

end Relay.Service
