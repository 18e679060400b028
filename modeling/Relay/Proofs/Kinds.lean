import Relay.Proofs.Values

/-!
# Kinds of steps

Three kinds of steps do what the order of requests and the fate of publishers depend on: a
cancellation, a request and the beginning of a publish. All others are `Minor`: they take nothing into
an intake and move nothing about in it, keep publishers dead or alive, and lead a loop out of a publish
only with an event that says so.
-/

namespace Relay.Service

open Broker (Exception)

variable {s s' : Service} {t : Nat} {a : Option Nat}

/-- Whether an event is the end of a task or the return of a publish. -/
def Event.isEnding : Event → Bool
  | .returned .. | .ended .. | .dropped _ => true
  | _ => false

/-- Whether an event ends the publish of a loop for a call. -/
def Event.Closes (l t : Nat) (e : Event) : Prop :=
  (∃ result, e = .returned l t result) ∨ e = .dropped l

/-- What steps do that neither cancel nor request nor begin a publish. Only callers, who come from
outside, take a request out of the middle of an intake. -/
structure Minor (s : Service) (a : Option Nat) (s' : Service) : Prop where
  dead : ∀ p, (s'.publisher p).dead = (s.publisher p).dead
  order : ∀ p, (s'.publisher p).intake.order.Sublist (s.publisher p).intake.order
  suffix : ∀ p t, a = some t → (s'.publisher p).intake.order <:+ (s.publisher p).intake.order
  history : s'.history = s.history ∨ ∃ e, s'.history = e :: s.history ∧ e.isEnding = true
  carries : ∀ l u, s.carries l = some u →
    s'.carries l = some u ∨ ∃ e, s'.history = e :: s.history ∧ e.Closes l u

namespace Minor

/-- Nothing but the history and the insides of tasks and publishers changes. -/
theorem of_same (publisher : ∀ p, (s'.publisher p).dead = (s.publisher p).dead ∧
      (s'.publisher p).intake = (s.publisher p).intake)
    (history : s'.history = s.history ∨ ∃ e, s'.history = e :: s.history ∧ e.isEnding = true)
    (carries : ∀ l, s'.carries l = s.carries l) : Minor s a s' where
  dead p := (publisher p).1
  order p := by
    rw [(publisher p).2]
  suffix p t _ := by
    rw [(publisher p).2]
  history := history
  carries l u carried := .inl (by rw [carries l, carried])

/-- A change of a publisher's other fields. -/
theorem onPublisher {p : Nat} {f : Publisher → Publisher}
    (dead : (f (s.publisher p)).dead = (s.publisher p).dead)
    (intake : (f (s.publisher p)).intake = (s.publisher p).intake) :
    ∀ q, ((s.onPublisher p f).publisher q).dead = (s.publisher q).dead ∧
      ((s.onPublisher p f).publisher q).intake = (s.publisher q).intake :=
  fun q => ⟨publisher_onPublisher_congr Publisher.dead dead q,
    publisher_onPublisher_congr Publisher.intake intake q⟩

end Minor

/-- A call that is dropped may take its request out of the intake. -/
theorem minor_dropCall {c : Call} (here : s.tasks[t]? = some (.call c)) :
    Minor s none (s.dropCall t c) := by
  by_cases isOver : (Task.call c).isOver = true
  · rw [dropCall_of_over isOver]
    exact .of_same (fun _ => ⟨rfl, rfl⟩) (.inl rfl) fun _ => rfl
  have alive := Bool.eq_false_iff.mpr isOver
  have publisher := publisher_dropCall (s := s) (t := t) alive
  refine
    { dead := fun p => ?_
      order := fun p => ?_
      suffix := nofun
      history := .inr ⟨_, history_dropCall alive, rfl⟩
      carries := fun l u carried => .inl ?_ }
  · rcases publisher p with same | ⟨-, same⟩
    · rw [same]
    · rw [same]
  · rcases publisher p with same | ⟨-, left⟩
    · rw [same]
    · rw [left]
      exact Publisher.Intake.order_leave_sublist _ t
  · rw [carries_of_write here (tasks_dropCall here alive) rfl, carried]

/-- Abandoning a task changes calls only. -/
theorem caller?_abandon (x : Task) : x.abandon.caller? = x.caller? := by
  cases x <;> rfl

/-- A loop that is dropped leaves its publish with the event that says so. -/
theorem minor_dropLoop {l : Loop} (here : s.tasks[t]? = some (.loop l)) :
    Minor s none (s.dropLoop t l) := by
  by_cases isOver : (Task.loop l).isOver = true
  · rw [dropLoop_of_over isOver]
    exact .of_same (fun _ => ⟨rfl, rfl⟩) (.inl rfl) fun _ => rfl
  have alive := Bool.eq_false_iff.mpr isOver
  have longer := history_dropLoop (s := s) (t := t) alive
  have publisher : ∀ p, ((s.dropLoop t l).publisher p).intake = (s.publisher p).intake ∧
      ((s.dropLoop t l).publisher p).dead = (s.publisher p).dead := by
    intro p
    rw [publisher_dropLoop alive]
    exact Accounted.orders_detach s l p
  refine
    { dead := fun p => (publisher p).2
      order := fun p => ?_
      suffix := nofun
      history := .inr ⟨_, longer, rfl⟩
      carries := fun k u carried => ?_ }
  · rw [(publisher p).1]
  · rw [carries, tasks_dropLoop here alive]
    split
    · next at_t =>
      rw [at_t]
      exact .inr ⟨_, longer, .inr rfl⟩
    · split
      · rw [bind_map_of_same caller?_abandon]
        exact .inl carried
      · exact .inl carried

/-- Emptying an intake leaves nothing of its order. -/
theorem minor_drain (s : Service) (p : Nat) : Minor s a (s.drain p) where
  dead q := by
    rw [publisher_drain]
    split
    · next own => rw [own]
    · rfl
  order q := by
    rw [publisher_drain]
    split
    · exact List.nil_sublist _
    · exact List.Sublist.refl _
  suffix q _ _ := by
    rw [publisher_drain]
    split
    · exact List.nil_suffix
    · exact List.suffix_rfl
  history := .inl (history_drain s p)
  carries l u carried := .inl (by rw [carries_drain, carried])

/-- What is taken out of an intake is its first request. -/
theorem suffix_of_take {p caller : Nat} {rest : Publisher.Intake}
    (next : (s.publisher p).intake.take? = some (caller, rest)) (q : Nat) :
    ((s.withIntake p rest).publisher q).intake.order <:+ (s.publisher q).intake.order := by
  rw [publisher_withIntake]
  split
  · next own =>
    rw [own.1, Publisher.Intake.order_of_take? next]
    exact List.suffix_cons _ _
  · exact List.suffix_rfl

/-- The first request is taken out of the intake. -/
theorem minor_skip {p caller : Nat} {rest : Publisher.Intake}
    (next : (s.publisher p).intake.take? = some (caller, rest)) : Minor s a (s.withIntake p rest) where
  dead := publisher_onPublisher_congr Publisher.dead rfl
  order q := (suffix_of_take next q).sublist
  suffix q _ _ := suffix_of_take next q
  history := .inl rfl
  carries _ _ carried := .inl carried

/-- The return of a publish is the event that ends it. -/
theorem minor_answer {l : Loop} {notice : Option Nat} {caller : Nat} {phase : Phase} {c : Call}
    {result : Except Exception Unit} (here : s.tasks[t]? = some (.loop l))
    (publishing : l.stage = .publishing notice caller phase)
    (there : s.tasks[caller]? = some (.call c)) :
    Minor s a (s.closeRequest t l notice caller c result) := by
  have longer := history_closeRequest (s := s) (t := t) l notice caller c result
  refine
    { dead := fun _ => rfl
      order := fun _ => List.Sublist.refl _
      suffix := fun _ _ _ => List.suffix_rfl
      history := .inr ⟨_, longer, rfl⟩
      carries := fun k u carried => ?_ }
  rw [Accounted.carries_of_pair there (tasks_closeRequest here there notice result)]
  split
  · next at_t =>
    -- the loop carried the call that is answered
    rw [at_t, carries, here, Option.bind_some, Task.caller?, publishing] at carried
    cases carried
    rw [at_t]
    exact .inr ⟨_, longer, .inl ⟨result, rfl⟩⟩
  · exact .inl carried

/-- A new task puts nothing into an intake. -/
theorem minor_issue {x : Task} (new : x.issued = x) :
    Minor s a { s with tasks := s.tasks.push x } := by
  refine .of_same (fun _ => ⟨rfl, rfl⟩) (.inl rfl) fun l => ?_
  rw [carries_of_tasks (tasks_push s x)]
  split
  · next at_end =>
    rw [carries, at_end, Array.getElem?_eq_none (Nat.le_refl _), ← new]
    cases x <;> rfl
  · rfl

/-- A new publisher is alive and its intake empty, like one that is not there. -/
theorem minor_addPublisher {q : Publisher}
    (new : q.dead = false ∧ q.loop = none ∧ q.intake = {}) : Minor s a (s.addPublisher q).1 := by
  have pushed : ∀ p, (s.addPublisher q).1.publisher p = _ := publisher_push s q
  refine .of_same (fun p => ?_) (.inl rfl) fun _ => rfl
  rw [pushed]
  split
  · next at_end =>
    rw [new.1, new.2.2, publisher, at_end, Array.getElem?_eq_none (Nat.le_refl _)]
    exact ⟨rfl, rfl⟩
  · exact ⟨rfl, rfl⟩

/-- A step cancels a publisher, puts a request into an intake, begins a publish, or is minor. -/
theorem Step.kinds (h : Step s a s') :
    (∃ q, q < s.publishers.size ∧ (∀ t, a = some t → ∃ c, s.tasks[t]? = some (.call c)) ∧
      s' = (s.cancel q).1) ∨
    (∃ t c, a = some t ∧ s.tasks[t]? = some (.call c) ∧ c.stage = .fresh ∧
      (s.publisher c.publisher).refusal? = none ∧ s' = s.enqueue t c) ∨
    (∃ t l notice caller c rest, a = some t ∧ s.tasks[t]? = some (.loop l) ∧
      l.stage = .idle notice ∧ (s.publisher l.publisher).intake.take? = some (caller, rest) ∧
      s.tasks[caller]? = some (.call c) ∧
      s' = (s.withIntake l.publisher rest).openRequest t l notice caller c) ∨
    Minor s a s' := by
  cases h with
  | cancel byCall inBounds => exact .inl ⟨_, inBounds, byCall, rfl⟩
  | request here fresh admitted => exact .inr (.inl ⟨_, _, rfl, here, fresh, admitted, rfl⟩)
  | begin here idle _ next there _ =>
    exact .inr (.inr (.inl ⟨_, _, _, _, _, _, rfl, here, idle, next, there, rfl⟩))
  -- all that follows is minor
  | quiet alike =>
    refine .inr (.inr (.inr (.of_same (fun p => ?_) (.inl alike.history) fun l => ?_)))
    · rw [alike.publisher]
      exact ⟨rfl, rfl⟩
    · rw [carries, alike.tasks, carries]
  | refuse here _ _ | learn here _ _ =>
    exact .inr (.inr (.inr (.of_same (fun _ => ⟨rfl, rfl⟩) (.inr ⟨_, history_endCall _ _, rfl⟩)
      (carries_of_write here (tasks_endCall here _) rfl))))
  | @attach t l stage here fresh _ _ free =>
    refine .inr (.inr (.inr (.of_same (Minor.onPublisher rfl rfl) (.inl rfl)
      (carries_of_write here (tasks_moveTo (s := s.onPublisher l.publisher _) here stage) ?_))))
    rw [Task.caller?, Task.caller?, free, fresh]
    rfl
  | status | forget =>
    exact .inr (.inr (.inr (.of_same (Minor.onPublisher rfl rfl) (.inl rfl) fun _ => rfl)))
  | drain _ => exact .inr (.inr (.inr (minor_drain s _)))
  | advance here _ caller _ =>
    exact .inr (.inr (.inr (.of_same (fun _ => ⟨rfl, rfl⟩) (.inl rfl)
      (carries_of_write here (tasks_moveTo here _) caller))))
  | skip _ _ next _ _ => exact .inr (.inr (.inr (minor_skip next)))
  | answer here publishing there => exact .inr (.inr (.inr (minor_answer here publishing there)))
  | @endLoop t l reason here free _ =>
    exact .inr (.inr (.inr (.of_same (fun p => (Accounted.orders_detach s l p).symm)
      (.inr ⟨_, history_endLoop l reason, rfl⟩)
      (carries_of_write here (tasks_endLoop here reason) free.symm))))
  | dropCall here => exact .inr (.inr (.inr (minor_dropCall here)))
  | dropLoop here => exact .inr (.inr (.inr (minor_dropLoop here)))
  | issue new _ => exact .inr (.inr (.inr (minor_issue new)))
  | addPublisher new => exact .inr (.inr (.inr (minor_addPublisher new)))
  | addName => exact .inr (.inr (.inr (.of_same (fun _ => ⟨rfl, rfl⟩) (.inl rfl) fun _ => rfl)))

end Relay.Service
