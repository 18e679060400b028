import Relay.Proofs.Chronicle

/-!
# How tasks come to their values

A task that has a value after a step had it before, or the step is the one that ended it. Calls that
are polled while they are turned away, or while their answer is there, end in that poll.
-/

namespace Relay.Service

open Broker (Exception)
open Publisher (Failure Request)

variable {s s' : Service} {t : Nat} {c : Call}

/-! ## Steps -/

/-- Where one task is written over, only its value may change. -/
theorem valueOf_of_tasks {x : Task}
    (tasks : ∀ u : Nat, s'.tasks[u]? = if u = t then some x else s.tasks[u]?) (u : Nat) :
    s'.valueOf u = if u = t then x.value? else s.valueOf u :=
  bind_of_write tasks u

/-- A task is written over by one that has no value. -/
theorem valueOf_of_write {x : Task} {u : Nat} {v : Value}
    (tasks : ∀ u : Nat, s'.tasks[u]? = if u = t then some x else s.tasks[u]?)
    (open_ : x.value? = none) (value : s'.valueOf u = some v) : s.valueOf u = some v := by
  rw [valueOf_of_tasks tasks] at value
  split at value
  · rw [open_] at value
    cases value
  · exact value

/-- The value of a call is no part of its request. -/
theorem value?_call_request (c : Call) (r : Request) :
    (Task.call { c with request := r }).value? = (Task.call c).value? := by
  unfold Task.value? Call.value
  rfl

/-- Stranding a task leaves its value. -/
theorem value?_strand (x : Task) : x.strand.value? = x.value? := by
  cases x with
  | call c => exact value?_call_request c _
  | loop l => rfl

/-- So does abandoning it. -/
theorem value?_abandon (x : Task) : x.abandon.value? = x.value? := by
  cases x with
  | call c => exact value?_call_request c _
  | loop l => rfl

/-- Emptying an intake gives no task a value. -/
theorem valueOf_drain (s : Service) (p u : Nat) : (s.drain p).valueOf u = s.valueOf u :=
  bind_drain value?_strand s p u

/-- Nor does a cancellation. -/
theorem valueOf_cancel (s : Service) (p u : Nat) : (s.cancel p).1.valueOf u = s.valueOf u :=
  bind_cancel value?_strand s p u

/-- A loop and a call are written over. -/
theorem valueOf_of_pair {x : Loop} {caller u : Nat} {d : Call} {r : Request} {v : Value}
    (there : s.tasks[caller]? = some (.call d)) (open_ : (Task.loop x).value? = none)
    (tasks : ∀ u : Nat, s'.tasks[u]? = if u = t then some (.loop x)
      else if u = caller then some (.call { d with request := r }) else s.tasks[u]?)
    (value : s'.valueOf u = some v) : s.valueOf u = some v := by
  rw [valueOf, tasks u] at value
  split at value
  · rw [Option.bind_some, open_] at value
    cases value
  · split at value
    · next at_caller =>
      rw [Option.bind_some, value?_call_request] at value
      rw [at_caller, valueOf, there]
      exact value
    · exact value

/-- Whatever has a value after a step had it before, or is ended by the step. -/
theorem Step.valueOf {a : Option Nat} {u : Nat} {v : Value} (h : Step s a s')
    (value : s'.valueOf u = some v) : s.valueOf u = some v ∨ Adds s a (.ended u v) := by
  cases h with
  | quiet alike =>
    rw [Service.valueOf, alike.tasks] at value
    exact .inl value
  | cancel _ _ =>
    rw [valueOf_cancel] at value
    exact .inl value
  -- the steps that end a task are those of refusal, of learning and the end of a loop
  | @refuse t c f here fresh refused =>
    rw [valueOf_of_tasks (tasks_endCall here _)] at value
    split at value
    · next at_t =>
      obtain rfl : v = c.value (.error f) := (Option.some.inj value).symm
      rw [at_t]
      exact .inr (.refused here fresh refused)
    · exact .inl value
  | request here _ _ =>
    exact .inl (valueOf_of_write (tasks_enqueue here) rfl value)
  | @learn t c r here waiting outcome =>
    rw [valueOf_of_tasks (tasks_endCall here _)] at value
    split at value
    · next at_t =>
      obtain rfl : v = c.value r := (Option.some.inj value).symm
      rw [at_t]
      exact .inr (.learnt here waiting outcome)
    · exact .inl value
  | @attach t l stage here _ _ attached _ =>
    refine .inl (valueOf_of_write (s := s)
      (tasks_moveTo (s := s.onPublisher l.publisher _) here stage) ?_ value)
    cases stage <;> first | rfl | cases attached
  | status | forget | skip | addPublisher | addName => exact .inl value
  | drain _ =>
    rw [valueOf_drain] at value
    exact .inl value
  | @advance t l stage here attached caller going =>
    refine .inl (valueOf_of_write (tasks_moveTo here stage) ?_ value)
    cases stage <;> first | rfl | cases going
  | @begin t l _ _ _ rest here _ _ _ there _ =>
    exact .inl (valueOf_of_pair (s := s) there rfl
      (tasks_openRequest (s := s.withIntake l.publisher _) here there _) value)
  | answer here _ there =>
    exact .inl (valueOf_of_pair there rfl (tasks_closeRequest here there _ _) value)
  | @endLoop t l reason here free live =>
    rw [valueOf_of_tasks (tasks_endLoop here _)] at value
    split at value
    · next at_t =>
      cases value
      rw [at_t]
      exact .inr (.endedLoop here free live)
    · exact .inl value
  | @dropCall t c here =>
    by_cases isOver : (Task.call c).isOver = true
    · rw [dropCall_of_over isOver] at value
      exact .inl value
    · have alive := Bool.eq_false_iff.mpr isOver
      exact .inl (valueOf_of_write (tasks_dropCall here alive) rfl value)
  | @dropLoop t l here =>
    by_cases isOver : (Task.loop l).isOver = true
    · rw [dropLoop_of_over isOver] at value
      exact .inl value
    · rw [Service.valueOf, tasks_dropLoop here (Bool.eq_false_iff.mpr isOver)] at value
      split at value
      · cases value
      · split at value
        · rw [bind_map_of_same value?_abandon] at value
          exact .inl value
        · exact .inl value
  -- a task that is issued is fresh, so it has no value yet
  | @issue x new _ =>
    rw [valueOf_of_tasks (tasks_push s x)] at value
    split at value
    · rw [← new] at value
      cases x <;> cases value
    · exact .inl value

/-! ## Polls that end a call -/

/-- The move of a task that is a call. -/
theorem move_of_call (here : s.tasks[t]? = some (.call c)) : s.move t = s.moveCall t c := by
  rw [move, here]

/-- A call that ends with its first move has ended when the poll is over. -/
theorem poll_of_endCall {r : Service} {result : Except Failure Unit}
    (here : s.tasks[t]? = some (.call c)) (there : r.tasks[t]? = some (.call c))
    (moves : s.move t = some (r.endCall t c result)) :
    s.poll t = r.endCall t c result ∧ (s.poll t).valueOf t = some (c.value result) := by
  have ended : (r.endCall t c result).tasks[t]? = some (.call (c.ended result)) := by
    rw [tasks_endCall there, if_pos rfl]
  have ends : (r.endCall t c result).move t = none := by
    rw [move_of_call ended]
    rfl
  have polled : s.poll t = r.endCall t c result := by
    have bound : s.moveBound t = 3 := by rw [moveBound, here]
    simp only [poll, bound, Service.moves, moves, ends]
  refine ⟨polled, ?_⟩
  rw [polled, valueOf_of_tasks (tasks_endCall there result), if_pos rfl]
  rfl

/-- A new call that is turned away ends in its first poll. -/
theorem poll_of_refusal {e : Failure} (here : s.tasks[t]? = some (.call c)) (fresh : c.stage = .fresh)
    (refused : (s.publisher c.publisher).refusal? = some e) :
    (s.poll t).valueOf t = some (.failed e) := by
  have moves : s.move t = some (s.endCall t c (.error e)) := by
    rw [move_of_call here, moveCall, fresh]
    simp only [beginCall, refused]
  exact (poll_of_endCall here here moves).2

/-- A new call that a cancellation overtakes ends in its first poll, and the publisher is dead. -/
theorem poll_of_overtaken (sound : Sound s) (here : s.tasks[t]? = some (.call c))
    (fresh : c.stage = .fresh) (admitted : (s.publisher c.publisher).refusal? = none)
    (overtaken : c.overtaken = true) :
    (s.poll t).valueOf t = some (.failed .dead) ∧
      ((s.poll t).publisher c.publisher).dead = true := by
  obtain ⟨F, accounted⟩ := sound.accounted
  have inBounds : c.publisher < s.publishers.size := sound.bounded.task t _ here
  have there : ((s.cancel c.publisher).1.note c.publisher .overtaken).tasks[t]? = some (.call c) :=
    tasks_cancel_of_fresh accounted here fresh
  have moves : s.move t = some (((s.cancel c.publisher).1.note c.publisher .overtaken).endCall t c
      (.error .dead)) := by
    rw [move_of_call here, moveCall, fresh]
    simp only [beginCall, admitted, overtaken, if_true]
  obtain ⟨polled, value⟩ := poll_of_endCall here there moves
  refine ⟨value, ?_⟩
  rw [polled]
  exact dead_cancel inBounds

/-- A call whose answer is there ends in its next poll. -/
theorem poll_of_outcome {result : Except Failure Unit} (here : s.tasks[t]? = some (.call c))
    (waiting : c.stage = .waiting) (outcome : c.request.outcome? = some result) :
    (s.poll t).valueOf t = some (c.value result) := by
  have moves : s.move t = some (s.endCall t c result) := by
    rw [move_of_call here, moveCall, waiting]
    simp only [outcome, Option.map_some]
  exact (poll_of_endCall here here moves).2

end Relay.Service
