import Relay.Proofs.Step

/-!
# What each step changes

For every step that is more than one write: which tasks, which publisher and which part of the
history it changes. Tasks are read at an arbitrary index, so that each equation says at the same time
what stays.
-/

namespace Relay.Service

open Broker (Exception)
open Publisher (Failure Request)

variable {s : Service} {t : Nat}

/-! ## Calls -/

/-- A call after its end. -/
def Call.ended (c : Call) (r : Except Failure Unit) : Call :=
  { c with request := c.request.forsake, stage := .finished r }

/-- A call after its caller went away. -/
def Call.left (c : Call) : Call := { c with request := c.request.forsake, stage := .dropped }

/-- The end of a call changes that call only. -/
theorem tasks_endCall {c : Call} (here : s.tasks[t]? = some (.call c)) (r : Except Failure Unit)
    (u : Nat) :
    (s.endCall t c r).tasks[u]? = if u = t then some (.call (c.ended r)) else s.tasks[u]? :=
  tasks_setTask_of_some here _ u

/-- The end of a call is recorded with its value. -/
theorem history_endCall (c : Call) (r : Except Failure Unit) :
    (s.endCall t c r).history = .ended t (c.value r) :: s.history :=
  history_record_of_decisive rfl

/-- A call that puts in its request waits; no other task changes. -/
theorem tasks_enqueue {c : Call} (here : s.tasks[t]? = some (.call c)) (u : Nat) :
    (s.enqueue t c).tasks[u]?
      = if u = t then some (.call { c with stage := .waiting }) else s.tasks[u]? :=
  tasks_setTask_of_some (s := s.onPublisher c.publisher _) here _ u

/-- The request goes into the intake of the call's publisher, if that is there. -/
theorem publisher_enqueue (c : Call) (p : Nat) :
    (s.enqueue t c).publisher p
      = if p = c.publisher ∧ c.publisher < s.publishers.size then
          { s.publisher c.publisher with
            intake := (s.publisher c.publisher).intake.put t (s.isReady c.publisher) }
        else s.publisher p :=
  publisher_onPublisher s c.publisher _ p

/-- The request is recorded. -/
theorem history_enqueue (c : Call) : (s.enqueue t c).history = .requested t :: s.history :=
  history_record_of_decisive rfl

/-- Dropping a call that is not over. -/
theorem dropCall_of_not_over {c : Call} (alive : (Task.call c).isOver = false) :
    s.dropCall t c
      = ((if c.stage matches .waiting then
            s.onPublisher c.publisher fun p => { p with intake := p.intake.leave t }
          else s).setTask t (.call c.left)).record (.dropped t) := by
  unfold dropCall Call.left
  unfold Task.isOver at alive
  cases stage : c.stage <;> simp_all

/-- A call that is over cannot be dropped. -/
theorem dropCall_of_over {c : Call} (isOver : (Task.call c).isOver = true) : s.dropCall t c = s := by
  unfold dropCall
  unfold Task.isOver at isOver
  cases stage : c.stage <;> simp_all

/-- The publisher of a call that is dropped keeps everything but its intake, which the call leaves if
its request was put in. -/
theorem publisher_dropCall {c : Call} (alive : (Task.call c).isOver = false) (p : Nat) :
    (s.dropCall t c).publisher p = s.publisher p ∨
      p = c.publisher ∧ (s.dropCall t c).publisher p
        = { s.publisher p with intake := (s.publisher p).intake.leave t } := by
  rw [dropCall_of_not_over alive]
  split
  · have written := publisher_onPublisher s c.publisher
      (fun q => { q with intake := q.intake.leave t }) p
    split at written
    · next own =>
      obtain ⟨rfl, -⟩ := own
      exact .inr ⟨rfl, written⟩
    · exact .inl written
  · exact .inl rfl

/-- Dropping a call that is not over changes that call only. -/
theorem tasks_dropCall {c : Call} (here : s.tasks[t]? = some (.call c))
    (alive : (Task.call c).isOver = false) (u : Nat) :
    (s.dropCall t c).tasks[u]? = if u = t then some (.call c.left) else s.tasks[u]? := by
  rw [dropCall_of_not_over alive]
  split
  · exact tasks_setTask_of_some (s := s.onPublisher c.publisher _) here _ u
  · exact tasks_setTask_of_some here _ u

/-- The drop is recorded. -/
theorem history_dropCall {c : Call} (alive : (Task.call c).isOver = false) :
    (s.dropCall t c).history = .dropped t :: s.history := by
  rw [dropCall_of_not_over alive, history_record_of_decisive rfl]
  split
  · rfl
  · rfl

/-! ## Loops -/

/-- A loop that changes its place changes no other task. -/
theorem tasks_moveTo {l : Loop} (here : s.tasks[t]? = some (.loop l)) (stage : LoopStage) (u : Nat) :
    (s.moveTo t l stage).tasks[u]? = if u = t then some (.loop { l with stage }) else s.tasks[u]? :=
  tasks_setTask_of_some here _ u

/-- A loop that ends or is dropped leaves its publisher, if it was attached to it. -/
theorem publisher_detach (l : Loop) (p : Nat) :
    (s.detach l).publisher p
      = if l.stage.isAttached = true ∧ p = l.publisher ∧ l.publisher < s.publishers.size then
          { s.publisher l.publisher with loop := none }
        else s.publisher p := by
  unfold detach
  cases attached : l.stage.isAttached with
  | true =>
    simp only [if_true, true_and]
    exact publisher_onPublisher _ l.publisher _ p
  | false =>
    simp only [Bool.false_eq_true, if_false, false_and]
    rfl

/-- Leaving a publisher changes no task. -/
theorem tasks_detach (l : Loop) : (s.detach l).tasks = s.tasks := by
  unfold detach
  split <;> rfl

/-- Nor is it recorded. -/
theorem journal_detach (l : Loop) : (s.detach l).journal = s.journal := by
  unfold detach
  split <;> rfl

/-- The end of a loop changes that loop only. -/
theorem tasks_endLoop {l : Loop} (here : s.tasks[t]? = some (.loop l)) (reason : Publisher.Detach)
    (u : Nat) :
    (s.endLoop t l reason).tasks[u]?
      = if u = t then some (.loop { l with stage := .finished reason }) else s.tasks[u]? := by
  have detached : (s.detach l).tasks[t]? = some (.loop l) := by rw [tasks_detach, here]
  have written := tasks_setTask_of_some detached (.loop { l with stage := .finished reason }) u
  rw [tasks_detach] at written
  exact written

/-- The end of a loop is recorded with its reason. -/
theorem history_endLoop (l : Loop) (reason : Publisher.Detach) :
    (s.endLoop t l reason).history = .ended t (.detached reason) :: s.history := by
  have same : (s.detach l).history = s.history := by rw [history, journal_detach, ← history]
  rw [← same]
  exact history_record_of_decisive rfl

/-- A loop that opens a request claims it and stands before the publish; no other task changes. -/
theorem tasks_openRequest {l : Loop} {caller : Nat} {c : Call}
    (here : s.tasks[t]? = some (.loop l)) (there : s.tasks[caller]? = some (.call c))
    (notice : Option Nat) (u : Nat) :
    (s.openRequest t l notice caller c).tasks[u]?
      = if u = t then some (.loop { l with stage := .publishing notice caller .entering })
        else if u = caller then some (.call { c with request := { c.request with claimed := true } })
        else s.tasks[u]? := by
  have apart : t ≠ caller := by
    rintro rfl
    rw [here] at there
    cases there
  have still := tasks_setTask_of_some there
    (.call { c with request := { c.request with claimed := true } }) t
  rw [if_neg apart, here] at still
  rw [← tasks_setTask_of_some there]
  exact tasks_setTask_of_some still _ u

/-- The publish is recorded with the exchange of the publisher and what the request holds. -/
theorem history_openRequest (l : Loop) (notice : Option Nat) (caller : Nat) (c : Call) :
    (s.openRequest t l notice caller c).history
      = .began t l.handle (.publish caller (s.publisher l.publisher).exchange c.request.routingKey {}
          c.request.message) :: s.history :=
  history_record_of_decisive rfl

/-- A loop that answers a request waits for the next; no other task changes. -/
theorem tasks_closeRequest {l : Loop} {caller : Nat} {c : Call}
    (here : s.tasks[t]? = some (.loop l)) (there : s.tasks[caller]? = some (.call c))
    (notice : Option Nat) (result : Except Exception Unit) (u : Nat) :
    (s.closeRequest t l notice caller c result).tasks[u]?
      = if u = t then some (.loop { l with stage := .idle notice })
        else if u = caller then
          some (.call { c with request := c.request.answer (result.mapError .publish) })
        else s.tasks[u]? := by
  have apart : t ≠ caller := by
    rintro rfl
    rw [here] at there
    cases there
  have still := tasks_setTask_of_some there
    (.call { c with request := c.request.answer (result.mapError .publish) }) t
  rw [if_neg apart, here] at still
  rw [← tasks_setTask_of_some there]
  exact tasks_setTask_of_some still _ u

/-- The return of the publish is recorded. -/
theorem history_closeRequest (l : Loop) (notice : Option Nat) (caller : Nat) (c : Call)
    (result : Except Exception Unit) :
    (s.closeRequest t l notice caller c result).history = .returned t caller result :: s.history :=
  history_record_of_decisive rfl

/-- What a loop that is dropped makes of the call whose message it was publishing. -/
def Task.abandon : Task → Task
  | .call c => .call { c with request := c.request.abandon }
  | .loop l => .loop l

/-- The service in which a loop has abandoned the call whose message it was publishing. -/
def abandonCall (s : Service) (l : Loop) : Service :=
  match l.stage.caller? with
  | none => s
  | some caller =>
    match s.call? caller with
    | none => s
    | some c => s.setTask caller (.call { c with request := c.request.abandon })

/-- Dropping a loop that is not over. -/
theorem dropLoop_of_not_over {l : Loop} (alive : (Task.loop l).isOver = false) :
    s.dropLoop t l
      = (((s.abandonCall l).detach l).moveTo t l .dropped).record (.dropped t) := by
  unfold dropLoop abandonCall
  cases stage : l.stage with
  | finished | dropped => simp [Task.isOver, stage] at alive
  | publishing notice caller phase =>
    simp only [LoopStage.caller?]
    cases s.call? caller <;> rfl
  | _ => rfl

/-- Of all tasks only the call that the loop was publishing for is abandoned. -/
theorem tasks_abandonCall (l : Loop) (u : Nat) :
    (s.abandonCall l).tasks[u]?
      = if l.stage.caller? = some u then s.tasks[u]?.map Task.abandon else s.tasks[u]? := by
  unfold abandonCall
  cases l.stage.caller? with
  | none => rfl
  | some caller =>
    simp only [Option.some.injEq]
    by_cases same : caller = u
    · subst same
      rw [if_pos rfl]
      cases found : s.call? caller with
      | none =>
        -- whatever is there is no call
        cases here : s.tasks[caller]? with
        | none => rfl
        | some x =>
          cases x with
          | call c => rw [call?_eq_some.mpr here] at found; cases found
          | loop l => rfl
      | some c =>
        have there := call?_eq_some.mp found
        rw [there]
        exact (tasks_setTask_of_some there _ caller).trans (if_pos rfl)
    · rw [if_neg same]
      cases found : s.call? caller with
      | none => rfl
      | some c =>
        exact (tasks_setTask_of_some (call?_eq_some.mp found) _ u).trans (if_neg (Ne.symm same))

/-- Abandoning a call changes no publisher. -/
theorem publishers_abandonCall (l : Loop) : (s.abandonCall l).publishers = s.publishers := by
  unfold abandonCall
  split
  · rfl
  · split <;> rfl

/-- Nor is it recorded. -/
theorem journal_abandonCall (l : Loop) : (s.abandonCall l).journal = s.journal := by
  unfold abandonCall
  split
  · rfl
  · split <;> rfl

/-- A loop that abandons a call stays where it is. -/
theorem loop_abandonCall {l : Loop} (here : s.tasks[t]? = some (.loop l)) :
    (s.abandonCall l).tasks[t]? = some (.loop l) := by
  rw [tasks_abandonCall, here]
  split
  · rfl
  · rfl

/-- Dropping a loop changes the loop and the call that it was publishing for. -/
theorem tasks_dropLoop {l : Loop} (here : s.tasks[t]? = some (.loop l))
    (alive : (Task.loop l).isOver = false) (u : Nat) :
    (s.dropLoop t l).tasks[u]?
      = if u = t then some (.loop { l with stage := .dropped })
        else if l.stage.caller? = some u then s.tasks[u]?.map Task.abandon else s.tasks[u]? := by
  have still : ((s.abandonCall l).detach l).tasks[t]? = some (.loop l) := by
    rw [tasks_detach, loop_abandonCall here]
  have written := tasks_moveTo still .dropped u
  rw [tasks_detach, tasks_abandonCall] at written
  rw [dropLoop_of_not_over alive]
  exact written

/-- A loop that is dropped leaves its publisher, if it was attached to it. -/
theorem publisher_dropLoop {l : Loop} (alive : (Task.loop l).isOver = false) (p : Nat) :
    (s.dropLoop t l).publisher p = (s.detach l).publisher p := by
  have same : ∀ q, (s.abandonCall l).publisher q = s.publisher q := fun q => by
    rw [publisher, publishers_abandonCall, publisher]
  rw [dropLoop_of_not_over alive, publisher_detach]
  refine (publisher_detach (s := s.abandonCall l) l p).trans ?_
  rw [same, same, publishers_abandonCall]

/-- The drop is recorded. -/
theorem history_dropLoop {l : Loop} (alive : (Task.loop l).isOver = false) :
    (s.dropLoop t l).history = .dropped t :: s.history := by
  rw [dropLoop_of_not_over alive, history_record_of_decisive rfl]
  refine congrArg (_ :: List.filter Event.isDecisive ·) ?_
  exact (journal_detach (s := s.abandonCall l) l).trans (journal_abandonCall l)

/-- A loop that is over cannot be dropped. -/
theorem dropLoop_of_over {l : Loop} (isOver : (Task.loop l).isOver = true) : s.dropLoop t l = s := by
  unfold dropLoop
  unfold Task.isOver at isOver
  cases stage : l.stage <;> simp_all

/-! ## The cancellation -/

/-- Draining an intake is answering its requests and emptying it. -/
theorem alike_drain (s : Service) (p : Nat) :
    Alike ((s.answerDead 0 (s.publisher p).intake.order).1.onPublisher p
      fun q => { q with intake := {} }) (s.drain p) := by
  unfold drain
  simp only []
  split
  · exact .refl _
  · exact .note _ _ _

/-- Draining an intake strands the calls that wait in it, and no others. -/
theorem tasks_drain (s : Service) (p u : Nat) :
    (s.drain p).tasks[u]?
      = if u ∈ (s.publisher p).intake.order then s.tasks[u]?.map Task.strand else s.tasks[u]? := by
  rw [(alike_drain s p).tasks]
  exact (answerDead_spec s 0 _).2.2.2.2 u

/-- It adds no task. -/
theorem tasks_size_drain (s : Service) (p : Nat) : (s.drain p).tasks.size = s.tasks.size := by
  rw [(alike_drain s p).tasks]
  exact (answerDead_spec s 0 _).2.2.2.1

/-- It changes no handle of a publisher. -/
theorem names_drain (s : Service) (p : Nat) : (s.drain p).names = s.names := by
  rw [(alike_drain s p).names]
  exact (answerDead_spec s 0 _).2.1

/-- Nothing of consequence is recorded of it. -/
theorem history_drain (s : Service) (p : Nat) : (s.drain p).history = s.history := by
  rw [(alike_drain s p).history]
  exact congrArg (List.filter Event.isDecisive) (answerDead_spec s 0 _).2.2.1

/-- The journal only grows by it. -/
theorem journal_suffix_drain (s : Service) (p : Nat) : s.journal <:+ (s.drain p).journal := by
  have longer := (alike_drain s p).journal
  have same := (answerDead_spec s 0 (s.publisher p).intake.order).2.2.1
  rw [← same]
  exact longer

/-- Only the intake is emptied. -/
theorem publishers_drain (s : Service) (p : Nat) :
    (s.drain p).publishers = (s.onPublisher p fun q => { q with intake := {} }).publishers := by
  rw [(alike_drain s p).publishers]
  simp only [onPublisher, (answerDead_spec s 0 (s.publisher p).intake.order).1]

/-- A publisher whose intake is drained, and every other. -/
theorem publisher_drain (s : Service) (p q : Nat) :
    (s.drain p).publisher q
      = if q = p then { s.publisher p with intake := {} } else s.publisher q := by
  rw [publisher, publishers_drain, ← publisher, publisher_onPublisher]
  by_cases inBounds : p < s.publishers.size
  · simp only [inBounds, and_true]
  · -- beyond the table there is no intake to empty
    have absent : s.publisher p = { exchange := "", routingKey := "" } := by
      rw [publisher, Array.getElem?_eq_none (Nat.le_of_not_lt inBounds)]
      rfl
    by_cases same : q = p
    · subst same
      simp [inBounds, absent]
    · simp [same]

/-- Cancelling a dead publisher is recorded and changes nothing. -/
theorem cancel_of_dead {p : Nat} (dead : (s.publisher p).dead = true) :
    s.cancel p = (s.record (.cancelled p false), false) := by
  rw [cancel, if_pos dead]

/-- A live publisher after its cancellation, before its intake is drained. -/
def sentence (s : Service) (p : Nat) : Service :=
  let s := (s.record (.cancelled p true)).onPublisher p fun q => { q with dead := true }
  s.note p (.cancelled (s.publisher p).exchange)

/-- Cancelling a live publisher makes it dead and drains its intake. -/
theorem cancel_of_live {p : Nat} (live : (s.publisher p).dead = false) :
    s.cancel p = ((s.sentence p).drain p, true) := by
  rw [cancel, live]
  rfl

/-- A publisher that is sentenced is dead; no other changes. -/
theorem publisher_sentence {p : Nat} (inBounds : p < s.publishers.size) (q : Nat) :
    (s.sentence p).publisher q
      = if q = p then { s.publisher p with dead := true } else s.publisher q := by
  have written := publisher_onPublisher (s.record (.cancelled p true)) p
    (fun q => { q with dead := true }) q
  simp only [show p < (s.record (.cancelled p true)).publishers.size from inBounds, and_true]
    at written
  exact written

/-- The cancellation is recorded as the first one. -/
theorem history_sentence (s : Service) (p : Nat) :
    (s.sentence p).history = .cancelled p true :: s.history := by
  rw [sentence, note, history_record_of_not_decisive rfl]
  exact history_record_of_decisive (s := s) (e := .cancelled p true) rfl

/-- A live publisher is dead after its cancellation, and its intake is empty. -/
theorem publisher_cancel_of_live {p : Nat} (inBounds : p < s.publishers.size)
    (live : (s.publisher p).dead = false) (q : Nat) :
    (s.cancel p).1.publisher q
      = if q = p then { s.publisher p with dead := true, intake := {} } else s.publisher q := by
  rw [cancel_of_live live, publisher_drain, publisher_sentence inBounds, publisher_sentence inBounds,
    if_pos rfl]
  split
  · rfl
  · rfl

/-- The first cancellation strands the calls that wait in the intake, and no others. -/
theorem tasks_cancel_of_live {p : Nat} (inBounds : p < s.publishers.size)
    (live : (s.publisher p).dead = false) (u : Nat) :
    (s.cancel p).1.tasks[u]?
      = if u ∈ (s.publisher p).intake.order then s.tasks[u]?.map Task.strand else s.tasks[u]? := by
  rw [cancel_of_live live, tasks_drain, publisher_sentence inBounds, if_pos rfl]
  rfl

/-- Every cancellation is recorded, with whether it was the first. -/
theorem history_cancel (s : Service) (p : Nat) :
    (s.cancel p).1.history = .cancelled p (!(s.publisher p).dead) :: s.history := by
  cases dead : (s.publisher p).dead with
  | true =>
    rw [cancel_of_dead dead]
    exact history_record_of_decisive rfl
  | false =>
    rw [cancel_of_live dead]
    exact (history_drain _ p).trans (history_sentence s p)

/-- What the cancellation of a request does not touch is read off the tasks as before. -/
theorem bind_drain {α : Type} {f : Task → Option α} (same : ∀ x, f x.strand = f x) (s : Service)
    (p u : Nat) : (s.drain p).tasks[u]?.bind f = s.tasks[u]?.bind f := by
  rw [tasks_drain]
  split
  · exact bind_map_of_same same _
  · rfl

/-- What the cancellation of a request does not touch is read off the tasks as before. -/
theorem bind_cancel {α : Type} {f : Task → Option α} (same : ∀ x, f x.strand = f x) (s : Service)
    (p u : Nat) : (s.cancel p).1.tasks[u]?.bind f = s.tasks[u]?.bind f := by
  cases dead : (s.publisher p).dead with
  | true => rw [cancel_of_dead dead]; rfl
  | false => rw [cancel_of_live dead]; exact bind_drain same (s.sentence p) p u

/-- Draining an intake attaches and detaches nobody. -/
theorem loop_drain (s : Service) (p q : Nat) :
    ((s.drain p).publisher q).loop = (s.publisher q).loop := by
  rw [publisher_drain]
  split
  · next same => rw [same]
  · rfl

/-- Nor does a cancellation. -/
theorem loop_cancel (s : Service) (p q : Nat) :
    ((s.cancel p).1.publisher q).loop = (s.publisher q).loop := by
  cases dead : (s.publisher p).dead with
  | true => rw [cancel_of_dead dead]; rfl
  | false =>
    rw [cancel_of_live dead]
    exact (loop_drain (s.sentence p) p q).trans
      (publisher_onPublisher_congr Publisher.loop (s := s.record (.cancelled p true)) rfl q)

/-- A cancellation leaves an intake as it is, or empties it. -/
theorem intake_cancel (s : Service) (p q : Nat) :
    ((s.cancel p).1.publisher q).intake = (s.publisher q).intake ∨
      ((s.cancel p).1.publisher q).intake = {} := by
  cases dead : (s.publisher p).dead with
  | true => rw [cancel_of_dead dead]; exact .inl rfl
  | false =>
    rw [cancel_of_live dead, publisher_drain]
    split
    · exact .inr rfl
    · exact .inl
        (publisher_onPublisher_congr Publisher.intake (s := s.record (.cancelled p true)) rfl q)

/-! ## What steps add to the history -/

/-- The events that a step may add to the history, each under the conditions of its step. -/
inductive Adds (s : Service) : Option Nat → Event → Prop
  | cancelled {a : Option Nat} {p : Nat} (inBounds : p < s.publishers.size) :
      Adds s a (.cancelled p (!(s.publisher p).dead))
  | refused {t : Nat} {c : Call} {f : Failure} (here : s.tasks[t]? = some (.call c))
      (fresh : c.stage = .fresh) (refused : (s.publisher c.publisher).refusal? = some f) :
      Adds s (some t) (.ended t (c.value (.error f)))
  | requested {t : Nat} {c : Call} (here : s.tasks[t]? = some (.call c))
      (fresh : c.stage = .fresh) (admitted : (s.publisher c.publisher).refusal? = none) :
      Adds s (some t) (.requested t)
  | learnt {t : Nat} {c : Call} {r : Except Failure Unit} (here : s.tasks[t]? = some (.call c))
      (waiting : c.stage = .waiting) (outcome : c.request.outcome? = some r) :
      Adds s (some t) (.ended t (c.value r))
  | began {t : Nat} {l : Loop} {notice : Option Nat} {caller : Nat} {c : Call} {exchange : String}
      (here : s.tasks[t]? = some (.loop l)) (idle : l.stage = .idle notice)
      (live : (s.publisher l.publisher).dead = false)
      (next : (s.publisher l.publisher).intake.order.head? = some caller)
      (there : s.tasks[caller]? = some (.call c)) (free : c.request.claimed = false) :
      Adds s (some t)
        (.began t l.handle (.publish caller exchange c.request.routingKey {} c.request.message))
  | returned {t : Nat} {l : Loop} {notice : Option Nat} {caller : Nat} {phase : Phase} {c : Call}
      {result : Except Exception Unit} (here : s.tasks[t]? = some (.loop l))
      (publishing : l.stage = .publishing notice caller phase)
      (there : s.tasks[caller]? = some (.call c)) :
      Adds s (some t) (.returned t caller result)
  | endedLoop {t : Nat} {l : Loop} {reason : Publisher.Detach} (here : s.tasks[t]? = some (.loop l))
      (free : l.stage.caller? = none)
      (live : ∀ r, reason = .closed r → (s.publisher l.publisher).dead = false) :
      Adds s (some t) (.ended t (.detached reason))
  | dropped {t : Nat} {x : Task} (here : s.tasks[t]? = some x) (alive : x.isOver = false) :
      Adds s none (.dropped t)

/-- A step adds at most one event to the history. -/
theorem Step.adds {s s' : Service} {a : Option Nat} (h : Step s a s') :
    s'.history = s.history ∨ ∃ e, Adds s a e ∧ s'.history = e :: s.history := by
  cases h with
  | quiet alike => exact .inl alike.history
  | cancel _ inBounds => exact .inr ⟨_, .cancelled inBounds, history_cancel s _⟩
  | refuse here fresh refused => exact .inr ⟨_, .refused here fresh refused, history_endCall _ _⟩
  | request here fresh admitted => exact .inr ⟨_, .requested here fresh admitted, history_enqueue _⟩
  | learn here waiting outcome => exact .inr ⟨_, .learnt here waiting outcome, history_endCall _ _⟩
  | attach | status | forget | advance | skip | issue | addPublisher | addName => exact .inl rfl
  | drain _ => exact .inl (history_drain s _)
  | begin here idle live next there free =>
    have first := congrArg List.head? (Publisher.Intake.order_of_take? next)
    exact .inr ⟨_, .began here idle live first there free, history_openRequest _ _ _ _⟩
  | answer here publishing there =>
    exact .inr ⟨_, .returned here publishing there, history_closeRequest _ _ _ _ _⟩
  | endLoop here free live => exact .inr ⟨_, .endedLoop here free live, history_endLoop _ _⟩
  | @dropCall t c here =>
    by_cases isOver : (Task.call c).isOver = true
    · exact .inl (by rw [dropCall_of_over isOver])
    · have alive := Bool.eq_false_iff.mpr isOver
      exact .inr ⟨_, .dropped here alive, history_dropCall alive⟩
  | @dropLoop t l here =>
    by_cases isOver : (Task.loop l).isOver = true
    · exact .inl (by rw [dropLoop_of_over isOver])
    · have alive := Bool.eq_false_iff.mpr isOver
      exact .inr ⟨_, .dropped here alive, history_dropLoop alive⟩

end Relay.Service
