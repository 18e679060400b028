import Relay.Proofs.LoopMoves

/-!
# Services that only callers tell apart

Once the reply slot of a request is filled, what its caller does is of no consequence: whether it has
learnt the answer, went away or is never polled again. Two services are twins if they differ in nothing
else, neither in the places of such calls nor in the ends that these came to. Whatever happens to twins
leaves twins, and a caller that learns its answer, or goes away after it was given, leaves a twin.
-/

namespace Relay.Service

open Broker (Exception Outcome)
open Publisher (Failure Request)

/-! ## What is left of calls and journals -/

/-- A call without its place, once its reply slot is filled. -/
def Call.veiled (c : Call) : Call :=
  match c.request.reply with
  | .awaited => c
  | _ => { c with stage := .waiting }

/-- A task without the place of a call whose reply slot is filled. -/
def Task.veiled : Task → Task
  | .call c => .call c.veiled
  | .loop l => .loop l

/-- Whether an event is that a call put its request into the intake. -/
def Event.isRequestOf (t : Nat) : Event → Bool
  | .requested u => u == t
  | _ => false

/-- Whether an event ends a task that has put in a request before. -/
def Event.isAftermath (earlier : List Event) : Event → Bool
  | .ended t _ | .dropped t => earlier.any (Event.isRequestOf t)
  | _ => false

/-- A journal without the ends of calls that had put in their requests. -/
def outward : List Event → List Event
  | [] => []
  | e :: earlier => if e.isAftermath earlier then outward earlier else e :: outward earlier

namespace Call

variable {c d : Call}

/-- Calls that look alike differ at most in their places, and do not while their answer is awaited. -/
theorem of_veiled (alike : d.veiled = c.veiled) :
    d = { c with stage := d.stage } ∧ (c.request.reply = .awaited → d = c) := by
  obtain ⟨p, purpose, overtaken, request, stage⟩ := c
  obtain ⟨p', purpose', overtaken', request', stage'⟩ := d
  simp only [veiled] at alike
  split at alike <;> split at alike <;> simp_all

/-- Calls that look alike have the same request. -/
theorem request_of_veiled (alike : d.veiled = c.veiled) : d.request = c.request := by
  rw [(of_veiled alike).1]

/-- Calls that look alike still do with another request, unless its answer is awaited anew. -/
theorem veiled_request {q : Request} (alike : d.veiled = c.veiled)
    (later : q.reply = .awaited → c.request.reply = .awaited) :
    Call.veiled { d with request := q } = Call.veiled { c with request := q } := by
  by_cases awaited : c.request.reply = .awaited
  · rw [(of_veiled alike).2 awaited]
  · rw [(of_veiled alike).1]
    unfold veiled
    simp only []
    split
    · next still => exact absurd (later still) awaited
    · rfl

/-- The place of a call whose reply slot is filled is not seen. -/
theorem veiled_stage (filled : c.request.reply ≠ .awaited) (stage : CallStage) :
    Call.veiled { c with stage } = c.veiled := by
  unfold veiled
  cases reply : c.request.reply with
  | awaited => exact absurd reply filled
  | answered | abandoned => rfl

end Call

/-- After an answer none is awaited. -/
theorem reply_answer_ne (r : Request) (result : Except Failure Unit) :
    (r.answer result).reply ≠ .awaited := by
  unfold Publisher.Request.answer
  split
  · exact nofun
  · next filled => exact filled

/-- After a request is abandoned no answer is awaited. -/
theorem reply_abandon_ne (r : Request) : r.abandon.reply ≠ .awaited := by
  unfold Publisher.Request.abandon
  split
  · exact nofun
  · next filled => exact filled

/-! ## Journals -/

/-- Leaving out the ends of calls leaves every request in the journal. -/
theorem any_outward (j : List Event) (t : Nat) :
    (outward j).any (Event.isRequestOf t) = j.any (Event.isRequestOf t) := by
  induction j with
  | nil => rfl
  | cons e j ih =>
    rw [outward, List.any_cons]
    split
    · next aftermath =>
      have other : e.isRequestOf t = false := by cases e <;> first | rfl | cases aftermath
      rw [other, ih, Bool.false_or]
    · rw [List.any_cons, ih]

/-- Whether an event is left out is told by what is left of the journal before it. -/
theorem isAftermath_congr {j k : List Event} (same : outward k = outward j) (e : Event) :
    e.isAftermath k = e.isAftermath j := by
  cases e with
  | ended t | dropped t => rw [Event.isAftermath, ← any_outward, same, any_outward, Event.isAftermath]
  | _ => rfl

/-- The same event is added to journals of which the same is left. -/
theorem outward_cons_congr {j k : List Event} (same : outward k = outward j) (e : Event) :
    outward (e :: k) = outward (e :: j) := by
  rw [outward, outward, isAftermath_congr same, same]

/-- A journal holds a request of a call just if one of its events is that. -/
theorem any_isRequestOf {j : List Event} {t : Nat} :
    j.any (Event.isRequestOf t) = true ↔ .requested t ∈ j := by
  rw [List.any_eq_true]
  constructor
  · rintro ⟨e, inside, own⟩
    cases e with
    | requested u => rw [← eq_of_beq own]; exact inside
    | _ => cases own
  · exact fun inside => ⟨_, inside, beq_self_eq_true t⟩

/-! ## Twins -/

/-- Two services that only callers with an answer could tell apart. -/
structure Twin (s r : Service) : Prop where
  broker : r.broker = s.broker
  handles : r.handles = s.handles
  listeners : r.listeners = s.listeners
  publishers : r.publishers = s.publishers
  names : r.names = s.names
  size : r.tasks.size = s.tasks.size
  tasks : ∀ t : Nat, r.tasks[t]?.map Task.veiled = s.tasks[t]?.map Task.veiled
  journal : outward r.journal = outward s.journal

variable {s r q : Service} {t : Nat} {l : Loop} {c d : Call}

namespace Twin

/-- Every service is its own twin. -/
theorem refl (s : Service) : Twin s s := ⟨rfl, rfl, rfl, rfl, rfl, rfl, fun _ => rfl, rfl⟩

/-- Twins are twins either way round. -/
theorem symm (twin : Twin s r) : Twin r s :=
  ⟨twin.broker.symm, twin.handles.symm, twin.listeners.symm, twin.publishers.symm, twin.names.symm,
    twin.size.symm, fun t => (twin.tasks t).symm, twin.journal.symm⟩

/-- The twin of a twin is a twin. -/
theorem trans (twin : Twin s r) (twin' : Twin r q) : Twin s q :=
  ⟨twin'.broker.trans twin.broker, twin'.handles.trans twin.handles,
    twin'.listeners.trans twin.listeners, twin'.publishers.trans twin.publishers,
    twin'.names.trans twin.names, twin'.size.trans twin.size,
    fun t => (twin'.tasks t).trans (twin.tasks t), twin'.journal.trans twin.journal⟩

/-! ### What twins read -/

/-- Twins have the same publishers. -/
theorem publisher (twin : Twin s r) (p : Nat) : r.publisher p = s.publisher p := by
  rw [Service.publisher, twin.publishers, Service.publisher]

/-- Their handles stand for the same channels. -/
theorem channelOf (twin : Twin s r) (h : Nat) : r.channelOf h = s.channelOf h := by
  rw [Service.channelOf, twin.handles, Service.channelOf]

/-- Their notices tell the same. -/
theorem noticeOf (twin : Twin s r) (notice : Option Nat) :
    r.noticeOf notice = s.noticeOf notice := by
  cases notice with
  | none => rfl
  | some n => rw [Service.noticeOf, twin.broker, Service.noticeOf]

/-- Their loops stand in the same places. -/
theorem loop? (twin : Twin s r) (t : Nat) : r.loop? t = s.loop? t := by
  have same := twin.tasks t
  unfold Service.loop?
  cases here : s.tasks[t]? with
  | none => cases there : r.tasks[t]? <;> simp_all
  | some x =>
    cases there : r.tasks[t]? with
    | none => simp_all
    | some y => cases x <;> cases y <;> simp_all [Task.veiled, Task.loop?]

/-- The calls of twins at an index look alike. -/
theorem call (twin : Twin s r) (here : s.tasks[t]? = some (.call c)) :
    ∃ d, r.tasks[t]? = some (.call d) ∧ d.veiled = c.veiled := by
  have same := twin.tasks t
  rw [here] at same
  cases there : r.tasks[t]? with
  | none => rw [there] at same; cases same
  | some y =>
    rw [there] at same
    cases y with
    | call d => exact ⟨d, rfl, by simpa [Task.veiled] using same⟩
    | loop l => cases same

/-- Their calls look alike. -/
theorem call? (twin : Twin s r) (t : Nat) :
    (s.call? t = none ∧ r.call? t = none) ∨
      ∃ c d, s.call? t = some c ∧ r.call? t = some d ∧ d.veiled = c.veiled := by
  cases found : s.call? t with
  | some c =>
    obtain ⟨d, there, alike⟩ := twin.call (call?_eq_some.mp found)
    exact .inr ⟨c, d, rfl, call?_eq_some.mpr there, alike⟩
  | none =>
    cases found' : r.call? t with
    | none => exact .inl ⟨rfl, rfl⟩
    | some d =>
      obtain ⟨c, there, -⟩ := twin.symm.call (call?_eq_some.mp found')
      rw [call?_eq_some.mpr there] at found
      cases found

/-- The same publishers are ready for a request. -/
theorem isReady (twin : Twin s r) (p : Nat) : r.isReady p = s.isReady p := by
  unfold Service.isReady
  rw [twin.publisher]
  cases (s.publisher p).loop with
  | none => rfl
  | some t =>
    -- only loops count, and these are the same
    have same : r.tasks[t]?.bind Task.loop? = s.tasks[t]?.bind Task.loop? := twin.loop? t
    dsimp only
    generalize r.tasks[t]? = x at same ⊢
    generalize s.tasks[t]? = y at same ⊢
    rcases x with _ | ⟨c⟩ | ⟨l⟩ <;> rcases y with _ | ⟨c'⟩ | ⟨l'⟩ <;> first | rfl | cases same
    rfl

/-! ### Single writes -/

/-- The same event happens to both. -/
theorem record (twin : Twin s r) (e : Event) : Twin (s.record e) (r.record e) :=
  { twin with journal := outward_cons_congr twin.journal e }

/-- The same line is logged by both. -/
theorem note (twin : Twin s r) (p : Nat) (n : Publisher.Note) : Twin (s.note p n) (r.note p n) :=
  twin.record _

/-- Both brokers become the same. -/
theorem setBroker (twin : Twin s r) (b : Broker) :
    Twin { s with broker := b } { r with broker := b } := { twin with broker := rfl }

/-- The same operation of the broker happens to both. -/
theorem after {α : Type} (twin : Twin s r) (o : Outcome α) : Twin (s.after o) (r.after o) := by
  have noted : ∀ (notes : List Broker.Note) (j k : List Event), outward k = outward j →
      outward (notes.foldl (fun j n => .noted (.broker n) :: j) k) =
        outward (notes.foldl (fun j n => .noted (.broker n) :: j) j) := by
    intro notes
    induction notes with
    | nil => exact fun _ _ same => same
    | cons n notes ih => exact fun j k same => ih _ _ (outward_cons_congr same _)
  exact { twin with broker := rfl, journal := noted o.notes _ _ twin.journal }

/-- A publisher changes in both. -/
theorem onPublisher (twin : Twin s r) (p : Nat) (f : Publisher → Publisher) :
    Twin (s.onPublisher p f) (r.onPublisher p f) :=
  { twin with publishers := by rw [Service.onPublisher, twin.publishers, Service.onPublisher] }

/-- A handle changes in both. -/
theorem onHandle (twin : Twin s r) (h : Nat) (f : Handle → Handle) :
    Twin (s.onHandle h f) (r.onHandle h f) :=
  { twin with handles := by rw [Service.onHandle, twin.handles, Service.onHandle] }

/-- A task is written over in both, by tasks that look alike. -/
theorem setTask (twin : Twin s r) (t : Nat) {x y : Task} (alike : y.veiled = x.veiled) :
    Twin (s.setTask t x) (r.setTask t y) := by
  refine { twin with size := ?_, tasks := fun u => ?_ }
  · rw [tasks_size_setTask, tasks_size_setTask, twin.size]
  · have same := twin.tasks u
    rw [tasks_setTask, tasks_setTask, twin.size]
    split
    · split
      · exact congrArg some alike
      · rfl
    · exact same

/-- The same task is added to both. -/
theorem pushTask (twin : Twin s r) (x : Task) :
    Twin { s with tasks := s.tasks.push x } { r with tasks := r.tasks.push x } := by
  refine { twin with size := ?_, tasks := fun u => ?_ }
  · simp only [Array.size_push, twin.size]
  · rw [tasks_push, tasks_push, twin.size]
    split
    · rfl
    · exact twin.tasks u

/-- The task of a twin is written over by one that looks the same. -/
theorem setTask_self {x y : Task} (here : s.tasks[t]? = some x) (alike : y.veiled = x.veiled) :
    Twin s (s.setTask t y) := by
  refine { refl s with size := tasks_size_setTask _ _ _, tasks := fun u => ?_ }
  rw [tasks_setTask_of_some here]
  split
  · next own => rw [own, here, Option.map_some, Option.map_some, alike]
  · rfl

end Twin

end Relay.Service
