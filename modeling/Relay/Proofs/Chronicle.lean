import Relay.Proofs.Turns

/-!
# What a run has done for one publisher

The requests that calls put into the intake of a publisher, the publishes that its loops began, and
the answers that those got who cancelled it, each in order. A step adds to one of these lists at most
one entry; to the lists of a dead publisher it adds no request and no publish.
-/

namespace Relay.Service

open Broker (Exception)
open Publisher (Failure)

variable {s s' : Service} {t : Nat}

/-- The publisher of the task at an index. -/
def publisherOf (s : Service) (t : Nat) : Option Nat := s.tasks[t]?.map Task.publisher

/-- The call whose request an event brings to a publisher. -/
def Event.requestTo (owner : Nat → Option Nat) (p : Nat) : Event → Option Nat
  | .requested t => if owner t = some p then some t else none
  | _ => none

/-- The call for which an event begins a publish of a publisher. -/
def Event.publishBy (owner : Nat → Option Nat) (p : Nat) : Event → Option Nat
  | .began l _ (.publish t ..) => if owner l = some p then some t else none
  | _ => none

/-- The answer to a cancellation of a publisher. -/
def Event.cancellationOf (p : Nat) : Event → Option Bool
  | .cancelled q first => if q = p then some first else none
  | _ => none

/-- The calls that put their requests into the intake of a publisher, in order. -/
def requests (s : Service) (p : Nat) : List Nat := s.chronicle (Event.requestTo s.publisherOf p)

/-- The calls for which loops of a publisher began publishes, in order, on whatever channel. -/
def publishes (s : Service) (p : Nat) : List Nat := s.chronicle (Event.publishBy s.publisherOf p)

/-- The answers to the cancellations of a publisher, in order: whether it was the first. -/
def cancellations (s : Service) (p : Nat) : List Bool := s.chronicle (Event.cancellationOf p)

/-! ## How they grow -/

/-- The publisher that a task belongs to. -/
theorem publisherOf_of_task {x : Task} (here : s.tasks[t]? = some x) :
    s.publisherOf t = some x.publisher := by
  rw [publisherOf, here]
  rfl

/-- A task keeps its publisher. -/
theorem Grows.publisherOf (grows : Grows s s') (inBounds : t < s.tasks.size) :
    s'.publisherOf t = s.publisherOf t := by
  have here := Array.getElem?_eq_getElem inBounds
  obtain ⟨x, there, same⟩ := grows.issued t _ here
  rw [publisherOf_of_task here, publisherOf_of_task there, Task.publisher_eq_of_issued same]

/-- A reading of events that depends on the publishers of the tasks that they speak of. -/
structure Reads (read : (Nat → Option Nat) → Event → Option Nat) : Prop where
  decisive : ∀ owner e, e.isDecisive = false → read owner e = none
  congr : ∀ owner owner' e, (∀ t ∈ e.tasks, owner' t = owner t) → read owner' e = read owner e

/-- Requests to a publisher are decisive and told by the owners of calls. -/
theorem reads_requestTo (p : Nat) : Reads fun owner => Event.requestTo owner p where
  decisive owner e idle := by cases e <;> first | rfl | cases idle
  congr owner owner' e same := by
    cases e with
    | requested t => simp only [Event.requestTo, same t List.mem_cons_self]
    | _ => rfl

/-- So are the publishes of its loops. -/
theorem reads_publishBy (p : Nat) : Reads fun owner => Event.publishBy owner p where
  decisive owner e idle := by
    cases e with
    | began l h operation => cases operation <;> first | rfl | cases idle
    | _ => rfl
  congr owner owner' e same := by
    cases e with
    | began l h operation =>
      cases operation with
      | publish t => simp only [Event.publishBy, same l List.mem_cons_self]
      | _ => rfl
    | _ => rfl

namespace Reads

variable {read : (Nat → Option Nat) → Event → Option Nat}

/-- Old events read as before. -/
theorem history_of_grows (reads : Reads read) (bounded : Bounded s) (grows : Grows s s') :
    s.history.filterMap (read s'.publisherOf) = s.history.filterMap (read s.publisherOf) :=
  List.filterMap_congr fun e inside => reads.congr _ _ e fun t named =>
    grows.publisherOf (bounded.event e inside t named)

/-- What is read off the same history is the same, though there may be more tasks. -/
theorem of_same (reads : Reads read) (bounded : Bounded s) (grows : Grows s s')
    (same : s'.history = s.history) :
    s'.chronicle (read s'.publisherOf) = s.chronicle (read s.publisherOf) := by
  rw [chronicle_eq (reads.decisive _), chronicle_eq (reads.decisive _), same,
    reads.history_of_grows bounded grows]

/-- A new event adds what is read off it. -/
theorem of_history {e : Event} (reads : Reads read) (bounded : Bounded s) (grows : Grows s s')
    (longer : s'.history = e :: s.history) :
    s'.chronicle (read s'.publisherOf)
      = s.chronicle (read s.publisherOf) ++ (read s'.publisherOf e).toList := by
  rw [chronicle_eq (reads.decisive _), chronicle_eq (reads.decisive _), longer,
    List.filterMap_cons, ← reads.history_of_grows bounded grows]
  cases read s'.publisherOf e <;> simp

end Reads

/-- Only decisive events are cancellations. -/
theorem decisive_cancellationOf (p : Nat) (e : Event) (idle : e.isDecisive = false) :
    e.cancellationOf p = none := by
  cases e <;> first | rfl | cases idle

/-- The same history has the same cancellations. -/
theorem cancellations_of_same (same : s'.history = s.history) (p : Nat) :
    s'.cancellations p = s.cancellations p := by
  rw [cancellations, chronicle_eq (decisive_cancellationOf p), same,
    ← chronicle_eq (decisive_cancellationOf p), cancellations]

/-- An event adds the cancellation that it is, if it is one. -/
theorem cancellations_of_history {e : Event} (longer : s'.history = e :: s.history) (p : Nat) :
    s'.cancellations p = s.cancellations p ++ (e.cancellationOf p).toList := by
  rw [cancellations, chronicle_eq (decisive_cancellationOf p), longer, List.filterMap_cons,
    cancellations, chronicle_eq (decisive_cancellationOf p)]
  cases e.cancellationOf p <;> simp

/-! ## Dead publishers -/

/-- A publisher that does not turn calls away is alive. -/
theorem live_of_admitted {p : Publisher} (admitted : p.refusal? = none) : p.dead = false := by
  refine Bool.eq_false_iff.mpr fun dead => ?_
  rw [refusal?_of_dead dead] at admitted
  cases admitted

/-- No step brings a request to a dead publisher, or has it begin a publish. -/
theorem Step.of_dead {a : Option Nat} {p : Nat} (bounded : Bounded s) (h : Step s a s')
    (dead : (s.publisher p).dead = true) :
    s'.requests p = s.requests p ∧ s'.publishes p = s.publishes p := by
  have grows := h.grows
  rcases h.adds with same | ⟨e, adds, longer⟩
  · exact ⟨(reads_requestTo p).of_same bounded grows same,
      (reads_publishBy p).of_same bounded grows same⟩
  have requests := (reads_requestTo p).of_history bounded grows longer
  have publishes := (reads_publishBy p).of_history bounded grows longer
  -- whoever adds an event to one of the lists belongs to a live publisher
  have alive : ∀ {u : Nat} {x : Task}, s.tasks[u]? = some x →
      (s.publisher x.publisher).dead = false → s'.publisherOf u ≠ some p := by
    intro u x here live own
    rw [grows.publisherOf (lt_size_of_task here), publisherOf_of_task here] at own
    rw [Option.some.inj own, dead] at live
    cases live
  rw [Service.requests, Service.publishes, requests, publishes, Service.requests, Service.publishes]
  -- of all events only two can count, and their owners are alive
  cases adds with
  | cancelled | refused | learnt | returned | endedLoop | dropped =>
    simp [Event.requestTo, Event.publishBy]
  | requested here fresh admitted =>
    have other := alive here (live_of_admitted admitted)
    simp [Event.requestTo, Event.publishBy, other]
  | began here idle live =>
    have other := alive here live
    simp [Event.requestTo, Event.publishBy, other]

end Relay.Service
