import Relay.Proofs.Tables
import Mathlib.Logic.Relation

/-!
# Steps

Whatever happens to a service is a sequence of steps, and a step does one thing: it moves one call or
one loop on, cancels a publisher, drops a task or adds something to a table. `Step` lists them with
their conditions, up to what is of no consequence. Invariants are proved of steps.
-/

namespace Relay.Service

open Broker (Exception)
open Publisher (Failure Status Detach)

/-- The call whose message a loop is publishing. -/
def LoopStage.caller? : LoopStage → Option Nat
  | .publishing _ caller _ => some caller
  | _ => none

theorem LoopStage.caller?_eq_some {stage : LoopStage} {caller : Nat} :
    stage.caller? = some caller ↔ ∃ notice phase, stage = .publishing notice caller phase := by
  cases stage <;> simp [LoopStage.caller?]

/-- A task as it was when it was new. -/
def Task.issued : Task → Task
  | .call c =>
    .call { c with
      request := { routingKey := c.request.routingKey, message := c.request.message }
      stage := .fresh }
  | .loop l => .loop { l with stage := .fresh }

/-- The loop puts the message of an unclaimed request on its way. -/
def openRequest (s : Service) (t : Nat) (l : Loop) (notice : Option Nat) (caller : Nat) (c : Call) :
    Service :=
  let opened := { c.request with claimed := true }
  let s := s.setTask caller (.call { c with request := opened })
  let s := s.record (.began t l.handle
    (.publish caller (s.publisher l.publisher).exchange c.request.routingKey {} c.request.message))
  s.moveTo t l (.publishing notice caller .entering)

/-- The loop gives the result of a publish to the call that it was for. -/
def closeRequest (s : Service) (t : Nat) (l : Loop) (notice : Option Nat) (caller : Nat) (c : Call)
    (result : Except Exception Unit) : Service :=
  let answered := c.request.answer (result.mapError Publisher.Failure.publish)
  let s := (s.setTask caller (.call { c with request := answered })).moveTo t l (.idle notice)
  s.record (.returned t caller result)

/-- One thing that happens to a service. The index is the task that does it; there is none for what
comes from outside. -/
inductive Step (s : Service) : Option Nat → Service → Prop
  /-- Something of no consequence. -/
  | quiet {a : Option Nat} {s' : Service} (alike : Alike s s') : Step s a s'
  /-- A cancellation, from outside or overtaking a call. -/
  | cancel {a : Option Nat} {p : Nat} (byCall : ∀ t, a = some t → ∃ c, s.tasks[t]? = some (.call c))
      (inBounds : p < s.publishers.size) : Step s a (s.cancel p).1
  /-- A call is turned away at once. -/
  | refuse {t : Nat} {c : Call} {f : Failure} (here : s.tasks[t]? = some (.call c))
      (fresh : c.stage = .fresh) (refused : (s.publisher c.publisher).refusal? = some f) :
      Step s (some t) (s.endCall t c (.error f))
  /-- A call puts its request into the intake. -/
  | request {t : Nat} {c : Call} (here : s.tasks[t]? = some (.call c))
      (fresh : c.stage = .fresh) (admitted : (s.publisher c.publisher).refusal? = none) :
      Step s (some t) (s.enqueue t c)
  /-- A call gets its answer. -/
  | learn {t : Nat} {c : Call} {r : Except Failure Unit} (here : s.tasks[t]? = some (.call c))
      (waiting : c.stage = .waiting) (outcome : c.request.outcome? = some r) :
      Step s (some t) (s.endCall t c r)
  /-- A loop attaches itself to its publisher. -/
  | attach {t : Nat} {l : Loop} {stage : LoopStage} (here : s.tasks[t]? = some (.loop l))
      (fresh : l.stage = .fresh) (vacant : (s.publisher l.publisher).loop = none)
      (attached : stage.isAttached = true) (free : stage.caller? = none) :
      Step s (some t) ((s.onPublisher l.publisher fun p => { p with loop := some t }).moveTo t l stage)
  /-- A loop sets the status of a live publisher. -/
  | status {t : Nat} {p : Nat} {v : Status} (live : (s.publisher p).dead = false) :
      Step s (some t) (s.onPublisher p fun q => { q with status := v })
  | forget {t : Nat} {p : Nat} : Step s (some t) (s.onPublisher p fun q => { q with forgotten := true })
  /-- A loop answers what is left in the intake of a dead publisher. -/
  | drain {t : Nat} {p : Nat} (dead : (s.publisher p).dead = true) : Step s (some t) (s.drain p)
  /-- A loop moves on without taking up or giving back a request. -/
  | advance {t : Nat} {l : Loop} {stage : LoopStage} (here : s.tasks[t]? = some (.loop l))
      (attached : stage.isAttached = l.stage.isAttached) (caller : stage.caller? = l.stage.caller?)
      (going : (Task.loop { l with stage }).isOver = false) : Step s (some t) (s.moveTo t l stage)
  /-- A loop passes over a request that its caller withdrew. -/
  | skip {t : Nat} {l : Loop} {notice : Option Nat} {caller : Nat} {c : Call}
      {rest : Publisher.Intake} (here : s.tasks[t]? = some (.loop l)) (idle : l.stage = .idle notice)
      (next : (s.publisher l.publisher).intake.take? = some (caller, rest))
      (there : s.tasks[caller]? = some (.call c)) (claimed : c.request.claimed = true) :
      Step s (some t) (s.withIntake l.publisher rest)
  /-- A loop opens a request. -/
  | begin {t : Nat} {l : Loop} {notice : Option Nat} {caller : Nat} {c : Call}
      {rest : Publisher.Intake} (here : s.tasks[t]? = some (.loop l)) (idle : l.stage = .idle notice)
      (live : (s.publisher l.publisher).dead = false)
      (next : (s.publisher l.publisher).intake.take? = some (caller, rest))
      (there : s.tasks[caller]? = some (.call c)) (free : c.request.claimed = false) :
      Step s (some t)
        ((s.withIntake l.publisher rest).openRequest t l notice caller c)
  /-- A loop answers a request. -/
  | answer {t : Nat} {l : Loop} {notice : Option Nat} {caller : Nat} {phase : Phase} {c : Call}
      {result : Except Exception Unit} (here : s.tasks[t]? = some (.loop l))
      (publishing : l.stage = .publishing notice caller phase)
      (there : s.tasks[caller]? = some (.call c)) :
      Step s (some t) (s.closeRequest t l notice caller c result)
  /-- A loop ends. -/
  | endLoop {t : Nat} {l : Loop} {reason : Detach} (here : s.tasks[t]? = some (.loop l))
      (free : l.stage.caller? = none)
      (open_ : ∀ r, reason = .closed r → (s.publisher l.publisher).dead = false) :
      Step s (some t) (s.endLoop t l reason)
  | dropCall {t : Nat} {c : Call} (here : s.tasks[t]? = some (.call c)) : Step s none (s.dropCall t c)
  | dropLoop {t : Nat} {l : Loop} (here : s.tasks[t]? = some (.loop l)) : Step s none (s.dropLoop t l)
  | issue {x : Task} (new : x.issued = x) (inBounds : x.publisher < s.publishers.size) :
      Step s none { s with tasks := s.tasks.push x }
  | addPublisher {p : Publisher} (new : p.dead = false ∧ p.loop = none ∧ p.intake = {}) :
      Step s none (s.addPublisher p).1
  | addName {p : Nat} (inBounds : p < s.publishers.size) : Step s none (s.addName p).1

/-- Steps of the tasks at an index, and of no other. -/
abbrev Steps (t : Nat) : Service → Service → Prop := Relation.ReflTransGen fun s s' => Step s (some t) s'

end Relay.Service
