import Relay.Service.Call
import Relay.Service.Loop

/-!
# Polling

A poll moves one task until it ends or has to wait. To settle is to poll woken tasks, the one that
comes first in a given direction, until none is left.
-/

namespace Relay.Service

/-- One move of a task, if it can move. -/
def move (s : Service) (t : Nat) : Option Service :=
  match s.tasks[t]? with
  | some (.call c) => s.moveCall t c
  | some (.loop l) => s.moveLoop t l
  | none => none

/-- Moves a task as often as it can, at most so many times. -/
def moves (t : Nat) : Nat → Service → Service
  | 0, s => s
  | n + 1, s =>
    match s.move t with
    | some s => moves t n s
    | none => s

/-- More moves than one poll of a task can make: a loop makes at most three for each waiting request
and a few to begin and to end. -/
def moveBound (s : Service) (t : Nat) : Nat :=
  match s.tasks[t]? with
  | some (.loop l) => 3 * (s.publisher l.publisher).intake.size + 10
  | _ => 3

/-- Moves a task until it ends or has to wait. -/
def poll (s : Service) (t : Nat) : Service := moves t (s.moveBound t) s

/-- Whether polling a task does anything. -/
def isWoken (s : Service) (t : Nat) : Bool := (s.move t).isSome

/-- The value of a finished task. -/
def valueOf (s : Service) (t : Nat) : Option Value := s.tasks[t]?.bind Task.value?

/-- Which of the woken tasks comes first. -/
inductive Direction where
  | lowest
  | highest
  deriving DecidableEq, Repr

/-- The indices of all tasks in a direction. -/
def taskOrder (s : Service) : Direction → List Nat
  | .lowest => List.range s.tasks.size
  | .highest => (List.range s.tasks.size).reverse

/-- Polls woken tasks, at most so many times; the values of those that finish come in order. -/
def settleWithin (direction : Direction) : Nat → Service → Service × List (Nat × Value)
  | 0, s => (s, [])
  | n + 1, s =>
    match (s.taskOrder direction).find? s.isWoken with
    | none => (s, [])
    | some t =>
      let s := s.poll t
      let (settled, values) := settleWithin direction n s
      match s.valueOf t with
      | some v => (settled, (t, v) :: values)
      | none => (settled, values)

/-- Polls woken tasks until none is left. Each call is woken at most twice, and each loop when it
begins, when it ends and for requests. -/
def settle (s : Service) (direction : Direction) : Service × List (Nat × Value) :=
  settleWithin direction (8 * s.tasks.size + 8) s

/-- Drops a task where it stands. -/
def drop (s : Service) (t : Nat) : Service :=
  match s.tasks[t]? with
  | some (.call c) => s.dropCall t c
  | some (.loop l) => s.dropLoop t l
  | none => s

end Relay.Service
