import Relay.Publisher.Basic
import Relay.Broker.Basic

/-!
# Tasks

A task is a publish call or a serving loop under way. Each stands at one of a few places where it
may have to wait; a task moves on only when it is polled.
-/

namespace Relay.Service

open Broker (Exception)
open Publisher (Failure Request Detach)

/-- What a call asks for, which decides what it reports. -/
inductive Purpose where
  | publish
  /-- Writing a body of so many octets. -/
  | write (octets : Nat)
  deriving DecidableEq, Repr

/-- What a task ends with. -/
inductive Value where
  | published
  | written (octets : Nat)
  | failed (failure : Failure)
  | detached (reason : Detach)
  deriving DecidableEq, Repr

/-- Where a call stands. -/
inductive CallStage where
  | fresh
  /-- The request is with the publisher. -/
  | waiting
  | finished (result : Except Failure Unit)
  | dropped

/-- A publish call. -/
structure Call where
  publisher : Nat
  purpose : Purpose
  /-- Whether a cancellation comes between the checks of the call and its request. -/
  overtaken : Bool := false
  request : Request
  stage : CallStage := .fresh

/-- What a call reports. -/
def Call.value (c : Call) : Except Failure Unit → Value
  | .ok () =>
    match c.purpose with
    | .publish => .published
    | .write n => .written n
  | .error f => .failed f

/-- An operation that a loop may have to wait in, before or after it takes effect. -/
inductive Operation where
  | publish
  | confirmSelect
  | close
  deriving DecidableEq, Repr

/-- On which side of the effect a wait is. -/
inductive Side where
  | before
  | after
  deriving DecidableEq, Repr

/-- How far an operation is: not yet done, or done with a result that is still held back. -/
inductive Phase where
  | entering
  | leaving (result : Except Exception Unit)

/-- The side on which a phase waits. -/
def Phase.side : Phase → Side
  | entering => .before
  | leaving _ => .after

/-- Why a loop closes its channel. -/
inductive Farewell where
  /-- Another loop is attached. -/
  | refused
  /-- The publisher was dead when the channel was offered. -/
  | retired
  /-- The publisher was cancelled while the loop was attached. -/
  | stopped
  deriving DecidableEq, Repr

/-- What the loop reports after it closed its channel. -/
def Farewell.detach : Farewell → Detach
  | refused => .alreadyAttached
  | retired | stopped => .cancelled

/-- Where a loop stands. `notice` is the close notice of the channel; none stands for one whose
other end is gone. -/
inductive LoopStage where
  | fresh
  | closing (farewell : Farewell) (phase : Phase)
  | confirming (notice : Option Nat) (phase : Phase)
  | idle (notice : Option Nat)
  | publishing (notice : Option Nat) (caller : Nat) (phase : Phase)
  | finished (reason : Detach)
  | dropped

namespace LoopStage

/-- Whether a loop at this place is the one attached to its publisher. -/
def isAttached : LoopStage → Bool
  | closing .refused _ => false
  | closing _ _ | confirming _ _ | idle _ | publishing _ _ _ => true
  | fresh | finished _ | dropped => false

/-- The operation that a loop is in, with its phase. -/
def operation? : LoopStage → Option (Operation × Phase)
  | closing _ phase => some (.close, phase)
  | confirming _ phase => some (.confirmSelect, phase)
  | publishing _ _ phase => some (.publish, phase)
  | fresh | idle _ | finished _ | dropped => none

end LoopStage

/-- A serving loop. -/
structure Loop where
  publisher : Nat
  /-- The handle of the channel that the loop was given. -/
  handle : Nat
  stage : LoopStage := .fresh

/-- A task. -/
inductive Task where
  | call (call : Call)
  | loop (loop : Loop)

namespace Task

/-- What the task ended with, if it finished. -/
def value? : Task → Option Value
  | call c =>
    match c.stage with
    | .finished result => some (c.value result)
    | _ => none
  | loop l =>
    match l.stage with
    | .finished reason => some (.detached reason)
    | _ => none

/-- Whether the task finished or was dropped. -/
def isOver : Task → Bool
  | call c =>
    match c.stage with
    | .finished _ | .dropped => true
    | _ => false
  | loop l =>
    match l.stage with
    | .finished _ | .dropped => true
    | _ => false

end Task

end Relay.Service
