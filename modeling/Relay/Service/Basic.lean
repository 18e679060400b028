import Relay.Service.Event
import Relay.Broker.Publish

/-!
# The service

A service is a broker with its publishers, the tasks under way, and the journal of what happened.
Handles are what the outside refers to: channel handles, publisher handles and listeners each have
their own table, and several publisher handles may stand for one publisher.
-/

namespace Relay

namespace Service

/-- A channel as the outside holds it. -/
structure Handle where
  /-- The channel in the broker. -/
  channel : Nat
  /-- Whether the outside still holds the channel. -/
  held : Bool := true
  /-- Whether loops that begin later get a close notice whose other end is gone. -/
  muted : Bool := false
  /-- Where loops have to wait. -/
  waits : List (Operation × Side) := []
  deriving DecidableEq, Repr

end Service

open Service

/-- A broker with its publishers and tasks. -/
structure Service where
  broker : Broker := {}
  handles : Array Handle := #[]
  /-- The notice of each listener, until it is taken. -/
  listeners : Array (Option Nat) := #[]
  publishers : Array Publisher := #[]
  /-- The publisher of each publisher handle. -/
  names : Array Nat := #[]
  tasks : Array Task := #[]
  /-- What happened, the last event first. -/
  journal : List Event := []

namespace Service

open Broker (Exception Outcome)
open Publisher (Failure)

/-- A service in which nothing happened yet. -/
def fresh : Service := {}

/-- The service after an event. -/
def record (s : Service) (e : Event) : Service := { s with journal := e :: s.journal }

/-- The service after a publisher's note. -/
def note (s : Service) (p : Nat) (n : Publisher.Note) : Service :=
  s.record (.noted (.publisher p n))

/-- The service after an operation of its broker. -/
def after {α : Type} (s : Service) (o : Outcome α) : Service :=
  { s with
    broker := o.broker
    journal := o.notes.foldl (fun j n => .noted (.broker n) :: j) s.journal }

/-- The service with a publisher changed. -/
def onPublisher (s : Service) (p : Nat) (f : Publisher → Publisher) : Service :=
  { s with publishers := s.publishers.modify p f }

/-- The service with a task changed. -/
def setTask (s : Service) (t : Nat) (task : Task) : Service :=
  { s with tasks := s.tasks.setIfInBounds t task }

/-- The service with a channel handle changed. -/
def onHandle (s : Service) (h : Nat) (f : Handle → Handle) : Service :=
  { s with handles := s.handles.modify h f }

/-- The publisher at an index; beyond the table one that does nothing. -/
def publisher (s : Service) (p : Nat) : Publisher :=
  s.publishers[p]?.getD { exchange := "", routingKey := "" }

/-- The call at an index, if the task there is one. -/
def call? (s : Service) (t : Nat) : Option Call :=
  match s.tasks[t]? with
  | some (.call c) => some c
  | _ => none

/-- The channel of a handle. -/
def channelOf (s : Service) (h : Nat) : Nat := (s.handles[h]?.map Handle.channel).getD 0

/-- Whether loops have to wait on one side of an operation. -/
def mustWait (s : Service) (h : Nat) (operation : Operation) (side : Side) : Bool :=
  match s.handles[h]? with
  | some handle => handle.waits.contains (operation, side)
  | none => false

/-- A task ends with a value. -/
def finish (s : Service) (t : Nat) (task : Task) (value : Value) : Service :=
  (s.setTask t task).record (.ended t value)

/-- Answers waiting requests `dead`, except those that their callers withdrew; their number is added
to `count`. -/
def answerDead (s : Service) (count : Nat) : List Nat → Service × Nat
  | [] => (s, count)
  | t :: rest =>
    match s.call? t with
    | none => answerDead s count rest
    | some c =>
      match c.request.openBy with
      | (none, _) => answerDead s count rest
      | (some _, opened) =>
        let answered := opened.answer (.error .dead)
        answerDead (s.setTask t (.call { c with request := answered })) (count + 1) rest

/-- Answers all requests in the intake of a dead publisher. -/
def drain (s : Service) (p : Nat) : Service :=
  let (s, count) := s.answerDead 0 (s.publisher p).intake.order
  let s := s.onPublisher p fun q => { q with intake := {} }
  if count = 0 then s else s.note p (.strandedAnswered count)

/-- Cancels a publisher: true for the first time. -/
def cancel (s : Service) (p : Nat) : Service × Bool :=
  if (s.publisher p).dead then (s.record (.cancelled p false), false)
  else
    let s := (s.record (.cancelled p true)).onPublisher p fun q => { q with dead := true }
    ((s.note p (.cancelled (s.publisher p).exchange)).drain p, true)

end Service

end Relay
