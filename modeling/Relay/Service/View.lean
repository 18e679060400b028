import Relay.Service.Command

/-!
# What the outside sees

Beside the answer to its command the outside sees what happened since, and how channels, publishers
and sinks stand.
-/

namespace Relay.Service

open Broker (Exception)

/-- How a channel handle stands. -/
inductive HandleState where
  | live
  | closed
  | dropped
  deriving DecidableEq, Repr

/-- How the handle of a channel stands. -/
def handleState (s : Service) (h : Handle) : HandleState :=
  if !h.held then .dropped
  else if s.broker.isLive h.channel then .live
  else .closed

/-- How a publisher stands. -/
structure Standing where
  dead : Bool
  attached : Bool
  status : Publisher.Status
  deriving DecidableEq, Repr

/-- How everything stands that the outside has a handle of. -/
structure Snapshot where
  channels : List HandleState
  publishers : List Standing
  /-- The number of confirmations that wait in each sink, unless nobody can take them. -/
  sinks : List (Option Nat)
  deriving DecidableEq

/-- How a publisher stands. -/
def standing (s : Service) (p : Nat) : Standing :=
  let q := s.publisher p
  ⟨q.dead, q.attached, q.status⟩

/-- How everything stands. -/
def snapshot (s : Service) : Snapshot :=
  { channels := s.handles.toList.map s.handleState
    publishers := s.names.toList.map s.standing
    sinks := s.broker.sinks.toList.map fun k => if k.connected then some k.queue.length else none }

/-- The events between two states of a run, in order. -/
def eventsSince (s earlier : Service) : List Event :=
  (s.journal.take (s.journal.length - earlier.journal.length)).reverse

/-- The first handle of a publisher. -/
def firstName (s : Service) (p : Nat) : Nat := s.names.toList.findIdx (· == p)

end Relay.Service
