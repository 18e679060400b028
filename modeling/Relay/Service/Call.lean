import Relay.Service.Basic

/-!
# Publish calls

A call is checked against its publisher, puts its request into the intake and waits for the reply.
-/

namespace Relay.Service

open Publisher (Failure)

/-- Whether the loop attached to a publisher stands ready for a request. -/
def isReady (s : Service) (p : Nat) : Bool :=
  match (s.publisher p).loop with
  | none => false
  | some t =>
    match s.tasks[t]? with
    | some (.loop { stage := .idle _, .. }) => true
    | _ => false

/-- A call ends; a request that nobody claimed is withdrawn. -/
def endCall (s : Service) (t : Nat) (c : Call) (result : Except Failure Unit) : Service :=
  let ended := { c with request := c.request.forsake, stage := .finished result }
  s.finish t (.call ended) (c.value result)

/-- A call puts its request into the intake. -/
def enqueue (s : Service) (t : Nat) (c : Call) : Service :=
  let ready := s.isReady c.publisher
  let s := s.onPublisher c.publisher fun p => { p with intake := p.intake.put t ready }
  (s.setTask t (.call { c with stage := .waiting })).record (.requested t)

/-- A call begins. -/
def beginCall (s : Service) (t : Nat) (c : Call) : Service :=
  match (s.publisher c.publisher).refusal? with
  | some failure => s.endCall t c (.error failure)
  | none =>
    if c.overtaken then
      ((s.cancel c.publisher).1.note c.publisher .overtaken).endCall t c (.error .dead)
    else s.enqueue t c

/-- One move of a call, if it can move. -/
def moveCall (s : Service) (t : Nat) (c : Call) : Option Service :=
  match c.stage with
  | .fresh => some (s.beginCall t c)
  | .waiting => c.request.outcome?.map (s.endCall t c)
  | .finished _ | .dropped => none

/-- The caller goes away. -/
def dropCall (s : Service) (t : Nat) (c : Call) : Service :=
  let dropped : Task := .call { c with request := c.request.forsake, stage := .dropped }
  match c.stage with
  | .fresh => (s.setTask t dropped).record (.dropped t)
  | .waiting =>
    let s := s.onPublisher c.publisher fun p => { p with intake := p.intake.leave t }
    (s.setTask t dropped).record (.dropped t)
  | .finished _ | .dropped => s

end Relay.Service
