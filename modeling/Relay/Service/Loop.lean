import Relay.Service.Basic

/-!
# Serving loops

A loop attaches a channel to a publisher and publishes requests on it, one at a time, until the
publisher is cancelled or the channel closes. Before each request it looks for a cancellation first
and for the end of the channel second, so no request is opened once either is known.

At most one loop is attached to a publisher; a second one closes the channel it was given.
-/

namespace Relay.Service

open Broker (Exception)
open Publisher (Detach)

/-- The loop stands somewhere else. -/
def moveTo (s : Service) (t : Nat) (l : Loop) (stage : LoopStage) : Service :=
  s.setTask t (.loop { l with stage })

/-- The loop gives up its channel and, if it was attached, its publisher. -/
def detach (s : Service) (l : Loop) : Service :=
  let s := { s with broker := s.broker.letGo (s.channelOf l.handle) }
  if l.stage.isAttached then s.onPublisher l.publisher fun p => { p with loop := none } else s

/-- The loop ends. -/
def endLoop (s : Service) (t : Nat) (l : Loop) (reason : Detach) : Service :=
  (s.detach l).finish t (.loop { l with stage := .finished reason }) (.detached reason)

/-- Tells the owner to forget a publisher, unless it was told before. -/
def retire (s : Service) (p : Nat) : Service :=
  if (s.publisher p).forgotten then s
  else (s.onPublisher p fun q => { q with forgotten := true }).record (.forgotten p)

/-- The loop begins to close its channel. -/
def beginClose (s : Service) (t : Nat) (l : Loop) (farewell : Farewell) : Service :=
  (s.record (.began t l.handle .close)).moveTo t l (.closing farewell .entering)

/-- The loop is ready for requests. -/
def beginServing (s : Service) (t : Nat) (l : Loop) (notice : Option Nat) : Service :=
  (s.note l.publisher (.attached (s.publisher l.publisher).exchange)).moveTo t l (.idle notice)

/-- Registers the close notice of the loop. -/
def listen (s : Service) (t : Nat) (l : Loop) : Service × Option Nat :=
  let s := s.record (.began t l.handle .notifyClose)
  if (s.handles[l.handle]?.map Handle.muted).getD false then (s, none)
  else
    let (notice, broker) := s.broker.notifyClose (s.channelOf l.handle)
    ({ s with broker }, some notice)

/-- The loop attaches its channel. -/
def attach (s : Service) (t : Nat) (l : Loop) : Service :=
  let s := s.onPublisher l.publisher fun p => { p with status := .clear }
  let (s, notice) := s.listen t l
  match (s.publisher l.publisher).sink with
  | none => s.beginServing t l notice
  | some _ =>
    (s.record (.began t l.handle .confirmSelect)).moveTo t l (.confirming notice .entering)

/-- The loop begins. -/
def beginLoop (s : Service) (t : Nat) (l : Loop) : Service :=
  if (s.publisher l.publisher).attached then
    (s.note l.publisher .secondLoopRefused).beginClose t l .refused
  else
    let s := s.onPublisher l.publisher fun p => { p with loop := some t }
    if (s.publisher l.publisher).dead then
      ((s.retire l.publisher).note l.publisher .refusedDead).beginClose t l .retired
    else s.attach t l

/-- The loop has closed its channel, or failed to. -/
def endClose (s : Service) (t : Nat) (l : Loop) (farewell : Farewell)
    (result : Except Exception Unit) : Service :=
  let s :=
    match farewell, result with
    | .stopped, .error e => (s.note l.publisher (.notClosed e)).note l.publisher .stopped
    | .stopped, .ok () => s.note l.publisher .stopped
    | _, .error e => s.note l.publisher (.refusedNotClosed e)
    | _, .ok () => s
  s.endLoop t l farewell.detach

/-- The loop has asked for confirm mode. A refusal is reported, and the loop goes on. -/
def endConfirm (s : Service) (t : Nat) (l : Loop) (notice : Option Nat)
    (result : Except Exception Unit) : Service :=
  let s :=
    match result, (s.publisher l.publisher).sink with
    | .ok (), some sink =>
      { s.record (.began t l.handle .notifyPublish) with
        broker := s.broker.notifyPublish (s.channelOf l.handle) sink }
    | .ok (), none => s
    | .error e, _ => (s.note l.publisher (.confirmModeRefused e)).record (.reported e)
  s.beginServing t l notice

/-- The loop takes up a request: it publishes the message unless the caller withdrew it. -/
def takeUp (s : Service) (t : Nat) (l : Loop) (notice : Option Nat) (caller : Nat) : Service :=
  match s.call? caller with
  | none => s
  | some c =>
    match c.request.openBy with
    | (none, _) => s.note l.publisher .requestWithdrawn
    | (some message, opened) =>
      let exchange := (s.publisher l.publisher).exchange
      let s := s.setTask caller (.call { c with request := opened })
      let s := s.record (.began t l.handle (.publish caller exchange opened.routingKey {} message))
      s.moveTo t l (.publishing notice caller .entering)

/-- The message goes out. -/
def publishNow (s : Service) (t : Nat) (l : Loop) (notice : Option Nat) (caller : Nat) : Service :=
  match s.call? caller with
  | none => s.moveTo t l (.idle notice)
  | some c =>
    let outcome := s.broker.publish (s.channelOf l.handle) (s.publisher l.publisher).exchange
      c.request.routingKey {} c.request.message
    let s := s.after outcome
    let s :=
      match outcome.value with
      | .ok (some delivery) => s.record (.delivered delivery (some caller))
      | _ => s
    s.moveTo t l (.publishing notice caller (.leaving (outcome.value.map fun _ => ())))

/-- The loop answers the request that it published. -/
def endPublish (s : Service) (t : Nat) (l : Loop) (notice : Option Nat) (caller : Nat)
    (result : Except Exception Unit) : Service :=
  match s.call? caller with
  | none => s.moveTo t l (.idle notice)
  | some c =>
    let s :=
      match result with
      | .error e => s.note l.publisher (.rejected c.request.routingKey e)
      | .ok () => s
    let answered := c.request.answer (result.mapError Publisher.Failure.publish)
    let s := (s.setTask caller (.call { c with request := answered })).moveTo t l (.idle notice)
    s.record (.returned t caller result)

/-- What became of a close notice; one without another end counts as a graceful close. -/
def noticeOf (s : Service) : Option Nat → Broker.Notice
  | none => .lost
  | some n => s.broker.notices[n]?.getD .lost

/-- One move of a loop that is ready for requests, if it can move. -/
def moveIdle (s : Service) (t : Nat) (l : Loop) (notice : Option Nat) : Option Service :=
  let p := s.publisher l.publisher
  if p.dead then some (((s.drain l.publisher).retire l.publisher).beginClose t l .stopped)
  else
    match s.noticeOf notice with
    | .told (some e) =>
      let s := s.note l.publisher (.channelFailed e)
      let s := s.onPublisher l.publisher fun q => { q with status := .failed e }
      some (s.endLoop t l (.closed (some e)))
    | .told none | .lost => some ((s.note l.publisher .channelClosed).endLoop t l (.closed none))
    | .waiting =>
      p.intake.take?.map fun (caller, rest) =>
        (s.onPublisher l.publisher fun q => { q with intake := rest }).takeUp t l notice caller

/-- One move of a loop that no wait holds up, if it can move. -/
def moveFreely (s : Service) (t : Nat) (l : Loop) : Option Service :=
  match l.stage with
  | .fresh => some (s.beginLoop t l)
  | .closing farewell .entering =>
    let outcome := s.broker.close (s.channelOf l.handle)
    some ((s.after outcome).moveTo t l (.closing farewell (.leaving outcome.value)))
  | .closing farewell (.leaving result) => some (s.endClose t l farewell result)
  | .confirming notice .entering =>
    let (result, broker) := s.broker.confirmSelect (s.channelOf l.handle)
    some ({ s with broker }.moveTo t l (.confirming notice (.leaving result)))
  | .confirming notice (.leaving result) => some (s.endConfirm t l notice result)
  | .idle notice => s.moveIdle t l notice
  | .publishing notice caller .entering => some (s.publishNow t l notice caller)
  | .publishing notice caller (.leaving result) => some (s.endPublish t l notice caller result)
  | .finished _ | .dropped => none

/-- Whether the loop is in an operation in which loops have to wait. -/
def isHeldUp (s : Service) (l : Loop) : Bool :=
  match l.stage.operation? with
  | some (operation, phase) => s.mustWait l.handle operation phase.side
  | none => false

/-- One move of a loop, if it can move. -/
def moveLoop (s : Service) (t : Nat) (l : Loop) : Option Service :=
  if s.isHeldUp l then none else s.moveFreely t l

/-- The loop is dropped where it stands. A request that it had opened is abandoned. -/
def dropLoop (s : Service) (t : Nat) (l : Loop) : Service :=
  match l.stage with
  | .finished _ | .dropped => s
  | stage =>
    let s :=
      match stage with
      | .publishing _ caller _ =>
        match s.call? caller with
        | some c => s.setTask caller (.call { c with request := c.request.abandon })
        | none => s
      | _ => s
    ((s.detach l).moveTo t l .dropped).record (.dropped t)

end Relay.Service
