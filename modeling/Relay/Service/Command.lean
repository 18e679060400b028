import Relay.Service.Poll

/-!
# Commands

What the outside can do to a service, and what it learns from each command. A run is a fold of
`step` over a list of commands. A command that names a handle which does not exist, or a channel
handle that was given up, changes nothing.
-/

namespace Relay

open Broker (Exception PublishOptions Confirmation CloseReason Delivery)
open Service (Operation Side Direction Value)

/-- A command to a service. -/
inductive Command where
  | declare (exchange : String)
  /-- Opens so many channels and keeps the last. -/
  | openChannel (count : Nat)
  | disconnect (error : Exception)
  | restore
  | rejectNext (error : Exception)
  | nackNext
  | failConfirmSelect (error : Exception)
  | published
  | close (channel : Nat)
  | confirmSelect (channel : Nat)
  | terminate (channel : Nat) (reason : CloseReason)
  | notifyPublish (channel sink : Nat)
  | publishOn (channel : Nat) (exchange routingKey : String) (options : PublishOptions)
      (message : Message)
  | listen (channel : Nat)
  | check (listener : Nat)
  | dropChannel (channel : Nat)
  /-- Has loops wait on one side of an operation on a channel. -/
  | hold (channel : Nat) (operation : Operation) (side : Side)
  | release (channel : Nat)
  | mute (channel : Nat)
  | sink (capacity : Option Nat)
  | receive (sink : Nat) (limit : Option Nat)
  | dropSink (sink : Nat)
  | publisher (exchange routingKey : String) (template : Message) (sink : Option Nat)
  | clone (publisher : Nat)
  | profile (publisher : Nat)
  | cancel (publisher : Nat)
  /-- A call to publish; without a routing key the publisher's own is used. A call that is not
  deferred is polled once. -/
  | publish (publisher : Nat) (routingKey : Option String) (message : Message)
      (overtaken deferred : Bool)
  /-- A call to publish a body under the publisher's template. -/
  | write (publisher : Nat) (body : List UInt8) (deferred : Bool) (overtaken : Bool := false)
  | serve (publisher channel : Nat) (deferred : Bool)
  | poll (task : Nat)
  | settle (direction : Direction)
  | dropTask (task : Nat)

/-- How a new task stands. -/
inductive Outlook where
  | idle
  | pending
  | ready (value : Value)
  deriving DecidableEq

/-- What a publisher handle tells about its publisher. -/
structure Profile where
  exchange : String
  routingKey : String
  template : Message
  /-- For every publisher handle, whether it stands for the same publisher. -/
  same : List Bool
  deriving DecidableEq

/-- What a command answers. -/
inductive Answer where
  | done
  | refused (error : Exception)
  | channel (handle number : Nat)
  | deliveries (all : List Delivery)
  | listener (index : Nat)
  | live
  | closed (reason : CloseReason)
  | gone
  | sink (index : Nat)
  | confirmations (taken : List Confirmation)
  | publisher (index : Nat)
  | profile (profile : Profile)
  | first (yes : Bool)
  | task (index : Nat) (outlook : Outlook)
  | pending
  | ready (value : Value)
  | settled (values : List (Nat × Value))
  /-- The command names something that does not exist. -/
  | unknown
  deriving DecidableEq

namespace Service

/-- The answer to an operation without a value. -/
def unitAnswer : Except Exception Unit → Answer
  | .ok () => .done
  | .error e => .refused e

/-- Opens channels and makes a handle for the last. -/
def openHandle (s : Service) (count : Nat) : Service × Answer :=
  let outcome := s.broker.openLast count
  let s := s.after outcome
  match outcome.value with
  | .ok c =>
    ({ s with handles := s.handles.push { channel := c } },
      .channel s.handles.size (s.broker.numberOf c))
  | .error e => (s, .refused e)

/-- Publishes on a channel without a publisher. -/
def publishOn (s : Service) (c : Nat) (exchange routingKey : String) (options : PublishOptions)
    (message : Message) : Service × Answer :=
  let outcome := s.broker.publish c exchange routingKey options message
  let s := s.after outcome
  match outcome.value with
  | .ok (some delivery) => (s.record (.delivered delivery none), .done)
  | .ok none => (s, .done)
  | .error e => (s, .refused e)

/-- What a listener has learnt. An answer can be taken once. -/
def check (s : Service) (l : Nat) : Service × Answer :=
  match s.listeners[l]? with
  | none => (s, .unknown)
  | some none => (s, .gone)
  | some (some notice) =>
    match s.noticeOf (some notice) with
    | .waiting => (s, .live)
    | .told reason => ({ s with listeners := s.listeners.setIfInBounds l none }, .closed reason)
    | .lost => ({ s with listeners := s.listeners.setIfInBounds l none }, .gone)

/-- The outside gives up a channel handle. -/
def dropHandle (s : Service) (h : Nat) : Service :=
  { s.onHandle h fun k => { k with held := false } with
    broker := s.broker.letGo (s.channelOf h) }

/-- A new publisher with a handle. -/
def addPublisher (s : Service) (p : Publisher) : Service × Answer :=
  ({ s with publishers := s.publishers.push p, names := s.names.push s.publishers.size },
    .publisher s.names.size)

/-- Another handle for a publisher. -/
def addName (s : Service) (p : Nat) : Service × Answer :=
  ({ s with names := s.names.push p }, .publisher s.names.size)

/-- What a handle tells about its publisher. -/
def profileOf (s : Service) (p : Nat) : Profile :=
  let q := s.publisher p
  ⟨q.exchange, q.routingKey, q.template, s.names.toList.map (· == p)⟩

/-- Adds a task and, unless it is deferred, polls it once. -/
def start (s : Service) (task : Task) (deferred : Bool) : Service × Answer :=
  let t := s.tasks.size
  let s := { s with tasks := s.tasks.push task }
  if deferred then (s, .task t .idle)
  else
    let s := s.poll t
    match s.valueOf t with
    | some v => (s, .task t (.ready v))
    | none => (s, .task t .pending)

/-- Polls a task once, if it is not over. -/
def pollOnce (s : Service) (t : Nat) : Service × Answer :=
  match s.tasks[t]? with
  | none => (s, .unknown)
  | some task =>
    if task.isOver then (s, .gone)
    else
      let s := s.poll t
      match s.valueOf t with
      | some v => (s, .ready v)
      | none => (s, .pending)

/-- Does something with the channel of a handle, if the outside holds it. -/
def withChannel (s : Service) (h : Nat) (f : Nat → Service × Answer) : Service × Answer :=
  match s.handles[h]? with
  | some handle => if handle.held then f handle.channel else (s, .unknown)
  | none => (s, .unknown)

/-- Does something with the publisher of a handle. -/
def withPublisher (s : Service) (n : Nat) (f : Nat → Service × Answer) : Service × Answer :=
  match s.names[n]? with
  | some p => f p
  | none => (s, .unknown)

/-- Does something if a sink exists. -/
def withSink (s : Service) (k : Nat) (f : Service × Answer) : Service × Answer :=
  if k < s.broker.sinks.size then f else (s, .unknown)

/-- One command. -/
def step (s : Service) : Command → Service × Answer
  | .declare exchange => ({ s with broker := s.broker.declare exchange }, .done)
  | .openChannel count => s.openHandle count
  | .disconnect error => (s.after (s.broker.disconnect error), .done)
  | .restore => (s.after s.broker.restore, .done)
  | .rejectNext error => ({ s with broker := s.broker.rejectNext error }, .done)
  | .nackNext => ({ s with broker := s.broker.nackNext }, .done)
  | .failConfirmSelect error => ({ s with broker := s.broker.failConfirmSelect error }, .done)
  | .published => (s, .deliveries s.broker.published)
  | .close h =>
    s.withChannel h fun c =>
      let outcome := s.broker.close c
      (s.after outcome, unitAnswer outcome.value)
  | .confirmSelect h =>
    s.withChannel h fun c =>
      let (result, broker) := s.broker.confirmSelect c
      ({ s with broker }, unitAnswer result)
  | .terminate h reason => s.withChannel h fun c => (s.after (s.broker.terminate c reason), .done)
  | .notifyPublish h sink =>
    s.withChannel h fun c =>
      s.withSink sink ({ s with broker := s.broker.notifyPublish c sink }, .done)
  | .publishOn h exchange routingKey options message =>
    s.withChannel h fun c => s.publishOn c exchange routingKey options message
  | .listen h =>
    s.withChannel h fun c =>
      let (notice, broker) := s.broker.notifyClose c
      ({ s with broker, listeners := s.listeners.push (some notice) }, .listener s.listeners.size)
  | .check listener => s.check listener
  | .dropChannel h => s.withChannel h fun _ => (s.dropHandle h, .done)
  | .hold h operation side =>
    s.withChannel h fun _ =>
      (s.onHandle h fun k => { k with waits := (operation, side) :: k.waits }, .done)
  | .release h => s.withChannel h fun _ => (s.onHandle h fun k => { k with waits := [] }, .done)
  | .mute h => s.withChannel h fun _ => (s.onHandle h fun k => { k with muted := true }, .done)
  | .sink capacity =>
    let (index, broker) := s.broker.addSink capacity
    ({ s with broker }, .sink index)
  | .receive sink limit =>
    s.withSink sink
      (let (taken, broker) := s.broker.receive sink limit
      ({ s with broker }, .confirmations taken))
  | .dropSink sink => s.withSink sink ({ s with broker := s.broker.dropSink sink }, .done)
  | .publisher exchange routingKey template sink =>
    s.addPublisher { exchange, routingKey, template, sink }
  | .clone n => s.withPublisher n s.addName
  | .profile n => s.withPublisher n fun p => (s, .profile (s.profileOf p))
  | .cancel n =>
    s.withPublisher n fun p =>
      let (s, yes) := s.cancel p
      (s, .first yes)
  | .publish n routingKey message overtaken deferred =>
    s.withPublisher n fun p =>
      let request := { routingKey := routingKey.getD (s.publisher p).routingKey, message }
      s.start (.call { publisher := p, purpose := .publish, overtaken, request }) deferred
  | .write n body deferred overtaken =>
    s.withPublisher n fun p =>
      let q := s.publisher p
      let request := { routingKey := q.routingKey, message := q.template.withBody body }
      s.start (.call { publisher := p, purpose := .write body.length, overtaken, request }) deferred
  | .serve n h deferred =>
    s.withPublisher n fun p =>
      s.withChannel h fun c =>
        { s with broker := s.broker.hold c }.start (.loop { publisher := p, handle := h }) deferred
  | .poll t => s.pollOnce t
  | .settle direction =>
    let (s, values) := s.settle direction
    (s, .settled values)
  | .dropTask t => if t < s.tasks.size then (s.drop t, .done) else (s, .unknown)

/-- The service after a list of commands. -/
def run (s : Service) (commands : List Command) : Service :=
  commands.foldl (fun s c => (s.step c).1) s

end Service

end Relay
