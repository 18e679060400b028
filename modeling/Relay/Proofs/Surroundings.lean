import Relay.Proofs.Acts
import Relay.Proofs.Order
import Relay.Proofs.Notices

/-!
# What acts leave alone

`Keeps` collects what an act leaves as it is that begins no publish: handles keep their channels, the
broker goes on as brokers do, and no operation on a channel begins in the name of somebody else. A calm
act leaves loops and the status of publishers as they are too. Moves of calls and commands that poll
nothing are calm, but for those that drop a loop or add one: `Outer` covers them all.
-/

namespace Relay.Service

open Broker (Exception Heeds)
open Publisher (Failure)

/-- The loop that begins an operation on a channel. -/
def Event.begunBy? : Event → Option Nat
  | .began l _ _ => some l
  | _ => none

/-- A loop that opens a request begins an operation. -/
theorem Event.begunBy?_of_opens {e : Event} {l u : Nat} (opens : e.opens? = some (l, u)) :
    e.begunBy? = some l := by
  cases e with
  | began k h operation =>
    cases operation with
    | publish =>
      cases opens
      rfl
    | _ => cases opens
  | _ => cases opens

/-- An event that begins no operation opens no request. -/
theorem Event.opens?_of_begunBy? {e : Event} (nobody : e.begunBy? = none) : e.opens? = none := by
  cases e <;> first | rfl | cases nobody

/-- The loop that a task is. -/
def Task.loop? : Task → Option Loop
  | .call _ => none
  | .loop l => some l

/-- The loop at an index, if the task there is one. -/
def loop? (s : Service) (t : Nat) : Option Loop := s.tasks[t]?.bind Task.loop?

/-- There is a loop at an index just if the task there is that loop. -/
theorem loop?_eq_some {s : Service} {t : Nat} {l : Loop} :
    s.loop? t = some l ↔ s.tasks[t]? = some (.loop l) := by
  unfold loop?
  cases s.tasks[t]? with
  | none => simp
  | some x => cases x <;> simp [Task.loop?]

/-- The same tasks have the same loops. -/
theorem loop?_of_tasks {s s' : Service} (same : s'.tasks = s.tasks) (t : Nat) :
    s'.loop? t = s.loop? t := by
  rw [loop?, same, loop?]

/-- The value of a task that is a loop. -/
theorem valueOf_of_loop? {s : Service} {t : Nat} {l : Loop} (here : s.loop? t = some l) :
    s.valueOf t = (Task.loop l).value? := by
  rw [valueOf, loop?_eq_some.mp here]
  rfl

/-- A loop is written over. -/
theorem loop?_of_write {s s' : Service} {t : Nat} {x : Task}
    (tasks : ∀ u : Nat, s'.tasks[u]? = if u = t then some x else s.tasks[u]?) (u : Nat) :
    s'.loop? u = if u = t then x.loop? else s.loop? u :=
  bind_of_write tasks u

/-- A call is written over by one. -/
theorem loop?_of_call {s s' : Service} {t : Nat} {c c' : Call} (here : s.tasks[t]? = some (.call c))
    (tasks : ∀ u : Nat, s'.tasks[u]? = if u = t then some (.call c') else s.tasks[u]?) (u : Nat) :
    s'.loop? u = s.loop? u :=
  bind_of_write_same here tasks rfl u

/-- Stranding a task changes calls only. -/
theorem loop?_strand (x : Task) : x.strand.loop? = x.loop? := by
  cases x <;> rfl

/-- Abandoning a task changes calls only. -/
theorem loop?_abandon (x : Task) : x.abandon.loop? = x.loop? := by
  cases x <;> rfl

/-- Draining an intake answers calls and leaves loops alone. -/
theorem loop?_drain (s : Service) (p u : Nat) : (s.drain p).loop? u = s.loop? u :=
  bind_drain loop?_strand s p u

/-! ## What stays -/

/-- Handles stand for channels that exist. -/
def Held (s : Service) : Prop := ∀ h, h < s.handles.size → s.channelOf h < s.broker.channels.size

/-- How handles and the broker go on, whatever happens. -/
structure Surroundings (s s' : Service) : Prop where
  handles : s.handles.size ≤ s'.handles.size
  channelOf : ∀ h, h < s.handles.size → s'.channelOf h = s.channelOf h
  heeds : Heeds s.broker s'.broker
  held : s.Held → s'.Held

/-- What stays while one task acts and begins no publish, or while nobody acts. -/
structure Keeps (a : Option Nat) (s s' : Service) : Prop extends Surroundings s s' where
  journal : ∃ added, s'.journal = added ++ s.journal ∧
    ∀ e ∈ added, e.opens? = none ∧ ∀ l, e.begunBy? = some l → a = some l

variable {a : Option Nat} {s s' s'' : Service} {t : Nat}

namespace Surroundings

/-- The broker goes on, and handles stay. -/
theorem of_heeds (handles : s'.handles = s.handles) (heeds : Heeds s.broker s'.broker) :
    Surroundings s s' := by
  have channelOf : ∀ h, s'.channelOf h = s.channelOf h := fun h => by
    rw [Service.channelOf, handles, Service.channelOf]
  refine ⟨Nat.le_of_eq (by rw [handles]), fun h _ => channelOf h, heeds, fun held h inBounds => ?_⟩
  rw [channelOf]
  rw [handles] at inBounds
  exact Nat.lt_of_lt_of_le (held h inBounds) heeds.channels

/-- Nothing happens. -/
theorem refl (s : Service) : Surroundings s s := of_heeds rfl (.refl _)

/-- What stays twice, stays. -/
theorem trans (h : Surroundings s s') (h' : Surroundings s' s'') : Surroundings s s'' where
  handles := Nat.le_trans h.handles h'.handles
  channelOf k inBounds :=
    (h'.channelOf k (Nat.lt_of_lt_of_le inBounds h.handles)).trans (h.channelOf k inBounds)
  heeds := h.heeds.trans h'.heeds
  held held := h'.held (h.held held)

/-- A handle changes, but not the channel it stands for. -/
theorem onHandle {h : Nat} {f : Handle → Handle} (same : ∀ k, (f k).channel = k.channel) :
    Surroundings s (s.onHandle h f) := by
  have size : (s.onHandle h f).handles.size = s.handles.size := Array.size_modify
  have channelOf : ∀ k, (s.onHandle h f).channelOf k = s.channelOf k := by
    intro k
    rw [Service.channelOf, Service.onHandle, Array.getElem?_modify, Service.channelOf]
    split
    · cases s.handles[k]? <;> simp [same]
    · rfl
  refine ⟨Nat.le_of_eq size.symm, fun k _ => channelOf k, .refl _, fun held k inBounds => ?_⟩
  rw [channelOf]
  exact held k (size ▸ inBounds)

/-- A new handle for a channel that exists. -/
theorem pushHandle {k : Handle} (exist : k.channel < s.broker.channels.size) :
    Surroundings s { s with handles := s.handles.push k } := by
  have channelOf : ∀ h, { s with handles := s.handles.push k }.channelOf h =
      if h = s.handles.size then k.channel else s.channelOf h := by
    intro h
    rw [Service.channelOf, Array.getElem?_push, Service.channelOf]
    split <;> rfl
  refine ⟨by rw [Array.size_push]; exact Nat.le_succ _, fun h inBounds => ?_, .refl _,
    fun held h inBounds => ?_⟩
  · rw [channelOf, if_neg (Nat.ne_of_lt inBounds)]
  · rw [channelOf]
    split
    · exact exist
    · next old =>
      rw [Array.size_push] at inBounds
      exact held h (Nat.lt_of_le_of_ne (Nat.le_of_lt_succ inBounds) old)

end Surroundings

namespace Keeps

/-- Nothing is added to the journal. -/
theorem of_surroundings (surroundings : Surroundings s s') (journal : s'.journal = s.journal) :
    Keeps a s s' :=
  ⟨surroundings, [], journal, fun _ inside => absurd inside List.not_mem_nil⟩

/-- Only tasks, publishers, names and listeners change. -/
theorem of_fields (handles : s'.handles = s.handles) (broker : s'.broker = s.broker)
    (journal : s'.journal = s.journal) : Keeps a s s' :=
  of_surroundings (.of_heeds handles (.of_fields (by rw [broker]) (by rw [broker]))) journal

/-- Nothing happens. -/
theorem refl (s : Service) : Keeps a s s := of_fields rfl rfl rfl

/-- What is added to the journal first and what is added later are both of the task that acts. -/
theorem trans (h : Keeps a s s') (h' : Keeps a s' s'') : Keeps a s s'' := by
  obtain ⟨first, longer, own⟩ := h.journal
  obtain ⟨second, longer', own'⟩ := h'.journal
  refine ⟨h.toSurroundings.trans h'.toSurroundings, second ++ first,
    by rw [longer', longer, List.append_assoc], fun e inside => ?_⟩
  rcases List.mem_append.mp inside with later | earlier
  · exact own' e later
  · exact own e earlier

/-- The broker goes on. -/
theorem of_broker {b : Broker} (heeds : Heeds s.broker b) : Keeps a s { s with broker := b } :=
  of_surroundings (.of_heeds rfl heeds) rfl

/-- An event that opens no request is recorded, by the acting task if it begins an operation. -/
theorem of_event {e : Event} (unopened : e.opens? = none)
    (own : ∀ l, e.begunBy? = some l → a = some l) : Keeps a s (s.record e) := by
  refine ⟨.of_heeds rfl (.refl _), [e], rfl, fun e' inside => ?_⟩
  rw [List.mem_singleton.mp inside]
  exact ⟨unopened, own⟩

/-- An event is recorded that begins no operation. -/
theorem record {e : Event} (nobody : e.begunBy? = none) : Keeps a s (s.record e) :=
  of_event (Event.opens?_of_begunBy? nobody) fun _ begun => nomatch nobody.symm.trans begun

/-- A log line is of no consequence. -/
theorem note (s : Service) (p : Nat) (n : Publisher.Note) : Keeps a s (s.note p n) := record rfl

/-- An operation of the broker adds log lines only. -/
theorem after {α : Type} {o : Broker.Outcome α} (heeds : Heeds s.broker o.broker) :
    Keeps a s (s.after o) := by
  obtain ⟨added, longer, noted⟩ := journal_after s o
  refine ⟨.of_heeds rfl heeds, added, longer, fun e inside => ?_⟩
  obtain ⟨n, rfl⟩ := noted e inside
  exact ⟨rfl, nofun⟩

/-- A task is written over. -/
theorem setTask (t : Nat) (x : Task) : Keeps a s (s.setTask t x) := of_fields rfl rfl rfl

/-- A publisher changes. -/
theorem onPublisher (p : Nat) (f : Publisher → Publisher) : Keeps a s (s.onPublisher p f) :=
  of_fields rfl rfl rfl

/-- The requests that a cancellation finds are answered, one task after another. -/
theorem answerDead (s : Service) (count : Nat) (ts : List Nat) :
    Keeps a s (s.answerDead count ts).1 := by
  induction ts generalizing s count with
  | nil => exact refl s
  | cons t rest ih =>
    rw [Service.answerDead]
    split
    · exact ih s count
    · split
      · exact ih s count
      · exact (setTask _ _).trans (ih _ _)

/-- An intake is emptied. -/
theorem drain (s : Service) (p : Nat) : Keeps a s (s.drain p) := by
  have answered := answerDead (a := a) s 0 (s.publisher p).intake.order
  unfold Service.drain
  simp only []
  split
  · exact answered.trans (onPublisher _ _)
  · exact answered.trans ((onPublisher _ _).trans (note _ _ _))

/-- A loop leaves its publisher and lets go of its channel. -/
theorem detach (s : Service) (l : Loop) : Keeps a s (s.detach l) := by
  have lets : Keeps a s { s with broker := s.broker.letGo (s.channelOf l.handle) } :=
    of_broker (Broker.heeds_letGo _ _)
  unfold Service.detach
  split
  · exact lets.trans (onPublisher _ _)
  · exact lets

/-- The call whose message a dropped loop was publishing is left without an answer. -/
theorem abandonCall (s : Service) (l : Loop) : Keeps a s (s.abandonCall l) := by
  unfold Service.abandonCall
  split
  · exact refl s
  · split
    · exact refl s
    · exact setTask _ _

/-! ### What begins -/

/-- Operations that begin are those of the task that acts. -/
theorem begun_of_ne {l : Nat} (h : Keeps a s s') (other : a ≠ some l) :
    s'.journal.filter (fun e => e.begunBy? = some l) =
      s.journal.filter (fun e => e.begunBy? = some l) := by
  obtain ⟨added, longer, own⟩ := h.journal
  have none : added.filter (fun e => e.begunBy? = some l) = [] := by
    refine List.filter_eq_nil_iff.mpr fun e inside => ?_
    rw [decide_eq_true_eq]
    exact fun begun => other ((own e inside).2 l begun)
  rw [longer, List.filter_append, none, List.nil_append]

/-- No publish begins. -/
theorem openings (h : Keeps a s s') :
    s'.journal.filterMap Event.opens? = s.journal.filterMap Event.opens? := by
  obtain ⟨added, longer, own⟩ := h.journal
  have none : added.filterMap Event.opens? = [] :=
    List.filterMap_eq_nil_iff.mpr fun e inside => (own e inside).1
  rw [longer, List.filterMap_append, none, List.nil_append]

end Keeps

/-! ## Calm acts -/

/-- Loops stay where they are, and publishers keep their status. -/
structure Calm (a : Option Nat) (s s' : Service) : Prop where
  keeps : Keeps a s s'
  loops : ∀ t, s'.loop? t = s.loop? t
  status : ∀ p, (s'.publisher p).status = (s.publisher p).status

namespace Calm

/-- Neither tasks nor publishers change. -/
theorem around (keeps : Keeps a s s') (tasks : s'.tasks = s.tasks)
    (publishers : s'.publishers = s.publishers) : Calm a s s' :=
  ⟨keeps, loop?_of_tasks tasks, fun p => by rw [publisher, publishers, publisher]⟩

/-- Nothing happens. -/
theorem refl (s : Service) : Calm a s s := around (.refl s) rfl rfl

/-- What is calm twice, is calm. -/
theorem trans (h : Calm a s s') (h' : Calm a s' s'') : Calm a s s'' where
  keeps := h.keeps.trans h'.keeps
  loops t := (h'.loops t).trans (h.loops t)
  status p := (h'.status p).trans (h.status p)

/-- Only the broker goes on. -/
theorem broker {b : Broker} (heeds : Heeds s.broker b) : Calm a s { s with broker := b } :=
  around (.of_broker heeds) rfl rfl

/-- An operation of the broker is calm. -/
theorem after {α : Type} {o : Broker.Outcome α} (heeds : Heeds s.broker o.broker) :
    Calm a s (s.after o) :=
  around (.after heeds) rfl rfl

/-- So is an event that begins no operation. -/
theorem record {e : Event} (nobody : e.begunBy? = none) : Calm a s (s.record e) :=
  around (.record nobody) rfl rfl

/-- So is a log line. -/
theorem note (s : Service) (p : Nat) (n : Publisher.Note) : Calm a s (s.note p n) := record rfl

/-- A task begins an operation on a channel other than a publish. -/
theorem began {h : Nat} {operation : ChannelCall} {e : Event} (own : e = .began t h operation)
    (unopened : e.opens? = none) : Calm (some t) s (s.record e) :=
  around (.of_event unopened fun _ begun => by rw [own] at begun; exact begun) rfl rfl

/-- A change of a publisher that keeps its status is calm. -/
theorem onPublisher {p : Nat} {f : Publisher → Publisher}
    (same : (f (s.publisher p)).status = (s.publisher p).status) : Calm a s (s.onPublisher p f) :=
  ⟨.onPublisher p f, fun _ => rfl, publisher_onPublisher_congr Publisher.status same⟩

/-- A call is written over. -/
theorem setCall {c : Call} (here : s.tasks[t]? = some (.call c)) (c' : Call) :
    Calm a s (s.setTask t (.call c')) :=
  ⟨.setTask t _, loop?_of_call here (tasks_setTask_of_some here _), fun _ => rfl⟩

/-- Emptying an intake answers calls only. -/
theorem drain (s : Service) (p : Nat) : Calm a s (s.drain p) := by
  refine ⟨.drain s p, loop?_drain s p, fun q => ?_⟩
  rw [publisher_drain]
  split
  · next own => rw [own]
  · rfl

/-- Leaving a publisher frees its place, which is no part of its status. -/
theorem detach (s : Service) (l : Loop) : Calm a s (s.detach l) := by
  refine ⟨.detach s l, loop?_of_tasks (tasks_detach l), fun p => ?_⟩
  rw [publisher_detach]
  split
  · next own => rw [own.2.1]
  · rfl

/-- Abandoning a call changes that call only. -/
theorem abandonCall (s : Service) (l : Loop) : Calm a s (s.abandonCall l) := by
  refine ⟨.abandonCall s l, fun u => ?_, fun p => ?_⟩
  · rw [loop?, tasks_abandonCall]
    split
    · exact bind_map_of_same loop?_abandon _
    · rfl
  · rw [publisher, publishers_abandonCall, publisher]

/-- A cancellation changes neither loops nor status: the loop learns of it when it is polled. -/
theorem cancel (s : Service) (p : Nat) : Calm a s (s.cancel p).1 := by
  have sentenced : Calm a s (s.sentence p) :=
    (record (e := .cancelled p true) rfl).trans ((onPublisher rfl).trans (note _ _ _))
  cases dead : (s.publisher p).dead with
  | true =>
    rw [cancel_of_dead dead]
    exact record rfl
  | false =>
    rw [cancel_of_live dead]
    exact sentenced.trans (drain _ p)

/-! ### Calls -/

/-- A call ends. -/
theorem endCall {c : Call} (here : s.tasks[t]? = some (.call c)) (result : Except Failure Unit) :
    Calm a s (s.endCall t c result) :=
  (setCall here _).trans (record rfl)

/-- A call puts its request into the intake. -/
theorem enqueue {c : Call} (here : s.tasks[t]? = some (.call c)) : Calm a s (s.enqueue t c) := by
  have put : Calm a s (s.onPublisher c.publisher fun p =>
      { p with intake := p.intake.put t (s.isReady c.publisher) }) := onPublisher rfl
  exact put.trans ((setCall (s := s.onPublisher c.publisher _) here _).trans (record rfl))

/-- A call is dropped, with or without a request in the intake. -/
theorem dropCall {c : Call} (here : s.tasks[t]? = some (.call c)) : Calm a s (s.dropCall t c) := by
  have leave : Calm a s (s.onPublisher c.publisher fun p =>
      { p with intake := p.intake.leave t }) := onPublisher rfl
  unfold Service.dropCall
  split
  · exact (setCall here _).trans (record rfl)
  · exact leave.trans ((setCall (s := s.onPublisher c.publisher _) here _).trans (record rfl))
  · exact refl s
  · exact refl s

/-- Every move of a call is calm, a cancellation that overtakes it included. -/
theorem moveCall {c : Call} (sound : Sound s) (here : s.tasks[t]? = some (.call c))
    (moves : s.moveCall t c = some s') : Calm a s s' := by
  unfold Service.moveCall at moves
  split at moves
  · next fresh =>
    cases moves
    unfold beginCall
    split
    · exact endCall here _
    · split
      · -- a cancellation answers requests, and a fresh call has none yet, so it stands as it did
        obtain ⟨F, accounted⟩ := sound.accounted
        have there : ((s.cancel c.publisher).1.note c.publisher .overtaken).tasks[t]? =
            some (.call c) := tasks_cancel_of_fresh accounted here fresh
        exact (cancel s _).trans ((note _ _ _).trans (endCall there _))
      · exact enqueue here
  · obtain ⟨result, -, rfl⟩ := Option.map_eq_some_iff.mp moves
    exact endCall here result
  · cases moves
  · cases moves

/-! ### Commands -/

/-- A change of a handle that keeps its channel is calm. -/
theorem onHandle {h : Nat} {f : Handle → Handle} (same : ∀ k, (f k).channel = k.channel) :
    Calm a s (s.onHandle h f) :=
  around (.of_surroundings (.onHandle same) rfl) rfl rfl

/-- A command on a sink is calm if it is so for a sink that is there. -/
theorem withSink {k : Nat} {f : Service × Answer} (inner : Calm a s f.1) :
    Calm a s (s.withSink k f).1 := by
  unfold Service.withSink
  split
  · exact inner
  · exact refl s

/-- Opening channels is calm: the new handle stands for the channel that is kept. -/
theorem openHandle (s : Service) (count : Nat) : Calm a s (s.openHandle count).1 := by
  have opens := Broker.heeds_openLast s.broker count
  unfold Service.openHandle
  simp only []
  split
  · next opened =>
    have exist := Broker.lt_size_of_openLast opened
    exact (after opens).trans (around (.of_surroundings (.pushHandle exist) rfl) rfl rfl)
  · exact after opens

/-- A publish straight on a channel is calm, since no loop begins it. -/
theorem publishOn (s : Service) (c : Nat) (exchange routingKey : String)
    (options : Broker.PublishOptions) (message : Message) :
    Calm a s (s.publishOn c exchange routingKey options message).1 := by
  have published := Broker.heeds_publish s.broker c exchange routingKey options message
  unfold Service.publishOn
  simp only []
  split
  · exact (after published).trans (record rfl)
  · exact after published
  · exact after published

/-- Looking at a listener is calm. -/
theorem check (s : Service) (l : Nat) : Calm a s (s.check l).1 := by
  unfold Service.check
  split
  · exact refl s
  · exact refl s
  · split
    · exact refl s
    · exact around (.of_fields rfl rfl rfl) rfl rfl
    · exact around (.of_fields rfl rfl rfl) rfl rfl

/-- Asking for a notice is calm. -/
theorem listen (s : Service) (c : Nat) : Calm a s
    { s with
      broker := (s.broker.notifyClose c).2
      listeners := s.listeners.push (some (s.broker.notifyClose c).1) } :=
  (broker (Broker.heeds_notifyClose _ c)).trans (around (.of_fields rfl rfl rfl) rfl rfl)

/-- Giving up a handle is calm, even if its channel vanishes. -/
theorem dropHandle (s : Service) (h : Nat) : Calm a s (s.dropHandle h) := by
  have given : Calm a s (s.onHandle h fun k => { k with held := false }) :=
    onHandle fun _ => rfl
  exact given.trans (broker (Broker.heeds_letGo _ _))

/-- Nobody was attached to a publisher that is new, and nobody ever was to one that is not there. -/
theorem addPublisher {q : Publisher} (new : q.status = .uninitialized) :
    Calm a s (s.addPublisher q).1 := by
  refine ⟨.of_fields rfl rfl rfl, fun _ => rfl, fun p => ?_⟩
  rw [show (s.addPublisher q).1.publisher p = _ from publisher_push s q p]
  split
  · next last =>
    rw [new, publisher, last, Array.getElem?_eq_none (Nat.le_refl _)]
    rfl
  · rfl

end Calm

/-! ## Acts that move no loop -/

/-- What an act does that moves no loop. -/
structure Outer (s s' : Service) : Prop where
  keeps : Keeps none s s'
  status : ∀ p, (s'.publisher p).status = (s.publisher p).status
  loops : ∀ t l', s'.loop? t = some l' →
    s.loop? t = some l' ∨
    (∃ l, s.loop? t = some l ∧ (Task.loop l).isOver = false ∧ l' = { l with stage := .dropped }) ∨
    (s.tasks[t]? = none ∧ l'.stage = .fresh ∧ l'.handle < s.handles.size)

namespace Outer

/-- A calm act of nobody moves no loop. -/
theorem of_calm (calm : Calm none s s') : Outer s s' :=
  ⟨calm.keeps, calm.status, fun t _ there => .inl ((calm.loops t).symm.trans there)⟩

/-- The broker goes on, and a new task is added. -/
theorem issue {b : Broker} {x : Task} (heeds : Heeds s.broker b) (new : x.issued = x)
    (handle : ∀ l, x.loop? = some l → l.handle < s.handles.size) :
    Outer s { s with broker := b, tasks := s.tasks.push x } := by
  refine ⟨(Keeps.of_broker heeds).trans (.of_fields rfl rfl rfl), fun _ => rfl, fun t l' there => ?_⟩
  have pushed : ({ s with broker := b, tasks := s.tasks.push x } : Service).loop? t =
      if t = s.tasks.size then x.loop? else s.loop? t :=
    loop?_of_write (tasks_push s x) t
  rw [pushed] at there
  split at there
  · next last =>
    refine .inr (.inr ⟨Array.getElem?_eq_none (Nat.le_of_eq last.symm), ?_, handle l' there⟩)
    rw [← new] at there
    cases x <;> cases there
    rfl
  · exact .inl there

/-- Dropping a loop moves no other. -/
theorem dropLoop {l : Loop} (here : s.tasks[t]? = some (.loop l)) : Outer s (s.dropLoop t l) := by
  by_cases isOver : (Task.loop l).isOver = true
  · rw [dropLoop_of_over isOver]
    exact of_calm (.refl s)
  · have alive := Bool.eq_false_iff.mpr isOver
    have calm : Calm none s ((s.abandonCall l).detach l) :=
      (Calm.abandonCall s l).trans (.detach _ l)
    -- so the loop is where it was until its place is written over, which is all that moves
    have still : ((s.abandonCall l).detach l).tasks[t]? = some (.loop l) :=
      loop?_eq_some.mp ((calm.loops t).trans (loop?_eq_some.mpr here))
    rw [dropLoop_of_not_over alive]
    refine ⟨calm.keeps.trans ((Keeps.setTask _ _).trans (.record rfl)), calm.status,
      fun u l' there => ?_⟩
    have there := (loop?_of_write (tasks_moveTo still .dropped) u).symm.trans there
    rw [calm.loops] at there
    split at there
    · next at_t =>
      cases there
      exact .inr (.inl ⟨l, loop?_eq_some.mpr (at_t ▸ here), alive, rfl⟩)
    · exact .inl there

/-- Dropping a task moves no loop that is not dropped. -/
theorem drop (s : Service) (t : Nat) : Outer s (s.drop t) := by
  unfold Service.drop
  split
  · next here => exact of_calm (.dropCall here)
  · next here => exact dropLoop here
  · exact of_calm (.refl s)

/-- A command on a channel moves no loop if it moves none for the channel found. -/
theorem withChannel {h : Nat} {f : Nat → Service × Answer}
    (inner : ∀ c, h < s.handles.size → Outer s (f c).1) : Outer s (s.withChannel h f).1 := by
  unfold Service.withChannel
  split
  · next here =>
    split
    · exact inner _ (Array.getElem?_eq_some_iff.mp here).1
    · exact of_calm (.refl s)
  · exact of_calm (.refl s)

/-- A command on a publisher moves no loop if it moves none for the publisher found. -/
theorem withPublisher {n : Nat} {f : Nat → Service × Answer} (inner : ∀ p, Outer s (f p).1) :
    Outer s (s.withPublisher n f).1 := by
  unfold Service.withPublisher
  split
  · exact inner _
  · exact of_calm (.refl s)

/-- A command that polls nothing moves no loop. -/
theorem step {c : Command} (s : Service) (passive : c.polls = false) : Outer s (s.step c).1 := by
  have channel : ∀ {h : Nat} {f : Nat → Service × Answer}, (∀ c, Calm none s (f c).1) →
      Outer s (s.withChannel h f).1 := fun inner => withChannel fun c _ => of_calm (inner c)
  have named : ∀ {n : Nat} {f : Nat → Service × Answer}, (∀ p, Calm none s (f p).1) →
      Outer s (s.withPublisher n f).1 := fun inner => withPublisher fun p => of_calm (inner p)
  unfold Service.step
  cases c with
  | declare name => exact of_calm (.broker (Broker.heeds_declare _ _))
  | rejectNext | nackNext | failConfirmSelect | sink => exact of_calm (.broker (.of_fields rfl rfl))
  | published => exact of_calm (.refl s)
  | disconnect error => exact of_calm (.after (Broker.heeds_disconnect _ _))
  | restore => exact of_calm (.after (.of_fields rfl rfl))
  | openChannel count => exact of_calm (.openHandle s count)
  | close h => exact channel fun c => .after (Broker.heeds_close _ c)
  | terminate h reason => exact channel fun c => .after (Broker.heeds_terminate _ c reason)
  | confirmSelect h => exact channel fun c => .broker (Broker.heeds_confirmSelect _ c)
  | listen h => exact channel fun c => .listen s c
  | dropChannel h => exact channel fun _ => .dropHandle s h
  | hold | release | mute => exact channel fun _ => .onHandle fun _ => rfl
  | notifyPublish h k =>
    exact channel fun _ => .withSink (.broker (Broker.heeds_notifyPublish _ _ _))
  | publishOn => exact channel fun _ => .publishOn _ _ _ _ _ _
  | check l => exact of_calm (.check s l)
  | receive => exact of_calm (.withSink (.broker (Broker.heeds_receive _ _ _)))
  | dropSink => exact of_calm (.withSink (.broker (.of_fields rfl rfl)))
  | publisher => exact of_calm (.addPublisher rfl)
  | clone => exact named fun _ => .around (.of_fields rfl rfl rfl) rfl rfl
  | profile => exact named fun _ => .refl s
  | cancel => exact named fun p => .cancel s p
  -- only a task that is deferred is issued without a poll
  | publish n key message overtaken deferred =>
    cases deferred with
    | false => cases passive
    | true => exact withPublisher fun _ => issue (.refl _) rfl nofun
  | write n body deferred overtaken =>
    cases deferred with
    | false => cases passive
    | true => exact withPublisher fun _ => issue (.refl _) rfl nofun
  | serve n h deferred =>
    cases deferred with
    | false => cases passive
    | true =>
      refine withPublisher fun _ => withChannel fun c inBounds => ?_
      refine issue (Broker.heeds_hold _ c) rfl fun l new => ?_
      cases new
      exact inBounds
  | poll | settle => cases passive
  | dropTask t =>
    simp only []
    split
    · exact drop s t
    · exact of_calm (.refl s)

/-- A loop stays where it is, or is dropped. -/
theorem loop {l : Loop} (outer : Outer s s') (grows : Grows s s') (here : s.loop? t = some l) :
    s'.loop? t = some l ∨
      (Task.loop l).isOver = false ∧ s'.loop? t = some { l with stage := .dropped } := by
  obtain ⟨l', there, -⟩ := grows.loop (loop?_eq_some.mp here)
  have there := loop?_eq_some.mpr there
  rcases outer.loops t l' there with same | ⟨x, before, alive, rfl⟩ | ⟨absent, -, -⟩
  · rw [here] at same
    cases same
    exact .inl there
  · rw [here] at before
    cases before
    exact .inr ⟨alive, there⟩
  · rw [loop?_eq_some.mp here] at absent
    cases absent

/-- A loop that is neither new nor dropped, as its place tells, was there before. -/
theorem before {q : LoopStage → Prop} {l : Loop} (outer : Outer s s') (there : s'.loop? t = some l)
    (place : q l.stage) (new : ¬ q .fresh) (dropped : ¬ q .dropped) : s.loop? t = some l := by
  rcases outer.loops t l there with same | ⟨_, _, _, rfl⟩ | ⟨-, fresh, -⟩
  · exact same
  · exact absurd place dropped
  · rw [fresh] at place
    exact absurd place new

end Outer

end Relay.Service
