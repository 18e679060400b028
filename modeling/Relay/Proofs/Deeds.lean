import Relay.Proofs.Surroundings

/-!
# What is asked of the broker

Whatever happens to a service asks at most one thing of its broker. `deed?` reads it off an act and the
service that it meets, and `broker_act` says that the broker after the act is the one that the deed leaves,
and that it stays as it is where there is no deed. So what is true of a broker over a whole run is a matter
of what each deed does to it.
-/

namespace Relay.Service

open Broker (Exception CloseReason Delivery PublishOptions Outcome)

/-- A message on its way to a channel. -/
structure Sending where
  /-- The loop that publishes it and the call that it stems from; there are none for a direct publish. -/
  origin : Option (Nat × Nat)
  channel : Nat
  exchange : String
  routingKey : String
  options : PublishOptions
  message : Message

/-- What a broker makes of a message. -/
def Sending.outcome (m : Sending) (b : Broker) : Outcome (Except Exception (Option Delivery)) :=
  b.publish m.channel m.exchange m.routingKey m.options m.message

/-- Something that is asked of a broker. -/
inductive Deed where
  | declare (exchange : String)
  | openLast (count : Nat)
  | disconnect (error : Exception)
  | restore
  | rejectNext (error : Exception)
  | nackNext
  | failConfirmSelect (error : Exception)
  | close (channel : Nat)
  | terminate (channel : Nat) (reason : CloseReason)
  | listen (channel : Nat)
  /-- Somebody, perhaps a loop, puts a channel into confirm mode. -/
  | select (loop : Option Nat) (channel : Nat)
  | register (channel sink : Nat)
  | publish (sending : Sending)
  | hold (channel : Nat)
  | letGo (channel : Nat)
  | addSink (capacity : Option Nat)
  | receive (sink : Nat) (limit : Option Nat)
  | dropSink (sink : Nat)

/-- What a deed leaves of a broker. -/
def Deed.apply (b : Broker) : Deed → Broker
  | declare exchange => b.declare exchange
  | openLast count => (b.openLast count).broker
  | disconnect error => (b.disconnect error).broker
  | restore => b.restore.broker
  | rejectNext error => b.rejectNext error
  | nackNext => b.nackNext
  | failConfirmSelect error => b.failConfirmSelect error
  | close c => (b.close c).broker
  | terminate c reason => (b.terminate c reason).broker
  | listen c => (b.notifyClose c).2
  | select _ c => (b.confirmSelect c).2
  | register c k => b.notifyPublish c k
  | publish m => (m.outcome b).broker
  | hold c => b.hold c
  | letGo c => b.letGo c
  | addSink capacity => (b.addSink capacity).2
  | receive k limit => (b.receive k limit).2
  | dropSink k => b.dropSink k

/-- The channel that a deed is about. -/
def Deed.channel? : Deed → Option Nat
  | close c | terminate c _ | listen c | select _ c | register c _ | hold c | letGo c => some c
  | publish m => some m.channel
  | _ => none

/-- The channel of a handle that the outside holds. -/
def heldChannel? (s : Service) (h : Nat) : Option Nat :=
  match s.handles[h]? with
  | some k => if k.held then some k.channel else none
  | none => none

/-- What a command asks of the broker. -/
def commandDeed? (s : Service) : Command → Option Deed
  | .declare exchange => some (.declare exchange)
  | .openChannel count => some (.openLast count)
  | .disconnect error => some (.disconnect error)
  | .restore => some .restore
  | .rejectNext error => some (.rejectNext error)
  | .nackNext => some .nackNext
  | .failConfirmSelect error => some (.failConfirmSelect error)
  | .close h => (s.heldChannel? h).map .close
  | .confirmSelect h => (s.heldChannel? h).map (.select none)
  | .terminate h reason => (s.heldChannel? h).map (.terminate · reason)
  | .notifyPublish h k =>
    (s.heldChannel? h).bind fun c => if k < s.broker.sinks.size then some (.register c k) else none
  | .publishOn h exchange routingKey options message =>
    (s.heldChannel? h).map fun c => .publish ⟨none, c, exchange, routingKey, options, message⟩
  | .listen h => (s.heldChannel? h).map .listen
  | .dropChannel h => (s.heldChannel? h).map .letGo
  | .sink capacity => some (.addSink capacity)
  | .receive k limit => if k < s.broker.sinks.size then some (.receive k limit) else none
  | .dropSink k => if k < s.broker.sinks.size then some (.dropSink k) else none
  | .serve n h _ => s.names[n]?.bind fun _ => (s.heldChannel? h).map .hold
  | .dropTask t =>
    (s.loop? t).bind fun l =>
      if (Task.loop l).isOver then none else some (.letGo (s.channelOf l.handle))
  | _ => none

/-- What a loop asks of the broker with its next move, if no wait holds it up. -/
def loopDeed? (s : Service) (t : Nat) (l : Loop) : Option Deed :=
  let c := s.channelOf l.handle
  let p := s.publisher l.publisher
  match l.stage with
  | .fresh =>
    if p.attached || p.dead || (s.handles[l.handle]?.map Handle.muted).getD false then none
    else some (.listen c)
  | .closing _ .entering => some (.close c)
  | .closing _ (.leaving _) => some (.letGo c)
  | .confirming _ .entering => some (.select (some t) c)
  | .confirming _ (.leaving (.ok ())) => p.sink.map (.register c)
  | .confirming _ (.leaving (.error _)) => none
  | .idle notice =>
    if p.dead || s.noticeOf notice = .waiting then none else some (.letGo c)
  | .publishing _ u .entering =>
    (s.call? u).map fun call =>
      .publish ⟨some (t, u), c, p.exchange, call.request.routingKey, {}, call.request.message⟩
  | .publishing _ _ (.leaving _) | .finished _ | .dropped => none

/-- What an act asks of the broker. -/
def deed? (s : Service) : Act → Option Deed
  | .command c _ => s.commandDeed? c
  | .move t =>
    match s.loop? t with
    | some l => if s.isHeldUp l then none else s.loopDeed? t l
    | none => none

/-- What is asked of a broker, if anything is, leaves it so. -/
def obey (b : Broker) : Option Deed → Broker
  | some d => d.apply b
  | none => b

variable {s s' : Service} {t : Nat} {l : Loop} {c : Call}

/-! ## What leaves the broker as it is -/

/-- Beginning a close asks nothing yet: the broker hears of it with the next move. -/
theorem broker_beginClose (s : Service) (t : Nat) (l : Loop) (farewell : Farewell) :
    (s.beginClose t l farewell).broker = s.broker := rfl

/-- Answering requests asks nothing of the broker. -/
theorem broker_answerDead (s : Service) (count : Nat) (ts : List Nat) :
    (s.answerDead count ts).1.broker = s.broker := by
  induction ts generalizing s count with
  | nil => rfl
  | cons t ts ih =>
    unfold answerDead
    split
    · exact ih s count
    · split
      · exact ih s count
      · exact ih _ _

/-- Nor does emptying an intake. -/
theorem broker_drain (s : Service) (p : Nat) : (s.drain p).broker = s.broker := by
  unfold drain
  simp only []
  split <;> exact broker_answerDead s 0 _

/-- Nor does a cancellation. -/
theorem broker_cancel (s : Service) (p : Nat) : (s.cancel p).1.broker = s.broker := by
  unfold cancel
  split
  · rfl
  · exact broker_drain _ p

/-- Nor does telling the owner. -/
theorem broker_retire (s : Service) (p : Nat) : (s.retire p).broker = s.broker := by
  unfold retire
  split <;> rfl

/-- Nor does abandoning a call. -/
theorem broker_abandonCall (s : Service) (l : Loop) : (s.abandonCall l).broker = s.broker := by
  unfold abandonCall
  split
  · rfl
  · split <;> rfl

/-- A call that moves does not touch the broker. -/
theorem broker_moveCall (moves : s.moveCall t c = some s') : s'.broker = s.broker := by
  unfold moveCall at moves
  split at moves
  · cases moves
    unfold beginCall
    split
    · rfl
    · split
      · exact broker_cancel s c.publisher
      · rfl
  · obtain ⟨result, -, rfl⟩ := Option.map_eq_some_iff.mp moves
    rfl
  · cases moves
  · cases moves

/-- Nor does dropping a call. -/
theorem broker_dropCall (s : Service) (t : Nat) (c : Call) : (s.dropCall t c).broker = s.broker := by
  unfold dropCall
  split <;> rfl

/-! ## Moves of loops -/

/-- A loop that leaves lets go of its channel. -/
theorem broker_detach (s : Service) (l : Loop) :
    (s.detach l).broker = s.broker.letGo (s.channelOf l.handle) := by
  unfold detach
  simp only []
  split <;> rfl

/-- A loop that ends lets its channel go. -/
theorem broker_endLoop {reason : Publisher.Detach} (same : s'.broker = s.broker)
    (handles : s'.handles = s.handles) :
    (s'.endLoop t l reason).broker = s.broker.letGo (s.channelOf l.handle) := by
  have given := broker_detach s' l
  rw [same, channelOf, handles, ← channelOf] at given
  exact given

/-- A loop asks for a close notice, unless its handle is muted. -/
theorem broker_listen (s : Service) (t : Nat) (l : Loop) :
    (s.listen t l).1.broker =
      if (s.handles[l.handle]?.map Handle.muted).getD false then s.broker
      else (s.broker.notifyClose (s.channelOf l.handle)).2 := by
  unfold listen
  simp only []
  split
  · next muted => exact (if_pos muted).symm
  · next heard => exact (if_neg heard).symm

/-- A loop that attaches itself asks for a close notice and nothing else. -/
theorem broker_attach (s : Service) (t : Nat) (l : Loop) :
    (s.attach t l).broker =
      if (s.handles[l.handle]?.map Handle.muted).getD false then s.broker
      else (s.broker.notifyClose (s.channelOf l.handle)).2 := by
  have listens := broker_listen (s.onPublisher l.publisher fun p => { p with status := .clear }) t l
  unfold attach
  simp only []
  split
  · exact listens
  · exact listens

/-- The first move of a loop asks what is read off the service before it. -/
theorem broker_beginLoop (fresh : l.stage = .fresh) :
    (s.beginLoop t l).broker = obey s.broker (s.loopDeed? t l) := by
  have dead : ((s.onPublisher l.publisher fun p => { p with loop := some t }).publisher
      l.publisher).dead = (s.publisher l.publisher).dead :=
    publisher_onPublisher_congr Publisher.dead rfl _
  unfold beginLoop
  simp only [loopDeed?, fresh]
  cases (s.publisher l.publisher).attached with
  | true => rfl
  | false =>
    simp only [Bool.false_eq_true, if_false, dead]
    cases (s.publisher l.publisher).dead with
    | true => exact broker_retire (s.onPublisher l.publisher fun p => { p with loop := some t }) _
    | false =>
      have attaches := broker_attach (s.onPublisher l.publisher fun p => { p with loop := some t }) t l
      refine attaches.trans ?_
      change (if (s.handles[l.handle]?.map Handle.muted).getD false then _ else _) = _
      split
      · next muted => simp [muted, obey]; rfl
      · next heard => simp [heard, obey, Deed.apply]; rfl

/-- A loop that has closed its channel lets go of it. -/
theorem broker_endClose (s : Service) (t : Nat) (l : Loop) (farewell : Farewell)
    (result : Except Exception Unit) :
    (s.endClose t l farewell result).broker = s.broker.letGo (s.channelOf l.handle) := by
  unfold endClose
  simp only []
  split <;> exact broker_endLoop rfl rfl

/-- Taking up a request asks nothing yet. -/
theorem broker_takeUp (s : Service) (t : Nat) (l : Loop) (notice : Option Nat) (u : Nat) :
    (s.takeUp t l notice u).broker = s.broker := by
  unfold takeUp
  split
  · rfl
  · split <;> rfl

/-- A move between two requests asks what is read off the service before it. -/
theorem broker_moveIdle {notice : Option Nat} (idle : l.stage = .idle notice)
    (moves : s.moveIdle t l notice = some s') : s'.broker = obey s.broker (s.loopDeed? t l) := by
  unfold moveIdle at moves
  simp only [loopDeed?, idle]
  simp only [] at moves
  split at moves
  · next dead =>
    cases moves
    rw [broker_beginClose, broker_retire, broker_drain]
    simp [dead, obey]
  · next live =>
    -- told, lost or dead, the loop lets its channel go; only a waiting notice lets it take a request
    have ends : ∀ {r : Service} {reason : Publisher.Detach}, r.broker = s.broker →
        r.handles = s.handles → s.noticeOf notice ≠ .waiting →
        (r.endLoop t l reason).broker = obey s.broker
          (if ((s.publisher l.publisher).dead || decide (s.noticeOf notice = .waiting)) = true then none
            else some (.letGo (s.channelOf l.handle))) := by
      intro r reason same handles settled
      rw [broker_endLoop same handles]
      simp [live, settled, obey, Deed.apply]
    split at moves
    · next told =>
      cases moves
      exact ends rfl rfl (by rw [told]; exact nofun)
    · next told =>
      cases moves
      exact ends rfl rfl (by rw [told]; exact nofun)
    · next lost =>
      cases moves
      exact ends rfl rfl (by rw [lost]; exact nofun)
    · next waits =>
      obtain ⟨⟨u, rest⟩, -, rfl⟩ := Option.map_eq_some_iff.mp moves
      rw [broker_takeUp]
      simp [waits, obey]
      rfl

/-- After confirm mode the sink is registered, if it was not refused. -/
theorem broker_endConfirm {notice : Option Nat} {result : Except Exception Unit}
    (confirming : l.stage = .confirming notice (.leaving result)) :
    (s.endConfirm t l notice result).broker = obey s.broker (s.loopDeed? t l) := by
  unfold endConfirm
  simp only [loopDeed?, confirming]
  cases result with
  | ok => cases (s.publisher l.publisher).sink <;> rfl
  | error e => rfl

/-- A publish that enters is asked of the broker. -/
theorem broker_publishNow {notice : Option Nat} {u : Nat}
    (publishing : l.stage = .publishing notice u .entering) :
    (s.publishNow t l notice u).broker = obey s.broker (s.loopDeed? t l) := by
  unfold publishNow
  simp only [loopDeed?, publishing]
  cases s.call? u with
  | none => rfl
  | some c =>
    simp only []
    split <;> rfl

/-- Giving a result to the caller asks nothing. -/
theorem broker_endPublish (s : Service) (t : Nat) (l : Loop) (notice : Option Nat) (u : Nat)
    (result : Except Exception Unit) :
    (s.endPublish t l notice u result).broker = s.broker := by
  unfold endPublish
  split
  · rfl
  · split <;> rfl

/-- Every move of a loop asks what is read off the service before it. -/
theorem broker_moveFreely (moves : s.moveFreely t l = some s') :
    s'.broker = obey s.broker (s.loopDeed? t l) := by
  unfold moveFreely at moves
  split at moves
  · next fresh =>
    cases moves
    exact broker_beginLoop fresh
  · next closing =>
    cases moves
    simp only [loopDeed?, closing]
    rfl
  · next closing =>
    cases moves
    simp only [loopDeed?, closing]
    exact broker_endClose s t l _ _
  · next confirming =>
    cases moves
    simp only [loopDeed?, confirming]
    rfl
  · next confirming =>
    cases moves
    exact broker_endConfirm confirming
  · next idle => exact broker_moveIdle idle moves
  · next publishing =>
    cases moves
    exact broker_publishNow publishing
  · next publishing =>
    cases moves
    simp only [loopDeed?, publishing]
    exact broker_endPublish s t l _ _ _
  · cases moves
  · cases moves

/-- A loop that cannot move asks for nothing. -/
theorem loopDeed?_of_stuck (stuck : s.moveFreely t l = none) : s.loopDeed? t l = none := by
  unfold moveFreely at stuck
  unfold loopDeed?
  cases stage : l.stage with
  | finished | dropped => rfl
  | fresh =>
    rw [stage] at stuck
    cases stuck
  | idle notice =>
    rw [stage] at stuck
    simp only [moveIdle] at stuck
    split at stuck
    · cases stuck
    · split at stuck
      · cases stuck
      · cases stuck
      · cases stuck
      · next waits => simp [waits]
  | closing f phase | confirming notice phase | publishing notice u phase =>
    rw [stage] at stuck
    cases phase <;> cases stuck

/-! ## Commands -/

/-- A command on a channel is told by the channel of a handle that the outside holds. -/
theorem withChannel_eq (s : Service) (h : Nat) (f : Nat → Service × Answer) :
    s.withChannel h f =
      match s.heldChannel? h with
      | some c => f c
      | none => (s, .unknown) := by
  unfold withChannel heldChannel?
  cases s.handles[h]? with
  | none => rfl
  | some k => cases held : k.held <;> simp [held]

/-- The channel of a handle that the outside holds. -/
theorem channelOf_of_held {h c : Nat} (held : s.heldChannel? h = some c) : s.channelOf h = c := by
  rw [heldChannel?] at held
  split at held
  · next k here =>
    split at held
    · cases held
      rw [channelOf, here]
      rfl
    · cases held
  · cases held

/-- A command on a channel asks of the broker what it asks for the channel found, if any. -/
theorem broker_withChannel {h : Nat} {f : Nat → Service × Answer} {deed : Nat → Option Deed}
    (inner : ∀ c, s.heldChannel? h = some c → (f c).1.broker = obey s.broker (deed c)) :
    (s.withChannel h f).1.broker = obey s.broker ((s.heldChannel? h).bind deed) := by
  rw [withChannel_eq]
  cases held : s.heldChannel? h with
  | none => rfl
  | some c => exact inner c held

/-- The same for a command that always asks something of a channel found. -/
theorem broker_withChannel_deed {h : Nat} {f : Nat → Service × Answer} {deed : Nat → Deed}
    (inner : ∀ c, s.heldChannel? h = some c → (f c).1.broker = (deed c).apply s.broker) :
    (s.withChannel h f).1.broker = obey s.broker ((s.heldChannel? h).map deed) := by
  rw [Option.map_eq_bind]
  exact broker_withChannel inner

/-- The same for a command that asks nothing. -/
theorem broker_withChannel_same {h : Nat} {f : Nat → Service × Answer}
    (inner : ∀ c, (f c).1.broker = s.broker) : (s.withChannel h f).1.broker = s.broker := by
  rw [withChannel_eq]
  split
  · exact inner _
  · rfl

/-- A command on a publisher asks of the broker what it asks for the publisher found, if any. -/
theorem broker_withPublisher {n : Nat} {f : Nat → Service × Answer} {deed : Nat → Option Deed}
    (inner : ∀ p, (f p).1.broker = obey s.broker (deed p)) :
    (s.withPublisher n f).1.broker = obey s.broker (s.names[n]?.bind deed) := by
  unfold withPublisher
  cases s.names[n]? with
  | none => rfl
  | some p => exact inner p

/-- The same for a command that asks nothing. -/
theorem broker_withPublisher_same {n : Nat} {f : Nat → Service × Answer}
    (inner : ∀ p, (f p).1.broker = s.broker) : (s.withPublisher n f).1.broker = s.broker := by
  unfold withPublisher
  split
  · exact inner _
  · rfl

/-- A command on a sink asks of the broker what it asks for a sink that is there. -/
theorem broker_withSink {k : Nat} {f : Service × Answer} {d : Deed}
    (inner : f.1.broker = d.apply s.broker) :
    (s.withSink k f).1.broker =
      obey s.broker (if k < s.broker.sinks.size then some d else none) := by
  unfold withSink
  split
  · exact inner
  · rfl

/-- Opening channels asks for them; the new handle is no matter of the broker. -/
theorem broker_openHandle (s : Service) (count : Nat) :
    (s.openHandle count).1.broker = (s.broker.openLast count).broker := by
  unfold openHandle
  simp only []
  split <;> rfl

/-- Looking at a listener asks nothing. -/
theorem broker_check (s : Service) (n : Nat) : (s.check n).1.broker = s.broker := by
  unfold check
  split
  · rfl
  · rfl
  · split <;> rfl

/-- A publish straight on a channel is asked of the broker. -/
theorem broker_publishOn (s : Service) (c : Nat) (exchange routingKey : String)
    (options : PublishOptions) (message : Message) :
    (s.publishOn c exchange routingKey options message).1.broker =
      (s.broker.publish c exchange routingKey options message).broker := by
  unfold publishOn
  simp only []
  split <;> rfl

/-- Dropping a loop that is not over lets go of its channel; no other drop asks anything. -/
theorem broker_drop (s : Service) (t : Nat) :
    (s.drop t).broker = obey s.broker (s.commandDeed? (.dropTask t)) := by
  unfold Service.drop
  simp only [commandDeed?, loop?]
  cases s.tasks[t]? with
  | none => rfl
  | some x =>
    cases x with
    | call c => exact broker_dropCall s t c
    | loop l =>
      simp only [Option.bind_some, Task.loop?]
      cases isOver : (Task.loop l).isOver with
      | true =>
        rw [dropLoop_of_over isOver]
        rfl
      | false =>
        rw [dropLoop_of_not_over isOver]
        have given := broker_detach (s.abandonCall l) l
        rw [broker_abandonCall] at given
        have same : (s.abandonCall l).channelOf l.handle = s.channelOf l.handle := by
          unfold abandonCall
          split
          · rfl
          · split <;> rfl
        rw [same] at given
        exact given

/-- A command that polls nothing asks what is read off the service before it. -/
theorem broker_step {c : Command} (s : Service) (passive : c.polls = false) :
    (s.step c).1.broker = obey s.broker (s.commandDeed? c) := by
  unfold step
  cases c with
  | declare | disconnect | restore | rejectNext | nackNext | failConfirmSelect | sink | published
    | publisher => rfl
  | openChannel count => exact broker_openHandle s count
  | close | confirmSelect | terminate | listen => exact broker_withChannel_deed fun _ _ => rfl
  | dropChannel h =>
    refine broker_withChannel_deed fun c held => ?_
    rw [← channelOf_of_held held]
    rfl
  | notifyPublish h k => exact broker_withChannel fun c _ => broker_withSink rfl
  | publishOn h exchange routingKey options message =>
    exact broker_withChannel_deed fun c _ => broker_publishOn s c exchange routingKey options message
  | hold | release | mute => exact broker_withChannel_same fun _ => rfl
  | check n => exact broker_check s n
  | receive k limit => exact broker_withSink (d := .receive k limit) rfl
  | dropSink k => exact broker_withSink (d := .dropSink k) rfl
  | clone | profile => exact broker_withPublisher_same fun _ => rfl
  | cancel => exact broker_withPublisher_same fun p => broker_cancel s p
  -- put in but not polled, a task has asked for nothing; a loop already holds its channel
  | publish n key message overtaken deferred =>
    cases deferred with
    | false => cases passive
    | true => exact broker_withPublisher_same fun _ => rfl
  | write n body deferred overtaken =>
    cases deferred with
    | false => cases passive
    | true => exact broker_withPublisher_same fun _ => rfl
  | serve n h deferred =>
    cases deferred with
    | false => cases passive
    | true => exact broker_withPublisher fun _ => broker_withChannel_deed fun _ _ => rfl
  | poll | settle => cases passive
  | dropTask t =>
    simp only []
    split
    · exact broker_drop s t
    · next outside =>
      have absent : s.loop? t = none := by
        rw [loop?, Array.getElem?_eq_none (Nat.le_of_not_lt outside)]
        rfl
      simp only [commandDeed?, absent]
      rfl

/-! ## Acts -/

/-- A move of what is no loop asks nothing of the broker. -/
theorem broker_act_of_no_loop (absent : s.loop? t = none) : (s.act (.move t)).broker = s.broker := by
  cases moves : s.move t with
  | none => rw [act_move_of_none moves]
  | some s' =>
    rw [act_move_of_some moves]
    cases here : s.tasks[t]? with
    | none => rw [move_of_absent here] at moves; cases moves
    | some x =>
      cases x with
      | call c =>
        rw [move, here] at moves
        exact broker_moveCall moves
      | loop l =>
        rw [loop?_eq_some.mpr here] at absent
        cases absent

/-- The move of a task that is a loop. -/
theorem move_of_loop (here : s.loop? t = some l) : s.move t = s.moveLoop t l := by
  rw [move, loop?_eq_some.mp here]

/-- The broker after an act is the one that the deed of the act leaves. -/
theorem broker_act (s : Service) (a : Act) : (s.act a).broker = obey s.broker (s.deed? a) := by
  cases a with
  | command c passive => exact broker_step s passive
  | move t =>
    cases here : s.loop? t with
    | none =>
      rw [broker_act_of_no_loop here]
      simp only [deed?, here]
      rfl
    | some l =>
      simp only [deed?, here, act, move_of_loop here, moveLoop]
      split
      · rfl
      · cases moves : s.moveFreely t l with
        | none =>
          rw [loopDeed?_of_stuck moves]
          rfl
        | some s' => exact broker_moveFreely moves

end Relay.Service
