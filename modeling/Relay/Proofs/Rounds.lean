import Relay.Proofs.Serving

/-!
# A loop is polled, from the first request to the last

A poll of a loop that stands ready on an open channel is one round through its intake. `Serves` tells all of
it: which requests the loop took, what the broker made of the message of each, what the callers get, and how
the round ended. Either no request was left, or a publish closed the channel, and the loop left right after.
The round is an induction on the requests that wait, with `Attends` as what every request leaves in force.
-/

namespace Relay.Service

open Broker (Channel Exception Publishes)
open Publisher (Failure Intake)

variable {s s' : Service} {t u : Nat} {l : Loop} {rest : List Nat}

/-! ## What a round comes to -/

/-- A caller gets what the broker made of its own message. -/
structure Obtains (s : Service) (t : Nat) (l : Loop) (h : Handling) (u : Nat) (c : Call) : Prop where
  caller : s.call? u = some c
  sending : h.sending = s.sendingOf t l u c
  known : h.known = s.broker.hasExchange (s.publisher l.publisher).exchange
  answer : (s.poll t).tasks[u]? = some (.call (c.answeredBy h.result))
  /-- The call returns the answer when it is polled next. -/
  returns : ((s.poll t).poll u).valueOf u = some (c.value (h.result.mapError Failure.publish))

/-- How a round of a loop ends. -/
inductive Stops (s : Service) (t : Nat) (l : Loop) (taken left : List Nat) : Prop
  /-- No request is left. The loop stands ready, and is attached to its publisher. -/
  | served (empty : left = [])
      (ready : ∃ n, (s.poll t).loop? t = some { l with stage := .idle (some n) })
      (attached : ((s.poll t).publisher l.publisher).loop = some t)
      (isOpen : (s.poll t).isOpen l.handle = true)
      (spared : ∀ h ∈ s.handled t, h.value ≠ .ok none)
  /-- The last message that was published closed the channel, since nobody declared its exchange. The loop has
  left its publisher, and returns that reason. -/
  | closed {e : Exception} {front : List Nat} {last : Nat} {before : List Handling} {h : Handling}
      (exchange : e = .unknownExchange (s.publisher l.publisher).exchange)
      (undeclared : s.broker.hasExchange (s.publisher l.publisher).exchange = false)
      (request : taken = front ++ [last]) (handling : s.handled t = before ++ [h])
      (origin : h.sending.origin = some (t, last)) (closes : h.value = .ok none)
      (spared : ∀ h ∈ before, h.value ≠ .ok none)
      (shut : ShutFor (s.poll t) l.handle (some e))
      (returns : (s.poll t).valueOf t = some (.detached (.closed (some e))))
      (vacant : ((s.poll t).publisher l.publisher).loop = none)

/-- What one poll makes of the requests that a loop takes, and of those that it leaves. -/
structure Serves (s : Service) (t : Nat) (l : Loop) (taken left : List Nat) : Prop where
  /-- The loop takes requests from the front, and the others stay in their order. -/
  order : (s.publisher l.publisher).intake.order = taken ++ left
  kept : ((s.poll t).publisher l.publisher).intake.order = left
  /-- It publishes the messages of those that are not withdrawn, one each and in their order. -/
  origins : (s.handled t).map (·.sending.origin) =
    (taken.filter s.isUnclaimed).map fun u => some (t, u)
  answers : ∀ h ∈ s.handled t, ∃ u c, Obtains s t l h u c
  /-- The messages meet the errors that wait, one each and in their order. -/
  rejections : ∀ (i : Nat) (h : Handling), (s.handled t)[i]? = some h → h.error? = s.broker.rejections[i]?
  others : ∀ k, k ≠ t → (k ∈ taken → s.isUnclaimed k = false) → (s.poll t).tasks[k]? = s.tasks[k]?
  /-- The poll is over: the loop can move no further. -/
  stuck : (s.poll t).move t = none
  stops : Stops s t l taken left

/-! ## The end of a round -/

/-- A loop that attends to its intake is attached to its publisher. -/
theorem Attends.attached (attends : Attends s t l) : (s.publisher l.publisher).loop = some t := by
  obtain ⟨n, idle⟩ := attends.idle
  exact attends.orderly.sound.loop_of_isServing attends.here (by rw [idle]; rfl)

/-- A loop that finds no request waits for one. -/
theorem Attends.stuck (attends : Attends s t l)
    (empty : (s.publisher l.publisher).intake.order = []) : s.move t = none := by
  obtain ⟨n, idle⟩ := attends.idle
  rw [move_of_idle attends.here idle, moveIdle]
  simp only [attends.live, Bool.false_eq_true, if_false, attends.waits idle,
    Intake.take?_eq_none_iff.mpr empty, Option.map_none]

/-- A loop with an empty intake has nothing to serve. -/
theorem serves_nil (attends : Attends s t l) (empty : (s.publisher l.publisher).intake.order = []) :
    Serves s t l [] [] := by
  have stuck := attends.stuck empty
  have polled := poll_of_stuck stuck
  have nothing := handled_of_stuck stuck
  have nobody : ∀ h, h ∉ s.handled t := by
    rw [nothing]
    exact fun _ => List.not_mem_nil
  obtain ⟨n, idle⟩ := attends.idle
  exact
    { order := empty
      kept := by rw [polled, empty]
      origins := by rw [nothing]; rfl
      answers := fun h inside => absurd inside (nobody h)
      rejections := fun i h at_i => absurd (List.mem_of_getElem? at_i) (nobody h)
      others := fun k _ _ => by rw [polled]
      stuck := by rw [polled, stuck]
      stops := .served rfl ⟨n, by rw [polled, attends.here, ← idle]⟩ (by rw [polled, attends.attached])
        (by rw [polled, attends.isOpen]) fun h inside => absurd inside (nobody h) }

/-- A ready loop leaves its publisher with the next move once its channel closed with an error. -/
theorem leaves_of_shut {e : Exception} {n : Nat} (orderly : Orderly s) (here : s.loop? t = some l)
    (idle : l.stage = .idle (some n)) (live : (s.publisher l.publisher).dead = false)
    (shut : ShutFor s l.handle (some e)) :
    ∃ s', s.move t = some s' ∧ s.handling? (.move t) = none ∧ s'.move t = none ∧
      (s'.publisher l.publisher).intake = (s.publisher l.publisher).intake ∧
      (s'.publisher l.publisher).loop = none ∧ ∀ k : Nat, k ≠ t → s'.tasks[k]? = s.tasks[k]? := by
  have told := told_of_shut orderly.manned here (by rw [idle]; rfl) shut
  have inBounds := orderly.sound.bounded.task t _ (loop?_eq_some.mp here)
  let failed := (s.note l.publisher (.channelFailed e)).onPublisher l.publisher
    fun q => { q with status := .failed e }
  have there : failed.tasks[t]? = some (.loop l) := loop?_eq_some.mp here
  have tasks := tasks_endLoop there (.closed (some e))
  have left : (failed.endLoop t l (.closed (some e))).publisher l.publisher =
      { s.publisher l.publisher with status := .failed e, loop := none } := by
    change (failed.detach l).publisher l.publisher = _
    have size : l.publisher < failed.publishers.size := by
      rw [show failed.publishers.size = s.publishers.size from Array.size_modify]
      exact inBounds
    rw [publisher_detach, if_pos ⟨by rw [idle]; rfl, rfl, size⟩]
    have own : failed.publisher l.publisher = { s.publisher l.publisher with status := .failed e } :=
      (publisher_onPublisher _ _ _ _).trans (if_pos ⟨rfl, inBounds⟩)
    rw [own]
  refine ⟨failed.endLoop t l (.closed (some e)), ?_, ?_, ?_, ?_, ?_, fun k other => ?_⟩
  · rw [move_of_idle here idle, moveIdle]
    simp only [live, Bool.false_eq_true, if_false, told]
    rfl
  · exact handling?_of_place here fun _ _ same => by rw [idle] at same; cases same
  · exact move_of_over ((tasks t).trans (if_pos rfl)) rfl
  · rw [left]
  · rw [left]
  · rw [tasks, if_neg other]
    rfl

/-! ## One request more -/

/-- A call is told from its task. -/
theorem call?_of_others {k : Nat} (same : s'.tasks[k]? = s.tasks[k]?) : s'.call? k = s.call? k := by
  rw [call?, call?, same]

/-- So is whether its request is claimed. -/
theorem isUnclaimed_of_others {k : Nat} (same : s'.tasks[k]? = s.tasks[k]?) :
    s'.isUnclaimed k = s.isUnclaimed k := by
  rw [isUnclaimed, isUnclaimed, call?_of_others same]

/-- What is sent depends on the channel, the exchange and the call. -/
theorem sendingOf_of_same (handles : s'.handles = s.handles)
    (exchange : (s'.publisher l.publisher).exchange = (s.publisher l.publisher).exchange) (c : Call) :
    s'.sendingOf t l u c = s.sendingOf t l u c := by
  have channel : s'.channelOf l.handle = s.channelOf l.handle := channelOf_of_handles handles _
  simp only [sendingOf, channel, exchange]

/-- Which exchanges there are depends on those that were declared. -/
theorem hasExchange_of_same {exchange : String} {b b' : Broker} (same : b'.exchanges = b.exchanges) :
    b'.hasExchange exchange = b.hasExchange exchange := by
  rw [Broker.hasExchange, same, Broker.hasExchange]

/-- A loop attends to its intake after a request as before, if its channel is open still. -/
theorem Passes.attends (passes : Passes s t l u s') (attends : Attends s t l)
    (isOpen : s'.isOpen l.handle = true) : Attends s' t l where
  orderly := passes.orderly
  here := passes.here
  idle := attends.idle
  live := passes.dead.trans attends.live
  isOpen := isOpen
  free side := by rw [mustWait, passes.handles]; exact attends.free side

/-- An answer that comes later is one that comes of the whole round. -/
theorem Onward.obtains {h : Handling} {v : Nat} {c : Call} {stage : LoopStage} (onward : Onward s t l s')
    (same : s'.tasks[v]? = s.tasks[v]?) (obtains : Obtains s' t { l with stage } h v c) :
    Obtains s t l h v c where
  caller := by rw [← call?_of_others same, obtains.caller]
  sending := by
    rw [obtains.sending]
    exact sendingOf_of_same onward.handles onward.exchange c
  known := by
    rw [obtains.known, hasExchange_of_same onward.exchanges]
    exact congrArg _ onward.exchange
  answer := by rw [onward.poll, obtains.answer]
  returns := by rw [onward.poll, obtains.returns]

/-- A round ends as it ends later, if nothing before closed the channel. -/
theorem Onward.stops {taken left : List Nat} {more : List Handling} {stage : LoopStage}
    (onward : Onward s t l s') (front : List Nat) (stops : Stops s' t { l with stage } taken left)
    (handled : s.handled t = more ++ s'.handled t) (spared : ∀ h ∈ more, h.value ≠ .ok none) :
    Stops s t l (front ++ taken) left := by
  have both : ∀ {hs : List Handling}, (∀ h ∈ hs, h.value ≠ .ok none) →
      ∀ h ∈ more ++ hs, h.value ≠ .ok none := fun others h inside =>
    (List.mem_append.mp inside).elim (spared h) (others h)
  cases stops with
  | served empty ready attached isOpen others =>
    rw [← onward.poll] at ready attached isOpen
    exact .served empty ready attached isOpen (by rw [handled]; exact both others)
  | closed exchange undeclared request handling origin closes others shut returns vacant =>
    rw [← onward.poll] at shut returns vacant
    have same : (s'.publisher l.publisher).exchange = (s.publisher l.publisher).exchange :=
      onward.exchange
    rw [same] at exchange undeclared
    rw [hasExchange_of_same onward.exchanges] at undeclared
    exact .closed exchange undeclared (by rw [request, List.append_assoc])
      (by rw [handled, handling, List.append_assoc]) origin closes (both others) shut returns vacant

/-- Every message of a round is that of a request which the round takes. -/
theorem Serves.taken_of_handled {taken left : List Nat} {h : Handling} (serves : Serves s t l taken left)
    (inside : h ∈ s.handled t) : ∃ v ∈ taken, ∃ c, Obtains s t l h v c := by
  obtain ⟨v, c, obtains⟩ := serves.answers h inside
  have origin : h.sending.origin ∈ (taken.filter s.isUnclaimed).map fun u => some (t, u) := by
    rw [← serves.origins]
    exact List.mem_map_of_mem inside
  obtain ⟨w, among, same⟩ := List.mem_map.mp origin
  rw [obtains.sending] at same
  obtain rfl : w = v := by
    cases same
    rfl
  exact ⟨w, (List.mem_filter.mp among).1, c, obtains⟩

/-- A round that begins with a request that its caller withdrew. -/
theorem serves_of_skip {taken left : List Nat} (passes : Passes s t l u s')
    (claimed : s.isUnclaimed u = false) (broker : s'.broker = s.broker) (tasks : s'.tasks = s.tasks)
    (handled : s.handled t = s'.handled t) (serves : Serves s' t l taken left) :
    Serves s t l (u :: taken) left := by
  have unclaimed : s'.isUnclaimed = s.isUnclaimed :=
    funext fun k => isUnclaimed_of_others (by rw [tasks])
  exact
    { order := by rw [passes.order, serves.order, List.cons_append]
      kept := by rw [passes.poll, serves.kept]
      origins := by
        rw [handled, serves.origins, unclaimed, List.filter_cons_of_neg (Bool.eq_false_iff.mp claimed)]
      answers := fun h inside => by
        obtain ⟨v, c, obtains⟩ := serves.answers h (by rw [← handled]; exact inside)
        exact ⟨v, c, passes.obtains (by rw [tasks]) obtains⟩
      rejections := fun i h at_i => by
        rw [handled] at at_i
        rw [serves.rejections i h at_i, broker]
      others := fun k other outside => by
        rw [passes.poll, ← tasks]
        refine serves.others k other fun inside => ?_
        rw [unclaimed]
        exact outside (List.mem_cons_of_mem _ inside)
      stuck := by rw [passes.poll, serves.stuck]
      stops := passes.stops [u] serves.stops (handled.trans (List.nil_append _).symm)
        fun h inside => absurd inside List.not_mem_nil }

/-! ## A request that is answered -/

section Reply

variable {c : Call}

/-- What the broker makes of the message of a request. -/
theorem Replies.publishes (replies : Replies s t l u c s') :
    Publishes s.broker (s.channelOf l.handle) (s.publisher l.publisher).exchange
      c.request.routingKey {} c.request.message (s.handlingOf t l u c).value s'.broker := by
  rw [replies.broker]
  exact (s.sendingOf t l u c).publishes s.broker

/-- The caller that is answered first gets its answer, whatever the rest of the round does. -/
theorem Replies.obtains_own (replies : Replies s t l u c s')
    (same : (s'.poll t).tasks[u]? = s'.tasks[u]?) :
    Obtains s t l (s.handlingOf t l u c) u c := by
  have answer : (s.poll t).tasks[u]? =
      some (.call (c.answeredBy (s.handlingOf t l u c).result)) := by
    rw [replies.poll, same, replies.answer]
  have returns := poll_of_outcome answer replies.waiting rfl
  exact ⟨replies.caller, rfl, rfl, answer, returns⟩

/-- The message meets the error that waits longest, if one waits. -/
theorem Replies.meets (replies : Replies s t l u c s') (attends : Attends s t l) :
    (s.handlingOf t l u c).error? = s.broker.rejections.head? ∧
      s'.broker.rejections = s.broker.rejections.tail :=
  error_of_publishes attends.isOpen replies.publishes

/-- The channel is open still, or the message closed it since nobody declared the exchange. -/
theorem Replies.leaves (replies : Replies s t l u c s') (attends : Attends s t l) :
    (s.handlingOf t l u c).value ≠ .ok none ∧ s'.isOpen l.handle = true ∨
    (s.handlingOf t l u c).value = .ok none ∧
      s.broker.hasExchange (s.publisher l.publisher).exchange = false ∧
      ShutFor s' l.handle (some (.unknownExchange (s.publisher l.publisher).exchange)) := by
  obtain ⟨ch, here, open_⟩ := Broker.isLive_iff.mp attends.isOpen
  have channel : s'.channelOf l.handle = s.channelOf l.handle := channelOf_of_handles replies.handles _
  have stays : ∀ {ch' : Channel}, s'.broker.channels[s.channelOf l.handle]? = some ch' →
      ch'.state = .live → s'.isOpen l.handle = true := by
    intro ch' there live
    rw [isOpen, channel]
    exact Broker.isLive_iff.mpr ⟨ch', there, live⟩
  have effect := Broker.hasEffect_of_publishes here replies.publishes
  generalize (s.handlingOf t l u c).value = value at effect
  generalize after : s'.broker = b' at effect
  cases effect with
  | refused closed => exact absurd open_ closed
  | rejected => exact .inl ⟨(fun same => by cases same), stays (after ▸ here) open_⟩
  | accepted _ _ _ appends =>
    obtain ⟨sinks, own⟩ := appends.own
    rw [← after] at own
    exact .inl ⟨(fun same => by cases same), stays own open_⟩
  | closing _ _ named undeclared closes =>
    refine .inr ⟨rfl, ?_, _, by rw [channel, after]; exact closes.own, rfl⟩
    refine Bool.eq_false_iff.mpr fun known => ?_
    exact (Broker.hasExchange_iff.mp known).elim named undeclared

/-- A round that begins with a request whose message leaves the channel open. -/
theorem serves_of_reply {taken left : List Nat} (replies : Replies s t l u c s')
    (attends : Attends s t l) (unclaimed : s.isUnclaimed u = true)
    (spared : (s.handlingOf t l u c).value ≠ .ok none) (serves : Serves s' t l taken left) :
    Serves s t l (u :: taken) left := by
  obtain ⟨F, accounted⟩ := attends.orderly.sound.accounted
  have order : (s.publisher l.publisher).intake.order = u :: (taken ++ left) := by
    rw [replies.order, serves.order]
  have nodup := accounted.nodup l.publisher
  rw [order] at nodup
  -- a request that is taken later is another one, and no loop
  have later : ∀ k ∈ taken, k ≠ t ∧ k ≠ u := by
    intro k inside
    obtain ⟨d, caller, -⟩ := accounted.intake l.publisher k
      (by rw [order]; exact List.mem_cons_of_mem _ (List.mem_append_left _ inside))
    refine ⟨(ne_of_loop_of_call (loop?_eq_some.mp attends.here) caller).symm, ?_⟩
    rintro rfl
    exact (List.nodup_cons.mp nodup).1 (List.mem_append_left _ inside)
  have same : ∀ k ∈ taken, s'.tasks[k]? = s.tasks[k]? := fun k inside =>
    replies.others k (later k inside).1 (later k inside).2
  have own : (s'.poll t).tasks[u]? = s'.tasks[u]? :=
    serves.others u (ne_of_loop_of_call (loop?_eq_some.mp attends.here) replies.caller).symm
      fun inside => absurd rfl (later u inside).2
  have opened : taken.filter s'.isUnclaimed = taken.filter s.isUnclaimed :=
    List.filter_congr fun k inside => isUnclaimed_of_others (same k inside)
  exact
    { order
      kept := by rw [replies.poll, serves.kept]
      origins := by
        rw [replies.handled, List.map_cons, serves.origins, opened, List.filter_cons_of_pos unclaimed]
        rfl
      answers := by
        rw [replies.handled]
        rintro h (- | ⟨-, inside⟩)
        · exact ⟨u, c, replies.obtains_own own⟩
        · obtain ⟨v, among, d, obtains⟩ := serves.taken_of_handled inside
          exact ⟨v, d, replies.obtains (same v among) obtains⟩
      rejections := by
        obtain ⟨first, rest⟩ := replies.meets attends
        rw [replies.handled]
        rintro (- | i) h at_i
        · cases at_i
          rw [first, List.head?_eq_getElem?]
        · rw [serves.rejections i h at_i, rest, List.getElem?_tail]
      others := fun k other outside => by
        have apart : k ≠ u := by
          rintro rfl
          exact Bool.eq_false_iff.mp (outside List.mem_cons_self) unclaimed
        rw [replies.poll, ← replies.others k other apart]
        refine serves.others k other fun inside => ?_
        rw [isUnclaimed_of_others (same k inside)]
        exact outside (List.mem_cons_of_mem _ inside)
      stuck := by rw [replies.poll, serves.stuck]
      stops := replies.stops [u] serves.stops
        (replies.handled : s.handled t = [s.handlingOf t l u c] ++ s'.handled t)
        fun h inside => by rw [List.mem_singleton.mp inside]; exact spared }

/-- A round that ends with a request whose message closes the channel. -/
theorem serves_of_close {e : Exception} (replies : Replies s t l u c s') (attends : Attends s t l)
    (unclaimed : s.isUnclaimed u = true) (closes : (s.handlingOf t l u c).value = .ok none)
    (exchange : e = .unknownExchange (s.publisher l.publisher).exchange)
    (undeclared : s.broker.hasExchange (s.publisher l.publisher).exchange = false)
    (shut : ShutFor s' l.handle (some e)) :
    Serves s t l [u] (s'.publisher l.publisher).intake.order := by
  obtain ⟨n, idle⟩ := attends.idle
  have orderly := replies.orderly
  have live := replies.dead.trans attends.live
  -- after the reply the loop is told that its channel closed, and leaves in the same poll: the round is one
  -- request long
  obtain ⟨r, moved, nothing, stuck, intake, vacant, others⟩ :=
    leaves_of_shut orderly replies.here idle live shut
  have polled : s'.poll t = r := by rw [poll_of_move orderly.sound moved, poll_of_stuck stuck]
  have single : s.handled t = [s.handlingOf t l u c] := by
    rw [replies.handled, handled_of_move orderly.sound moved, nothing, handled_of_stuck stuck]
    rfl
  have apart : u ≠ t := (ne_of_loop_of_call (loop?_eq_some.mp attends.here) replies.caller).symm
  exact
    { order := replies.order
      kept := by rw [replies.poll, polled, intake]
      origins := by
        rw [single, List.filter_cons_of_pos unclaimed]
        rfl
      answers := fun h inside => by
        rw [single] at inside
        obtain rfl := List.mem_singleton.mp inside
        exact ⟨u, c, replies.obtains_own (by rw [polled, others u apart])⟩
      rejections := by
        rw [single]
        rintro (- | i) h at_i
        · cases at_i
          rw [(replies.meets attends).1, List.head?_eq_getElem?]
        · cases at_i
      others := fun k other outside => by
        have same : k ≠ u := by
          rintro rfl
          exact Bool.eq_false_iff.mp (outside List.mem_cons_self) unclaimed
        rw [replies.poll, polled, others k other, replies.others k other same]
      stuck := by rw [replies.poll, polled, stuck]
      stops := by
        have there : ShutFor (s'.poll t) l.handle (some e) := by
          rw [← perform_actsOfPoll]
          exact shut.perform orderly.sound (orderly.hearing.handles t l replies.here) _
        exact .closed exchange undeclared (List.nil_append [u]).symm
          (single.trans (List.nil_append [s.handlingOf t l u c]).symm) rfl closes
          (fun h inside => absurd inside List.not_mem_nil)
          (by rw [replies.poll]; exact there)
          (by rw [replies.poll, returns_of_ready orderly.sound orderly.manned replies.here idle live shut])
          (by rw [replies.poll, polled, vacant]) }

end Reply

/-! ## All requests -/

/-- A loop that attends to its intake goes through it with one poll. -/
theorem serves_of_attends (attends : Attends s t l) : ∃ taken left, Serves s t l taken left := by
  -- every request leaves a loop that attends to the others, unless its message closes the channel
  generalize order : (s.publisher l.publisher).intake.order = waiting
  induction waiting generalizing s with
  | nil => exact ⟨[], [], serves_nil attends order⟩
  | cons u rest ih =>
    cases unclaimed : s.isUnclaimed u with
    | false =>
      obtain ⟨s', passes, broker, tasks, handled⟩ := attends.skips order unclaimed
      have isOpen : s'.isOpen l.handle = true := by
        rw [Service.isOpen, channelOf_of_handles passes.handles, broker]
        exact attends.isOpen
      obtain ⟨taken, left, serves⟩ := ih (passes.attends attends isOpen)
        (List.cons.inj (passes.order.symm.trans order)).2
      exact ⟨u :: taken, left, serves_of_skip passes unclaimed broker tasks handled serves⟩
    | true =>
      obtain ⟨s', c, replies⟩ := attends.replies order unclaimed
      rcases replies.leaves attends with ⟨spared, isOpen⟩ | ⟨closes, undeclared, shut⟩
      · obtain ⟨taken, left, serves⟩ := ih (replies.attends attends isOpen)
          (List.cons.inj (replies.order.symm.trans order)).2
        exact ⟨u :: taken, left, serves_of_reply replies attends unclaimed spared serves⟩
      · exact ⟨_, _, serves_of_close replies attends unclaimed closes rfl undeclared shut⟩

/-! ## Loops that begin -/

/-- The same rejections wait at a broker as before, the same exchanges are there, and the same channels are
open. -/
structure Steady (b b' : Broker) : Prop where
  rejections : b'.rejections = b.rejections
  exchanges : b'.exchanges = b.exchanges
  isLive : ∀ c, b'.isLive c = b.isLive c

namespace Steady

variable {b b' : Broker} {c : Nat} {f : Channel → Channel}

/-- A broker is steady while nothing happens to it. -/
theorem refl (b : Broker) : Steady b b := ⟨rfl, rfl, fun _ => rfl⟩

/-- What is steady twice is steady. -/
theorem trans {b'' : Broker} (h : Steady b b') (h' : Steady b' b'') : Steady b b'' :=
  ⟨h'.rejections.trans h.rejections, h'.exchanges.trans h.exchanges,
    fun c => (h'.isLive c).trans (h.isLive c)⟩

/-- A change that leaves the states of channels as they are. -/
theorem modify (channels : b'.channels = b.channels.modify c f)
    (state : ∀ ch, (f ch).state = ch.state) (rejections : b'.rejections = b.rejections)
    (exchanges : b'.exchanges = b.exchanges) : Steady b b' := by
  refine ⟨rejections, exchanges, fun d => ?_⟩
  rw [Broker.isLive, channels, Array.getElem?_modify, Broker.isLive]
  cases b.channels[d]? with
  | none =>
    rw [Option.map_none, ite_self]
  | some ch =>
    have same := Channel.isClosed_of_state (state ch)
    by_cases own : c = d
    · rw [if_pos own]
      simp only [Option.map_some, same]
    · rw [if_neg own]

/-- Listening to a channel changes nothing of the kind. -/
theorem notifyClose (b : Broker) (c : Nat) : Steady b (b.notifyClose c).2 := by
  refine .modify (Broker.channels_notifyClose b c) (fun ch => Channel.state_heard _) ?_ ?_
  all_goals
    unfold Broker.notifyClose
    split
    · rfl
    · simp only []
      split <;> rfl

/-- Nor does confirm mode. -/
theorem confirmSelect (b : Broker) (c : Nat) : Steady b (b.confirmSelect c).2 := by
  refine .modify (Broker.channels_confirmSelect b c) (fun ch => Channel.state_selected _) ?_ ?_
  all_goals
    unfold Broker.confirmSelect
    split
    · split <;> rfl
    · rfl

/-- Nor does a registration. -/
theorem notifyPublish (b : Broker) (c k : Nat) : Steady b (b.notifyPublish c k) := by
  refine .modify (Broker.channels_notifyPublish b c k) (fun ch => Channel.state_joined _) ?_ ?_
  all_goals
    unfold Broker.notifyPublish
    split <;> rfl

end Steady

/-- A loop has moved on its way to serving, and everything that its requests meet is as before. -/
structure Prepares (s : Service) (t : Nat) (l : Loop) (s' : Service) : Prop
    extends Onward s t l s' where
  intake : (s'.publisher l.publisher).intake = (s.publisher l.publisher).intake
  steady : Steady s.broker s'.broker
  others : ∀ k : Nat, k ≠ t → s'.tasks[k]? = s.tasks[k]?
  handled : s.handled t = s'.handled t

/-- Two preparations in a row are one. -/
theorem Prepares.trans {s'' : Service} {stage : LoopStage} (h : Prepares s t l s')
    (h' : Prepares s' t { l with stage } s'') : Prepares s t l s'' where
  orderly := h'.orderly
  dead := h'.dead.trans h.dead
  exchange := h'.exchange.trans h.exchange
  handles := h'.handles.trans h.handles
  exchanges := h'.exchanges.trans h.exchanges
  poll := h.poll.trans h'.poll
  intake := h'.intake.trans h.intake
  steady := h.steady.trans h'.steady
  others k other := (h'.others k other).trans (h.others k other)
  handled := h.handled.trans h'.handled

/-- What is left to show of a move to serving. -/
theorem prepares_of_move (orderly : Orderly s) (here : s.loop? t = some l) (moved : s.move t = some s')
    (nothing : s.handling? (.move t) = none)
    (exchange : (s'.publisher l.publisher).exchange = (s.publisher l.publisher).exchange)
    (intake : (s'.publisher l.publisher).intake = (s.publisher l.publisher).intake)
    (steady : Steady s.broker s'.broker)
    (others : ∀ k : Nat, k ≠ t → s'.tasks[k]? = s.tasks[k]?) : Prepares s t l s' where
  orderly := orderly.move moved
  dead := dead_of_move orderly.sound here moved
  exchange := exchange
  handles := handles_move moved
  exchanges := steady.exchanges
  poll := poll_of_move orderly.sound moved
  intake := intake
  steady := steady
  others := others
  handled := by rw [handled_of_move orderly.sound moved, nothing]; rfl

/-- Attaching a loop clears the status of its publisher. -/
theorem publishers_attach (s : Service) (t : Nat) (l : Loop) : (s.attach t l).publishers =
    (s.onPublisher l.publisher fun p => { p with status := .clear }).publishers := by
  unfold attach
  simp only []
  split <;> exact (listen_alike _ t l).publishers

/-- A loop that is accepted goes on to serve. -/
theorem prepares_of_fresh (orderly : Orderly s) (here : s.loop? t = some l) (new : l.stage = .fresh)
    (live : (s.publisher l.publisher).dead = false)
    (vacant : (s.publisher l.publisher).loop = none) :
    ∃ s', s.move t = some s' ∧ Prepares s t l s' := by
  have moved := move_of_fresh here new
  let taken := s.onPublisher l.publisher fun p => { p with loop := some t }
  have alive : (taken.publisher l.publisher).dead = false :=
    (publisher_onPublisher_congr Publisher.dead rfl l.publisher).trans live
  have begins : s.beginLoop t l = taken.attach t l := by
    unfold beginLoop
    rw [if_neg (Bool.eq_false_iff.mp (attached_of_vacant vacant))]
    exact if_neg (Bool.eq_false_iff.mp alive)
  rw [begins] at moved
  -- an accepted loop writes only who is attached and the status, so the other fields are as before
  have kept : ∀ {α : Type} (field : Publisher → α),
      (∀ p : Publisher, ∀ k, field { p with loop := k } = field p) →
      (∀ p : Publisher, ∀ x, field { p with status := x } = field p) →
      field ((taken.attach t l).publisher l.publisher) = field (s.publisher l.publisher) := by
    intro α field loop status
    rw [publisher, publishers_attach, ← publisher, publisher_onPublisher_congr field (status _ _),
      publisher_onPublisher_congr field (loop _ _)]
  refine ⟨_, moved, prepares_of_move orderly here moved ?_ ?_ ?_ ?_ fun k other => ?_⟩
  · exact handling?_of_place here fun _ _ same => by rw [new] at same; cases same
  · exact kept Publisher.exchange (fun _ _ => rfl) fun _ _ => rfl
  · exact kept Publisher.intake (fun _ _ => rfl) fun _ _ => rfl
  · rw [broker_attach]
    split
    · exact .refl _
    · exact .notifyClose _ _
  · obtain ⟨r, stage, attaches, tasks, -⟩ := attach_eq taken t l
    have there : r.tasks[t]? = some (.loop l) := by
      rw [tasks]
      exact loop?_eq_some.mp here
    rw [attaches, tasks_moveTo there, if_neg other, tasks]
    rfl

/-- A loop that learns what came of its request begins to serve. -/
theorem fields_endConfirm (here : s.loop? t = some l) (notice : Option Nat)
    (result : Except Exception Unit) :
    let s' := s.endConfirm t l notice result
    s'.publishers = s.publishers ∧ Steady s.broker s'.broker ∧
      ∀ k : Nat, k ≠ t → s'.tasks[k]? = s.tasks[k]? := by
  have tasks := fun (k : Nat) (other : k ≠ t) =>
    (tasks_moveTo (loop?_eq_some.mp here) (.idle notice) k).trans (if_neg other)
  unfold endConfirm
  split
  · exact ⟨rfl, .notifyPublish _ _ _, tasks⟩
  · exact ⟨rfl, .refl _, tasks⟩
  · exact ⟨rfl, .refl _, tasks⟩

/-- A loop that asks for confirm mode goes on to serve, if it does not have to wait. -/
theorem prepares_of_confirming {notice : Option Nat} {phase : Phase} (orderly : Orderly s)
    (here : s.loop? t = some l) (confirming : l.stage = .confirming notice phase)
    (free : ∀ side, s.mustWait l.handle .confirmSelect side = false) :
    ∃ s' stage, Prepares s t l s' ∧ s'.loop? t = some { l with stage } ∧
      (stage = .idle notice ∨ phase = .entering ∧ ∃ r, stage = .confirming notice (.leaving r)) := by
  have nothing : s.handling? (.move t) = none :=
    handling?_of_place here fun _ _ same => by rw [confirming] at same; cases same
  have moves : s.move t = s.moveFreely t l := by
    rw [move_of_loop here, moveLoop, isHeldUp, confirming]
    simp only [LoopStage.operation?, free, Bool.false_eq_true, if_false]
  rw [moveFreely, confirming] at moves
  have prepares : ∃ s', s.move t = some s' ∧ Prepares s t l s' := by
    cases phase with
    | entering =>
      refine ⟨_, moves, prepares_of_move orderly here moves nothing rfl rfl (.confirmSelect _ _) ?_⟩
      exact fun k other => (tasks_moveTo (loop?_eq_some.mp here) _ k).trans (if_neg other)
    | leaving result =>
      obtain ⟨publishers, steady, others⟩ := fields_endConfirm here notice result
      have same : (s.endConfirm t l notice result).publisher l.publisher = s.publisher l.publisher := by
        rw [publisher, publishers, publisher]
      exact ⟨_, moves, prepares_of_move orderly here moves nothing (by rw [same]) (by rw [same]) steady
        others⟩
  obtain ⟨s', moved, prepares⟩ := prepares
  obtain ⟨stage, relocates, move⟩ := moves_loop orderly.sound here moved
  exact ⟨s', stage, prepares, relocates.own, move.of_confirming confirming⟩

/-- A loop that has got ready attends to its intake. -/
theorem Prepares.attends {n : Nat} (prepares : Prepares s t l s')
    (here : s'.loop? t = some { l with stage := .idle (some n) })
    (live : (s.publisher l.publisher).dead = false) (isOpen : s.isOpen l.handle = true)
    (free : ∀ operation side, s.mustWait l.handle operation side = false) :
    Attends s' t { l with stage := .idle (some n) } where
  orderly := prepares.orderly
  here := here
  idle := ⟨n, rfl⟩
  live := prepares.dead.trans live
  isOpen := by
    rw [Service.isOpen, channelOf_of_handles prepares.handles, prepares.steady.isLive]
    exact isOpen
  free side := by
    rw [mustWait, prepares.handles]
    exact free .publish side

/-- A loop that is accepted with an open channel gets ready, asking for confirm mode if it has to. -/
theorem attends_of_fresh (acts : List Act) (here : (fresh.perform acts).loop? t = some l)
    (new : l.stage = .fresh) (unmuted : Unmuted acts l.handle)
    (live : ((fresh.perform acts).publisher l.publisher).dead = false)
    (vacant : ((fresh.perform acts).publisher l.publisher).loop = none)
    (isOpen : (fresh.perform acts).isOpen l.handle = true)
    (free : ∀ operation side, (fresh.perform acts).mustWait l.handle operation side = false) :
    ∃ s' n, Prepares (fresh.perform acts) t l s' ∧ Attends s' t { l with stage := .idle (some n) } := by
  obtain ⟨s₁, moved, first⟩ := prepares_of_fresh (orderly_perform acts) here new live vacant
  obtain ⟨n, place⟩ := accepted_of_fresh acts here new unmuted live vacant
  rw [perform_concat, act_move_of_some moved] at place
  rcases place with ready | ⟨entering, -⟩
  · exact ⟨s₁, n, first, first.attends ready live isOpen free⟩
  -- it asks for confirm mode, and what it is waits neither before nor after
  have waits : ∀ {r : Service}, r.handles = (fresh.perform acts).handles → ∀ side,
      r.mustWait l.handle .confirmSelect side = false := by
    intro r same side
    rw [mustWait, same]
    exact free .confirmSelect side
  obtain ⟨s₂, stage, second, place, rfl | ⟨-, r, rfl⟩⟩ :=
    prepares_of_confirming first.orderly entering rfl (waits first.handles)
  · exact ⟨s₂, n, first.trans second, (first.trans second).attends place live isOpen free⟩
  · have both := first.trans second
    obtain ⟨s₃, stage, third, place, rfl | ⟨leaving, -⟩⟩ :=
      prepares_of_confirming both.orderly place rfl (waits both.handles)
    · exact ⟨s₃, n, both.trans third, (both.trans third).attends place live isOpen free⟩
    · cases leaving

/-- The round of a loop that had to get ready first. -/
theorem Prepares.serves {stage : LoopStage} {taken left : List Nat} (prepares : Prepares s t l s')
    (here : s.loop? t = some l) (there : s'.loop? t = some { l with stage })
    (serves : Serves s' t { l with stage } taken left) : Serves s t l taken left := by
  have unclaimed : s'.isUnclaimed = s.isUnclaimed := by
    funext k
    by_cases own : k = t
    · rw [own, isUnclaimed, call?_of_loop (loop?_eq_some.mp there), isUnclaimed,
        call?_of_loop (loop?_eq_some.mp here)]
    · exact isUnclaimed_of_others (prepares.others k own)
  exact
    { order := by rw [← prepares.intake]; exact serves.order
      kept := by rw [prepares.poll]; exact serves.kept
      origins := by rw [prepares.handled, serves.origins, unclaimed]
      answers := fun h inside => by
        rw [prepares.handled] at inside
        obtain ⟨v, c, obtains⟩ := serves.answers h inside
        have apart : v ≠ t := (ne_of_loop_of_call (loop?_eq_some.mp there) obtains.caller).symm
        exact ⟨v, c, prepares.obtains (prepares.others v apart) obtains⟩
      rejections := fun i h at_i => by
        rw [prepares.handled] at at_i
        rw [serves.rejections i h at_i, prepares.steady.rejections]
      others := fun k other outside => by
        rw [prepares.poll, ← prepares.others k other]
        exact serves.others k other fun inside => by rw [unclaimed]; exact outside inside
      stuck := by rw [prepares.poll, serves.stuck]
      stops := prepares.stops [] serves.stops (prepares.handled.trans (List.nil_append _).symm)
        fun h inside => absurd inside List.not_mem_nil }

/-! ## The law -/

/-- A call that waits with a request that nobody claimed has the request in the intake. -/
theorem mem_order_of_unclaimed {c : Call} (sound : Sound s) (caller : s.call? u = some c)
    (waiting : c.stage = .waiting) (unclaimed : c.request.claimed = false) :
    u ∈ (s.publisher c.publisher).intake.order := by
  obtain ⟨F, accounted⟩ := sound.accounted
  refine accounted.queued u c caller (Classical.byContradiction fun other => ?_)
  have claimed := (accounted.call u c caller).claimed.mpr (by
    rintro (queued | new)
    · exact other queued
    · rw [waiting] at new
      cases new)
  rw [unclaimed] at claimed
  cases claimed

/-- What becomes of a call whose request is taken. -/
theorem Serves.obtains {taken left : List Nat} {c : Call} (serves : Serves s t l taken left)
    (inside : u ∈ taken) (caller : s.call? u = some c) (unclaimed : c.request.claimed = false) :
    ∃ h ∈ s.handled t, Obtains s t l h u c := by
  have claimable : s.isUnclaimed u = true := by simp [isUnclaimed, caller, unclaimed]
  have origin : some (t, u) ∈ (s.handled t).map (·.sending.origin) := by
    rw [serves.origins]
    exact List.mem_map.mpr ⟨u, List.mem_filter.mpr ⟨inside, claimable⟩, rfl⟩
  obtain ⟨h, handled, own⟩ := List.mem_map.mp origin
  obtain ⟨v, d, obtains⟩ := serves.answers h handled
  rw [obtains.sending] at own
  obtain rfl : v = u := by
    cases own
    rfl
  obtain rfl : d = c := Option.some.inj (obtains.caller.symm.trans caller)
  exact ⟨h, handled, obtains⟩

/-- No request is left by a round whose messages go to an exchange that is there. -/
theorem Serves.nothing_left {taken left : List Nat} (serves : Serves s t l taken left)
    (known : s.broker.hasExchange (s.publisher l.publisher).exchange = true) : left = [] := by
  cases serves.stops with
  | served empty => exact empty
  | closed _ undeclared => exact absurd known (Bool.eq_false_iff.mp undeclared)

/-- For everything that can happen, and for every loop of a live publisher that is ready on an open channel, or
begins with one while its publisher is vacant: if nothing holds up what it does with the channel, then one
poll takes requests from the front of the intake, passes over those that are withdrawn, and gives every
other caller what the broker made of its own message. It goes on until no request is left, or leaves right
after a message that closed the channel. If the exchange is there, then whoever waits is answered. -/
theorem poll_serves_what_waits (acts : List Act) {t : Nat} {l : Loop}
    (here : (fresh.perform acts).loop? t = some l)
    (place : (∃ n, l.stage = .idle (some n)) ∨
      l.stage = .fresh ∧ ((fresh.perform acts).publisher l.publisher).loop = none ∧
        Unmuted acts l.handle)
    (live : ((fresh.perform acts).publisher l.publisher).dead = false)
    (isOpen : (fresh.perform acts).isOpen l.handle = true)
    (free : ∀ operation side, (fresh.perform acts).mustWait l.handle operation side = false) :
    let s := fresh.perform acts
    ∃ taken left, Serves s t l taken left ∧
      handlings (acts ++ s.actsOfPoll t) = handlings acts ++ s.handled t ∧
      (s.broker.hasExchange (s.publisher l.publisher).exchange = true →
        left = [] ∧ ∀ u c, s.call? u = some c → c.publisher = l.publisher → c.stage = .waiting →
          c.request.claimed = false → ∃ h ∈ s.handled t, Obtains s t l h u c) := by
  intro s
  have round : ∃ taken left, Serves s t l taken left := by
    rcases place with idle | ⟨new, vacant, unmuted⟩
    · exact serves_of_attends ⟨orderly_perform acts, here, idle, live, isOpen, free .publish⟩
    · obtain ⟨s', n, prepares, attends⟩ := attends_of_fresh acts here new unmuted live vacant isOpen free
      obtain ⟨taken, left, serves⟩ := serves_of_attends attends
      exact ⟨taken, left, prepares.serves here attends.here serves⟩
  obtain ⟨taken, left, serves⟩ := round
  refine ⟨taken, left, serves, handlings_poll acts t, fun known => ?_⟩
  have empty := serves.nothing_left known
  refine ⟨empty, fun u c caller own waiting unclaimed => serves.obtains ?_ caller unclaimed⟩
  have waits := mem_order_of_unclaimed (sound_perform acts) caller waiting unclaimed
  rw [own, serves.order, empty, List.append_nil] at waits
  exact waits

/-- A caller hands its request to a loop and gives up, and the channel of the loop is closed. Then three callers
wait, and the first of their messages is to be rejected. Nobody declared the exchange: a second loop passes
over the request that was given up, the next caller meets the rejection, the message of the one after it
closes the channel, and the last one waits on. -/
theorem third_request_closes_channel :
    let acts : List Act := [.command (.publisher "absent" "key" {} none) rfl,
      .command (.openChannel 1) rfl, .command (.openChannel 1) rfl, .command (.serve 0 0 true) rfl,
      .move 0, .command (.publish 0 none {} false true) rfl, .move 1, .command (.dropTask 1) rfl,
      .command (.close 0) rfl, .move 0, .command (.publish 0 none {} false true) rfl, .move 2,
      .command (.publish 0 none {} false true) rfl, .move 3,
      .command (.publish 0 none {} false true) rfl, .move 4,
      .command (.rejectNext ⟨311, "too large"⟩) rfl, .command (.serve 0 1 true) rfl]
    let s := fresh.perform acts
    Serves s 5 ⟨0, 1, .fresh⟩ [1, 2, 3] [4] ∧
      ((s.poll 5).poll 2).valueOf 2 = some (.failed (.publish ⟨311, "too large"⟩)) ∧
      ((s.poll 5).poll 3).valueOf 3 = some .published ∧
      (s.poll 5).valueOf 5 = some (.detached (.closed (some (.unknownExchange "absent")))) ∧
      ((s.poll 5).poll 4).valueOf 4 = none := by
  intro acts s
  obtain ⟨taken, left, serves, -⟩ := poll_serves_what_waits acts (t := 5) (l := ⟨0, 1, .fresh⟩) rfl
    (.inr ⟨rfl, rfl, by decide⟩) rfl rfl fun operation side => by cases operation <;> cases side <;> rfl
  have kept : ((s.poll 5).publisher 0).intake.order = [4] := by decide +kernel
  obtain rfl : left = [4] := serves.kept.symm.trans kept
  have order : (s.publisher 0).intake.order = [1, 2, 3] ++ [4] := by decide +kernel
  obtain rfl : taken = [1, 2, 3] := List.append_cancel_right (serves.order.symm.trans order)
  exact ⟨serves, by decide +kernel, by decide +kernel, by decide +kernel, by decide +kernel⟩

end Relay.Service
