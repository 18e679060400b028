import Relay.Proofs.Departures
import Relay.Proofs.Rejections

/-!
# What one poll of a loop serves

A loop that stands ready on an open channel takes the requests that wait in order. It passes over those that
their callers withdrew, with one move each, and for every other one it makes three moves: it opens the request,
publishes the message, and gives the caller the answer of the broker. `Passes` is what both have in common.
-/

namespace Relay.Service

open Broker (Exception)
open Publisher (Failure Intake)

variable {s s' : Service} {t u : Nat} {l : Loop} {rest : List Nat}

/-! ## Messages that a poll publishes -/

/-- A task that can move no further publishes nothing. -/
theorem handling?_of_stuck (stuck : s.move t = none) : s.handling? (.move t) = none := by
  have nothing : s.deed? (.move t) = none := by
    rw [deed?]
    cases here : s.loop? t with
    | none => rfl
    | some l =>
      rw [move_of_loop here, moveLoop] at stuck
      simp only []
      split at stuck
      · next held => rw [if_pos held]
      · rw [loopDeed?_of_stuck stuck, ite_self]
  rw [handling?, dealing_eq, nothing]
  rfl

/-- What the broker makes of the messages of one poll, in order. -/
def handled (s : Service) (t : Nat) : List Handling := gather handling? s (s.actsOfPoll t)

/-- A poll adds the messages that are handled during it. -/
theorem handlings_poll (acts : List Act) (t : Nat) :
    handlings (acts ++ (fresh.perform acts).actsOfPoll t) =
      handlings acts ++ (fresh.perform acts).handled t :=
  gather_append handling? fresh acts _

/-- What is handled in a poll is handled in its first move or in the rest of it. -/
theorem handled_of_move (sound : Sound s) (moved : s.move t = some s') :
    s.handled t = (s.handling? (.move t)).toList ++ s'.handled t :=
  gather_of_move sound moved fun _ => handling?_of_stuck

/-- A task that cannot move has nothing handled. -/
theorem handled_of_stuck (stuck : s.move t = none) : s.handled t = [] :=
  gather_of_stuck stuck (handling?_of_stuck stuck) _

/-! ## Loops that attend to their intake -/

/-- What holds of a service whatever happened to it, also of channels and of those who listen to them. -/
structure Orderly (s : Service) : Prop where
  sound : Sound s
  hearing : Hearing s
  manned : Manned s

/-- Every state that is reached is orderly. -/
theorem orderly_perform (acts : List Act) : Orderly (fresh.perform acts) :=
  ⟨sound_perform acts, hearing_perform acts, manned_perform acts⟩

/-- Moves keep order. -/
theorem Orderly.move (orderly : Orderly s) (moved : s.move t = some s') : Orderly s' := by
  obtain ⟨sound, hearing, manned⟩ := orderly
  rw [← act_move_of_some moved]
  exact ⟨(sound.act _).1, hearing.act sound _, manned.act sound hearing _⟩

/-- A loop stands ready for requests on an open channel, its publisher is live, and nothing holds up what it
publishes. -/
structure Attends (s : Service) (t : Nat) (l : Loop) : Prop where
  orderly : Orderly s
  here : s.loop? t = some l
  idle : ∃ n, l.stage = .idle (some n)
  live : (s.publisher l.publisher).dead = false
  isOpen : s.isOpen l.handle = true
  free : ∀ side, s.mustWait l.handle .publish side = false

/-- The notice of a loop whose channel is open waits. -/
theorem Attends.waits {n : Nat} (attends : Attends s t l) (idle : l.stage = .idle (some n)) :
    s.noticeOf (some n) = .waiting := by
  obtain ⟨x, there, live⟩ := Broker.isLive_iff.mp attends.isOpen
  obtain ⟨ch, found, ⟨-, listens⟩ | ⟨reason, closed, -⟩⟩ :=
    attends.orderly.manned.follows t l n attends.here (by rw [idle]; rfl)
  · rw [noticeOf, attends.orderly.hearing.tuned.waiting n _ ⟨ch, found, listens⟩]
    rfl
  · rw [there] at found
    cases found
    rw [live] at closed
    cases closed

/-- Only a loop that is about to publish publishes something with its next move. -/
theorem handling?_of_place (here : s.loop? t = some l)
    (place : ∀ notice u, l.stage ≠ .publishing notice u .entering) : s.handling? (.move t) = none := by
  have sends : ∀ m, s.loopDealing t l ≠ .publish m := by
    intro m
    unfold loopDealing
    split
    · nofun
    · split <;> nofun
    · next stage => exact absurd stage (place _ _)
    · nofun
  rw [handling?, dealing, here]
  simp only []
  split
  · next m publishes =>
    split at publishes
    · cases publishes
    · exact absurd publishes (sends m)
  · rfl

/-- A ready loop publishes nothing with its next move. -/
theorem Attends.nothing_of_idle {n : Nat} (attends : Attends s t l) (idle : l.stage = .idle (some n)) :
    s.handling? (.move t) = none :=
  handling?_of_place attends.here fun _ _ same => by rw [idle] at same; cases same

/-- Whether the request of a call has been claimed by nobody. -/
def isUnclaimed (s : Service) (u : Nat) : Bool := (s.call? u).any fun c => !c.request.claimed

/-- A call that has got the answer of the broker to its message. -/
def Call.answeredBy (c : Call) (result : Except Exception Unit) : Call :=
  { c with
    request := { c.request with
      claimed := true, reply := .answered (result.mapError Failure.publish) } }

/-- A loop has moved on within its poll, and what its messages meet is as before, but for what they use up
themselves. -/
structure Onward (s : Service) (t : Nat) (l : Loop) (s' : Service) : Prop where
  orderly : Orderly s'
  dead : (s'.publisher l.publisher).dead = (s.publisher l.publisher).dead
  exchange : (s'.publisher l.publisher).exchange = (s.publisher l.publisher).exchange
  handles : s'.handles = s.handles
  exchanges : s'.broker.exchanges = s.broker.exchanges
  poll : s.poll t = s'.poll t

/-- A loop has taken the first request of its publisher, and stands ready again. -/
structure Passes (s : Service) (t : Nat) (l : Loop) (u : Nat) (s' : Service) : Prop
    extends Onward s t l s' where
  order : (s.publisher l.publisher).intake.order = u :: (s'.publisher l.publisher).intake.order
  here : s'.loop? t = some l
  others : ∀ k, k ≠ t → k ≠ u → s'.tasks[k]? = s.tasks[k]?

/-- The first request is taken with the next move. -/
theorem Attends.takes {n : Nat} (attends : Attends s t l) (idle : l.stage = .idle (some n))
    (order : (s.publisher l.publisher).intake.order = u :: rest) :
    ∃ i c, i.order = rest ∧ s.call? u = some c ∧ (c.request.claimed = false → c.stage = .waiting ∧
        c.request.reply = .awaited) ∧
      s.move t = some ((s.withIntake l.publisher i).takeUp t l (some n) u) := by
  cases taken : (s.publisher l.publisher).intake.take? with
  | none =>
    rw [Intake.take?_eq_none_iff.mp taken] at order
    cases order
  | some next =>
    obtain ⟨v, i⟩ := next
    rw [Intake.order_of_take? taken] at order
    obtain ⟨rfl, same⟩ := List.cons.inj order
    obtain ⟨F, accounted⟩ := attends.orderly.sound.accounted
    obtain ⟨⟨c, there, -, waits⟩, -⟩ := accounted.taken taken
    have fits := accounted.call v c there
    refine ⟨i, c, same, there, fun unclaimed => ?_, ?_⟩
    · rcases waits with queued | withdrawn
      · rw [queued] at fits
        exact ⟨fits.waiting_of_queued, fits.reply⟩
      · -- a request that was withdrawn is claimed
        have claimed := fits.claimed.mpr (by
          rw [withdrawn]
          rintro (queued | new)
          · cases queued
          · rw [fits.fresh new] at withdrawn
            cases withdrawn)
        rw [unclaimed] at claimed
        cases claimed
    · rw [move_of_idle attends.here idle, moveIdle]
      simp only [attends.live, Bool.false_eq_true, if_false, attends.waits idle, taken, Option.map_some]

/-- A publisher with another intake is as before in all else. -/
theorem intake_withIntake (inBounds : l.publisher < s.publishers.size) (i : Intake) :
    (s.withIntake l.publisher i).publisher l.publisher =
      { s.publisher l.publisher with intake := i } := by
  rw [publisher_withIntake, if_pos ⟨rfl, inBounds⟩]

/-- A request that its caller withdrew is passed over. -/
theorem Attends.skips (attends : Attends s t l)
    (order : (s.publisher l.publisher).intake.order = u :: rest) (claimed : s.isUnclaimed u = false) :
    ∃ s', Passes s t l u s' ∧ s'.broker = s.broker ∧ s'.tasks = s.tasks ∧
      s.handled t = s'.handled t := by
  obtain ⟨n, idle⟩ := attends.idle
  obtain ⟨i, c, rfl, there, -, moved⟩ := attends.takes idle order
  have withdrawn : c.request.claimed = true := by
    simpa [isUnclaimed, there] using claimed
  have inBounds := attends.orderly.sound.bounded.task t _ (loop?_eq_some.mp attends.here)
  have intake := intake_withIntake inBounds i
  have skipped : (s.withIntake l.publisher i).takeUp t l (some n) u =
      (s.withIntake l.publisher i).note l.publisher .requestWithdrawn := by
    unfold takeUp
    rw [show (s.withIntake l.publisher i).call? u = some c from there]
    simp only [Publisher.Request.openBy, withdrawn, if_true]
  rw [skipped] at moved
  refine ⟨_, ⟨⟨attends.orderly.move moved, ?_, ?_, rfl, rfl, poll_of_move attends.orderly.sound moved⟩, ?_,
    attends.here, fun _ _ _ => rfl⟩, rfl, rfl, ?_⟩
  · exact publisher_onPublisher_congr Publisher.dead rfl l.publisher
  · exact publisher_onPublisher_congr Publisher.exchange rfl l.publisher
  · change _ = u :: ((s.withIntake l.publisher i).publisher l.publisher).intake.order
    rw [intake]
    exact order
  · rw [handled_of_move attends.orderly.sound moved, attends.nothing_of_idle idle]
    rfl

/-! ## Publishing for a call -/

/-- A request that nobody claimed is opened. -/
theorem takeUp_of_unclaimed {notice : Option Nat} {c : Call} (there : s.call? u = some c)
    (unclaimed : c.request.claimed = false) :
    s.takeUp t l notice u = s.openRequest t l notice u c := by
  unfold takeUp openRequest
  rw [there]
  simp only [Publisher.Request.openBy, unclaimed, Bool.false_eq_true, if_false]
  rfl

/-- The message of a call, as a loop sends it. -/
def sendingOf (s : Service) (t : Nat) (l : Loop) (u : Nat) (c : Call) : Sending :=
  ⟨some (t, u), s.channelOf l.handle, (s.publisher l.publisher).exchange, c.request.routingKey, {},
    c.request.message⟩

/-- What the broker makes of the message of a call. -/
def handlingOf (s : Service) (t : Nat) (l : Loop) (u : Nat) (c : Call) : Handling :=
  let m := s.sendingOf t l u c
  ⟨m, s.broker.hasExchange m.exchange, (m.outcome s.broker).value⟩

/-- The message of a call goes out. -/
theorem fields_publishNow {c : Call} (here : s.loop? t = some l) (there : s.call? u = some c)
    (notice : Option Nat) :
    let s' := s.publishNow t l notice u
    s'.broker = ((s.sendingOf t l u c).outcome s.broker).broker ∧ s'.publishers = s.publishers ∧
      s'.handles = s.handles ∧ ∀ k : Nat, s'.tasks[k]? = if k = t then
        some (.loop { l with
          stage := .publishing notice u (.leaving (s.handlingOf t l u c).result) })
        else s.tasks[k]? := by
  unfold publishNow
  rw [there]
  simp only []
  have tasks := fun stage => tasks_moveTo (loop?_eq_some.mp here) stage
  split <;> exact ⟨rfl, rfl, rfl, fun k => tasks _ k⟩

/-- The caller gets the answer. -/
theorem fields_endPublish {c : Call} (here : s.loop? t = some l) (there : s.call? u = some c)
    (notice : Option Nat) (result : Except Exception Unit) :
    let s' := s.endPublish t l notice u result
    s'.broker = s.broker ∧ s'.publishers = s.publishers ∧ s'.handles = s.handles ∧
      ∀ k : Nat, s'.tasks[k]? = if k = t then some (.loop { l with stage := .idle notice })
        else if k = u then
          some (.call { c with request := c.request.answer (result.mapError .publish) })
        else s.tasks[k]? := by
  have tasks := tasks_closeRequest (loop?_eq_some.mp here) (call?_eq_some.mp there) notice result
  unfold endPublish
  rw [there]
  cases result with
  | ok => exact ⟨rfl, rfl, rfl, tasks⟩
  | error => exact ⟨rfl, rfl, rfl, tasks⟩

/-- Publishing declares no exchange. -/
theorem exchanges_outcome (m : Sending) (b : Broker) :
    (m.outcome b).broker.exchanges = b.exchanges := by
  have publishes := m.publishes b
  generalize (m.outcome b).broker = after at publishes
  generalize (m.outcome b).value = value at publishes
  cases publishes with
  | refused | rejected => rfl
  | unknown => rw [Broker.shut_eq]
  | accepted => rw [Broker.accept_eq, Broker.confirm_eq]

/-- A loop in a publish that nothing holds up goes on. -/
theorem move_of_publishing {notice : Option Nat} {phase : Phase} (here : s.loop? t = some l)
    (publishing : l.stage = .publishing notice u phase)
    (free : s.mustWait l.handle .publish phase.side = false) : s.move t = s.moveFreely t l := by
  rw [move_of_loop here, moveLoop, isHeldUp, publishing]
  simp only [LoopStage.operation?, free, Bool.false_eq_true, if_false]

/-- A loop has opened the first request, and is in the publish for it; the rest of the intake is given. -/
structure Busy (s : Service) (t : Nat) (l : Loop) (u : Nat) (c : Call) (n : Nat) (i : Intake)
    (phase : Phase) (s' : Service) : Prop where
  orderly : Orderly s'
  handles : s'.handles = s.handles
  publisher : s'.publisher l.publisher = { s.publisher l.publisher with intake := i }
  tasks : ∀ k : Nat, s'.tasks[k]? =
    if k = t then some (.loop { l with stage := .publishing (some n) u phase })
    else if k = u then some (.call { c with request := { c.request with claimed := true } })
    else s.tasks[k]?

namespace Busy

variable {c : Call} {n : Nat} {i : Intake} {phase : Phase}

/-- The loop is in the midst of its publish. -/
theorem here (busy : Busy s t l u c n i phase s') :
    s'.loop? t = some { l with stage := .publishing (some n) u phase } :=
  loop?_eq_some.mpr ((busy.tasks t).trans (if_pos rfl))

/-- The request of its caller is claimed, and its content is as it was. -/
theorem caller (busy : Busy s t l u c n i phase s') (apart : u ≠ t) :
    s'.call? u = some { c with request := { c.request with claimed := true } } :=
  call?_eq_some.mpr ((busy.tasks u).trans ((if_neg apart).trans (if_pos rfl)))

/-- What is held up was held up before. -/
theorem mustWait (busy : Busy s t l u c n i phase s') (h : Nat) (operation : Operation) (side : Side) :
    s'.mustWait h operation side = s.mustWait h operation side := by
  rw [Service.mustWait, busy.handles, Service.mustWait]

/-- The message that goes out is that of the call. -/
theorem sendingOf (busy : Busy s t l u c n i phase s') :
    s'.sendingOf t { l with stage := .publishing (some n) u phase } u
        { c with request := { c.request with claimed := true } } = s.sendingOf t l u c := by
  have channel : s'.channelOf l.handle = s.channelOf l.handle := channelOf_of_handles busy.handles _
  simp only [Service.sendingOf, busy.publisher, channel]

end Busy

/-- The first request is opened with one move. -/
theorem Attends.opens {n : Nat} (attends : Attends s t l) (idle : l.stage = .idle (some n))
    (order : (s.publisher l.publisher).intake.order = u :: rest) (unclaimed : s.isUnclaimed u = true) :
    ∃ s' c i, s.move t = some s' ∧ i.order = rest ∧ s.call? u = some c ∧ c.stage = .waiting ∧
      c.request.reply = .awaited ∧ s'.broker = s.broker ∧ s.handling? (.move t) = none ∧
      Busy s t l u c n i .entering s' := by
  obtain ⟨i, c, rfl, there, waits, moved⟩ := attends.takes idle order
  have free : c.request.claimed = false := by simpa [isUnclaimed, there] using unclaimed
  have inBounds := attends.orderly.sound.bounded.task t _ (loop?_eq_some.mp attends.here)
  rw [takeUp_of_unclaimed (s := s.withIntake l.publisher i) there free] at moved
  refine ⟨_, c, i, moved, rfl, there, (waits free).1, (waits free).2, rfl, attends.nothing_of_idle idle,
    attends.orderly.move moved, rfl, intake_withIntake inBounds i, ?_⟩
  exact tasks_openRequest (s := s.withIntake l.publisher i) (loop?_eq_some.mp attends.here)
    (call?_eq_some.mp there) (some n)

section Publishing

variable {s₁ : Service} {c : Call} {n : Nat} {i : Intake}

/-- Its message is published with the next. -/
theorem Busy.publishes (busy : Busy s t l u c n i .entering s₁) (broker : s₁.broker = s.broker)
    (apart : u ≠ t) (free : s.mustWait l.handle .publish .before = false) :
    ∃ s', s₁.move t = some s' ∧ s'.broker = ((s.sendingOf t l u c).outcome s.broker).broker ∧
      s₁.handling? (.move t) = some (s.handlingOf t l u c) ∧
      Busy s t l u c n i (.leaving (s.handlingOf t l u c).result) s' := by
  have here := busy.here
  have held : s₁.mustWait l.handle .publish .before = false := (busy.mustWait _ _ _).trans free
  have moved := move_of_publishing here rfl held
  obtain ⟨after, publishers, handles, tasks⟩ := fields_publishNow here (busy.caller apart) (some n)
  have handling : s₁.handlingOf t { l with stage := .publishing (some n) u .entering } u
      { c with request := { c.request with claimed := true } } = s.handlingOf t l u c := by
    rw [handlingOf, busy.sendingOf, broker, handlingOf]
  rw [busy.sendingOf, broker] at after
  rw [handling] at tasks
  refine ⟨_, moved, after, ?_, busy.orderly.move moved, handles.trans busy.handles, ?_, fun k => ?_⟩
  · have sends : s₁.dealing (.move t) = .publish (s.sendingOf t l u c) := by
      rw [dealing, here, ← busy.sendingOf]
      simp only [isHeldUp, LoopStage.operation?, Phase.side, held, Bool.false_eq_true, if_false,
        loopDealing, busy.caller apart]
      rfl
    rw [handling?, sends, broker]
    rfl
  · rw [Service.publisher, publishers]
    exact busy.publisher
  · rw [tasks, busy.tasks]
    split <;> rfl

/-- The caller has the answer after a third. -/
theorem Busy.answers {result : Except Exception Unit}
    (busy : Busy s t l u c n i (.leaving result) s₁) (apart : u ≠ t)
    (free : s.mustWait l.handle .publish .after = false) (awaited : c.request.reply = .awaited) :
    ∃ s', s₁.move t = some s' ∧ s₁.handling? (.move t) = none ∧ s'.broker = s₁.broker ∧
      s'.handles = s.handles ∧ s'.publisher l.publisher = { s.publisher l.publisher with intake := i } ∧
      ∀ k : Nat, s'.tasks[k]? = if k = t then some (.loop { l with stage := .idle (some n) })
        else if k = u then some (.call (c.answeredBy result)) else s.tasks[k]? := by
  have here := busy.here
  have held : s₁.mustWait l.handle .publish .after = false := (busy.mustWait _ _ _).trans free
  obtain ⟨broker, publishers, handles, tasks⟩ :=
    fields_endPublish here (busy.caller apart) (some n) result
  refine ⟨_, move_of_publishing here rfl held, handling?_of_place here nofun, broker,
    handles.trans busy.handles, ?_, fun k => ?_⟩
  · rw [Service.publisher, publishers]
    exact busy.publisher
  · rw [tasks, busy.tasks]
    simp only [Publisher.Request.answer, awaited, Call.answeredBy]
    split
    · rfl
    · split <;> rfl

end Publishing

/-- A loop has published the message of the first request, and given the caller the answer of the broker. -/
structure Replies (s : Service) (t : Nat) (l : Loop) (u : Nat) (c : Call) (s' : Service) : Prop
    extends Passes s t l u s' where
  caller : s.call? u = some c
  waiting : c.stage = .waiting
  broker : s'.broker = ((s.sendingOf t l u c).outcome s.broker).broker
  answer : s'.tasks[u]? = some (.call (c.answeredBy (s.handlingOf t l u c).result))
  handled : s.handled t = s.handlingOf t l u c :: s'.handled t

/-- A loop that attends takes up the first request that nobody claimed, and replies to it. -/
theorem Attends.replies (attends : Attends s t l)
    (order : (s.publisher l.publisher).intake.order = u :: rest) (unclaimed : s.isUnclaimed u = true) :
    ∃ s' c, Replies s t l u c s' := by
  obtain ⟨n, idle⟩ := attends.idle
  obtain ⟨s₁, c, i, moved, rfl, there, waiting, awaited, broker, nothing, busy⟩ :=
    attends.opens idle order unclaimed
  have apart : u ≠ t := (ne_of_loop_of_call (loop?_eq_some.mp attends.here) there).symm
  obtain ⟨s₂, moved₁, broker₁, handles, busy₁⟩ := busy.publishes broker apart (attends.free .before)
  obtain ⟨s₃, moved₂, nothing₁, broker₂, kept, publisher, tasks⟩ :=
    busy₁.answers apart (attends.free .after) awaited
  have sound := attends.orderly.sound
  have sound₁ := busy.orderly.sound
  have sound₂ := busy₁.orderly.sound
  refine ⟨s₃, c, ⟨⟨busy₁.orderly.move moved₂, ?_, ?_, kept, ?_, ?_⟩, ?_, ?_, fun k other apart => ?_⟩, there,
    waiting, broker₂.trans broker₁, ?_, ?_⟩
  · rw [publisher]
  · rw [publisher]
  · rw [broker₂, broker₁, exchanges_outcome]
  · rw [poll_of_move sound moved, poll_of_move sound₁ moved₁, poll_of_move sound₂ moved₂]
  · rw [publisher]
    exact order
  · refine loop?_eq_some.mpr ((tasks t).trans ((if_pos rfl).trans ?_))
    rw [← idle]
  · rw [tasks, if_neg other, if_neg apart]
  · rw [tasks, if_neg apart, if_pos rfl]
  · rw [handled_of_move sound moved, handled_of_move sound₁ moved₁, handled_of_move sound₂ moved₂,
      nothing, handles, nothing₁]
    rfl

end Relay.Service
