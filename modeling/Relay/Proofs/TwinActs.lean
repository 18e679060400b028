import Relay.Proofs.Twins
import Relay.Proofs.Dealings

/-!
# What happens to twins leaves twins

Whatever a loop, a command or a call without an answer does, it reads nothing that twins do not share, so
twins are twins afterwards. A call that has an answer does nothing that is seen: the service before it
moves, or goes away, is a twin of the one after.
-/

namespace Relay.Service

open Broker (Exception Outcome)
open Publisher (Failure Request Detach)

variable {s r : Service} {t : Nat} {l : Loop} {c : Call}

/-! ## Requests -/

/-- A request is opened by whoever claims it first. -/
theorem openBy_eq (q : Request) :
    q.openBy = if q.claimed then (none, q) else (some q.message, { q with claimed := true }) := rfl

namespace Twin

/-! ## Calls that are written over -/

/-- The request of a call is written over in both twins. -/
theorem setRequest {d : Call} {q : Request} (twin : Twin s r) (t : Nat) (alike : d.veiled = c.veiled)
    (later : q.reply = .awaited → c.request.reply = .awaited) :
    Twin (s.setTask t (.call { c with request := q })) (r.setTask t (.call { d with request := q })) :=
  twin.setTask t (congrArg Task.call (Call.veiled_request alike later))

/-- Answering requests with the end of their publisher leaves twins and answers as many in both. -/
theorem answerDead (twin : Twin s r) (count : Nat) (ts : List Nat) :
    Twin (s.answerDead count ts).1 (r.answerDead count ts).1 ∧
      (r.answerDead count ts).2 = (s.answerDead count ts).2 := by
  induction ts generalizing s r count with
  | nil => exact ⟨twin, rfl⟩
  | cons t ts ih =>
    unfold Service.answerDead
    rcases twin.call? t with ⟨here, there⟩ | ⟨c, d, here, there, alike⟩
    · simp only [here, there]
      exact ih twin count
    · simp only [here, there, Call.request_of_veiled alike]
      split
      · exact ih twin count
      · next opened _ =>
        exact ih (twin.setRequest t alike fun awaited =>
          absurd awaited (reply_answer_ne opened _)) _

/-- Emptying an intake leaves twins. -/
theorem drain (twin : Twin s r) (p : Nat) : Twin (s.drain p) (r.drain p) := by
  unfold Service.drain
  rw [twin.publisher]
  obtain ⟨answered, count⟩ := twin.answerDead 0 (s.publisher p).intake.order
  simp only [count]
  split
  · exact answered.onPublisher p _
  · exact (answered.onPublisher p _).note p _

/-- A cancellation leaves twins, since both publishers are dead or neither is. -/
theorem cancel (twin : Twin s r) (p : Nat) :
    Twin (s.cancel p).1 (r.cancel p).1 := by
  unfold Service.cancel
  rw [twin.publisher]
  split
  · exact twin.record _
  · have dead := (twin.record (.cancelled p true)).onPublisher p fun q => { q with dead := true }
    simp only [dead.publisher]
    exact (dead.note p _).drain p

/-! ## Loops -/

/-- A loop changes its place in both. -/
theorem moveTo (twin : Twin s r) (t : Nat) (l : Loop) (stage : LoopStage) :
    Twin (s.moveTo t l stage) (r.moveTo t l stage) :=
  twin.setTask t rfl

/-- A loop retires its publisher in both. -/
theorem retire (twin : Twin s r) (p : Nat) : Twin (s.retire p) (r.retire p) := by
  unfold Service.retire
  rw [twin.publisher]
  split
  · exact twin
  · exact (twin.onPublisher p _).record _

/-- A channel is let go of in both. -/
theorem letGo (twin : Twin s r) (h : Nat) :
    Twin { s with broker := s.broker.letGo (s.channelOf h) }
      { r with broker := r.broker.letGo (r.channelOf h) } := by
  rw [twin.broker, twin.channelOf]
  exact twin.setBroker _

/-- A loop leaves its publisher in both. -/
theorem detach (twin : Twin s r) (l : Loop) : Twin (s.detach l) (r.detach l) := by
  unfold Service.detach
  simp only []
  split
  · exact (twin.letGo l.handle).onPublisher l.publisher _
  · exact twin.letGo l.handle

/-- A loop ends in both. -/
theorem endLoop (twin : Twin s r) (t : Nat) (l : Loop) (reason : Detach) :
    Twin (s.endLoop t l reason) (r.endLoop t l reason) :=
  ((twin.detach l).setTask t rfl).record _

/-- A loop begins to close its channel in both. -/
theorem beginClose (twin : Twin s r) (t : Nat) (l : Loop) (farewell : Farewell) :
    Twin (s.beginClose t l farewell) (r.beginClose t l farewell) :=
  (twin.record _).moveTo t l _

/-- A loop begins to serve in both. -/
theorem beginServing (twin : Twin s r) (t : Nat) (l : Loop) (notice : Option Nat) :
    Twin (s.beginServing t l notice) (r.beginServing t l notice) := by
  unfold Service.beginServing
  rw [twin.publisher]
  exact (twin.note _ _).moveTo t l _

/-- A loop gets the same notice in both. -/
theorem listen (twin : Twin s r) (t : Nat) (l : Loop) :
    Twin (s.listen t l).1 (r.listen t l).1 ∧ (r.listen t l).2 = (s.listen t l).2 := by
  have began := twin.record (.began t l.handle .notifyClose)
  unfold Service.listen
  simp only [began.handles, began.broker, began.channelOf]
  split
  · exact ⟨began, rfl⟩
  · exact ⟨{ began with broker := rfl, handles := rfl }, rfl⟩

/-- A loop attaches itself in both. -/
theorem attach (twin : Twin s r) (t : Nat) (l : Loop) : Twin (s.attach t l) (r.attach t l) := by
  obtain ⟨listens, notice⟩ :=
    (twin.onPublisher l.publisher fun p => { p with status := .clear }).listen t l
  unfold Service.attach
  simp only [listens.publisher, notice]
  split
  · exact listens.beginServing t l _
  · exact (listens.record _).moveTo t l _

/-- A loop makes its first move in both: the publishers it looks at are the same. -/
theorem beginLoop (twin : Twin s r) (t : Nat) (l : Loop) :
    Twin (s.beginLoop t l) (r.beginLoop t l) := by
  have taken := twin.onPublisher l.publisher fun p => { p with loop := some t }
  unfold Service.beginLoop
  simp only [twin.publisher, taken.publisher]
  split
  · exact (twin.note _ _).beginClose t l _
  · split
    · exact ((taken.retire _).note _ _).beginClose t l _
    · exact taken.attach t l

/-- A close ends in both. -/
theorem endClose (twin : Twin s r) (t : Nat) (l : Loop) (farewell : Farewell)
    (result : Except Exception Unit) :
    Twin (s.endClose t l farewell result) (r.endClose t l farewell result) := by
  unfold Service.endClose
  simp only []
  split
  · exact ((twin.note _ _).note _ _).endLoop t l _
  · exact (twin.note _ _).endLoop t l _
  · exact (twin.note _ _).endLoop t l _
  · exact twin.endLoop t l _

/-- Confirm mode is on or was refused in both. -/
theorem endConfirm (twin : Twin s r) (t : Nat) (l : Loop) (notice : Option Nat)
    (result : Except Exception Unit) :
    Twin (s.endConfirm t l notice result) (r.endConfirm t l notice result) := by
  unfold Service.endConfirm
  simp only [twin.publisher, twin.broker, twin.channelOf]
  split
  · exact ((twin.record _).setBroker _).beginServing t l _
  · exact twin.beginServing t l _
  · exact ((twin.note _ _).record _).beginServing t l _

/-- A loop takes up the same request in both, which is claimed in both or in neither. -/
theorem takeUp (twin : Twin s r) (t : Nat) (l : Loop) (notice : Option Nat) (caller : Nat) :
    Twin (s.takeUp t l notice caller) (r.takeUp t l notice caller) := by
  unfold Service.takeUp
  rcases twin.call? caller with ⟨here, there⟩ | ⟨c, d, here, there, alike⟩
  · simp only [here, there]
    exact twin
  · simp only [here, there, Call.request_of_veiled alike, openBy_eq]
    split
    · exact twin.note _ _
    · next message opened claimed =>
      have still : opened.reply = c.request.reply := by
        split at claimed <;> cases claimed
        rfl
      have written := twin.setRequest caller alike fun awaited => still.symm.trans awaited
      simp only [twin.publisher]
      exact (written.record _).moveTo t l _

/-- The same message is published in both. -/
theorem publishNow (twin : Twin s r) (t : Nat) (l : Loop) (notice : Option Nat) (caller : Nat) :
    Twin (s.publishNow t l notice caller) (r.publishNow t l notice caller) := by
  unfold Service.publishNow
  rcases twin.call? caller with ⟨here, there⟩ | ⟨c, d, here, there, alike⟩
  · simp only [here, there]
    exact twin.moveTo t l _
  · simp only [here, there, Call.request_of_veiled alike, twin.broker, twin.channelOf,
      twin.publisher]
    split
    · exact ((twin.after _).record _).moveTo t l _
    · exact (twin.after _).moveTo t l _

/-- The same result is given to the caller in both. -/
theorem endPublish (twin : Twin s r) (t : Nat) (l : Loop) (notice : Option Nat) (caller : Nat)
    (result : Except Exception Unit) :
    Twin (s.endPublish t l notice caller result) (r.endPublish t l notice caller result) := by
  unfold Service.endPublish
  rcases twin.call? caller with ⟨here, there⟩ | ⟨c, d, here, there, alike⟩
  · simp only [here, there]
    exact twin.moveTo t l _
  · have answered : ∀ {s r : Service}, Twin s r →
        Twin (((s.setTask caller (.call { c with
            request := c.request.answer (result.mapError Failure.publish) })).moveTo t l
              (.idle notice)).record (.returned t caller result))
          (((r.setTask caller (.call { d with
            request := c.request.answer (result.mapError Failure.publish) })).moveTo t l
              (.idle notice)).record (.returned t caller result)) := fun twin =>
      ((twin.setRequest caller alike fun awaited =>
        absurd awaited (reply_answer_ne _ _)).moveTo t l _).record _
    simp only [here, there, Call.request_of_veiled alike]
    split
    · exact answered (twin.note _ _)
    · exact answered twin

/-- Twins stay twins if both move, or neither can. -/
theorem moveIdle (twin : Twin s r) (t : Nat) (l : Loop) (notice : Option Nat) :
    Twin ((s.moveIdle t l notice).getD s) ((r.moveIdle t l notice).getD r) := by
  unfold Service.moveIdle
  simp only [twin.publisher, twin.noticeOf]
  split
  · exact ((twin.drain _).retire _).beginClose t l _
  · split
    · exact ((twin.note _ _).onPublisher _ _).endLoop t l _
    · exact (twin.note _ _).endLoop t l _
    · exact (twin.note _ _).endLoop t l _
    · cases (s.publisher l.publisher).intake.take? with
      | none => exact twin
      | some next => exact (twin.onPublisher _ _).takeUp t l notice next.1

/-- A loop that nothing holds up moves alike in both, or in neither. -/
theorem moveFreely (twin : Twin s r) (t : Nat) (l : Loop) :
    Twin ((s.moveFreely t l).getD s) ((r.moveFreely t l).getD r) := by
  unfold Service.moveFreely
  split
  · exact twin.beginLoop t l
  · simp only [twin.broker, twin.channelOf, Option.getD_some]
    exact (twin.after _).moveTo t l _
  · exact twin.endClose t l _ _
  · simp only [twin.broker, twin.channelOf, Option.getD_some]
    exact (twin.setBroker _).moveTo t l _
  · exact twin.endConfirm t l _ _
  · exact twin.moveIdle t l _
  · exact twin.publishNow t l _ _
  · exact twin.endPublish t l _ _ _
  · exact twin
  · exact twin

/-- The same loops are held up. -/
theorem isHeldUp (twin : Twin s r) (l : Loop) : r.isHeldUp l = s.isHeldUp l := by
  simp only [Service.isHeldUp, Service.mustWait, twin.handles]

/-- A loop moves alike in both, or in neither. -/
theorem moveLoop (twin : Twin s r) (t : Nat) (l : Loop) :
    Twin ((s.moveLoop t l).getD s) ((r.moveLoop t l).getD r) := by
  unfold Service.moveLoop
  rw [twin.isHeldUp]
  split
  · exact twin
  · exact twin.moveFreely t l

/-- A loop is dropped in both, with the publish it was in the midst of. -/
theorem dropLoop (twin : Twin s r) (t : Nat) (l : Loop) :
    Twin (s.dropLoop t l) (r.dropLoop t l) := by
  have dropped : ∀ {s r : Service}, Twin s r →
      Twin (((s.detach l).moveTo t l .dropped).record (.dropped t))
        (((r.detach l).moveTo t l .dropped).record (.dropped t)) := fun twin =>
    ((twin.detach l).moveTo t l .dropped).record _
  unfold Service.dropLoop
  split
  · exact twin
  · exact twin
  · simp only []
    split
    · next caller _ _ =>
      rcases twin.call? caller with ⟨here, there⟩ | ⟨c, d, here, there, alike⟩
      · simp only [here, there]
        exact dropped twin
      · simp only [here, there, Call.request_of_veiled alike]
        exact dropped (twin.setRequest caller alike fun awaited =>
          absurd awaited (reply_abandon_ne _))
    · exact dropped twin

/-! ## Calls -/

/-- A call ends in both. -/
theorem endCall (twin : Twin s r) (t : Nat) (c : Call) (result : Except Failure Unit) :
    Twin (s.endCall t c result) (r.endCall t c result) :=
  (twin.setTask t rfl).record _

/-- A call puts its request into the same intake of both. -/
theorem enqueue (twin : Twin s r) (t : Nat) (c : Call) : Twin (s.enqueue t c) (r.enqueue t c) := by
  unfold Service.enqueue
  simp only [twin.isReady]
  exact ((twin.onPublisher _ _).setTask t rfl).record _

/-- A call is turned away, overtaken or admitted in both. -/
theorem beginCall (twin : Twin s r) (t : Nat) (c : Call) :
    Twin (s.beginCall t c) (r.beginCall t c) := by
  unfold Service.beginCall
  rw [twin.publisher]
  split
  · exact twin.endCall t c _
  · split
    · exact ((twin.cancel _).note _ _).endCall t c _
    · exact twin.enqueue t c

/-- The same call moves alike in both, or in neither. -/
theorem moveCall (twin : Twin s r) (t : Nat) (c : Call) :
    Twin ((s.moveCall t c).getD s) ((r.moveCall t c).getD r) := by
  unfold Service.moveCall
  split
  · exact twin.beginCall t c
  · cases c.request.outcome? with
    | none => exact twin
    | some result => exact twin.endCall t c result
  · exact twin
  · exact twin

/-- The same call is dropped in both. -/
theorem dropCall (twin : Twin s r) (t : Nat) (c : Call) : Twin (s.dropCall t c) (r.dropCall t c) := by
  unfold Service.dropCall
  split
  · exact (twin.setTask t rfl).record _
  · exact ((twin.onPublisher _ _).setTask t rfl).record _
  · exact twin
  · exact twin

end Twin

/-! ## Calls that have an answer -/

/-- The call at an index has an answer, or will never have one. -/
def HasAnswer (s : Service) (t : Nat) : Prop :=
  ∃ c, s.tasks[t]? = some (.call c) ∧ c.request.reply ≠ .awaited

/-- What is known of a call with an answer. -/
theorem answered_call (sound : Sound s) (here : s.tasks[t]? = some (.call c))
    (filled : c.request.reply ≠ .awaited) :
    c.request.claimed = true ∧ c.stage ≠ .fresh ∧ .requested t ∈ s.journal ∧
      ∀ p, t ∉ (s.publisher p).intake.order := by
  obtain ⟨F, accounted⟩ := sound.accounted
  have fits := accounted.call t c (call?_eq_some.mpr here)
  have away : ¬ (F t).Waits := by
    intro waits
    rcases waits with fate | fate <;> exact filled (by rw [fits.reply, fate]; rfl)
  have begun : c.stage ≠ .fresh :=
    fun fresh => filled (by rw [fits.reply, fits.fresh fresh]; rfl)
  have sent : F t ≠ .unsent := fun fate => filled (by rw [fits.reply, fate]; rfl)
  refine ⟨fits.claimed.mpr ?_, begun, (mem_history rfl).mp (fits.requested_iff.mpr sent),
    accounted.not_mem_order away⟩
  rintro (queued | fresh)
  · exact away (.inl queued)
  · exact begun fresh

/-- The end of a call that had put in its request is not seen. -/
theorem outward_of_aftermath {e : Event} (requested : .requested t ∈ s.journal)
    (own : e = .dropped t ∨ ∃ v, e = .ended t v) : outward (e :: s.journal) = outward s.journal := by
  have aftermath : e.isAftermath s.journal = true := by
    rcases own with rfl | ⟨v, rfl⟩ <;> exact any_isRequestOf.mpr requested
  rw [outward, if_pos aftermath]

/-- A call with an answer changes its place, and says so. -/
theorem twin_of_restage {e : Event} {stage : CallStage} (sound : Sound s)
    (here : s.tasks[t]? = some (.call c)) (filled : c.request.reply ≠ .awaited)
    (own : e = .dropped t ∨ ∃ v, e = .ended t v) :
    Twin s ((s.setTask t (.call { c with request := c.request.forsake, stage })).record e) := by
  obtain ⟨claimed, -, requested, -⟩ := answered_call sound here filled
  have same : c.request.forsake = c.request := by
    rw [Request.forsake_eq, ← claimed]
  have alike : Task.veiled (.call { c with request := c.request.forsake, stage }) =
      Task.veiled (.call c) := by
    rw [same]
    exact congrArg Task.call (Call.veiled_stage filled stage)
  have written := Twin.setTask_self here alike
  exact { written with journal := outward_of_aftermath requested own }

/-- A call with an answer that moves leaves a twin. -/
theorem twin_of_answered_move (sound : Sound s) (answered : s.HasAnswer t) :
    Twin s (s.act (.move t)) := by
  obtain ⟨c, here, filled⟩ := answered
  obtain ⟨-, begun, -⟩ := answered_call sound here filled
  rw [act, move_of_call here]
  unfold Service.moveCall
  split
  · next fresh => exact absurd fresh begun
  · cases c.request.outcome? with
    | none => exact .refl s
    | some result => exact twin_of_restage sound here filled (.inr ⟨_, rfl⟩)
  · exact .refl s
  · exact .refl s

/-- An intake in whose order a request is not stays as it is when the caller goes away. -/
theorem leave_of_not_mem {i : Publisher.Intake} (away : t ∉ i.order) : i.leave t = i := by
  have outside : t ∉ i.offered := fun inside => away (List.mem_append_right _ inside)
  rw [Publisher.Intake.leave, List.erase_of_not_mem outside]

/-- A change that leaves the publisher as it is changes nothing. -/
theorem onPublisher_of_same {p : Nat} {f : Publisher → Publisher}
    (same : f (s.publisher p) = s.publisher p) : s.onPublisher p f = s := by
  have table : s.publishers.modify p f = s.publishers := by
    apply Array.ext_getElem?
    intro q
    rw [Array.getElem?_modify]
    split
    · next at_p =>
      subst at_p
      cases found : s.publishers[p]? with
      | none => rfl
      | some x =>
        rw [Service.publisher, found, Option.getD_some] at same
        rw [Option.map_some, same]
    · rfl
  rw [Service.onPublisher, table]

/-- A call with an answer that goes away leaves a twin. -/
theorem twin_of_answered_drop (sound : Sound s) (answered : s.HasAnswer t) :
    Twin s (s.drop t) := by
  obtain ⟨c, here, filled⟩ := answered
  obtain ⟨-, begun, -, away⟩ := answered_call sound here filled
  have dropped : s.drop t = s.dropCall t c := by simp only [Service.drop, here]
  rw [dropped]
  unfold Service.dropCall
  split
  · next fresh => exact absurd fresh begun
  · have stays : s.onPublisher c.publisher (fun p => { p with intake := p.intake.leave t }) = s :=
      onPublisher_of_same (by rw [leave_of_not_mem (away c.publisher)])
    rw [stays]
    exact twin_of_restage sound here filled (.inl rfl)
  · exact .refl s
  · exact .refl s

/-! ## Acts -/

/-- The tasks of twins at an index are both none, the same, or calls that have an answer. -/
theorem Twin.task_cases (twin : Twin s r) (t : Nat) :
    r.tasks[t]? = s.tasks[t]? ∨ s.HasAnswer t ∧ r.HasAnswer t := by
  cases here : s.tasks[t]? with
  | none =>
    have same := twin.tasks t
    rw [here, Option.map_none, Option.map_eq_none_iff] at same
    exact .inl same
  | some x =>
    cases x with
    | loop l =>
      have same := twin.loop? t
      rw [loop?_eq_some.mpr here] at same
      exact .inl (loop?_eq_some.mp same)
    | call c =>
      obtain ⟨d, there, alike⟩ := twin.call here
      by_cases awaited : c.request.reply = .awaited
      · rw [there, (Call.of_veiled alike).2 awaited]
        exact .inl rfl
      · refine .inr ⟨⟨c, here, awaited⟩, d, there, ?_⟩
        rw [Call.request_of_veiled alike]
        exact awaited

/-- The tasks at an index move in both. They are the same, or calls with an answer whose moves are not
seen. -/
theorem Twin.move (twin : Twin s r) (sound : Sound s) (sound' : Sound r) (t : Nat) :
    Twin (s.act (.move t)) (r.act (.move t)) := by
  rcases twin.task_cases t with same | ⟨answered, answered'⟩
  · rw [Service.act, Service.act, Service.move, Service.move, same]
    split
    · exact twin.moveCall t _
    · exact twin.moveLoop t _
    · exact twin
  · -- each service is the twin of what it was before, so the two moves need not be alike
    exact ((twin_of_answered_move sound answered).symm.trans twin).trans
      (twin_of_answered_move sound' answered')

/-- The tasks at an index are dropped in both. -/
theorem Twin.drop (twin : Twin s r) (sound : Sound s) (sound' : Sound r) (t : Nat) :
    Twin (s.drop t) (r.drop t) := by
  rcases twin.task_cases t with same | ⟨answered, answered'⟩
  · unfold Service.drop
    rw [same]
    split
    · exact twin.dropCall t _
    · exact twin.dropLoop t _
    · exact twin
  · exact ((twin_of_answered_drop sound answered).symm.trans twin).trans
      (twin_of_answered_drop sound' answered')

namespace Twin

/-- The outside holds the same channels of both. -/
theorem heldChannel? (twin : Twin s r) (h : Nat) : r.heldChannel? h = s.heldChannel? h := by
  rw [Service.heldChannel?, twin.handles, Service.heldChannel?]

/-- A command on a channel leaves twins if it does for the channel found. -/
theorem withChannel {h : Nat} {f g : Nat → Service × Answer} (twin : Twin s r)
    (inner : ∀ c, Twin (f c).1 (g c).1) : Twin (s.withChannel h f).1 (r.withChannel h g).1 := by
  rw [withChannel_eq, withChannel_eq, twin.heldChannel?]
  split
  · exact inner _
  · exact twin

/-- A command on a publisher leaves twins if it does for the publisher found. -/
theorem withPublisher {n : Nat} {f g : Nat → Service × Answer} (twin : Twin s r)
    (inner : ∀ p, Twin (f p).1 (g p).1) : Twin (s.withPublisher n f).1 (r.withPublisher n g).1 := by
  unfold Service.withPublisher
  rw [twin.names]
  split
  · exact inner _
  · exact twin

/-- A command on a sink leaves twins if it does for a sink that is there. -/
theorem withSink {k : Nat} {f g : Service × Answer} (twin : Twin s r) (inner : Twin f.1 g.1) :
    Twin (s.withSink k f).1 (r.withSink k g).1 := by
  unfold Service.withSink
  rw [twin.broker]
  split
  · exact inner
  · exact twin

/-- Opening channels leaves twins. -/
theorem openHandle (twin : Twin s r) (count : Nat) :
    Twin (s.openHandle count).1 (r.openHandle count).1 := by
  unfold Service.openHandle
  simp only [twin.broker]
  have opened := twin.after (s.broker.openLast count)
  split
  · exact { opened with handles := by rw [opened.handles] }
  · exact opened

/-- A publish straight on a channel leaves twins. -/
theorem publishOn (twin : Twin s r) (c : Nat) (exchange routingKey : String)
    (options : Broker.PublishOptions) (message : Message) :
    Twin (s.publishOn c exchange routingKey options message).1
      (r.publishOn c exchange routingKey options message).1 := by
  unfold Service.publishOn
  simp only [twin.broker]
  have sent := twin.after (s.broker.publish c exchange routingKey options message)
  split
  · exact sent.record _
  · exact sent
  · exact sent

/-- Looking at a listener leaves twins. -/
theorem check (twin : Twin s r) (n : Nat) : Twin (s.check n).1 (r.check n).1 := by
  unfold Service.check
  simp only [twin.listeners, twin.noticeOf]
  split
  · exact twin
  · exact twin
  · split
    · exact twin
    · exact { twin with listeners := rfl }
    · exact { twin with listeners := rfl }

/-- What does not poll leaves twins. -/
theorem step {c : Command} (twin : Twin s r) (sound : Sound s) (sound' : Sound r)
    (passive : c.polls = false) : Twin (s.step c).1 (r.step c).1 := by
  unfold Service.step
  cases c with
  | declare | rejectNext | nackNext | failConfirmSelect | sink =>
    simp only [twin.broker]
    exact twin.setBroker _
  | disconnect | restore =>
    simp only [twin.broker]
    exact twin.after _
  | openChannel count => exact twin.openHandle count
  | published => exact twin
  | close h | terminate h =>
    refine twin.withChannel fun c => ?_
    simp only [twin.broker]
    exact twin.after _
  | confirmSelect h =>
    refine twin.withChannel fun c => ?_
    simp only [twin.broker]
    exact twin.setBroker _
  | notifyPublish h k =>
    refine twin.withChannel fun c => twin.withSink ?_
    simp only [twin.broker]
    exact twin.setBroker _
  | publishOn h exchange routingKey options message =>
    exact twin.withChannel fun c => twin.publishOn c exchange routingKey options message
  | listen h =>
    refine twin.withChannel fun c => ?_
    simp only [twin.broker, twin.listeners]
    exact { twin with broker := rfl, listeners := rfl }
  | check n => exact twin.check n
  | dropChannel h =>
    refine twin.withChannel fun c => ?_
    simp only [Service.dropHandle, twin.broker, twin.channelOf]
    exact (twin.onHandle h _).setBroker _
  | hold h | release h | mute h => exact twin.withChannel fun c => twin.onHandle h _
  | receive k limit =>
    simp only [twin.broker]
    exact twin.withSink (twin.setBroker _)
  | dropSink k =>
    simp only [twin.broker]
    exact twin.withSink (twin.setBroker _)
  | publisher =>
    unfold Service.addPublisher
    simp only [twin.publishers, twin.names]
    exact { twin with publishers := rfl, names := rfl }
  | clone n =>
    refine twin.withPublisher fun p => ?_
    unfold Service.addName
    simp only [twin.names]
    exact { twin with names := rfl }
  | profile n => exact twin.withPublisher fun p => twin
  | cancel n => exact twin.withPublisher fun p => twin.cancel p
  -- an undeferred call is polled within the command, so `passive` leaves only the deferred one
  | publish n key message overtaken deferred =>
    cases deferred with
    | false => cases passive
    | true =>
      refine twin.withPublisher fun p => ?_
      rw [twin.publisher]
      exact twin.pushTask _
  | write n body deferred overtaken =>
    cases deferred with
    | false => cases passive
    | true =>
      refine twin.withPublisher fun p => ?_
      rw [twin.publisher]
      exact twin.pushTask _
  | serve n h deferred =>
    cases deferred with
    | false => cases passive
    | true =>
      refine twin.withPublisher fun p => twin.withChannel fun c => ?_
      rw [twin.broker]
      exact (twin.setBroker _).pushTask _
  | poll | settle => cases passive
  | dropTask t =>
    simp only [twin.size]
    split
    · exact twin.drop sound sound' t
    · exact twin

/-- Whatever happens to twins leaves twins. -/
theorem act (twin : Twin s r) (sound : Sound s) (sound' : Sound r) (a : Act) :
    Twin (s.act a) (r.act a) := by
  cases a with
  | command c passive => exact twin.step sound sound' passive
  | move t => exact twin.move sound sound' t

end Twin

end Relay.Service
