import Relay.Proofs.Surroundings

/-!
# Moves of loops

A loop that moves is somewhere else afterwards, and all other loops are where they were. `LoopMove` says
what else there is to each move: how the loop begins, what it does to the status of its publisher, and
under which conditions it begins a publish. Moves without such consequences follow the way from place to
place that `LoopStage.Leads` draws.
-/

namespace Relay.Service

open Broker (Exception Heeds Awaits)
open Publisher (Detach Status)

namespace LoopStage

/-- Whether a loop at this place has attached its channel to its publisher. -/
def isServing : LoopStage → Bool
  | confirming _ _ | idle _ | publishing _ _ _ | closing .stopped _ => true
  | fresh | closing _ _ | finished _ | dropped => false

/-- The close notice that a loop at this place listens to. -/
def notice? : LoopStage → Option Nat
  | confirming notice _ | idle notice | publishing notice _ _ => notice
  | fresh | closing _ _ | finished _ | dropped => none

/-- Where a loop goes from a place, unless it begins, begins a publish or fails. -/
inductive Leads : LoopStage → LoopStage → Prop
  | close {f : Farewell} {r : Except Exception Unit} :
      Leads (.closing f .entering) (.closing f (.leaving r))
  | leave {f : Farewell} {r : Except Exception Unit} :
      Leads (.closing f (.leaving r)) (.finished f.detach)
  | confirm {n : Option Nat} {r : Except Exception Unit} :
      Leads (.confirming n .entering) (.confirming n (.leaving r))
  | serve {n : Option Nat} {r : Except Exception Unit} :
      Leads (.confirming n (.leaving r)) (.idle n)
  | stop {n : Option Nat} : Leads (.idle n) (.closing .stopped .entering)
  | end_ {n : Option Nat} : Leads (.idle n) (.finished (.closed none))
  | skip {n : Option Nat} : Leads (.idle n) (.idle n)
  | publish {n : Option Nat} {u : Nat} {r : Except Exception Unit} :
      Leads (.publishing n u .entering) (.publishing n u (.leaving r))
  | answer {n : Option Nat} {u : Nat} {r : Except Exception Unit} :
      Leads (.publishing n u (.leaving r)) (.idle n)

variable {stage stage' : LoopStage}

/-- A loop that serves is attached. -/
theorem isAttached_of_isServing (serving : stage.isServing = true) : stage.isAttached = true := by
  cases stage with
  | closing f phase => cases f <;> first | rfl | cases serving
  | fresh | finished | dropped => cases serving
  | confirming | idle | publishing => rfl

/-- Nothing leads back to the beginning, or on from the end. -/
theorem Leads.ne_fresh (leads : Leads stage stage') : stage' ≠ .fresh := by
  cases leads <;> exact nofun

/-- No way leads from a place that does not serve to one that does. -/
theorem Leads.isServing (leads : Leads stage stage') (serving : stage'.isServing = true) :
    stage.isServing = true := by
  cases leads with
  | @close f r => cases f <;> exact serving
  | leave | end_ => cases serving
  | confirm | serve | stop | skip | publish | answer => rfl

/-- On its way a loop keeps its notice or gives it up. -/
theorem Leads.notice? (leads : Leads stage stage') :
    stage'.notice? = stage.notice? ∨ stage'.notice? = none := by
  cases leads <;> first | exact .inl rfl | exact .inr rfl

end LoopStage

variable {s s' r : Service} {t : Nat} {l : Loop} {stage : LoopStage}

/-! ## What there is to each move -/

/-- What a loop does to the status of its publisher. -/
def SetsStatus (s s' : Service) (p : Nat) (v : Status) : Prop :=
  ∀ q, (s'.publisher q).status = if q = p then v else (s.publisher q).status

/-- One move of a loop, to the place that is the index. -/
inductive LoopMove (s : Service) (t : Nat) (l : Loop) (s' : Service) : LoopStage → Prop
  /-- Another loop is attached. -/
  | refuse (fresh : l.stage = .fresh) (taken : (s.publisher l.publisher).attached = true)
      (keeps : Keeps (some t) s s') (status : ∀ p, (s'.publisher p).status = (s.publisher p).status) :
      LoopMove s t l s' (.closing .refused .entering)
  /-- The publisher is dead. -/
  | retire (fresh : l.stage = .fresh) (vacant : (s.publisher l.publisher).loop = none)
      (dead : (s.publisher l.publisher).dead = true) (keeps : Keeps (some t) s s')
      (status : ∀ p, (s'.publisher p).status = (s.publisher p).status) :
      LoopMove s t l s' (.closing .retired .entering)
  /-- The loop attaches its channel and listens to its close. -/
  | accept {stage : LoopStage} {notice : Option Nat} (fresh : l.stage = .fresh)
      (vacant : (s.publisher l.publisher).loop = none)
      (live : (s.publisher l.publisher).dead = false)
      (begins : stage = .idle notice ∨ stage = .confirming notice .entering)
      (awaits : ∀ n, notice = some n → Awaits s'.broker n (s.channelOf l.handle))
      (keeps : Keeps (some t) s s') (status : SetsStatus s s' l.publisher .clear) :
      LoopMove s t l s' stage
  /-- The channel closed with an exception. -/
  | fail {notice : Option Nat} {e : Exception} (idle : l.stage = .idle notice)
      (live : (s.publisher l.publisher).dead = false) (keeps : Keeps (some t) s s')
      (status : SetsStatus s s' l.publisher (.failed e)) :
      LoopMove s t l s' (.finished (.closed (some e)))
  /-- The loop opens a request and begins to publish its message. -/
  | begin {notice : Option Nat} {caller : Nat} {e : Event} (idle : l.stage = .idle notice)
      (live : (s.publisher l.publisher).dead = false) (waits : s.noticeOf notice = .waiting)
      (opens : e.opens? = some (t, caller)) (journal : s'.journal = e :: s.journal)
      (handles : s'.handles = s.handles) (broker : s'.broker = s.broker)
      (status : ∀ p, (s'.publisher p).status = (s.publisher p).status)
      (dead : (s'.publisher l.publisher).dead = (s.publisher l.publisher).dead)
      (next : (s.publisher l.publisher).intake.order.head? = some caller)
      (claims : ∃ c, s.tasks[caller]? = some (.call c) ∧ c.request.claimed = false ∧
        s'.tasks[caller]? =
          some (.call { c with request := { c.request with claimed := true } })) :
      LoopMove s t l s' (.publishing notice caller .entering)
  | advance {stage : LoopStage} (leads : l.stage.Leads stage) (keeps : Keeps (some t) s s')
      (status : ∀ p, (s'.publisher p).status = (s.publisher p).status) : LoopMove s t l s' stage

/-- A loop is at another place, and the others are where they were. -/
def Relocates (s : Service) (t : Nat) (l : Loop) (s' : Service) (stage : LoopStage) : Prop :=
  ∀ k, s'.loop? k = if k = t then some { l with stage } else s.loop? k

/-! ## Writing a loop after a calm beginning -/

/-- A loop stands where it moves to. -/
theorem loop?_moveTo (here : s.loop? t = some l) (stage : LoopStage) :
    (s.moveTo t l stage).loop? t = some { l with stage } := by
  rw [loop?_of_write (tasks_moveTo (loop?_eq_some.mp here) stage), if_pos rfl]
  rfl

/-- A calm change and a change of place move one loop. -/
theorem Calm.relocates (calm : Calm (some t) s r) (here : s.loop? t = some l) (stage : LoopStage) :
    Relocates s t l (r.moveTo t l stage) stage := by
  intro k
  have there : r.tasks[t]? = some (.loop l) := loop?_eq_some.mp ((calm.loops t).trans here)
  rw [loop?_of_write (tasks_moveTo there stage), calm.loops]
  rfl

/-- Besides it nothing else changes. -/
theorem Calm.keeps_moveTo (calm : Calm (some t) s r) (l : Loop) (stage : LoopStage) :
    Keeps (some t) s (r.moveTo t l stage) :=
  calm.keeps.trans (.setTask t _)

/-- A loop advances. -/
theorem Calm.advance (calm : Calm (some t) s r) (here : s.loop? t = some l)
    (leads : l.stage.Leads stage) :
    Relocates s t l (r.moveTo t l stage) stage ∧ LoopMove s t l (r.moveTo t l stage) stage :=
  ⟨calm.relocates here stage, .advance leads (calm.keeps_moveTo l stage) calm.status⟩

/-- A loop that ends gives up its channel first. -/
theorem Calm.relocates_endLoop (calm : Calm (some t) s r) (here : s.loop? t = some l)
    (reason : Detach) :
    Relocates s t l (r.endLoop t l reason) (.finished reason) ∧
      Keeps (some t) s (r.endLoop t l reason) := by
  have given : Calm (some t) s (r.detach l) := calm.trans (.detach r l)
  exact ⟨given.relocates here (.finished reason),
    (given.keeps_moveTo l (.finished reason)).trans (.record rfl)⟩

/-- A calm change and the end of a loop move it to its end. -/
theorem Calm.end_ {reason : Detach} (calm : Calm (some t) s r) (here : s.loop? t = some l)
    (leads : l.stage.Leads (.finished reason)) :
    Relocates s t l (r.endLoop t l reason) (.finished reason) ∧
      LoopMove s t l (r.endLoop t l reason) (.finished reason) := by
  obtain ⟨relocates, keeps⟩ := calm.relocates_endLoop here reason
  exact ⟨relocates, .advance leads keeps (calm.trans (.detach r l)).status⟩

/-! ## Beginning -/

/-- Telling the owner is calm. -/
theorem calm_retire (s : Service) (t p : Nat) : Calm (some t) s (s.retire p) := by
  unfold retire
  split
  · exact .refl s
  · have told : Calm (some t) s (s.onPublisher p fun q => { q with forgotten := true }) :=
      .onPublisher rfl
    exact told.trans (.record rfl)

/-- A loop listens to the close of its channel, unless the other end of its notice is gone. -/
theorem calm_listen (s : Service) (t : Nat) (l : Loop) :
    Calm (some t) s (s.listen t l).1 ∧
      ∀ n, (s.listen t l).2 = some n → Awaits (s.listen t l).1.broker n (s.channelOf l.handle) := by
  have began : Calm (some t) s (s.record (.began t l.handle .notifyClose)) := .began rfl rfl
  unfold listen
  simp only []
  split
  · exact ⟨began, nofun⟩
  · refine ⟨began.trans (.broker (Broker.heeds_notifyClose _ _)), fun n new => ?_⟩
    cases new
    exact Broker.awaits_notifyClose s.broker (s.channelOf l.handle)

/-- A change of status is one of a publisher that is there. -/
theorem setsStatus_onPublisher {p : Nat} {v : Status} (inBounds : p < s.publishers.size) :
    SetsStatus s (s.onPublisher p fun q => { q with status := v }) p v := by
  intro q
  rw [publisher_onPublisher]
  simp only [inBounds, and_true]
  split <;> rfl

/-- A loop that is accepted listens to its channel, and goes on calmly. -/
theorem moves_accept {q : Service} (here : s.loop? t = some l) (fresh : l.stage = .fresh)
    (vacant : (s.publisher l.publisher).loop = none)
    (live : (s.publisher l.publisher).dead = false) (keeps : Keeps (some t) s q)
    (cleared : SetsStatus s q l.publisher .clear) (loops : ∀ k, q.loop? k = s.loop? k)
    (channel : q.channelOf l.handle = s.channelOf l.handle)
    (calm : Calm (some t) (q.listen t l).1 r)
    (begins : stage = .idle (q.listen t l).2 ∨ stage = .confirming (q.listen t l).2 .entering) :
    Relocates s t l (r.moveTo t l stage) stage ∧ LoopMove s t l (r.moveTo t l stage) stage := by
  obtain ⟨listens, awaits⟩ := calm_listen q t l
  have later := listens.trans calm
  refine ⟨fun k => ?_, .accept fresh vacant live begins (fun n new => ?_)
    (keeps.trans (later.keeps_moveTo l stage)) fun p => ?_⟩
  · rw [later.relocates ((loops t).trans here) stage k, loops]
  · rw [← channel]
    exact (awaits n new).heeds calm.keeps.heeds
  · rw [← cleared p]
    exact later.status p

/-- A loop that finds its publisher alive and without a loop is accepted. -/
theorem moves_attach (here : s.loop? t = some l) (fresh : l.stage = .fresh)
    (inBounds : l.publisher < s.publishers.size)
    (vacant : (s.publisher l.publisher).loop = none)
    (live : (s.publisher l.publisher).dead = false) :
    ∃ stage, Relocates s t l ((s.onPublisher l.publisher fun p => { p with loop := some t }).attach t l)
        stage ∧
      LoopMove s t l ((s.onPublisher l.publisher fun p => { p with loop := some t }).attach t l)
        stage := by
  have taken : Calm (some t) s (s.onPublisher l.publisher fun p => { p with loop := some t }) :=
    .onPublisher rfl
  have cleared : SetsStatus s
      ((s.onPublisher l.publisher fun p => { p with loop := some t }).onPublisher l.publisher
        fun p => { p with status := .clear }) l.publisher .clear := by
    intro p
    rw [setsStatus_onPublisher (by rwa [publishers_size_onPublisher]) p, taken.status]
  have keeps := taken.keeps.trans (.onPublisher l.publisher fun p => { p with status := .clear })
  unfold attach
  simp only []
  split
  · exact ⟨_, moves_accept here fresh vacant live keeps cleared taken.loops rfl (.note _ _ _)
      (.inl rfl)⟩
  · exact ⟨_, moves_accept here fresh vacant live keeps cleared taken.loops rfl (.began rfl rfl)
      (.inr rfl)⟩

/-- The first move of a loop: it is refused, retires its publisher or is accepted. -/
theorem moves_beginLoop (here : s.loop? t = some l) (fresh : l.stage = .fresh)
    (inBounds : l.publisher < s.publishers.size) :
    ∃ stage, Relocates s t l (s.beginLoop t l) stage ∧ LoopMove s t l (s.beginLoop t l) stage := by
  have closes : ∀ r : Service, Calm (some t) r (r.record (.began t l.handle .close)) :=
    fun r => .began rfl rfl
  unfold beginLoop
  split
  · next taken =>
    have calm := (Calm.note (a := some t) s l.publisher .secondLoopRefused).trans (closes _)
    exact ⟨_, calm.relocates here _, .refuse fresh taken (calm.keeps_moveTo l _) calm.status⟩
  · next unattached =>
    have vacant : (s.publisher l.publisher).loop = none := by
      rw [Publisher.attached, Bool.not_eq_true, Option.isSome_eq_false_iff,
        Option.isNone_iff_eq_none] at unattached
      exact unattached
    have taken : Calm (some t) s (s.onPublisher l.publisher fun p => { p with loop := some t }) :=
      .onPublisher rfl
    have same : ((s.onPublisher l.publisher fun p => { p with loop := some t }).publisher
        l.publisher).dead = (s.publisher l.publisher).dead :=
      publisher_onPublisher_congr Publisher.dead rfl _
    simp only [same]
    split
    · next dead =>
      have calm := taken.trans ((calm_retire _ t l.publisher).trans
        ((Calm.note _ l.publisher .refusedDead).trans (closes _)))
      exact ⟨_, calm.relocates here _, .retire fresh vacant dead (calm.keeps_moveTo l _) calm.status⟩
    · next living => exact moves_attach here fresh inBounds vacant (Bool.eq_false_iff.mpr living)

/-! ## Moving on -/

/-- After its close a loop ends for the reason it closed for. -/
theorem moves_endClose {farewell : Farewell} {result : Except Exception Unit}
    (here : s.loop? t = some l) (closing : l.stage = .closing farewell (.leaving result)) :
    Relocates s t l (s.endClose t l farewell result) (.finished farewell.detach) ∧
      LoopMove s t l (s.endClose t l farewell result) (.finished farewell.detach) := by
  have leads : l.stage.Leads (.finished farewell.detach) := by
    rw [closing]
    exact .leave
  unfold endClose
  simp only []
  split
  · exact ((Calm.note _ _ _).trans (.note _ _ _)).end_ here leads
  · exact (Calm.note _ _ _).end_ here leads
  · exact (Calm.note _ _ _).end_ here leads
  · exact (Calm.refl _).end_ here leads

/-- After confirm mode a loop is idle. -/
theorem moves_endConfirm {notice : Option Nat} {result : Except Exception Unit}
    (here : s.loop? t = some l) (confirming : l.stage = .confirming notice (.leaving result)) :
    Relocates s t l (s.endConfirm t l notice result) (.idle notice) ∧
      LoopMove s t l (s.endConfirm t l notice result) (.idle notice) := by
  have serves : ∀ {r : Service}, Calm (some t) s r →
      Relocates s t l (r.beginServing t l notice) (.idle notice) ∧
        LoopMove s t l (r.beginServing t l notice) (.idle notice) := by
    intro r calm
    refine (calm.trans (.note _ _ _)).advance here ?_
    rw [confirming]
    exact .serve
  have registers : Calm (some t) s (s.record (.began t l.handle .notifyPublish)) := .began rfl rfl
  unfold endConfirm
  simp only []
  split
  · exact serves (registers.trans (.broker (Broker.heeds_notifyPublish _ _ _)))
  · exact serves (.refl s)
  · exact serves ((Calm.note _ _ _).trans (.record rfl))

/-- A publish takes effect, which is no end of it. -/
theorem moves_publishNow {notice : Option Nat} {caller : Nat} (sound : Sound s)
    (here : s.loop? t = some l) (publishing : l.stage = .publishing notice caller .entering) :
    ∃ stage, Relocates s t l (s.publishNow t l notice caller) stage ∧
      LoopMove s t l (s.publishNow t l notice caller) stage := by
  obtain ⟨F, accounted⟩ := sound.accounted
  obtain ⟨c, there⟩ := call?_of_publishing accounted (loop?_eq_some.mp here) publishing
  have leads : ∀ result, l.stage.Leads (.publishing notice caller (.leaving result)) := by
    intro result
    rw [publishing]
    exact .publish
  have published := Broker.heeds_publish s.broker (s.channelOf l.handle)
    (s.publisher l.publisher).exchange c.request.routingKey {} c.request.message
  unfold publishNow
  rw [there]
  simp only []
  split
  · exact ⟨_, ((Calm.after published).trans (.record rfl)).advance here (leads _)⟩
  · exact ⟨_, (Calm.after published).advance here (leads _)⟩

/-- After a publish a loop is idle again. -/
theorem moves_endPublish {notice : Option Nat} {caller : Nat} {result : Except Exception Unit}
    (sound : Sound s) (here : s.loop? t = some l)
    (publishing : l.stage = .publishing notice caller (.leaving result)) :
    Relocates s t l (s.endPublish t l notice caller result) (.idle notice) ∧
      LoopMove s t l (s.endPublish t l notice caller result) (.idle notice) := by
  obtain ⟨F, accounted⟩ := sound.accounted
  obtain ⟨c, found⟩ := call?_of_publishing accounted (loop?_eq_some.mp here) publishing
  have answers : ∀ {r : Service}, Calm (some t) s r → r.tasks = s.tasks →
      Relocates s t l (r.closeRequest t l notice caller c result) (.idle notice) ∧
        LoopMove s t l (r.closeRequest t l notice caller c result) (.idle notice) := by
    intro r calm tasks
    have there : r.tasks[caller]? = some (.call c) := by rw [tasks, call?_eq_some.mp found]
    have answered := calm.trans (.setCall there
      { c with request := c.request.answer (result.mapError Publisher.Failure.publish) })
    refine ⟨answered.relocates here (.idle notice), .advance ?_
      ((answered.keeps_moveTo l _).trans (.record rfl)) answered.status⟩
    rw [publishing]
    exact .answer
  unfold endPublish
  rw [found]
  simp only []
  split
  · exact answers (.note _ _ _) rfl
  · exact answers (.refl s) rfl

/-! ## Taking up a request, or ending -/

/-- A loop takes up a request only while it is not told that its channel closed. -/
theorem moves_takeUp {notice : Option Nat} {caller : Nat} {rest : Publisher.Intake} (sound : Sound s)
    (here : s.loop? t = some l) (idle : l.stage = .idle notice)
    (live : (s.publisher l.publisher).dead = false) (waits : s.noticeOf notice = .waiting)
    (next : (s.publisher l.publisher).intake.take? = some (caller, rest)) :
    ∃ stage, (stage = .idle notice ∨ stage = .publishing notice caller .entering) ∧
      Relocates s t l ((s.withIntake l.publisher rest).takeUp t l notice caller) stage ∧
      LoopMove s t l ((s.withIntake l.publisher rest).takeUp t l notice caller) stage := by
  obtain ⟨F, accounted⟩ := sound.accounted
  obtain ⟨⟨c, there, -, -⟩, -⟩ := accounted.taken next
  have found := call?_eq_some.mp there
  have taken : Calm (some t) s (s.withIntake l.publisher rest) := .onPublisher rfl
  unfold takeUp
  rw [show (s.withIntake l.publisher rest).call? caller = some c from there]
  -- a request that somebody claimed is a shell: the loop passes over it and stays where it is
  by_cases claimed : c.request.claimed = true
  · simp only [Publisher.Request.openBy, claimed, if_true]
    have calm := taken.trans (.note _ l.publisher .requestWithdrawn)
    refine ⟨.idle notice, .inl rfl, fun k => ?_,
      .advance (by rw [idle]; exact .skip) calm.keeps calm.status⟩
    rw [calm.loops]
    split
    · next at_t =>
      rw [at_t, here, ← idle]
    · rfl
  · have free := Bool.eq_false_iff.mpr claimed
    simp only [Publisher.Request.openBy, free, Bool.false_eq_true, if_false]
    have opened := taken.trans (.setCall (s := s.withIntake l.publisher rest) found
      { c with request := { c.request with claimed := true } })
    have first := congrArg List.head? (Publisher.Intake.order_of_take? next)
    refine ⟨_, .inr rfl, opened.relocates here (.publishing notice caller .entering),
      .begin idle live waits rfl rfl rfl rfl opened.status
        (publisher_onPublisher_congr Publisher.dead rfl _) first ⟨c, found, free, ?_⟩⟩
    have apart : caller ≠ t := by
      rintro rfl
      rw [loop?_eq_some.mp here] at found
      cases found
    have written := tasks_openRequest (s := s.withIntake l.publisher rest)
      (loop?_eq_some.mp here) found notice caller
    rw [if_neg apart, if_pos rfl] at written
    exact written

/-- A loop whose channel closed with an exception leaves it as the status of its publisher. -/
theorem moves_fail {notice : Option Nat} {e : Exception} (here : s.loop? t = some l)
    (idle : l.stage = .idle notice) (inBounds : l.publisher < s.publishers.size)
    (live : (s.publisher l.publisher).dead = false) :
    let s' := ((s.note l.publisher (.channelFailed e)).onPublisher l.publisher
      fun q => { q with status := .failed e }).endLoop t l (.closed (some e))
    Relocates s t l s' (.finished (.closed (some e))) ∧
      LoopMove s t l s' (.finished (.closed (some e))) := by
  have noted : Calm (some t) s (s.note l.publisher (.channelFailed e)) := .note _ _ _
  have failed := setsStatus_onPublisher (s := s.note l.publisher (.channelFailed e)) (v := .failed e)
    inBounds
  generalize told : (s.note l.publisher (.channelFailed e)).onPublisher l.publisher
    (fun q => { q with status := .failed e }) = r at failed
  have keeps : Keeps (some t) s r := by
    rw [← told]
    exact noted.keeps.trans (.onPublisher _ _)
  have loops : ∀ k, r.loop? k = s.loop? k := by
    rw [← told]
    exact noted.loops
  obtain ⟨relocates, ended⟩ :=
    (Calm.refl r).relocates_endLoop ((loops t).trans here) (.closed (some e))
  refine ⟨fun k => ?_, .fail idle live (keeps.trans ended) fun q => ?_⟩
  · rw [relocates k, loops]
  · rw [← noted.status q, ← failed q]
    exact (Calm.detach (a := some t) r l).status q

/-- An idle loop stops, hears that its channel has closed, skips a request or begins a publish. -/
theorem moves_moveIdle {notice : Option Nat} (sound : Sound s) (here : s.loop? t = some l)
    (idle : l.stage = .idle notice) (moves : s.moveIdle t l notice = some s') :
    ∃ stage, Relocates s t l s' stage ∧ LoopMove s t l s' stage := by
  have inBounds : l.publisher < s.publishers.size :=
    sound.bounded.task t _ (loop?_eq_some.mp here)
  unfold moveIdle at moves
  simp only [] at moves
  split at moves
  · cases moves
    have calm := (Calm.drain (a := some t) s l.publisher).trans ((calm_retire _ t l.publisher).trans
      (.began (e := .began t l.handle .close) rfl rfl))
    exact ⟨_, calm.advance here (by rw [idle]; exact .stop)⟩
  · next living =>
    have live := Bool.eq_false_iff.mpr living
    split at moves
    · cases moves
      exact ⟨_, moves_fail here idle inBounds live⟩
    · cases moves
      exact ⟨_, (Calm.note _ _ _).end_ here (by rw [idle]; exact .end_)⟩
    · cases moves
      exact ⟨_, (Calm.note _ _ _).end_ here (by rw [idle]; exact .end_)⟩
    · next waits =>
      obtain ⟨⟨caller, rest⟩, next, rfl⟩ := Option.map_eq_some_iff.mp moves
      obtain ⟨stage, -, moved⟩ := moves_takeUp sound here idle live waits next
      exact ⟨stage, moved⟩

/-- Every move of a loop is one of those that are listed. -/
theorem moves_loop (sound : Sound s) (here : s.loop? t = some l) (moves : s.move t = some s') :
    ∃ stage, Relocates s t l s' stage ∧ LoopMove s t l s' stage := by
  rw [move, loop?_eq_some.mp here] at moves
  simp only [moveLoop] at moves
  split at moves
  · cases moves
  · -- one case for each place a loop can be in, in the order of the definition
    unfold moveFreely at moves
    split at moves
    · next fresh =>
      cases moves
      exact moves_beginLoop here fresh (sound.bounded.task t _ (loop?_eq_some.mp here))
    · next farewell closing =>
      cases moves
      have closed := Broker.heeds_close s.broker (s.channelOf l.handle)
      exact ⟨_, (Calm.after closed).advance here (by rw [closing]; exact .close)⟩
    · next closing =>
      cases moves
      exact ⟨_, moves_endClose here closing⟩
    · next confirming =>
      cases moves
      have selected := Broker.heeds_confirmSelect s.broker (s.channelOf l.handle)
      exact ⟨_, (Calm.broker selected).advance here (by rw [confirming]; exact .confirm)⟩
    · next confirming =>
      cases moves
      exact ⟨_, moves_endConfirm here confirming⟩
    · next idle => exact moves_moveIdle sound here idle moves
    · next publishing =>
      cases moves
      exact moves_publishNow sound here publishing
    · next publishing =>
      cases moves
      exact ⟨_, moves_endPublish sound here publishing⟩
    · cases moves
    · cases moves

/-- A loop that has not begun can move. -/
theorem move_of_fresh (here : s.loop? t = some l) (fresh : l.stage = .fresh) :
    s.move t = some (s.beginLoop t l) := by
  have free : s.isHeldUp l = false := by rw [isHeldUp, fresh]; rfl
  rw [move, loop?_eq_some.mp here]
  simp only [moveLoop, free, Bool.false_eq_true, if_false, moveFreely, fresh]

/-! ## Acts -/

/-- An act moves one loop, or it moves none; in that case no loop stood at its beginning that could
have moved. -/
theorem Sound.act_cases (sound : Sound s) (a : Act) :
    (Outer s (s.act a) ∧ ∀ t l, a = .move t → s.loop? t = some l → l.stage ≠ .fresh) ∨
    ∃ t l stage, a = .move t ∧ s.loop? t = some l ∧ Relocates s t l (s.act a) stage ∧
      LoopMove s t l (s.act a) stage := by
  cases a with
  | command c passive => exact .inl ⟨.step s passive, nofun⟩
  | move t =>
    cases moves : s.move t with
    | none =>
      rw [act_move_of_none moves]
      refine .inl ⟨.of_calm (.refl s), fun k l same here fresh => ?_⟩
      cases same
      rw [move_of_fresh here fresh] at moves
      cases moves
    | some s' =>
      rw [act_move_of_some moves]
      cases here : s.tasks[t]? with
      | none =>
        rw [move_of_absent here] at moves
        cases moves
      | some x =>
        cases x with
        | call c =>
          have calm : Calm none s s' := .moveCall sound here ((move_of_call here).symm.trans moves)
          refine .inl ⟨.of_calm calm, fun k l same there => ?_⟩
          cases same
          rw [loop?_eq_some.mp there] at here
          cases here
        | loop l =>
          obtain ⟨stage, relocates, move⟩ := moves_loop sound (loop?_eq_some.mpr here) moves
          exact .inr ⟨t, l, stage, rfl, loop?_eq_some.mpr here, relocates, move⟩

/-- A loop that moved has begun. -/
theorem LoopMove.ne_fresh (move : LoopMove s t l s' stage) : stage ≠ .fresh := by
  cases move with
  | accept _ _ _ begins => rcases begins with rfl | rfl <;> exact nofun
  | advance leads => exact leads.ne_fresh
  | refuse | retire | fail | begin => exact nofun

/-- A loop that moves is not over. -/
theorem LoopMove.alive (move : LoopMove s t l s' stage) : (Task.loop l).isOver = false := by
  cases move with
  | refuse fresh | retire fresh | accept fresh => simp [Task.isOver, fresh]
  | fail idle | begin idle => simp [Task.isOver, idle]
  | advance leads =>
    cases place : l.stage with
    | finished | dropped =>
      rw [place] at leads
      cases leads
    | _ => simp [Task.isOver, place]

/-- Where a loop stands after another loop moved. -/
theorem Relocates.other {k : Nat} {x : Loop} (relocates : Relocates s t l s' stage) (apart : k ≠ t) :
    s'.loop? k = some x ↔ s.loop? k = some x := by
  rw [relocates k, if_neg apart]

/-- The loop that moved. -/
theorem Relocates.own (relocates : Relocates s t l s' stage) :
    s'.loop? t = some { l with stage } := by
  rw [relocates t, if_pos rfl]

/-- A loop is where it went, if it is the one that moved, or where it was. -/
theorem Relocates.before {k : Nat} {x : Loop} (relocates : Relocates s t l s' stage)
    (there : s'.loop? k = some x) : t = k ∧ x = { l with stage } ∨ k ≠ t ∧ s.loop? k = some x := by
  by_cases same : k = t
  · subst same
    rw [relocates.own] at there
    exact .inl ⟨rfl, (Option.some.inj there).symm⟩
  · exact .inr ⟨same, (relocates.other same).mp there⟩

/-- Every other loop is where it was. -/
theorem Relocates.after {k : Nat} {x : Loop} (relocates : Relocates s t l s' stage)
    (here : s.loop? t = some l) (there : s.loop? k = some x) :
    t = k ∧ l = x ∨ k ≠ t ∧ s'.loop? k = some x := by
  by_cases same : k = t
  · subst same
    rw [here] at there
    exact .inl ⟨rfl, Option.some.inj there⟩
  · exact .inr ⟨same, (relocates.other same).mpr there⟩

/-! ## Beginnings -/

/-- Whether a loop has not begun. -/
def LoopStage.isFresh : LoopStage → Bool
  | fresh => true
  | _ => false

/-- A place is fresh just if it is the first. -/
theorem LoopStage.isFresh_iff {stage : LoopStage} : stage.isFresh = true ↔ stage = .fresh := by
  cases stage <;> simp [LoopStage.isFresh]

/-- The loop of a publisher that begins with an act: the act is its first move. -/
def begins? (p : Nat) (s : Service) : Act → Option Nat
  | .command .. => none
  | .move t =>
    match s.loop? t with
    | some l => if l.stage.isFresh = true ∧ l.publisher = p then some t else none
    | none => none

/-- The act with which a loop of a publisher begins. -/
theorem begins?_eq_some {p : Nat} {a : Act} :
    begins? p s a = some t ↔
      a = .move t ∧ ∃ l, s.loop? t = some l ∧ l.stage = .fresh ∧ l.publisher = p := by
  cases a with
  | command => simp [begins?]
  | move k =>
    rw [begins?]
    cases here : s.loop? k with
    | none =>
      simp only [reduceCtorEq, Act.move.injEq, false_iff]
      rintro ⟨rfl, l, there, -⟩
      rw [here] at there
      cases there
    | some x =>
      simp only [Option.ite_none_right_eq_some, Option.some.injEq, Act.move.injEq,
        LoopStage.isFresh_iff]
      constructor
      · rintro ⟨⟨fresh, own⟩, rfl⟩
        exact ⟨rfl, x, here, fresh, own⟩
      · rintro ⟨rfl, l, there, fresh, own⟩
        rw [here] at there
        cases there
        exact ⟨⟨fresh, own⟩, rfl⟩

/-- A loop that moves begins, if it has not begun. -/
theorem begins?_of_fresh {p : Nat} {a : Act} (moved : a = .move t) (here : s.loop? t = some l)
    (fresh : l.stage = .fresh) (own : l.publisher = p) : begins? p s a = some t :=
  begins?_eq_some.mpr ⟨moved, l, here, fresh, own⟩

/-- No loop of a publisher begins when one moves that has begun, or is another publisher's. -/
theorem begins?_of_begun {p : Nat} {a : Act} (moved : a = .move t) (here : s.loop? t = some l)
    (begun : l.stage = .fresh → l.publisher ≠ p) : begins? p s a = none := by
  cases begins : begins? p s a with
  | none => rfl
  | some k =>
    obtain ⟨rfl, x, there, fresh, own⟩ := begins?_eq_some.mp begins
    cases moved
    rw [here] at there
    cases there
    exact absurd own (begun fresh)

/-- No loop begins when none moves. -/
theorem begins?_of_outer {a : Act} {p : Nat}
    (unmoved : ∀ t l, a = .move t → s.loop? t = some l → l.stage ≠ .fresh) : begins? p s a = none := by
  cases begins : begins? p s a with
  | none => rfl
  | some k =>
    obtain ⟨moved, x, there, fresh, -⟩ := begins?_eq_some.mp begins
    exact absurd fresh (unmoved k x moved there)

end Relay.Service
