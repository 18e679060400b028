import Relay.Proofs.Accounting

/-!
# Moves are steps

A move of a task is a few steps of that task and makes it lighter. The weight of a loop counts the
moves that it can still make where it stands and three for each request in the intake of its publisher,
so a poll, which allows for more moves than that, ends where the task can move no further.
-/

namespace Relay.Service

open Broker (Exception)
open Publisher (Failure Detach)

variable {s s' : Service} {t : Nat} {F : Nat → Fate}

/-! ## Weights -/

/-- A bound on the moves that a call can still make. -/
def CallStage.weight : CallStage → Nat
  | fresh => 2
  | waiting => 1
  | finished _ | dropped => 0

/-- A bound on the moves that a loop can still make, requests aside. -/
def LoopStage.weight : LoopStage → Nat
  | fresh => 6
  | confirming _ .entering | publishing _ _ .entering => 5
  | confirming _ (.leaving _) | publishing _ _ (.leaving _) => 4
  | idle _ => 3
  | closing _ .entering => 2
  | closing _ (.leaving _) => 1
  | finished _ | dropped => 0

/-- A bound on the moves that a task can still make in one poll. -/
def weight (s : Service) (t : Nat) : Nat :=
  match s.tasks[t]? with
  | some (.call c) => c.stage.weight
  | some (.loop l) => l.stage.weight + 3 * (s.publisher l.publisher).intake.size
  | none => 0

/-- The weight of a task that is a call. -/
theorem weight_of_call {c : Call} (here : s.tasks[t]? = some (.call c)) :
    s.weight t = c.stage.weight := by
  rw [weight, here]

/-- The weight of a task that is a loop. -/
theorem weight_of_loop {l : Loop} (here : s.tasks[t]? = some (.loop l)) :
    s.weight t = l.stage.weight + 3 * (s.publisher l.publisher).intake.size := by
  rw [weight, here]

/-- A poll allows for more moves than the task can make. -/
theorem weight_lt_moveBound (s : Service) (t : Nat) : s.weight t < s.moveBound t := by
  unfold weight moveBound
  cases s.tasks[t]? with
  | none => exact Nat.zero_lt_succ 2
  | some x =>
    cases x with
    | call c =>
      cases stage : c.stage <;> simp [CallStage.weight, stage]
    | loop l =>
      have few : l.stage.weight ≤ 6 := by
        unfold LoopStage.weight
        split <;> decide
      simp only
      omega

/-! ## Services that are alike -/

namespace Alike

/-- Services that are alike have the same publishers. -/
theorem publisher (alike : Alike s s') (p : Nat) : s'.publisher p = s.publisher p := by
  rw [Service.publisher, alike.publishers, Service.publisher]

/-- They stay alike when a loop changes its place in both. -/
theorem moveTo (alike : Alike s s') (t : Nat) (l : Loop) (stage : LoopStage) :
    Alike (s.moveTo t l stage) (s'.moveTo t l stage) :=
  { alike with
    tasks := by simp only [Service.moveTo, setTask, alike.tasks] }

end Alike

/-- One step of a task. -/
theorem Steps.one (step : Step s (some t) s') : Steps t s s' := .single step

/-- Things of no consequence after some steps. -/
theorem Steps.alike {s'' : Service} (steps : Steps t s s') (alike : Alike s' s'') : Steps t s s'' :=
  steps.tail (.quiet alike)

/-- A loop in another place weighs what that place does, for the same intake. -/
theorem weight_moveTo {l : Loop} (here : s.tasks[t]? = some (.loop l)) (stage : LoopStage) :
    (s.moveTo t l stage).weight t
      = stage.weight + 3 * (s.publisher l.publisher).intake.size := by
  have moved : (s.moveTo t l stage).tasks[t]? = some (.loop { l with stage }) := by
    rw [tasks_moveTo here, if_pos rfl]
  exact weight_of_loop moved

/-- Of the weight of a loop that ends only its intake is left. -/
theorem weight_endLoop {l : Loop} (here : s.tasks[t]? = some (.loop l)) (reason : Detach) :
    (s.endLoop t l reason).weight t = 3 * (s.publisher l.publisher).intake.size := by
  have ended : (s.endLoop t l reason).tasks[t]?
      = some (.loop { l with stage := .finished reason }) := by
    rw [tasks_endLoop here, if_pos rfl]
  have intake : ((s.endLoop t l reason).publisher l.publisher).intake
      = (s.publisher l.publisher).intake := (Accounted.orders_detach s l l.publisher).1
  rw [weight_of_loop ended, LoopStage.weight, Nat.zero_add, intake]

/-- What a move does: steps of the task, after which it is lighter. -/
structure Goes (s : Service) (t : Nat) (s' : Service) : Prop where
  steps : Steps t s s'
  lighter : s'.weight t < s.weight t

/-! ## Calls -/

/-- A call that ends has spent its weight. -/
theorem goes_endCall {c : Call} {r : Except Failure Unit} (here : s.tasks[t]? = some (.call c))
    (alive : c.stage = .fresh ∨ c.stage = .waiting) (step : Step s (some t) (s.endCall t c r)) :
    Goes s t (s.endCall t c r) := by
  refine ⟨.one step, ?_⟩
  have ended : (s.endCall t c r).tasks[t]? = some (.call (c.ended r)) := by
    rw [tasks_endCall here, if_pos rfl]
  rw [weight_of_call ended, weight_of_call here]
  rcases alive with fresh | waiting
  · simp [Call.ended, CallStage.weight, fresh]
  · simp [Call.ended, CallStage.weight, waiting]

/-- A cancellation leaves a call alone that has not put in its request. -/
theorem tasks_cancel_of_fresh {c : Call} {p : Nat} (accounted : Accounted s F)
    (here : s.tasks[t]? = some (.call c)) (fresh : c.stage = .fresh) :
    (s.cancel p).1.tasks[t]? = some (.call c) := by
  have outside : t ∉ (s.publisher p).intake.order := by
    refine accounted.not_mem_order ?_ p
    rw [(accounted.call t c (call?_eq_some.mpr here)).fresh fresh]
    exact Fate.not_waits_unsent
  cases dead : (s.publisher p).dead with
  | true => rw [cancel_of_dead dead]; exact here
  | false =>
    have order : ((s.sentence p).publisher p).intake.order = (s.publisher p).intake.order :=
      publisher_onPublisher_congr (fun q => q.intake.order) (s := s.record _) rfl p
    rw [cancel_of_live dead, tasks_drain, order, if_neg outside]
    exact here

/-- A publisher that is there is dead after its cancellation. -/
theorem dead_cancel {p : Nat} (inBounds : p < s.publishers.size) :
    ((s.cancel p).1.publisher p).dead = true := by
  cases dead : (s.publisher p).dead with
  | true => rw [cancel_of_dead dead]; exact dead
  | false => rw [publisher_cancel_of_live inBounds dead, if_pos rfl]

/-- A dead publisher turns calls away as dead. -/
theorem refusal?_of_dead {p : Publisher} (dead : p.dead = true) : p.refusal? = some .dead := by
  rw [Publisher.refusal?, if_pos dead]

/-- The first move of a call is a step that ends it or puts in its request. An overtaken call is
cancelled and then turned away, which are two. -/
theorem goes_beginCall {c : Call} (bounded : Bounded s) (accounted : Accounted s F)
    (here : s.tasks[t]? = some (.call c)) (fresh : c.stage = .fresh) : Goes s t (s.beginCall t c) := by
  have inBounds : c.publisher < s.publishers.size := bounded.task t _ here
  unfold beginCall
  split
  · next refused => exact goes_endCall here (.inl fresh) (.refuse here fresh refused)
  · next admitted =>
    split
    · -- the cancellation comes first, then the call is turned away
      have there : ((s.cancel c.publisher).1.note c.publisher .overtaken).tasks[t]? = some (.call c) :=
        tasks_cancel_of_fresh accounted here fresh
      have cancelled : Step s (some t) (s.cancel c.publisher).1 :=
        .cancel (fun u same => ⟨c, by rw [← Option.some.inj same, here]⟩) inBounds
      have noted : Steps t s ((s.cancel c.publisher).1.note c.publisher .overtaken) :=
        Steps.alike (.one cancelled) (.note _ _ _)
      have refused : Step ((s.cancel c.publisher).1.note c.publisher .overtaken) (some t)
          (((s.cancel c.publisher).1.note c.publisher .overtaken).endCall t c (.error .dead)) :=
        .refuse there fresh (refusal?_of_dead (dead_cancel inBounds))
      obtain ⟨steps, lighter⟩ := goes_endCall there (.inl fresh) refused
      refine ⟨noted.trans steps, ?_⟩
      rw [weight_of_call there] at lighter
      rw [weight_of_call here]
      exact lighter
    · refine ⟨.one (.request here fresh admitted), ?_⟩
      have waits : (s.enqueue t c).tasks[t]? = some (.call { c with stage := .waiting }) := by
        rw [tasks_enqueue here, if_pos rfl]
      rw [weight_of_call waits, weight_of_call here, fresh]
      exact Nat.one_lt_two

/-- Every move of a call is some steps and makes it lighter. -/
theorem goes_moveCall {c : Call} (bounded : Bounded s) (accounted : Accounted s F)
    (here : s.tasks[t]? = some (.call c)) (h : s.moveCall t c = some s') : Goes s t s' := by
  unfold moveCall at h
  split at h
  · next fresh =>
    cases h
    exact goes_beginCall bounded accounted here fresh
  · next waiting =>
    obtain ⟨r, outcome, rfl⟩ := Option.map_eq_some_iff.mp h
    exact goes_endCall here (.inr waiting) (.learn here waiting outcome)
  · cases h
  · cases h

/-! ## Loops -/

/-- Steps that do not make the task heavier may come before a move. -/
theorem Goes.after {r : Service} (steps : Steps t s r) (same : r.weight t ≤ s.weight t)
    (goes : Goes r t s') : Goes s t s' :=
  ⟨steps.trans goes.steps, Nat.lt_of_lt_of_le goes.lighter same⟩

/-- The loop moves on, after something of no consequence. -/
theorem goes_advance {r : Service} {l : Loop} {stage : LoopStage} (alike : Alike s r)
    (here : s.tasks[t]? = some (.loop l)) (attached : stage.isAttached = l.stage.isAttached)
    (caller : stage.caller? = l.stage.caller?) (going : (Task.loop { l with stage }).isOver = false)
    (lighter : stage.weight < l.stage.weight) : Goes s t (r.moveTo t l stage) := by
  have there : r.tasks[t]? = some (.loop l) := by rw [alike.tasks, here]
  refine ⟨(Steps.one (.quiet alike)).tail (.advance there attached caller going), ?_⟩
  rw [weight_moveTo there, weight_of_loop here, alike.publisher]
  exact Nat.add_lt_add_right lighter _

/-- The loop ends, after something of no consequence. -/
theorem goes_endLoop {r : Service} {l : Loop} {reason : Detach} (alike : Alike s r)
    (here : s.tasks[t]? = some (.loop l)) (free : l.stage.caller? = none)
    (alive : 0 < l.stage.weight)
    (live : ∀ c, reason = .closed c → (s.publisher l.publisher).dead = false) :
    Goes s t (r.endLoop t l reason) := by
  have there : r.tasks[t]? = some (.loop l) := by rw [alike.tasks, here]
  refine ⟨(Steps.one (.quiet alike)).tail (.endLoop there free ?_), ?_⟩
  · rw [alike.publisher]
    exact live
  · rw [weight_endLoop there, weight_of_loop here, alike.publisher]
    omega

/-- The loop becomes the one of its publisher and goes on with other fields of the publisher. -/
theorem goes_attach {r : Service} {l : Loop} {stage : LoopStage}
    (here : s.tasks[t]? = some (.loop l)) (fresh : l.stage = .fresh)
    (vacant : (s.publisher l.publisher).loop = none) (attached : stage.isAttached = true)
    (free : stage.caller? = none) (lighter : stage.weight < 6) (tasks : r.tasks = s.tasks)
    (intake : (r.publisher l.publisher).intake = (s.publisher l.publisher).intake)
    (rest : Steps t ((s.onPublisher l.publisher fun p => { p with loop := some t }).moveTo t l stage)
      (r.moveTo t l stage)) : Goes s t (r.moveTo t l stage) := by
  have there : r.tasks[t]? = some (.loop l) := by rw [tasks, here]
  refine ⟨(Steps.one (.attach here fresh vacant attached free)).trans rest, ?_⟩
  rw [weight_moveTo there, weight_of_loop here, intake, fresh]
  exact Nat.add_lt_add_right lighter _

/-- Asking for a close notice is of no consequence. -/
theorem listen_alike (s : Service) (t : Nat) (l : Loop) : Alike s (s.listen t l).1 := by
  have recorded : Alike s (s.record (.began t l.handle .notifyClose)) := .record rfl
  unfold listen
  simp only []
  split
  · exact recorded
  · exact recorded.trans (.of_fields rfl rfl rfl rfl)

/-- Retiring a publisher does nothing, or marks it forgotten and says so. -/
theorem retire_eq (s : Service) (p : Nat) :
    s.retire p = s ∨
      s.retire p = (s.onPublisher p fun q => { q with forgotten := true }).record (.forgotten p) := by
  unfold retire
  split
  · exact .inl rfl
  · exact .inr rfl

/-- Retiring a publisher changes no task. -/
theorem tasks_retire (s : Service) (p : Nat) : (s.retire p).tasks = s.tasks := by
  rcases retire_eq s p with same | forgets
  · rw [same]
  · rw [forgets]
    rfl

/-- Nor does it change an intake. -/
theorem intake_retire (s : Service) (p q : Nat) :
    ((s.retire p).publisher q).intake = (s.publisher q).intake := by
  rcases retire_eq s p with same | forgets
  · rw [same]
  · rw [forgets]
    exact publisher_onPublisher_congr Publisher.intake rfl q

/-- It is at most one step. -/
theorem steps_retire (s : Service) (t p : Nat) : Steps t s (s.retire p) := by
  rcases retire_eq s p with same | forgets
  · rw [same]
  · rw [forgets]
    exact Steps.alike (.one .forget) (.record rfl)

/-- Retiring a publisher and moving a loop can be done in either order. -/
theorem retire_moveTo (s : Service) (p t : Nat) (l : Loop) (stage : LoopStage) :
    (s.moveTo t l stage).retire p = (s.retire p).moveTo t l stage := by
  unfold retire
  split
  · next forgotten => rw [if_pos (show (s.publisher p).forgotten = true from forgotten)]
  · next known =>
    rw [if_neg (show ¬ (s.publisher p).forgotten = true from known)]
    rfl

/-- A loop that attaches itself to a live publisher begins to serve it. -/
theorem goes_serve {l : Loop} (here : s.tasks[t]? = some (.loop l)) (fresh : l.stage = .fresh)
    (vacant : (s.publisher l.publisher).loop = none)
    (live : ((s.onPublisher l.publisher fun p => { p with loop := some t }).publisher
      l.publisher).dead = false) :
    Goes s t ((s.onPublisher l.publisher fun p => { p with loop := some t }).attach t l) := by
  have cleared : ∀ {r : Service} {stage : LoopStage},
      Alike ((s.onPublisher l.publisher fun p => { p with loop := some t }).onPublisher l.publisher
        fun p => { p with status := .clear }) r →
      stage.isAttached = true → stage.caller? = none → stage.weight < 6 →
      Goes s t (r.moveTo t l stage) := by
    intro r stage alike attached free lighter
    refine goes_attach here fresh vacant attached free lighter alike.tasks ?_ ?_
    · rw [alike.publisher]
      exact (publisher_onPublisher_congr Publisher.intake rfl _).trans
        (publisher_onPublisher_congr Publisher.intake rfl _)
    · have status : Step ((s.onPublisher l.publisher fun p => { p with loop := some t }).moveTo t l
          stage) (some t) _ := .status (p := l.publisher) (v := .clear) live
      exact (Steps.one status).alike (alike.moveTo t l stage)
  have listens := listen_alike ((s.onPublisher l.publisher fun p => { p with loop := some t }).onPublisher
    l.publisher fun p => { p with status := .clear }) t l
  unfold attach
  simp only []
  split
  · exact cleared (listens.trans (.note _ _ _)) rfl rfl (show 3 < 6 by decide)
  · exact cleared (listens.trans (.record rfl)) rfl rfl (show 5 < 6 by decide)

/-- The first move of a loop is some steps and makes it lighter. -/
theorem goes_beginLoop {l : Loop} (here : s.tasks[t]? = some (.loop l)) (fresh : l.stage = .fresh) :
    Goes s t (s.beginLoop t l) := by
  unfold beginLoop
  split
  · have alike : Alike s ((s.note l.publisher .secondLoopRefused).record (.began t l.handle .close)) :=
      (Alike.note _ _ _).trans (.record rfl)
    exact goes_advance alike here (by rw [fresh]; rfl) (by rw [fresh]; rfl) rfl
      (by rw [fresh]; decide)
  · next unattached =>
    have vacant : (s.publisher l.publisher).loop = none := by
      rw [Publisher.attached, Bool.not_eq_true, Option.isSome_eq_false_iff,
        Option.isNone_iff_eq_none] at unattached
      exact unattached
    have intake : ((s.onPublisher l.publisher fun p => { p with loop := some t }).publisher
        l.publisher).intake = (s.publisher l.publisher).intake :=
      publisher_onPublisher_congr Publisher.intake rfl _
    simp only []
    split
    · have alike : Alike ((s.onPublisher l.publisher fun p => { p with loop := some t }).retire
          l.publisher) _ :=
        (Alike.note _ l.publisher .refusedDead).trans (.record (e := .began t l.handle .close) rfl)
      refine goes_attach (r := (((s.onPublisher l.publisher fun p => { p with loop := some t }).retire
        l.publisher).note l.publisher .refusedDead).record (.began t l.handle .close)) here fresh
        vacant rfl rfl (by decide) (tasks_retire _ _) ((intake_retire _ _ _).trans intake) ?_
      have retired := steps_retire ((s.onPublisher l.publisher fun p => { p with loop := some t }).moveTo
        t l (.closing .retired .entering)) t l.publisher
      rw [retire_moveTo] at retired
      exact retired.alike (alike.moveTo _ _ _)
    · next live => exact goes_serve here fresh vacant (Bool.eq_false_iff.mpr live)

/-- So is the move that ends a close. -/
theorem goes_endClose {l : Loop} {farewell : Farewell} {result : Except Exception Unit}
    (here : s.tasks[t]? = some (.loop l)) (closing : l.stage = .closing farewell (.leaving result)) :
    Goes s t (s.endClose t l farewell result) := by
  have never : ∀ c, farewell.detach = .closed c → (s.publisher l.publisher).dead = false := by
    intro c closed
    cases farewell <;> cases closed
  have free : l.stage.caller? = none := by rw [closing]; rfl
  have alive : 0 < l.stage.weight := by rw [closing]; exact Nat.one_pos
  unfold endClose
  simp only []
  split
  · exact goes_endLoop ((Alike.note _ _ _).trans (.note _ _ _)) here free alive never
  · exact goes_endLoop (.note _ _ _) here free alive never
  · exact goes_endLoop (.note _ _ _) here free alive never
  · exact goes_endLoop (.refl _) here free alive never

/-- So is the move after confirm mode. -/
theorem goes_endConfirm {l : Loop} {notice : Option Nat} {result : Except Exception Unit}
    (here : s.tasks[t]? = some (.loop l)) (confirming : l.stage = .confirming notice (.leaving result)) :
    Goes s t (s.endConfirm t l notice result) := by
  have serves : ∀ {r : Service}, Alike s r → Goes s t (r.beginServing t l notice) := by
    intro r alike
    refine goes_advance (alike.trans (.note _ _ _)) here ?_ ?_ rfl ?_
    all_goals rw [confirming]
    · rfl
    · rfl
    · exact Nat.lt_succ_self 3
  unfold endConfirm
  simp only []
  split
  · exact serves ((Alike.record (e := .began t l.handle .notifyPublish) rfl).trans
      (.of_fields rfl rfl rfl rfl))
  · exact serves (.refl _)
  · exact serves ((Alike.note _ _ _).trans (.record rfl))

/-- The request that a publishing loop has is there. -/
theorem call?_of_publishing {l : Loop} {notice : Option Nat} {caller : Nat} {phase : Phase}
    (accounted : Accounted s F) (here : s.tasks[t]? = some (.loop l))
    (publishing : l.stage = .publishing notice caller phase) : ∃ c, s.call? caller = some c := by
  obtain ⟨h, underWay⟩ := accounted.underWay_of_publishing here publishing
  exact accounted.call?_of_underWay underWay

/-- So is the move in which a message reaches the channel. -/
theorem goes_publishNow {l : Loop} {notice : Option Nat} {caller : Nat} (accounted : Accounted s F)
    (here : s.tasks[t]? = some (.loop l)) (publishing : l.stage = .publishing notice caller .entering) :
    Goes s t (s.publishNow t l notice caller) := by
  obtain ⟨c, there⟩ := call?_of_publishing accounted here publishing
  have leaves : ∀ {r : Service} (result : Except Exception Unit), Alike s r →
      Goes s t (r.moveTo t l (.publishing notice caller (.leaving result))) := by
    intro r result alike
    refine goes_advance alike here ?_ ?_ rfl ?_
    all_goals rw [publishing]
    · rfl
    · rfl
    · exact Nat.lt_succ_self 4
  unfold publishNow
  rw [there]
  simp only []
  split
  · exact leaves _ ((Alike.after _ _).trans (.record rfl))
  · exact leaves _ (.after _ _)

/-- So is the move that answers the caller. -/
theorem goes_endPublish {l : Loop} {notice : Option Nat} {caller : Nat}
    {result : Except Exception Unit} (accounted : Accounted s F)
    (here : s.tasks[t]? = some (.loop l))
    (publishing : l.stage = .publishing notice caller (.leaving result)) :
    Goes s t (s.endPublish t l notice caller result) := by
  obtain ⟨c, there⟩ := call?_of_publishing accounted here publishing
  have answers : ∀ {r : Service}, Alike s r →
      Goes s t (r.closeRequest t l notice caller c result) := by
    intro r alike
    have here' : r.tasks[t]? = some (.loop l) := by rw [alike.tasks, here]
    have there' : r.tasks[caller]? = some (.call c) := by rw [alike.tasks, call?_eq_some.mp there]
    refine ⟨(Steps.one (.quiet alike)).tail (.answer here' publishing there'), ?_⟩
    have idle : (r.closeRequest t l notice caller c result).tasks[t]?
        = some (.loop { l with stage := .idle notice }) := by
      rw [tasks_closeRequest here' there', if_pos rfl]
    have same : ((r.closeRequest t l notice caller c result).publisher l.publisher)
        = s.publisher l.publisher := alike.publisher _
    rw [weight_of_loop idle, weight_of_loop here, same, publishing]
    exact Nat.add_lt_add_right (Nat.lt_succ_self 3) _
  unfold endPublish
  rw [there]
  simp only []
  split
  · exact answers (.note _ _ _)
  · exact answers (.refl _)

/-- A loop stays where it is when an intake is drained. -/
theorem tasks_drain_of_loop {l : Loop} (here : s.tasks[t]? = some (.loop l)) (p : Nat) :
    (s.drain p).tasks[t]? = some (.loop l) := by
  rw [tasks_drain, here]
  split <;> rfl

/-- An idle loop takes the next request out of the intake. -/
theorem goes_takeUp {l : Loop} {notice : Option Nat} {caller : Nat} {rest : Publisher.Intake}
    (accounted : Accounted s F) (here : s.tasks[t]? = some (.loop l)) (idle : l.stage = .idle notice)
    (inBounds : l.publisher < s.publishers.size) (live : (s.publisher l.publisher).dead = false)
    (next : (s.publisher l.publisher).intake.take? = some (caller, rest)) :
    Goes s t ((s.withIntake l.publisher rest).takeUp t l notice caller) := by
  obtain ⟨⟨c, there, -, -⟩, -⟩ := accounted.taken next
  have found := call?_eq_some.mp there
  have fewer : (s.publisher l.publisher).intake.size = rest.size + 1 := by
    rw [Publisher.Intake.size, Publisher.Intake.order_of_take? next]
    rfl
  have intake : ((s.withIntake l.publisher rest).publisher l.publisher).intake = rest := by
    rw [publisher_onPublisher, if_pos ⟨rfl, inBounds⟩]
  unfold takeUp
  rw [show (s.withIntake l.publisher rest).call? caller = some c from there]
  by_cases claimed : c.request.claimed = true
  · simp only [Publisher.Request.openBy, claimed, if_true]
    refine ⟨Steps.alike (.one (.skip here idle next found claimed)) (.note _ _ _), ?_⟩
    have still : ((s.withIntake l.publisher rest).note l.publisher .requestWithdrawn).tasks[t]?
        = some (.loop l) := here
    rw [weight_of_loop still, weight_of_loop here, fewer]
    rw [show (((s.withIntake l.publisher rest).note l.publisher
      .requestWithdrawn).publisher l.publisher).intake = rest from intake]
    omega
  · have free := Bool.eq_false_iff.mpr claimed
    simp only [Publisher.Request.openBy, free, Bool.false_eq_true, if_false]
    refine ⟨.one (.begin here idle live next found free), ?_⟩
    have opened := tasks_openRequest
      (s := s.withIntake l.publisher rest) here found notice t
    rw [if_pos rfl] at opened
    -- the stage gets heavier by two, but the request that left the intake weighed three
    have lighter : ((s.withIntake l.publisher rest).openRequest t l notice caller c).weight t
        = 5 + 3 * rest.size :=
      (weight_of_loop opened).trans (congrArg (fun i => 5 + 3 * Publisher.Intake.size i) intake)
    have heavier : s.weight t = 3 + 3 * (rest.size + 1) := by
      rw [weight_of_loop here, fewer, idle]
      rfl
    apply Nat.lt_of_le_of_lt (Nat.le_of_eq lighter)
    rw [heavier]
    omega

/-- An idle loop of a dead publisher answers what is left and begins to close its channel. -/
theorem goes_stop {l : Loop} {notice : Option Nat} (here : s.tasks[t]? = some (.loop l))
    (idle : l.stage = .idle notice) (dead : (s.publisher l.publisher).dead = true) :
    Goes s t (((s.drain l.publisher).retire l.publisher).beginClose t l .stopped) := by
  have there : ((s.drain l.publisher).retire l.publisher).tasks[t]? = some (.loop l) := by
    rw [tasks_retire, tasks_drain_of_loop here l.publisher]
  have steps : Steps t s ((s.drain l.publisher).retire l.publisher) :=
    (Steps.one (.drain dead)).trans (steps_retire _ _ _)
  refine .after steps ?_ (goes_advance (.record rfl) there ?_ ?_ rfl ?_)
  · rw [weight_of_loop there, weight_of_loop here, intake_retire, publisher_drain, if_pos rfl]
    exact Nat.add_le_add_left (Nat.zero_le _) _
  all_goals rw [idle]
  · rfl
  · rfl
  · exact Nat.lt_succ_self 2

/-- An idle loop whose channel closed with an exception leaves it as the status of its publisher. -/
theorem goes_fail {l : Loop} {notice : Option Nat} {e : Exception}
    (here : s.tasks[t]? = some (.loop l)) (idle : l.stage = .idle notice)
    (live : (s.publisher l.publisher).dead = false) :
    Goes s t (((s.note l.publisher (.channelFailed e)).onPublisher l.publisher
      fun q => { q with status := .failed e }).endLoop t l (.closed (some e))) := by
  have noted : Alike s (s.note l.publisher (.channelFailed e)) := .note _ _ _
  have failed : Step (s.note l.publisher (.channelFailed e)) (some t) _ :=
    .status (p := l.publisher) (v := .failed e) live
  have there : ((s.note l.publisher (.channelFailed e)).onPublisher l.publisher
      fun q => { q with status := .failed e }).tasks[t]? = some (.loop l) := here
  refine .after ((Steps.one (.quiet noted)).tail failed) ?_
    (goes_endLoop (.refl _) there (by rw [idle]; rfl) (by rw [idle]; exact Nat.succ_pos 2)
      fun _ _ => ?_)
  · rw [weight_of_loop there, weight_of_loop here]
    have intake := publisher_onPublisher_congr Publisher.intake
      (s := s.note l.publisher (.channelFailed e)) (p := l.publisher)
      (f := fun q => { q with status := .failed e }) rfl l.publisher
    rw [intake]
    exact Nat.le_refl _
  · exact (publisher_onPublisher_congr Publisher.dead rfl l.publisher).trans live

/-- A move between two requests takes one out of the intake, empties it or ends the loop, so the loop is
lighter. -/
theorem goes_moveIdle {l : Loop} {notice : Option Nat} (bounded : Bounded s)
    (accounted : Accounted s F) (here : s.tasks[t]? = some (.loop l)) (idle : l.stage = .idle notice)
    (h : s.moveIdle t l notice = some s') : Goes s t s' := by
  have free : l.stage.caller? = none := by rw [idle]; rfl
  have alive : 0 < l.stage.weight := by rw [idle]; exact Nat.succ_pos 2
  unfold moveIdle at h
  simp only [] at h
  split at h
  · next dead =>
    cases h
    exact goes_stop here idle dead
  · next living =>
    have live := Bool.eq_false_iff.mpr living
    split at h
    · cases h
      exact goes_fail here idle live
    · cases h
      exact goes_endLoop (.note _ _ _) here free alive fun _ _ => live
    · cases h
      exact goes_endLoop (.note _ _ _) here free alive fun _ _ => live
    · obtain ⟨⟨caller, rest⟩, next, rfl⟩ := Option.map_eq_some_iff.mp h
      exact goes_takeUp accounted here idle (bounded.task t _ here) live next

/-- Every move of a loop that nothing holds up is some steps and makes it lighter. -/
theorem goes_moveFreely {l : Loop} (bounded : Bounded s) (accounted : Accounted s F)
    (here : s.tasks[t]? = some (.loop l)) (h : s.moveFreely t l = some s') : Goes s t s' := by
  -- what makes the task lighter is its place: every move goes to one of less weight, or shortens the intake
  unfold moveFreely at h
  split at h
  · next fresh =>
    cases h
    exact goes_beginLoop here fresh
  · next farewell closing =>
    cases h
    refine goes_advance (.after _ _) here ?_ ?_ rfl ?_
    all_goals rw [closing]
    · cases farewell <;> rfl
    · rfl
    · exact Nat.lt_succ_self 1
  · next closing =>
    cases h
    exact goes_endClose here closing
  · next confirming =>
    cases h
    refine goes_advance (.of_fields rfl rfl rfl rfl) here ?_ ?_ rfl ?_
    all_goals rw [confirming]
    · rfl
    · rfl
    · exact Nat.lt_succ_self 4
  · next confirming =>
    cases h
    exact goes_endConfirm here confirming
  · next idle => exact goes_moveIdle bounded accounted here idle h
  · next publishing =>
    cases h
    exact goes_publishNow accounted here publishing
  · next publishing =>
    cases h
    exact goes_endPublish accounted here publishing
  · cases h
  · cases h

/-- A move is some steps, and the task is lighter afterwards. -/
theorem goes_move (bounded : Bounded s) (accounted : Accounted s F) (h : s.move t = some s') :
    Goes s t s' := by
  unfold move at h
  split at h
  · next here => exact goes_moveCall bounded accounted here h
  · next here =>
    unfold moveLoop at h
    split at h
    · cases h
    · exact goes_moveFreely bounded accounted here h
  · cases h

/-! ## Polls -/

/-- What holds of a service whatever happened to it. -/
structure Sound (s : Service) : Prop where
  bounded : Bounded s
  moored : Moored s
  accounted : ∃ F, Accounted s F

namespace Sound

/-- A service that nobody has used is sound. -/
theorem fresh : Sound fresh := ⟨.fresh, .fresh, _, .fresh⟩

/-- A step leads from a sound service to a sound one. -/
theorem step {a : Option Nat} (sound : Sound s) (h : Step s a s') : Sound s' := by
  obtain ⟨F, accounted⟩ := sound.accounted
  exact ⟨sound.bounded.step h, sound.moored.step sound.bounded h, accounted.step sound.bounded h⟩

/-- So do the steps of a poll. -/
theorem steps (sound : Sound s) (h : Steps t s s') : Sound s' := by
  induction h with
  | refl => exact sound
  | tail _ h ih => exact ih.step h

/-- A move in a sound service is some steps and makes the task lighter. -/
theorem goes (sound : Sound s) (h : s.move t = some s') : Goes s t s' := by
  obtain ⟨F, accounted⟩ := sound.accounted
  exact goes_move sound.bounded accounted h

/-- Moves, as many as are allowed, are steps; if more are allowed than the task can make, it can move
no further. -/
theorem moves (sound : Sound s) (n : Nat) :
    Steps t s (moves t n s) ∧ (s.weight t < n → (Service.moves t n s).move t = none) := by
  induction n generalizing s with
  | zero => exact ⟨.refl, nofun⟩
  | succ n ih =>
    rw [Service.moves]
    cases h : s.move t with
    | none => exact ⟨.refl, fun _ => h⟩
    | some r =>
      -- the move spends at least one unit of weight, and exactly one of what is allowed
      obtain ⟨steps, lighter⟩ := sound.goes h
      obtain ⟨more, ends⟩ := ih (sound.steps steps)
      exact ⟨steps.trans more, fun bound => ends (by omega)⟩

/-- A poll is some steps of the task. -/
theorem poll (sound : Sound s) (t : Nat) : Steps t s (s.poll t) := (sound.moves _).1

/-- After its poll a task can move no further. -/
theorem move_poll (sound : Sound s) (t : Nat) : (s.poll t).move t = none :=
  (sound.moves _).2 (weight_lt_moveBound s t)

end Sound

end Relay.Service
