import Relay.Proofs.TwinActs
import Relay.Proofs.Succession

/-!
# Callers without influence

A caller that has put its request into the intake has handed it over. Polling the call again does nothing
but tell it its result; when the call is dropped, nothing but its own request leaves, and one that no loop
has opened by then is never published. So two runs that differ only in such polls show the same to
everybody else, act by act, and give every call the same result.
-/

namespace Relay.Service

open Broker (Exception)
open Publisher (Failure Request)

variable {s s' : Service} {t : Nat} {c : Call}

/-! ## Polled again -/

/-- A request was put into the intake by a call that has begun. -/
theorem call_of_requested (sound : Sound s) (requested : .requested t ∈ s.journal) :
    ∃ c, s.tasks[t]? = some (.call c) ∧ c.stage ≠ .fresh := by
  obtain ⟨F, accounted⟩ := sound.accounted
  have told : Event.requested t ∈ s.history := (mem_history rfl).mpr requested
  obtain ⟨c, here⟩ := sound.bounded.caller t told
  have fits := accounted.call t c (call?_eq_some.mpr here)
  exact ⟨c, here, fun fresh => fits.requested_iff.mp told (fits.fresh fresh)⟩

/-- A call that has put in its request does not move before its answer is there. -/
theorem act_of_awaited (here : s.tasks[t]? = some (.call c)) (begun : c.stage ≠ .fresh)
    (awaited : c.request.reply = .awaited) : s.act (.move t) = s := by
  apply act_move_of_none
  rw [move_of_call here]
  unfold moveCall
  split
  · next fresh => exact absurd fresh begun
  · rw [Request.outcome?, awaited]
    rfl
  · rfl
  · rfl

/-- A call whose request was put in moves without any influence but on itself. -/
theorem twin_of_requested (sound : Sound s) (requested : .requested t ∈ s.journal) :
    Twin s (s.act (.move t)) := by
  obtain ⟨c, here, begun⟩ := call_of_requested sound requested
  by_cases awaited : c.request.reply = .awaited
  · rw [act_of_awaited here begun awaited]
    exact .refl s
  · exact twin_of_answered_move sound ⟨c, here, awaited⟩

/-- A request with an outcome was answered. -/
theorem reply_of_outcome {q : Request} {result : Except Failure Unit}
    (outcome : q.outcome? = some result) : q.reply ≠ .awaited := by
  intro awaited
  rw [Request.outcome?, awaited] at outcome
  cases outcome

/-- A caller learns its result: of everything there is, only the place of its call changes. -/
def Learns (s : Service) (t : Nat) (s' : Service) : Prop :=
  ∃ c result, s.tasks[t]? = some (.call c) ∧ c.stage = .waiting ∧
    c.request.outcome? = some result ∧
    s' = (s.setTask t (.call { c with stage := .finished result })).record (.ended t (c.value result))

/-- Polling a call again does nothing, or the caller learns its result. -/
theorem poll_of_requested (sound : Sound s) (requested : .requested t ∈ s.journal) :
    s.poll t = s ∨ Learns s t (s.poll t) := by
  obtain ⟨c, here, begun⟩ := call_of_requested sound requested
  cases stage : c.stage with
  | fresh => exact absurd stage begun
  | waiting =>
    cases outcome : c.request.outcome? with
    | none =>
      refine .inl (poll_of_stuck ?_)
      rw [move_of_call here, moveCall, stage]
      simp only [outcome, Option.map_none]
    | some result =>
      have moves : s.move t = some (s.endCall t c result) := by
        rw [move_of_call here, moveCall, stage]
        simp only [outcome, Option.map_some]
      refine .inr ⟨c, result, here, stage, outcome, ?_⟩
      -- the answer came to a request that was claimed, so nothing is left to withdraw
      obtain ⟨claimed, -⟩ := answered_call sound here (reply_of_outcome outcome)
      rw [(poll_of_endCall here here moves).1, endCall, Request.forsake_eq, ← claimed, finish]
  | finished | dropped =>
    refine .inl (poll_of_stuck ?_)
    rw [move_of_call here, moveCall, stage]

/-! ## Dropped -/

/-- A caller goes away: of everything there is, only its own request, its place in the intake and the
place of its call change. -/
structure Withdraws (s : Service) (t : Nat) (s' : Service) : Prop where
  broker : s'.broker = s.broker
  handles : s'.handles = s.handles
  listeners : s'.listeners = s.listeners
  names : s'.names = s.names
  /-- All other tasks, with the claims and answers of other requests. -/
  others : ∀ u : Nat, u ≠ t → s'.tasks[u]? = s.tasks[u]?
  /-- The request of the call is claimed, if it was not before, and never answered by this. -/
  own : ∃ c c', s.tasks[t]? = some (.call c) ∧ s'.tasks[t]? = some (.call c') ∧
    c'.request = { c.request with claimed := true }
  /-- Publishers change in their intakes at most. -/
  publishers : ∀ p, s'.publisher p = { s.publisher p with intake := (s'.publisher p).intake }
  /-- Other requests wait in the same order. -/
  order : ∀ p, (s'.publisher p).intake.order.filter (· ≠ t) =
    (s.publisher p).intake.order.filter (· ≠ t)
  journal : s'.journal = s.journal ∨ s'.journal = .dropped t :: s.journal

/-- Among the others a list is the same with or without one task. -/
theorem filter_erase_self (ts : List Nat) (t : Nat) :
    (ts.erase t).filter (· ≠ t) = ts.filter (· ≠ t) := by
  induction ts with
  | nil => rfl
  | cons u ts ih =>
    by_cases same : u = t
    · subst same
      simp
    · rw [List.erase_cons_tail (by simpa using same), List.filter_cons, ih, List.filter_cons]

/-- Among the others the order is the same after one has left. -/
theorem filter_order_leave (i : Publisher.Intake) (t : Nat) :
    (i.leave t).order.filter (· ≠ t) = i.order.filter (· ≠ t) := by
  rw [Publisher.Intake.order, Publisher.Intake.order, List.filter_append, List.filter_append,
    Publisher.Intake.leave, filter_erase_self]

/-- A request with a claim stays as it is when its caller goes away. -/
theorem withdraws_refl (here : s.tasks[t]? = some (.call c)) (claimed : c.request.claimed = true) :
    Withdraws s t s where
  broker := rfl
  handles := rfl
  listeners := rfl
  names := rfl
  others _ _ := rfl
  own := ⟨c, c, here, here, by rw [← claimed]⟩
  publishers _ := rfl
  order _ := rfl
  journal := .inl rfl

/-- A call that is dropped takes back its own request and does nothing else. -/
theorem withdraws_drop (sound : Sound s) (requested : .requested t ∈ s.journal) :
    Withdraws s t (s.drop t) := by
  obtain ⟨c, here, begun⟩ := call_of_requested sound requested
  have dropped : s.drop t = s.dropCall t c := by simp only [drop, here]
  rw [dropped]
  by_cases isOver : (Task.call c).isOver = true
  · rw [dropCall_of_over isOver]
    -- a call that is over had its request claimed
    obtain ⟨F, accounted⟩ := sound.accounted
    have fits := accounted.call t c (call?_eq_some.mpr here)
    refine withdraws_refl here (fits.claimed.mpr ?_)
    rintro (queued | fresh)
    · rw [queued] at fits
      rw [Task.isOver, fits.waiting_of_queued] at isOver
      cases isOver
    · exact begun fresh
  · have alive := Bool.eq_false_iff.mpr isOver
    have waiting : c.stage = .waiting := by
      cases stage : c.stage with
      | fresh => exact absurd stage begun
      | waiting => rfl
      | finished | dropped => simp [Task.isOver, stage] at isOver
    have left : s.dropCall t c = ((s.onPublisher c.publisher fun p =>
        { p with intake := p.intake.leave t }).setTask t (.call c.left)).record (.dropped t) := by
      unfold dropCall
      rw [waiting]
      rfl
    refine
      { broker := by rw [left]; rfl
        handles := by rw [left]; rfl
        listeners := by rw [left]; rfl
        names := by rw [left]; rfl
        others := fun u other => by rw [tasks_dropCall here alive, if_neg other]
        own := ⟨c, c.left, here, by rw [tasks_dropCall here alive, if_pos rfl],
          Request.forsake_eq _⟩
        publishers := fun p => ?_
        order := fun p => ?_
        journal := .inr (by rw [left]; rfl) }
    · rw [left]
      have same := publisher_onPublisher_congr (s := s) (p := c.publisher)
        (f := fun q => { q with intake := q.intake.leave t })
        (fun q : Publisher => { q with intake := {} }) rfl p
      exact congrArg (fun q : Publisher => { q with intake := ((s.onPublisher c.publisher fun q =>
        { q with intake := q.intake.leave t }).publisher p).intake }) same
    · rw [left]
      have kept := publisher_onPublisher_congr (s := s) (p := c.publisher)
        (f := fun q => { q with intake := q.intake.leave t })
        (fun q : Publisher => q.intake.order.filter (· ≠ t)) (filter_order_leave _ t) p
      exact kept

/-- The request of a call that is over is never opened, if it was not before. -/
theorem unopened_of_over (sound : Sound s) (sound' : Sound s') (grows : Grows s s')
    (here : s.tasks[t]? = some (.call c)) (isOver : (Task.call c).isOver = true)
    (unopened : s.publishesFor t = []) : s'.publishesFor t = [] := by
  obtain ⟨F, accounted⟩ := sound.accounted
  obtain ⟨F', accounted'⟩ := sound'.accounted
  have fits := accounted.call t c (call?_eq_some.mpr here)
  obtain ⟨c', there, -⟩ := grows.call here
  have fits' := accounted'.call t c' (call?_eq_some.mpr there)
  cases stage : c.stage with
  | fresh | waiting => simp [Task.isOver, stage] at isOver
  | dropped =>
    have told : Event.dropped t ∈ s.course t := by
      rw [fits.course, Call.closing, stage]
      exact List.mem_cons_self
    obtain ⟨later, earlier, split⟩ := List.append_of_mem ((mem_history rfl).mp (List.mem_filter.mp told).1)
    obtain ⟨more, longer⟩ := grows.journal
    have dropped : DroppedUnopened s' t := by
      refine ⟨more ++ later, earlier, by rw [← longer, split, List.append_assoc], fun e inside => ?_⟩
      refine Bool.eq_false_iff.mpr fun for_t => ?_
      have listed : e ∈ s.publishesFor t := by
        rw [publishesFor, split, List.mem_filter]
        exact ⟨by simp [inside], for_t⟩
      rw [unopened] at listed
      cases listed
    rw [fits'.publishesFor, fits'.unopened_of_dropped dropped]
    rfl
  | finished result =>
    have value : s.valueOf t = some (c.value result) := (valueOf_eq_some here).mpr ⟨result, stage, rfl⟩
    have accords := fits'.accords there (valueOf_of_grows accounted accounted' grows here value)
    -- a call without a publish was turned away, or the cancellation answered it
    rcases fits.finished result stage with ⟨-, e, rfl, refusal⟩ | outcome
    · cases e with
      | dead | notInitialized | channel => exact accords
      | interrupted | publish => cases refusal
    · have publishes := fits.publishesFor
      rw [unopened] at publishes
      rcases fits.outcome_cases outcome with ⟨-, rfl⟩ | ⟨l, h, result, fate, -⟩ | ⟨l, h, fate, -⟩
      · exact accords
      · rw [fate] at publishes
        cases publishes
      · rw [fate] at publishes
        cases publishes

/-- A call that was dropped is over. -/
theorem over_of_drop (here : s.tasks[t]? = some (.call c)) :
    ∃ c', (s.drop t).tasks[t]? = some (.call c') ∧ (Task.call c').isOver = true := by
  have dropped : s.drop t = s.dropCall t c := by simp only [drop, here]
  rw [dropped]
  by_cases isOver : (Task.call c).isOver = true
  · rw [dropCall_of_over isOver]
    exact ⟨c, here, isOver⟩
  · exact ⟨c.left, by rw [tasks_dropCall here (Bool.eq_false_iff.mpr isOver), if_pos rfl], rfl⟩

/-- To drop a task is an act. -/
theorem drop_eq_act {x : Task} (here : s.tasks[t]? = some x) :
    s.drop t = s.act (.command (.dropTask t) rfl) := by
  simp only [act, step, if_pos (Array.getElem?_eq_some_iff.mp here).1]

/-- A request that no loop has opened when its caller goes away is never published. -/
theorem unpublished_of_drop (sound : Sound s) (requested : .requested t ∈ s.journal)
    (unopened : s.publishesFor t = []) (later : List Act) :
    ((s.drop t).perform later).publishesFor t = [] := by
  obtain ⟨c, here, -⟩ := call_of_requested sound requested
  obtain ⟨c', there, isOver⟩ := over_of_drop here
  have sound' : Sound (s.drop t) := by
    rw [drop_eq_act here]
    exact (sound.act _).1
  obtain ⟨sound'', grows⟩ := sound'.perform later
  refine unopened_of_over sound' sound'' grows there isOver ?_
  -- the drop itself begins no publish
  rw [publishesFor] at unopened ⊢
  rcases (withdraws_drop sound requested).journal with same | longer
  · rw [same, unopened]
  · rw [longer, List.filter_cons, unopened]
    rfl

/-! ## Two runs -/

/-- Whether an act polls a call again that has put its request into the intake. -/
def repolls (s : Service) : Act → Bool
  | .command _ _ => false
  | .move t => s.journal.any (Event.isRequestOf t)

/-- The acts of a run without polls of calls that have put in their requests. -/
def essentials (acts : List Act) : List Act :=
  gather (fun s a => if s.repolls a then none else some a) fresh acts

/-- What others than the callers see of a service. -/
structure Face where
  broker : Broker
  handles : Array Handle
  listeners : Array (Option Nat)
  publishers : Array Publisher
  names : Array Nat
  loops : Nat → Option Loop
  journal : List Event

/-- What others than the callers see: everything but calls, and every event but the ends of calls that
had put in their requests. -/
def face (s : Service) : Face :=
  ⟨s.broker, s.handles, s.listeners, s.publishers, s.names, s.loop?, outward s.journal⟩

/-- What others than the callers see after each act of a run that is not such a poll. -/
def faces (acts : List Act) : List Face :=
  gather (fun s a => if s.repolls a then none else some (s.act a).face) fresh acts

/-- The last act is essential unless it polls a call again. -/
theorem essentials_concat (acts : List Act) (a : Act) :
    essentials (acts ++ [a]) = essentials acts ++
      (if (fresh.perform acts).repolls a then none else some a).toList :=
  gather_concat _ fresh acts a

/-- Each essential act adds the face after it. -/
theorem faces_concat (acts : List Act) (a : Act) :
    faces (acts ++ [a]) = faces acts ++ (if (fresh.perform acts).repolls a then none
      else some ((fresh.perform acts).act a).face).toList :=
  gather_concat _ fresh acts a

/-- Twins have the same face. -/
theorem Twin.face (twin : Twin s s') : s'.face = s.face := by
  rw [Service.face, twin.broker, twin.handles, twin.listeners, twin.publishers, twin.names,
    show s'.loop? = s.loop? from funext twin.loop?, twin.journal, Service.face]

/-- To poll a call again leaves a twin. -/
theorem twin_of_repolls {a : Act} (sound : Sound s) (again : s.repolls a = true) :
    Twin s (s.act a) := by
  cases a with
  | command => cases again
  | move t => exact twin_of_requested sound (any_isRequestOf.mp again)

/-- A run without such polls comes to a twin of where the run comes to. -/
theorem twin_essentials (acts : List Act) :
    Twin (fresh.perform acts) (fresh.perform (essentials acts)) := by
  induction acts using List.reverseRecOn with
  | nil => exact .refl _
  | append_singleton acts a ih =>
    have sound : Sound (fresh.perform acts) := sound_perform acts
    rw [essentials_concat, perform_concat]
    split
    · next again =>
      rw [Option.toList_none, List.append_nil]
      exact (twin_of_repolls sound again).symm.trans ih
    · rw [Option.toList_some, perform_concat]
      exact ih.act sound (sound_perform _) a

/-- Others see of a run what they see of it without such polls. -/
theorem faces_eq (acts : List Act) :
    faces acts = gather (fun s a => some (s.act a).face) fresh (essentials acts) := by
  induction acts using List.reverseRecOn with
  | nil => rfl
  | append_singleton acts a ih =>
    have twin := (twin_essentials acts).act (sound_perform _) (sound_perform _) a
    rw [faces_concat, essentials_concat, ih]
    split
    · rw [Option.toList_none, Option.toList_none, List.append_nil, List.append_nil]
    · rw [Option.toList_some, Option.toList_some, gather_concat, Option.toList_some, twin.face]

/-- A finished task keeps its value when it is polled. -/
theorem valueOf_poll {v : Value} (value : s.valueOf t = some v) : (s.poll t).valueOf t = some v := by
  obtain ⟨x, here, finished⟩ := Option.bind_eq_some_iff.mp value
  have isOver : x.isOver = true := by
    cases x with
    | call c => cases stage : c.stage <;> simp_all [Task.value?, Task.isOver]
    | loop l => cases stage : l.stage <;> simp_all [Task.value?, Task.isOver]
  rw [poll_of_stuck (move_of_over here isOver), value]

/-- Whether the task at an index is a call that was dropped. -/
def IsDropped (s : Service) (t : Nat) : Prop :=
  ∃ c, s.tasks[t]? = some (.call c) ∧ c.stage = .dropped

/-- A task that has a result in one of two twins gets the same in the other, if it is polled there and
was not dropped. -/
theorem Twin.valueOf {v : Value} (twin : Twin s s') (sound : Sound s) (sound' : Sound s')
    (value : s.valueOf t = some v) : (s'.poll t).valueOf t = some v ∨ s'.IsDropped t := by
  rcases twin.task_cases t with same | ⟨⟨c, here, filled⟩, -⟩
  · refine .inl (valueOf_poll ?_)
    rw [Service.valueOf, same]
    exact value
  · obtain ⟨d, there, alike⟩ := twin.call here
    obtain ⟨result, finished, rfl⟩ := (valueOf_eq_some here).mp value
    have request := Call.request_of_veiled alike
    have learnt : ∀ r, d.value r = c.value r := by
      rw [(Call.of_veiled alike).1]
      exact fun _ => rfl
    -- the answer is the result, here and there
    have result_eq : ∀ {q : Service} {e : Call}, Sound q → q.tasks[t]? = some (.call e) →
        e.request = c.request → ∀ r, e.stage = .finished r → c.request.outcome? = some r := by
      intro q e soundness at_t own r ended
      obtain ⟨F, accounted⟩ := soundness.accounted
      have fits := accounted.call t e (call?_eq_some.mpr at_t)
      rw [← own] at filled ⊢
      rcases fits.finished r ended with ⟨unsent, -⟩ | outcome
      · exact absurd (by rw [fits.reply, unsent]; rfl) filled
      · exact outcome
    have outcome := result_eq sound here rfl result finished
    cases stage : d.stage with
    | fresh => exact absurd stage (answered_call sound' there (by rw [request]; exact filled)).2.1
    | waiting =>
      rw [← learnt]
      exact .inl (poll_of_outcome there stage (by rw [request]; exact outcome))
    | finished r =>
      have same := result_eq sound' there request r stage
      rw [outcome] at same
      cases same
      exact .inl (valueOf_poll ((valueOf_eq_some there).mpr ⟨result, stage, (learnt _).symm⟩))
    | dropped => exact .inr ⟨d, there, stage⟩

/-- A task that was dropped has no result. -/
theorem IsDropped.valueOf (dropped : s.IsDropped t) : s.valueOf t = none := by
  obtain ⟨c, here, stage⟩ := dropped
  rw [Service.valueOf, here, Option.bind_some, Task.value?, stage]

/-- Two tasks of twins have the same result. -/
theorem Twin.valueOf_unique {v v' : Value} (twin : Twin s s') (sound : Sound s) (sound' : Sound s')
    (value : s.valueOf t = some v) (value' : s'.valueOf t = some v') : v' = v := by
  rcases twin.valueOf sound sound' value with polled | dropped
  · rw [valueOf_poll value'] at polled
    exact Option.some.inj polled
  · rw [dropped.valueOf] at value'
    cases value'

/-- For everything that can happen, and every call that has put in its request: polling it again does
nothing but tell it its result; dropping it takes away nothing but its own request, which is never
published if no loop had opened it. And two runs that differ only in such polls look the same to all
others, act by act, and give every task the same result, once it is polled to its end. -/
theorem callers_without_influence (acts : List Act) :
    let s := fresh.perform acts
    (∀ t, .requested t ∈ s.journal →
      (s.poll t = s ∨ Learns s t (s.poll t)) ∧ Withdraws s t (s.drop t) ∧
      (s.publishesFor t = [] → ∀ later, ((s.drop t).perform later).publishesFor t = [])) ∧
    ∀ acts', essentials acts' = essentials acts →
      let s' := fresh.perform acts'
      faces acts' = faces acts ∧ s'.face = s.face ∧
      ∀ t v, s.valueOf t = some v →
        (∀ v', s'.valueOf t = some v' → v' = v) ∧
        ((s'.poll t).valueOf t = some v ∨ s'.IsDropped t) := by
  intro s
  have sound : Sound s := sound_perform acts
  refine ⟨fun t requested => ⟨poll_of_requested sound requested, withdraws_drop sound requested,
    unpublished_of_drop sound requested⟩, fun acts' same => ?_⟩
  intro s'
  have sound' : Sound s' := sound_perform acts'
  have twin : Twin s s' := by
    refine (twin_essentials acts).trans ?_
    rw [← same]
    exact (twin_essentials acts').symm
  refine ⟨by rw [faces_eq, faces_eq, same], twin.face, fun t v value => ⟨fun v' => ?_, ?_⟩⟩
  · exact twin.valueOf_unique sound sound' value
  · exact twin.valueOf sound sound' value

/-- Two calls wait for one loop, which serves the first. In one run that call is polled before and after;
in the other it is left alone, and the second call is polled in vain. -/
theorem unpolled_caller_without_influence :
    let begun : List Act := [.command (.publisher "" "key" {} none) rfl,
      .command (.openChannel 1) rfl, .command (.serve 0 0 true) rfl, .move 0,
      .command (.publish 0 none {} false true) rfl, .move 1,
      .command (.publish 0 none {} false true) rfl, .move 2]
    let acts := begun ++ [.move 1, .move 0, .move 0, .move 0, .move 1]
    let acts' := begun ++ [.move 0, .move 2, .move 0, .move 2, .move 0]
    let s := fresh.perform acts
    let s' := fresh.perform acts'
    s.valueOf 1 = some .published ∧ s'.valueOf 1 = none ∧ faces acts' = faces acts ∧
      ((s'.poll 1).valueOf 1 = some .published ∨ s'.IsDropped 1) ∧
      (s'.poll 1 = s' ∨ Learns s' 1 (s'.poll 1)) ∧
      ∀ later, ((s.drop 2).perform later).publishesFor 2 = [] := by
  intro begun acts acts' s s'
  have apart := callers_without_influence acts
  have served : essentials acts = begun ++ [.move 0, .move 0, .move 0] := rfl
  have served' : essentials acts' = begun ++ [.move 0, .move 0, .move 0] := rfl
  have same := apart.2 acts' (served'.trans served.symm)
  have value : s.valueOf 1 = some .published := rfl
  have polled := (callers_without_influence acts').1 1 (any_isRequestOf.mp rfl)
  have left := apart.1 2 (any_isRequestOf.mp rfl)
  exact ⟨value, rfl, same.1, (same.2.2 1 .published value).2, polled.1, left.2.2 rfl⟩

end Relay.Service
