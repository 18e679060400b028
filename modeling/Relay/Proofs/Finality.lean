import Relay.Proofs.Waiting

/-!
# After the cut

`Cut` says how a run looks from the outside after a publisher was cancelled: nothing is admitted and
nothing begun any more, calls end as dead unless a loop had opened their requests before, and loops end
as cancelled or refused. It holds between any state in which the publisher is dead and any later one.
-/

namespace Relay.Service

open Broker (Exception)
open Publisher (Failure Request Detach)

variable {s s' : Service} {t p : Nat} {c : Call} {F : Nat → Fate}

/-- What a call returns whose request was opened: how the publish for it came back, or that its loop was
dropped before it did. -/
inductive Genuine (s : Service) (t : Nat) (c : Call) : Except Failure Unit → Prop
  | returned {l h : Nat} {result : Except Exception Unit}
      (began : s.publishesFor t = [s.publishEvent t c l h])
      (returns : s.returnsTo t = [.returned l t result]) : Genuine s t c (result.mapError .publish)
  | interrupted {l h : Nat} (began : s.publishesFor t = [s.publishEvent t c l h])
      (unreturned : s.returnsTo t = []) (dropped : .dropped l ∈ s.journal) :
      Genuine s t c (.error .interrupted)

/-- A publisher was dead in the first state, and this is how the second, later one looks. -/
structure Cut (s s' : Service) (p : Nat) : Prop where
  dead : (s'.publisher p).dead = true
  status : (s'.publisher p).status = (s.publisher p).status
  /-- No call puts a request into the intake any more. -/
  requests : s'.requests p = s.requests p
  /-- No loop begins a publish any more. -/
  publishes : s'.publishes p = s.publishes p
  /-- New calls are turned away at their first poll. -/
  fresh : ∀ t c, s'.tasks[t]? = some (.call c) → c.publisher = p → c.stage = .fresh →
    (s'.poll t).valueOf t = some (.failed .dead)
  /-- Calls whose requests nobody had opened learn it at their next poll. -/
  unopened : ∀ t c, s'.tasks[t]? = some (.call c) → c.publisher = p → c.stage = .waiting →
    t ∉ s.publishes p → (s'.poll t).valueOf t = some (.failed .dead)
  /-- A call whose request was opened waits for the publish, or returns what came of it. -/
  opened : ∀ t c, s'.tasks[t]? = some (.call c) → c.publisher = p → c.stage = .waiting →
    t ∈ s.publishes p → (∃ l, InService s' t c l) ∨
      ∃ r, Genuine s' t c r ∧ r ≠ .error .dead ∧ (s'.poll t).valueOf t = some (c.value r)
  /-- What calls have returned since. -/
  returned : ∀ t c v, s'.tasks[t]? = some (.call c) → c.publisher = p → s.valueOf t = none →
    s'.valueOf t = some v → (t ∉ s.publishes p → v = .failed .dead) ∧
      (t ∈ s.publishes p → ∃ r, Genuine s' t c r ∧ r ≠ .error .dead ∧ v = c.value r)
  /-- How loops have ended since. -/
  ended : ∀ l x reason, s'.tasks[l]? = some (.loop x) → x.publisher = p → s.valueOf l = none →
    s'.valueOf l = some (.detached reason) → reason = .cancelled ∨ reason = .alreadyAttached

/-! ## Opened requests -/

/-- The requests that loops of a publisher opened are those for which they began publishes. -/
theorem mem_publishes (accounted : Accounted s F) (here : s.tasks[t]? = some (.call c)) :
    t ∈ s.publishes c.publisher ↔ (F t).opener? ≠ none := by
  have fits := accounted.call t c (call?_eq_some.mpr here)
  have began := fits.publishesFor
  constructor
  · intro mem unopened
    rw [unopened] at began
    obtain ⟨e, inside, read⟩ := List.mem_filterMap.mp mem
    have own : e ∈ s.publishesFor t := by
      rw [publishesFor, List.mem_filter]
      refine ⟨List.mem_reverse.mp inside, ?_⟩
      cases e with
      | began l h operation =>
        cases operation with
        | publish u =>
          simp only [Event.publishBy, Option.ite_none_right_eq_some] at read
          simpa [Event.isPublishFor] using read.2
        | _ => cases read
      | _ => cases read
    rw [began] at own
    cases own
  · intro opened
    obtain ⟨⟨l, h⟩, opener⟩ := Option.ne_none_iff_exists'.mp opened
    obtain ⟨x, loop, own, -⟩ := fits.opener l h opener
    rw [opener] at began
    have mem : s.publishEvent t c l h ∈ s.publishesFor t := by
      rw [began]
      exact List.mem_cons_self
    rw [publishes, chronicle, List.mem_filterMap]
    refine ⟨_, List.mem_reverse.mpr (List.mem_filter.mp mem).1, ?_⟩
    simp only [publishEvent, Event.publishBy, publisherOf_of_task loop, Task.publisher, own, if_true]

/-- A request that was opened and replied to got a genuine reply. -/
theorem Fits.genuine {f : Fate} {r : Except Failure Unit} (fits : Fits s t c f)
    (opened : f.opener? ≠ none) (outcome : c.request.outcome? = some r) :
    Genuine s t c r ∧ r ≠ .error .dead := by
  have began := fits.publishesFor
  have returns := fits.returns
  rcases fits.outcome_cases outcome with ⟨rfl, -⟩ | ⟨l, h, result, rfl, rfl⟩ | ⟨l, h, rfl, rfl⟩
  · exact absurd rfl opened
  · refine ⟨.returned began returns, ?_⟩
    cases result <;> exact nofun
  · exact ⟨.interrupted began returns ((mem_history rfl).mp (fits.gone l h rfl)), nofun⟩

/-- A waiting call of a dead publisher that nobody opened was answered by the cancellation. -/
theorem stranded_of_dead (accounted : Accounted s F) (here : s.tasks[t]? = some (.call c))
    (dead : (s.publisher c.publisher).dead = true) (waiting : c.stage = .waiting)
    (unopened : (F t).opener? = none) : F t = .stranded := by
  have before := call?_eq_some.mpr here
  have fits := accounted.call t c before
  cases fate : F t with
  | stranded => rfl
  | unsent => exact absurd fate (fits.waiting waiting).1
  | withdrawn => exact absurd fate (fits.waiting waiting).2
  | queued =>
    have inside := accounted.queued t c before fate
    rw [accounted.dead _ dead] at inside
    cases inside
  | underWay | served | abandoned => rw [fate] at unopened; cases unopened

/-! ## Values since the cut -/

/-- How a task of a dead publisher comes to a value. -/
def EndsDead (s : Service) (t : Nat) (v : Value) : Prop :=
  v = .failed .dead ∨ (∃ reason, v = .detached reason ∧ ∀ r, reason ≠ .closed r) ∨
    ∃ c, s.tasks[t]? = some (.call c) ∧ .requested t ∈ s.history

/-- A value of the kind that is due after a cancellation stays one. -/
theorem EndsDead.grow {v : Value} (ends : EndsDead s t v) (grows : Grows s s') :
    EndsDead s' t v := by
  rcases ends with dead | detached | ⟨c, here, requested⟩
  · exact .inl dead
  · exact .inr (.inl detached)
  · obtain ⟨c', there, -⟩ := grows.call here
    exact .inr (.inr ⟨c', there, grows.history.subset requested⟩)

/-- A request was put in unless it is still unsent. -/
theorem Fits.requested_iff {f : Fate} (fits : Fits s t c f) :
    .requested t ∈ s.history ↔ f ≠ .unsent := by
  have own : Event.requested t ∈ s.history ↔ Event.requested t ∈ s.course t := by
    rw [Service.course, List.mem_filter]
    simp [Event.isOf]
  rw [own, fits.course, List.mem_append]
  have unsaid : Event.requested t ∉ c.closing t := by
    unfold Call.closing
    cases c.stage <;> simp
  rw [or_iff_right unsaid]
  cases f <;> simp [Fate.trail]

/-- The step that ends a task of a dead publisher. -/
theorem endsDead_of_adds {a : Option Nat} {v : Value} (sound : Sound s)
    (dead : (s.publisher p).dead = true) (own : s.publisherOf t = some p)
    (adds : Adds s a (.ended t v)) : EndsDead s t v := by
  have at_p : ∀ {x : Task}, s.tasks[t]? = some x → x.publisher = p := by
    intro x here
    rw [publisherOf_of_task here] at own
    exact Option.some.inj own
  cases adds with
  | @refused _ c f here fresh refused =>
    have same : c.publisher = p := at_p here
    rw [same, refusal?_of_dead dead] at refused
    cases refused
    exact .inl rfl
  | @learnt _ c r here waiting outcome =>
    obtain ⟨F, accounted⟩ := sound.accounted
    have fits := accounted.call t c (call?_eq_some.mpr here)
    exact .inr (.inr ⟨c, here, fits.requested_iff.mpr (fits.waiting waiting).1⟩)
  | @endedLoop _ l reason here free live =>
    refine .inr (.inl ⟨reason, rfl, fun r closed => ?_⟩)
    have same : l.publisher = p := at_p here
    have alive := live r closed
    rw [same, dead] at alive
    cases alive

/-- What a dead publisher looks like from now on: the same lists, and values of the kind above. -/
structure Lapses (s s' : Service) (p : Nat) : Prop where
  dead : (s'.publisher p).dead = true
  requests : s'.requests p = s.requests p
  publishes : s'.publishes p = s.publishes p
  values : ∀ t v, s'.publisherOf t = some p → s'.valueOf t = some v →
    s.valueOf t = some v ∨ EndsDead s' t v

/-- Each step after a cancellation keeps what has lapsed. -/
theorem Lapses.step {r : Service} {a : Option Nat} (lapses : Lapses s r p) (sound : Sound r)
    (h : Step r a s') : Lapses s s' p := by
  have grows := h.grows
  obtain ⟨requests, publishes⟩ := h.of_dead sound.bounded lapses.dead
  refine ⟨(grows.dead p lapses.dead).1, requests.trans lapses.requests,
    publishes.trans lapses.publishes, fun t v own value => ?_⟩
  have before : ∀ {x : Task}, r.tasks[t]? = some x → r.publisherOf t = some p := fun here => by
    rw [← grows.publisherOf (lt_size_of_task here)]
    exact own
  rcases h.valueOf value with value | adds
  · obtain ⟨x, here, -⟩ := Option.bind_eq_some_iff.mp value
    exact (lapses.values t v (before here) value).imp_right fun ends => ends.grow grows
  · have inBounds := adds.lt_size t List.mem_cons_self
    have here := Array.getElem?_eq_getElem inBounds
    exact .inr ((endsDead_of_adds sound lapses.dead (before here) adds).grow grows)

/-- Whatever happens to a dead publisher, its calls lapse. -/
theorem lapses_of_dead (sound : Sound s) (dead : (s.publisher p).dead = true) (h : Turns s s') :
    Lapses s s' p :=
  Sound.keeps_turns (P := fun r => Lapses s r p) (fun sound h lapses => lapses.step sound h) sound h
    ⟨dead, rfl, rfl, fun _ _ _ value => .inl value⟩

/-- The value of a call of a dead publisher that it came to since. -/
theorem Lapses.returned {v : Value} (lapses : Lapses s s' p) (accounted : Accounted s' F)
    (here : s'.tasks[t]? = some (.call c)) (own : c.publisher = p) (before : s.valueOf t = none)
    (value : s'.valueOf t = some v) : (t ∉ s.publishes p → v = .failed .dead) ∧
      (t ∈ s.publishes p → ∃ r, Genuine s' t c r ∧ r ≠ .error .dead ∧ v = c.value r) := by
  subst own
  have fits := accounted.call t c (call?_eq_some.mpr here)
  rw [← lapses.publishes, mem_publishes accounted here]
  obtain ⟨r, finished, rfl⟩ := (valueOf_eq_some here).mp value
  rcases fits.finished r finished with ⟨unsent, e, rfl, -⟩ | outcome
  · -- the call was turned away, and by a dead publisher
    refine ⟨fun _ => ?_, fun opened => ?_⟩
    · obtain same | dead | ⟨reason, detached, -⟩ | ⟨-, -, requested⟩ :=
        lapses.values t _ (publisherOf_of_task here) value
      · rw [before] at same
        cases same
      · exact dead
      · cases detached
      · exact absurd unsent (fits.requested_iff.mp requested)
    · rw [unsent] at opened
      exact absurd rfl opened
  · refine ⟨fun unopened => ?_, fun opened => ?_⟩
    · rcases fits.outcome_cases outcome with ⟨-, rfl⟩ | ⟨l, h, result, fate, -⟩ | ⟨l, h, fate, -⟩
      · rfl
      · rw [fate] at unopened
        exact absurd nofun unopened
      · rw [fate] at unopened
        exact absurd nofun unopened
    · obtain ⟨genuine, alive⟩ := fits.genuine opened outcome
      exact ⟨r, genuine, alive, rfl⟩

/-- Between a state in which a publisher is dead and any later one there is a cut. -/
theorem cut_of_dead (sound : Sound s) (dead : (s.publisher p).dead = true) (h : Turns s s') :
    Cut s s' p := by
  have lapses := lapses_of_dead sound dead h
  have sound' := sound.turns h
  obtain ⟨F, accounted⟩ := sound'.accounted
  have dead' := lapses.dead
  refine
    { dead := dead'
      status := ((sound.grows_turns h).dead p dead).2
      requests := lapses.requests
      publishes := lapses.publishes
      fresh := fun t c here own fresh => ?_
      unopened := fun t c here own waiting unopened => ?_
      opened := fun t c here own waiting opened => ?_
      returned := fun t c v here own before value => lapses.returned accounted here own before value
      ended := fun l x reason here own before value => ?_ }
  · -- being dead is checked before the status, whatever that is
    refine poll_of_refusal here fresh (refusal?_of_dead ?_)
    rw [own]
    exact dead'
  · subst own
    -- no publish was begun since, so what was unopened then is unopened now
    rw [← lapses.publishes, mem_publishes accounted here, not_not] at unopened
    have fits := accounted.call t c (call?_eq_some.mpr here)
    have stranded := stranded_of_dead accounted here dead' waiting unopened
    have outcome : c.request.outcome? = some (.error .dead) := by
      rw [Request.outcome?, fits.reply, stranded]
      rfl
    exact poll_of_outcome here waiting outcome
  · subst own
    rw [← lapses.publishes, mem_publishes accounted here] at opened
    have fits := accounted.call t c (call?_eq_some.mpr here)
    cases outcome : c.request.outcome? with
    | some r =>
      obtain ⟨genuine, alive⟩ := fits.genuine opened outcome
      exact .inr ⟨r, genuine, alive, poll_of_outcome here waiting outcome⟩
    | none =>
      cases fate : F t with
      | underWay l h => exact .inl ⟨l, inService_of_underWay sound' accounted here fate⟩
      | unsent | queued | withdrawn | stranded =>
        rw [fate] at opened
        exact absurd rfl opened
      | served | abandoned =>
        rw [Request.outcome?, fits.reply, fate] at outcome
        cases outcome
  · obtain same | dead | ⟨reason', detached, open_⟩ | ⟨c, call, -⟩ :=
      lapses.values l _ (by rw [publisherOf_of_task here]; exact congrArg some own) value
    · rw [before] at same
      cases same
    · cases dead
    · cases detached
      cases reason with
      | cancelled => exact .inl rfl
      | alreadyAttached => exact .inr rfl
      | closed r => exact absurd rfl (open_ r)
    · rw [here] at call
      cases call

/-! ## The moment of the cut -/

/-- What a command that cancels a publisher does and answers. -/
structure Cancels (s s' : Service) (p : Nat) (answer : Answer) : Prop where
  answer : answer = .first (!(s.publisher p).dead)
  cancellations : s'.cancellations p = s.cancellations p ++ [!(s.publisher p).dead]
  dead : (s'.publisher p).dead = true
  /-- Calls whose requests are in the intake at this moment, even handed off, will return dead. -/
  strands : ∀ t ∈ (s.publisher p).intake.order, ∀ later c,
    (s'.run later).tasks[t]? = some (.call c) → c.stage = .waiting →
    ((s'.run later).poll t).valueOf t = some (.failed .dead)

/-- To cancel does what it should, the first time and each time after. -/
theorem cancels_of_step {n : Nat} (sound : Sound s) (named : s.names[n]? = some p) :
    Cancels s (s.step (.cancel n)).1 p (s.step (.cancel n)).2 := by
  have inBounds := sound.bounded.name n p named
  have sound' : Sound (s.cancel p).1 := sound.step (a := none) (.cancel nofun inBounds)
  have dead := dead_cancel inBounds
  have longer := history_cancel s p
  rw [step_cancel named]
  refine ⟨rfl, ?_, dead, fun t inside later c there waiting => ?_⟩
  · rw [cancellations_of_history longer]
    simp [Event.cancellationOf]
  · obtain ⟨F, accounted⟩ := sound.accounted
    obtain ⟨d, before, own, waits⟩ := accounted.intake p t inside
    have here := call?_eq_some.mp before
    have cut := cut_of_dead sound' dead (sound'.run later)
    have grows : Grows s ((s.cancel p).1.run later) :=
      (Alters.cancel s p).toGrows.trans (sound'.grows_turns (sound'.run later))
    obtain ⟨c', there', same, -⟩ := grows.call here
    rw [there] at there'
    cases there'
    refine cut.unopened t c there (same.trans own) waiting fun opened => ?_
    -- nobody had opened the request, and the cancellation begins no publish
    have unchanged : (s.cancel p).1.publishes p = s.publishes p := by
      have read := (reads_publishBy p).of_history sound.bounded (Alters.cancel s p).toGrows longer
      rw [publishes, read]
      simp [Event.publishBy, publishes]
    rw [unchanged, ← own, mem_publishes accounted here] at opened
    rcases waits with queued | withdrawn
    · rw [queued] at opened
      exact opened rfl
    · rw [withdrawn] at opened
      exact opened rfl

/-- For every run: the cancellations of a publisher are answered true once, the first time; a command
that cancels it, through any of its names, leaves it dead and strands what is in its intake; a call that
a cancellation overtakes returns dead; and from the moment on when a publisher is dead, any
continuation shows the cut. -/
theorem cancellation_is_final (before : List Command) (p : Nat) :
    let s := fresh.run before
    CancelledOnce s p ∧
    (∀ n, s.names[n]? = some p → Cancels s (s.step (.cancel n)).1 p (s.step (.cancel n)).2) ∧
    (∀ t c, s.tasks[t]? = some (.call c) → c.publisher = p → c.stage = .fresh →
      c.overtaken = true → (s.publisher p).refusal? = none →
      (s.poll t).valueOf t = some (.failed .dead) ∧ ((s.poll t).publisher p).dead = true) ∧
    ((s.publisher p).dead = true → ∀ later, Cut s (s.run later) p) := by
  intro s
  have sound : Sound s := sound_run before
  refine ⟨.run before p, fun n named => cancels_of_step sound named,
    fun t c here own fresh overtaken admitted => ?_,
    fun dead later => cut_of_dead sound dead (sound.run later)⟩
  subst own
  exact poll_of_overtaken sound here fresh admitted overtaken

/-- Two cancellations, the first of which overtakes a call, and what comes after them. -/
theorem cut_after_overtaking_cancellation :
    let s := fresh.run [.publisher "" "key" {} none, .openChannel 1, .serve 0 0 false,
      .publish 0 none {} true false, .cancel 0]
    s.cancellations 0 = [true, false] ∧
      Cut s (s.run [.publish 0 none {} false false, .poll 0, .terminate 0 none]) 0 := by
  intro s
  have dead : (s.publisher 0).dead = true := rfl
  exact ⟨rfl, (cancellation_is_final _ 0).2.2.2 dead _⟩

end Relay.Service
