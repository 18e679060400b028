import Relay.Proofs.Cancellation
import Relay.Proofs.Outcomes
import Mathlib.Data.List.Nodup

/-!
# Where waiting calls stand

A call that waits for its answer is in one of three places: its request is in the intake, or the loop
attached to its publisher is publishing it, or the answer is there. Nobody waits for nothing; and once
a publisher is cancelled, its intake is empty and stays so.
-/

namespace Relay.Service

open Publisher (Failure Request)

variable {s s' : Service} {t : Nat} {c : Call} {F : Nat → Fate}

/-- The request of a call is in the intake of its publisher, once, in no other intake, and nobody has
claimed it. -/
structure Queued (s : Service) (t : Nat) (c : Call) : Prop where
  once : ∀ p, (s.publisher p).intake.order.count t = if p = c.publisher then 1 else 0
  unclaimed : c.request.claimed = false

/-- The request of a call was opened by a loop, the only one that is attached to its publisher, which
is in the publish for it: it has begun this publish and no other for the call, and the publish has not
come back. -/
structure InService (s : Service) (t : Nat) (c : Call) (l : Nat) : Prop where
  claimed : c.request.claimed = true
  attached : (s.publisher c.publisher).loop = some l
  only : ∀ k, s.mooring k = some c.publisher ↔ k = l
  publishing : ∃ x notice phase, s.tasks[l]? = some (.loop x) ∧ x.publisher = c.publisher ∧
    x.stage = .publishing notice t phase ∧ s.publishesFor t = [s.publishEvent t c l x.handle]
  unreturned : s.returnsTo t = []

/-- A call has its answer, or the loop that owed it one is gone, and the next poll returns. -/
def Answered (s : Service) (t : Nat) (c : Call) : Prop :=
  ∃ r, c.request.outcome? = some r ∧ (s.poll t).valueOf t = some (c.value r)

/-- A call that was admitted and handed its request to the intake, and is neither finished nor
dropped. -/
structure Pending (s : Service) (t : Nat) (c : Call) : Prop where
  here : s.tasks[t]? = some (.call c)
  requested : .requested t ∈ s.journal
  alive : (Task.call c).isOver = false

/-- A pending call waits. -/
theorem Pending.waiting {f : Fate} (pending : Pending s t c) (fits : Fits s t c f) :
    c.stage = .waiting := by
  obtain ⟨-, requested, alive⟩ := pending
  have own : Event.requested t ∈ s.course t := by
    rw [course, List.mem_filter, mem_history rfl]
    exact ⟨requested, by simp [Event.isOf]⟩
  unfold Task.isOver at alive
  cases stage : c.stage with
  | waiting => rfl
  | finished | dropped => simp [stage] at alive
  | fresh =>
    rw [fits.course, fits.fresh stage, Call.closing, stage] at own
    cases own

/-- A queued request is once in the intake of its publisher, and in no other. -/
theorem count_order (accounted : Accounted s F) (here : s.tasks[t]? = some (.call c))
    (queued : F t = .queued) (p : Nat) :
    (s.publisher p).intake.order.count t = if p = c.publisher then 1 else 0 := by
  have before := call?_eq_some.mpr here
  split
  · next own =>
    rw [own]
    exact List.count_eq_one_of_mem (accounted.nodup _) (accounted.queued t c before queued)
  · next away =>
    refine List.count_eq_zero.mpr fun inside => away ?_
    obtain ⟨d, there, own, -⟩ := accounted.intake p t inside
    rw [before] at there
    cases there
    exact own.symm

/-- The loop that opened a request which is under way is publishing it. -/
theorem inService_of_underWay {l h : Nat} (sound : Sound s) (accounted : Accounted s F)
    (here : s.tasks[t]? = some (.call c)) (underWay : F t = .underWay l h) : InService s t c l := by
  have fits := accounted.call t c (call?_eq_some.mpr here)
  rw [underWay] at fits
  obtain ⟨x, loop, own, rfl⟩ := fits.opener l h rfl
  have carried := (accounted.carried l t).mpr ⟨x.handle, underWay⟩
  rw [carries, loop, Option.bind_some, Task.caller?] at carried
  obtain ⟨notice, phase, publishing⟩ := LoopStage.caller?_eq_some.mp carried
  have moored := mooring_of_attached loop (by rw [publishing]; rfl)
  rw [own] at moored
  have attached := (sound.moored c.publisher l).mpr moored
  refine
    { claimed := (fits.claimed_of_opener rfl).1
      attached := attached
      only := fun k => ?_
      publishing := ⟨x, notice, phase, loop, own, publishing, fits.publishesFor⟩
      unreturned := fits.returns }
  rw [← sound.moored c.publisher k, attached]
  exact ⟨fun same => (Option.some.inj same).symm, fun same => by rw [same]⟩

/-- A loop in the publish for a call has its request under way. -/
theorem InService.underWay {l : Nat} (service : InService s t c l) (accounted : Accounted s F) :
    ∃ h, F t = .underWay l h := by
  obtain ⟨x, notice, phase, loop, -, publishing, -⟩ := service.publishing
  exact accounted.underWay_of_publishing loop publishing

/-- A call with an answer no longer awaits its reply. -/
theorem Answered.reply {f : Fate} (answered : Answered s t c) (fits : Fits s t c f) :
    f.reply ≠ .awaited := by
  obtain ⟨r, outcome, -⟩ := answered
  intro awaited
  rw [Request.outcome?, fits.reply, awaited] at outcome
  cases outcome

/-- A pending call is in exactly one of the three places. -/
theorem place_of_pending (sound : Sound s) (pending : Pending s t c) :
    (Queued s t c ∧ ¬ (∃ l, InService s t c l) ∧ ¬ Answered s t c) ∨
    (¬ Queued s t c ∧ (∃ l, InService s t c l) ∧ ¬ Answered s t c) ∨
    (¬ Queued s t c ∧ ¬ (∃ l, InService s t c l) ∧ Answered s t c) := by
  have here := pending.here
  obtain ⟨F, accounted⟩ := sound.accounted
  have fits := accounted.call t c (call?_eq_some.mpr here)
  have waiting := pending.waiting fits
  -- each place has its own fates, so they exclude each other
  have serviced : ∀ l, InService s t c l → ∃ h, F t = .underWay l h :=
    fun l service => service.underWay accounted
  have replied : Answered s t c → (F t).reply ≠ .awaited := fun answered => answered.reply fits
  have free : Queued s t c → F t = .queued := fun queued =>
    fits.queued_of_unclaimed queued.unclaimed (by rw [waiting]; rintro ⟨⟩)
  have answers : (F t).reply ≠ .awaited → Answered s t c := by
    intro replied
    cases outcome : c.request.outcome? with
    | some r => exact ⟨r, outcome, poll_of_outcome here waiting outcome⟩
    | none =>
      rw [Request.outcome?, fits.reply] at outcome
      split at outcome
      · next awaited => exact absurd awaited replied
      · cases outcome
      · cases outcome
  cases fate : F t with
  | unsent => exact absurd fate (fits.waiting waiting).1
  | withdrawn => exact absurd fate (fits.waiting waiting).2
  | queued =>
    refine .inl ⟨⟨count_order accounted here fate, ?_⟩, ?_, fun answered => ?_⟩
    · rw [fate] at fits
      exact fits.unclaimed_of_queued
    · rintro ⟨l, service⟩
      obtain ⟨h, underWay⟩ := serviced l service
      rw [fate] at underWay
      cases underWay
    · exact replied answered (by rw [fate]; rfl)
  | underWay l h =>
    refine .inr (.inl ⟨fun queued => ?_, ⟨l, inService_of_underWay sound accounted here fate⟩,
      fun answered => replied answered (by rw [fate]; rfl)⟩)
    rw [free queued] at fate
    cases fate
  | stranded | served | abandoned =>
    refine .inr (.inr ⟨fun queued => ?_, ?_, ?_⟩)
    · rw [free queued] at fate
      cases fate
    · rintro ⟨l, service⟩
      obtain ⟨h, underWay⟩ := serviced l service
      rw [fate] at underWay
      cases underWay
    · apply answers
      rw [fate]
      rintro ⟨⟩

/-- An intake without requests is empty. -/
theorem intake_of_order {i : Publisher.Intake} (empty : i.order = []) : i = {} := by
  obtain ⟨handedOff, offered⟩ := i
  cases handedOff with
  | none => exact congrArg (Publisher.Intake.mk none) empty
  | some r => cases empty

/-- In every state that a run reaches, each pending call is in exactly one place: in the intake of its
publisher, with the loop attached to it, or at its answer, which the next poll returns. A publisher
that a cancellation has cut has an empty intake ever after, and the calls pending on it are in service
or answered. -/
theorem pending_call_in_one_place (commands : List Command) :
    let s := fresh.run commands
    (∀ t c, Pending s t c →
      (Queued s t c ∧ ¬ (∃ l, InService s t c l) ∧ ¬ Answered s t c) ∨
      (¬ Queued s t c ∧ (∃ l, InService s t c l) ∧ ¬ Answered s t c) ∨
      (¬ Queued s t c ∧ ¬ (∃ l, InService s t c l) ∧ Answered s t c)) ∧
    (∀ p, .cancelled p true ∈ s.journal → (s.publisher p).intake = {} ∧
      ∀ t c, Pending s t c → c.publisher = p →
        ¬ Queued s t c ∧ ((∃ l, InService s t c l) ∨ Answered s t c)) ∧
    ∀ n p, s.names[n]? = some p → (s.step (.cancel n)).2 = .first true →
      ∀ later, .cancelled p true ∈ ((s.step (.cancel n)).1.run later).journal := by
  intro s
  have sound : Sound s := sound_run commands
  refine ⟨fun t c pending => place_of_pending sound pending, fun p told => ?_,
    fun n p named answer later => ?_⟩
  · obtain ⟨F, accounted⟩ := sound.accounted
    have dead : (s.publisher p).dead = true := (CancelledOnce.run commands p).dead_of_cancelled told
    have empty := intake_of_order (accounted.dead p dead)
    refine ⟨empty, fun t c pending own => ?_⟩
    -- a request that waits stands in the intake once, and in an empty one it cannot
    have away : ¬ Queued s t c := by
      intro queued
      have once := queued.once p
      rw [empty, if_pos own.symm] at once
      cases once
    refine ⟨away, ?_⟩
    rcases place_of_pending sound pending with ⟨queued, -⟩ | ⟨-, service, -⟩ | ⟨-, -, answered⟩
    · exact absurd queued away
    · exact .inl service
    · exact .inr answered
  · have first : (!(s.publisher p).dead) = true := by
      rw [step_cancel named] at answer
      exact Answer.first.inj answer
    have cut : Sound (s.step (.cancel n)).1 := sound.turns (sound.command _)
    apply (cut.grows_turns (cut.run later)).journal.subset
    rw [step_cancel named, ← mem_history rfl, history_cancel, first]
    exact List.mem_cons_self

/-- A publisher is cancelled while its loop publishes: the call that waits for it is pending and not in
the intake. -/
theorem pending_call_at_cancellation :
    let s := fresh.run [.publisher "" "key" {} none, .openChannel 1, .hold 0 .publish .before,
      .serve 0 0 false, .publish 0 none {} false false, .poll 0, .cancel 0]
    let c : Call := { publisher := 0, purpose := .publish, stage := .waiting
                      request := { routingKey := "key", message := {}, claimed := true } }
    Pending s 1 c ∧ .cancelled 0 true ∈ s.journal ∧ (s.publisher 0).intake = {} ∧
      ¬ Queued s 1 c ∧ ((∃ l, InService s 1 c l) ∨ Answered s 1 c) := by
  intro s c
  have pending : Pending s 1 c := ⟨rfl, .tail _ (.tail _ (.tail _ (.head _))), rfl⟩
  have told : .cancelled 0 true ∈ s.journal := .tail _ (.head _)
  obtain ⟨empty, calls⟩ := (pending_call_in_one_place _).2.1 0 told
  exact ⟨pending, told, empty, calls 1 c pending rfl⟩

end Relay.Service
