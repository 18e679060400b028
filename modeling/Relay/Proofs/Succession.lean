import Relay.Proofs.Serial

/-!
# One loop after the other

What a publisher's loops leave out, and what one loop leaves to the next. A request that no loop opens
is withdrawn, answered by the cancellation, or waits; a loop that is dropped leaves the intake as it
is, and one that is polled takes requests from its front only.
-/

namespace Relay.Service

open Broker (Exception)
open Publisher (Failure)

variable {s s' : Service} {t p : Nat} {c : Call} {F : Nat → Fate} {f : Fate}

/-! ## Requests that no loop opens -/

/-- The caller was dropped before a publish was begun for it. -/
def DroppedUnopened (s : Service) (t : Nat) : Prop :=
  ∃ later earlier, s.journal = later ++ .dropped t :: earlier ∧
    ∀ e ∈ earlier, e.isPublishFor t = false

/-- The cancellation answered the request. -/
def AnsweredDead (s : Service) (t : Nat) : Prop :=
  ∃ c, s.tasks[t]? = some (.call c) ∧ c.request.reply = .answered (.error .dead)

/-- The request waits in the intake, and its caller for it. -/
def StillWaiting (s : Service) (t : Nat) : Prop :=
  ∃ c, s.tasks[t]? = some (.call c) ∧ c.stage = .waiting ∧ Queued s t c

/-- A list that begins with the only occurrence of an element has nothing before it. -/
theorem eq_nil_of_cons_eq_append {α : Type} {x : α} {xs before after : List α} (new : x ∉ xs)
    (split : x :: xs = before ++ x :: after) : before = [] := by
  cases before with
  | nil => rfl
  | cons y before =>
    obtain ⟨-, rest⟩ := List.cons.inj split
    exact absurd (by rw [rest]; simp) new

/-- A dropped call was opened, if ever, before it was dropped. -/
theorem Fits.unopened_of_dropped (fits : Fits s t c f) (dropped : DroppedUnopened s t) :
    f.opener? = none := by
  obtain ⟨later, earlier, split, unopened⟩ := dropped
  have course : s.course t = (later.filter Event.isDecisive).filter (Event.isOf t) ++
      .dropped t :: (earlier.filter Event.isDecisive).filter (Event.isOf t) := by
    rw [Service.course, history, split]
    simp [Event.isDecisive, Event.isOf]
  have untold : Event.dropped t ∉ f.trail t (s.publisher c.publisher).exchange c.request := by
    cases f <;> simp [Fate.trail]
  -- the course of the call ends with the drop, so all of its trail is earlier
  have closing : c.closing t = [.dropped t] := by
    have told : Event.dropped t ∈ s.course t := by
      rw [course]
      simp
    rw [fits.course, List.mem_append, or_iff_left untold] at told
    unfold Call.closing at told ⊢
    cases stage : c.stage <;> simp [stage] at told
    rfl
  have whole := fits.course
  rw [closing, course, List.singleton_append] at whole
  have nothing := eq_nil_of_cons_eq_append untold whole.symm
  rw [nothing, List.nil_append] at whole
  have trail := (List.cons.inj whole).2
  apply Option.eq_none_iff_forall_ne_some.mpr
  rintro ⟨l, h⟩ opener
  have began : s.publishEvent t c l h ∈ (earlier.filter Event.isDecisive).filter (Event.isOf t) := by
    rw [trail]
    cases f with
    | unsent | queued | withdrawn | stranded => cases opener
    | underWay | served | abandoned =>
      cases opener
      exact List.mem_cons_self
  have inside := (List.mem_filter.mp (List.mem_filter.mp began).1).1
  have for_t := unopened _ inside
  simp [publishEvent, Event.isPublishFor] at for_t

/-- A withdrawn request is one whose call was dropped. -/
theorem Fits.dropped_of_withdrawn (fits : Fits s t c .withdrawn) : c.stage = .dropped := by
  cases stage : c.stage with
  | dropped => rfl
  | fresh => exact absurd (fits.fresh stage) nofun
  | waiting => exact absurd rfl (fits.waiting stage).2
  | finished r => exact absurd stage (fits.not_finished_of_awaited rfl nofun r)

theorem droppedUnopened_of_withdrawn (fits : Fits s t c .withdrawn) : DroppedUnopened s t := by
  have publishes := fits.publishesFor
  have told : Event.dropped t ∈ s.course t := by
    rw [fits.course, Call.closing, fits.dropped_of_withdrawn]
    exact List.mem_cons_self
  obtain ⟨later, earlier, split⟩ :=
    List.append_of_mem ((mem_history rfl).mp (List.mem_filter.mp told).1)
  refine ⟨later, earlier, split, fun e inside => ?_⟩
  refine Bool.eq_false_iff.mpr fun for_t => ?_
  have mem : e ∈ s.publishesFor t := by
    rw [publishesFor, split, List.mem_filter]
    exact ⟨by simp [inside], for_t⟩
  rw [publishes] at mem
  cases mem

/-- A request that was put into the intake is left out of the publishes exactly if it was withdrawn,
answered by the cancellation, or still waits. -/
theorem not_mem_publishes_iff (accounted : Accounted s F) (here : s.tasks[t]? = some (.call c))
    (requested : .requested t ∈ s.history) :
    t ∉ s.publishes c.publisher ↔ DroppedUnopened s t ∨ AnsweredDead s t ∨ StillWaiting s t := by
  have fits := accounted.call t c (call?_eq_some.mpr here)
  rw [mem_publishes accounted here, not_not]
  constructor
  · intro unopened
    cases fate : F t with
    | unsent => exact absurd fate (fits.requested_iff.mp requested)
    | withdrawn =>
      rw [fate] at fits
      exact .inl (droppedUnopened_of_withdrawn fits)
    | stranded =>
      rw [fate] at fits
      exact .inr (.inl ⟨c, here, fits.reply⟩)
    | queued =>
      have once := count_order accounted here fate
      rw [fate] at fits
      exact .inr (.inr ⟨c, here, fits.waiting_of_queued, once, fits.unclaimed_of_queued⟩)
    | underWay | served | abandoned => rw [fate] at unopened; cases unopened
  · rintro (dropped | ⟨d, there, answered⟩ | ⟨d, there, waiting, queued⟩)
    · exact fits.unopened_of_dropped dropped
    · rw [here] at there
      cases there
      rw [fits.reply] at answered
      cases fate : F t with
      | served l h result => rw [fate] at answered; cases result <;> cases answered
      | underWay | abandoned => rw [fate] at answered; cases answered
      | _ => rfl
    · rw [here] at there
      cases there
      rw [fits.queued_of_unclaimed queued.unclaimed (by rw [waiting]; exact nofun)]
      rfl

/-! ## What a loop leaves -/

/-- Requests are taken from the front of an intake, and only those are missing afterwards that a loop
opened or whose calls are dropped. -/
structure Leaves (s s' : Service) (p : Nat) : Prop where
  suffix : (s'.publisher p).intake.order <:+ (s.publisher p).intake.order
  kept : ∀ t ∈ (s.publisher p).intake.order, t ∈ (s'.publisher p).intake.order ∨
    t ∈ s'.publishes p ∨ ∃ c, s'.tasks[t]? = some (.call c) ∧ c.stage = .dropped

/-- Steps of a loop take from the front of intakes, and cancel nothing. -/
theorem suffix_of_loop {l : Loop} (here : s.tasks[t]? = some (.loop l)) (h : Steps t s s') :
    (s'.publisher p).intake.order <:+ (s.publisher p).intake.order ∧
      (s'.publisher p).dead = (s.publisher p).dead := by
  induction h with
  | refl => exact ⟨List.suffix_rfl, rfl⟩
  | @tail r r' before h ih =>
    obtain ⟨l', still, -⟩ := (Steps.grows before).loop here
    obtain ⟨q, -, byCall, -⟩ | ⟨u, c, same, there, -⟩ |
      ⟨u, k, notice, caller, c, rest, -, -, -, next, -, rfl⟩ | minor := h.kinds
    · obtain ⟨c, there⟩ := byCall t rfl
      rw [still] at there
      cases there
    · cases same
      rw [still] at there
      cases there
    · have taken : ((r.withIntake k.publisher rest).publisher p).intake.order <:+
          (r.publisher p).intake.order := suffix_of_take next p
      exact ⟨taken.trans ih.1, (publisher_onPublisher_congr Publisher.dead rfl p).trans ih.2⟩
    · exact ⟨(minor.suffix p t rfl).trans ih.1, (minor.dead p).trans ih.2⟩

theorem leaves_poll {l : Loop} (sound : Sound s) (here : s.tasks[t]? = some (.loop l)) :
    Leaves s (s.poll t) p := by
  have sound' := sound.steps (sound.poll t)
  obtain ⟨F, accounted⟩ := sound.accounted
  obtain ⟨F', accounted'⟩ := sound'.accounted
  have grows := (sound.poll t).grows
  obtain ⟨suffix, dead⟩ := suffix_of_loop (p := p) here (sound.poll t)
  refine ⟨suffix, fun u inside => ?_⟩
  obtain ⟨c, before, own, waits⟩ := accounted.intake p u inside
  obtain ⟨c', there, own', -⟩ := grows.call (call?_eq_some.mp before)
  have fits := accounted.call u c before
  have fits' := accounted'.call u c' (call?_eq_some.mpr there)
  have asked : F u ≠ .unsent := by
    rcases waits with queued | withdrawn
    · rw [queued]; exact nofun
    · rw [withdrawn]; exact nofun
  have home : c'.publisher = p := own'.trans own
  cases fate : F' u with
  | unsent => exact absurd fate (fits'.requested_iff.mp
      (grows.history.subset (fits.requested_iff.mpr asked)))
  | queued =>
    have still := accounted'.queued u c' (call?_eq_some.mpr there) fate
    rw [home] at still
    exact .inl still
  | withdrawn =>
    rw [fate] at fits'
    exact .inr (.inr ⟨c', there, fits'.dropped_of_withdrawn⟩)
  | stranded =>
    -- the publisher was alive, since something waited, and the loop has not cancelled it
    have cut := fits'.cut fate
    rw [home, dead] at cut
    rw [accounted.dead p cut] at inside
    cases inside
  | underWay | served | abandoned =>
    have opened := (mem_publishes accounted' there).mpr (by rw [fate]; exact nofun)
    rw [home] at opened
    exact .inr (.inl opened)

/-- A dropped loop leaves all intakes as they are. -/
theorem intake_drop {l : Loop} (here : s.tasks[t]? = some (.loop l)) :
    ((s.drop t).publisher p).intake = (s.publisher p).intake := by
  have dropped : s.drop t = s.dropLoop t l := by simp only [drop, here]
  rw [dropped]
  by_cases isOver : (Task.loop l).isOver = true
  · rw [dropLoop_of_over isOver]
  · rw [publisher_dropLoop (Bool.eq_false_iff.mpr isOver)]
    exact (Accounted.orders_detach s l p).1

/-! ## Order of service -/

/-- For every run and every publisher: its loops publish a subsequence of its requests, in the order of
their acceptance; left out are exactly those that were dropped before they were opened, those that the
cancellation answered and those that still wait; of two publishes the first is closed before the second
begins; and a loop that is dropped, or polled to its end, leaves what it has not opened in place. -/
theorem requests_served_in_order (commands : List Command) (p : Nat) :
    let s := fresh.run commands
    ((s.publishes p).Sublist (s.requests p) ∧ (s.requests p).Nodup) ∧
    (∀ t ∈ s.requests p,
      t ∉ s.publishes p ↔ DroppedUnopened s t ∨ AnsweredDead s t ∨ StillWaiting s t) ∧
    (∀ later mid earlier e e' l t l' t', s.journal = later ++ e' :: (mid ++ e :: earlier) →
      e.opens? = some (l, t) → e'.opens? = some (l', t') →
      s.publisherOf l = some p → s.publisherOf l' = some p → ∃ d ∈ mid, d.Closes l t) ∧
    ∀ (l : Nat) (x : Loop), s.tasks[l]? = some (.loop x) →
      ((s.drop l).publisher p).intake = (s.publisher p).intake ∧ Leaves s (s.poll l) p := by
  intro s
  have sound : Sound s := sound_run commands
  obtain ⟨F, accounted⟩ := sound.accounted
  have ordered : Ordered s p := .run commands p
  have serial : Serial s := .run commands
  -- the run law is about the history, the decisive events alone; an opening is one, so it is found in the
  -- journal
  have decisive : ∀ {e : Event} {k : Nat × Nat}, e.opens? = some k → e.isDecisive = true := by
    intro e k opens
    cases e with
    | began l h operation => cases operation <;> first | rfl | cases opens
    | _ => cases opens
  refine ⟨⟨(List.sublist_append_left _ _).trans ordered.served, ordered.once⟩, fun t asked => ?_,
    fun later mid earlier e e' l t l' t' split opens opens' own own' => ?_,
    fun l x here => ⟨intake_drop here, leaves_poll sound here⟩⟩
  · obtain ⟨e, inside, read⟩ := List.mem_filterMap.mp asked
    cases e with
    | requested u =>
      simp only [Event.requestTo, Option.ite_none_right_eq_some, Option.some.injEq] at read
      obtain ⟨own, rfl⟩ := read
      have requested : Event.requested u ∈ s.history :=
        (mem_history rfl).mpr (List.mem_reverse.mp inside)
      obtain ⟨c, here⟩ := sound.bounded.caller u requested
      rw [publisherOf_of_task here] at own
      rw [← Option.some.inj own]
      exact not_mem_publishes_iff accounted here requested
    | _ => cases read
  · have shorter : s.history = later.filter Event.isDecisive ++
        e' :: (mid.filter Event.isDecisive ++ e :: earlier.filter Event.isDecisive) := by
      rw [history, split]
      simp [decisive opens, decisive opens']
    obtain ⟨d, inside, closes⟩ := serial.closed p _ _ _ e e' l t l' t' shorter opens opens' own own'
    exact ⟨d, (List.mem_filter.mp inside).1, closes⟩

/-- The first loop is dropped in its publish, and then the caller of the second request; the next loop
begins with the third. -/
theorem third_request_after_dropped_loop :
    let s := fresh.run [.publisher "" "key" {} none, .openChannel 1, .hold 0 .publish .after,
      .serve 0 0 false, .publish 0 none {} false false, .publish 0 none {} false false,
      .publish 0 none {} false false, .poll 0, .dropTask 0, .dropTask 2, .openChannel 1,
      .serve 0 1 false, .poll 4]
    s.requests 0 = [1, 2, 3] ∧ s.publishes 0 = [1, 3] ∧
      (DroppedUnopened s 2 ∨ AnsweredDead s 2 ∨ StillWaiting s 2) ∧
      ∃ d ∈ (s.journal.drop 3).take 6, d.Closes 0 1 := by
  intro s
  have requests : s.requests 0 = [1, 2, 3] := rfl
  have publishes : s.publishes 0 = [1, 3] := rfl
  have ordered := requests_served_in_order [.publisher "" "key" {} none, .openChannel 1,
    .hold 0 .publish .after, .serve 0 0 false, .publish 0 none {} false false,
    .publish 0 none {} false false, .publish 0 none {} false false, .poll 0, .dropTask 0,
    .dropTask 2, .openChannel 1, .serve 0 1 false, .poll 4] 0
  have left : 2 ∉ s.publishes 0 := by
    rw [publishes]
    decide
  refine ⟨requests, publishes, (ordered.2.1 2 ?_).mp left, ?_⟩
  · rw [requests]
    decide
  · exact ordered.2.2.1 (s.journal.take 2) ((s.journal.drop 3).take 6) (s.journal.drop 10) _ _ 0 1 4 3
      rfl rfl rfl rfl rfl
end Relay.Service
