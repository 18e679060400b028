import Relay.Proofs.Readiness
import Relay.Proofs.Finality

/-!
# Order of service

The loops of a publisher serve its requests in the order in which they were accepted, and one at a
time, whatever loops come and go meanwhile. Both are invariants of steps: what was published followed by
what waits is a part of what was requested, in this order; and a publish that has begun is closed before
the next one begins, or its loop still carries it.
-/

namespace Relay.Service

open Broker (Exception)
open Publisher (Failure Reply)

variable {s s' : Service} {t p : Nat} {a : Option Nat} {F : Nat → Fate}

/-- The loop that begins a publish, and the call that it is for. -/
def Event.opens? : Event → Option (Nat × Nat)
  | .began l _ (.publish t ..) => some (l, t)
  | _ => none

/-! ## The order of acceptance -/

/-- What was published and what waits was requested in this order, and everything once. -/
structure Ordered (s : Service) (p : Nat) : Prop where
  served : (s.publishes p ++ (s.publisher p).intake.order).Sublist (s.requests p)
  once : (s.requests p).Nodup

/-- An event that neither requests nor opens anything is in neither list. -/
theorem lists_of_history {e : Event} (bounded : Bounded s) (grows : Grows s s')
    (longer : s'.history = e :: s.history) (unasked : ∀ t, e ≠ .requested t)
    (unopened : e.opens? = none) (p : Nat) :
    s'.requests p = s.requests p ∧ s'.publishes p = s.publishes p := by
  have request : ∀ owner, e.requestTo owner p = none := by
    intro owner
    cases e with
    | requested t => exact absurd rfl (unasked t)
    | _ => rfl
  have publish : ∀ owner, e.publishBy owner p = none := by
    intro owner
    cases e with
    | began l h operation =>
      cases operation with
      | publish => cases unopened
      | _ => rfl
    | _ => rfl
  rw [requests, (reads_requestTo p).of_history bounded grows longer, request,
    publishes, (reads_publishBy p).of_history bounded grows longer, publish]
  simp [requests, publishes]

/-- A minor step adds neither a request nor a publish. -/
theorem Minor.lists (minor : Minor s a s') (bounded : Bounded s) (grows : Grows s s') (p : Nat) :
    s'.requests p = s.requests p ∧ s'.publishes p = s.publishes p := by
  rcases minor.history with same | ⟨e, longer, ending⟩
  · exact ⟨(reads_requestTo p).of_same bounded grows same,
      (reads_publishBy p).of_same bounded grows same⟩
  · refine lists_of_history bounded grows longer ?_ ?_ p
    · rintro t rfl
      cases ending
    · cases e with
      | began => cases ending
      | _ => rfl

namespace Ordered

/-- Nothing is requested or published, and at most taken out of the intake. -/
theorem shrink (ordered : Ordered s p)
    (lists : s'.requests p = s.requests p ∧ s'.publishes p = s.publishes p)
    (order : (s'.publisher p).intake.order.Sublist (s.publisher p).intake.order) :
    Ordered s' p := by
  refine ⟨?_, by rw [lists.1]; exact ordered.once⟩
  rw [lists.1, lists.2]
  exact (List.Sublist.append_left order _).trans ordered.served

/-- A cancellation leaves nothing that waits, so no order to break. -/
theorem cancel {q : Nat} (ordered : Ordered s p) (sound : Sound s) : Ordered (s.cancel q).1 p := by
  have grows := (Alters.cancel s q).toGrows
  have lists := lists_of_history sound.bounded grows (history_cancel s q) (fun _ => nofun) rfl p
  apply ordered.shrink lists
  rcases intake_cancel s q p with same | empty
  · rw [same]
  · rw [empty]
    exact List.nil_sublist _

/-- A request that is put into an intake becomes the last one there. -/
theorem order_enqueue {c : Call} (rested : RestedBut (some t) s)
    (inBounds : c.publisher < s.publishers.size) (here : s.tasks[t]? = some (.call c)) :
    ((s.enqueue t c).publisher c.publisher).intake.order
      = (s.publisher c.publisher).intake.order ++ [t] := by
  rw [publisher_enqueue, if_pos ⟨rfl, inBounds⟩]
  -- it is handed off only to an idle loop, and where a loop is idle nothing is offered
  refine Publisher.Intake.order_put fun ready vacant => ?_
  unfold isReady at ready
  cases attached : (s.publisher c.publisher).loop with
  | none => simp [attached] at ready
  | some l =>
    simp only [attached] at ready
    split at ready
    · next publisher handle notice there =>
      refine rested c.publisher l ?_ attached ⟨_, notice, there, rfl⟩ vacant
      rintro ⟨⟩
      rw [here] at there
      cases there
    · cases ready

/-- A call that has not begun has not requested anything. -/
theorem not_mem_requests {c : Call} (sound : Sound s) (here : s.tasks[t]? = some (.call c))
    (fresh : c.stage = .fresh) : t ∉ s.requests p := by
  intro asked
  obtain ⟨F, accounted⟩ := sound.accounted
  have fits := accounted.call t c (call?_eq_some.mpr here)
  obtain ⟨e, inside, read⟩ := List.mem_filterMap.mp asked
  refine fits.requested_iff.mp ?_ (fits.fresh fresh)
  rw [mem_history rfl]
  cases e with
  | requested w =>
    simp only [Event.requestTo, Option.ite_none_right_eq_some, Option.some.injEq] at read
    rw [← read.2]
    exact List.mem_reverse.mp inside
  | _ => cases read

/-- A request is the last one, in the list and in the intake. -/
theorem request {c : Call} (ordered : Ordered s p) (rested : RestedBut (some t) s) (sound : Sound s)
    (here : s.tasks[t]? = some (.call c)) (fresh : c.stage = .fresh) :
    Ordered (s.enqueue t c) p := by
  have inBounds : c.publisher < s.publishers.size := sound.bounded.task t _ here
  have grows := (Alters.enqueue here).toGrows
  have longer := history_enqueue (s := s) (t := t) c
  have owner : (s.enqueue t c).publisherOf t = some c.publisher :=
    (grows.publisherOf (lt_size_of_task here)).trans (publisherOf_of_task here)
  have requests := (reads_requestTo p).of_history sound.bounded grows longer
  have publishes := (reads_publishBy p).of_history sound.bounded grows longer
  simp only [Event.publishBy, Option.toList_none, List.append_nil] at publishes
  simp only [Event.requestTo, owner, Option.some.injEq] at requests
  by_cases own : c.publisher = p
  · subst own
    rw [if_pos rfl, Option.toList_some] at requests
    have order := order_enqueue rested inBounds here
    refine ⟨?_, ?_⟩
    · rw [Service.requests, Service.publishes, requests, publishes, order, ← List.append_assoc]
      exact List.Sublist.append ordered.served (List.Sublist.refl _)
    · have new : t ∉ s.requests c.publisher := not_mem_requests sound here fresh
      rw [Service.requests, requests]
      refine List.nodup_append.mpr ⟨ordered.once, by simp, fun u asked v last => ?_⟩
      rw [List.mem_singleton.mp last]
      rintro rfl
      exact new asked
  · rw [if_neg own, Option.toList_none, List.append_nil] at requests
    refine ordered.shrink ⟨requests, publishes⟩ ?_
    rw [publisher_enqueue, if_neg fun same => own same.1.symm]

/-- The next request of the intake is published. -/
theorem begin {l : Loop} {notice : Option Nat} {caller : Nat} {c : Call} {rest : Publisher.Intake}
    (ordered : Ordered s p) (sound : Sound s) (here : s.tasks[t]? = some (.loop l))
    (next : (s.publisher l.publisher).intake.take? = some (caller, rest))
    (grows : Grows s ((s.withIntake l.publisher rest).openRequest t l notice caller c)) :
    Ordered ((s.withIntake l.publisher rest).openRequest t l notice caller c) p := by
  have inBounds : l.publisher < s.publishers.size := sound.bounded.task t _ here
  have longer := history_openRequest
    (s := s.withIntake l.publisher rest) (t := t) l notice caller c
  have owner := (grows.publisherOf (lt_size_of_task here)).trans (publisherOf_of_task here)
  have requests := (reads_requestTo p).of_history sound.bounded grows longer
  have publishes := (reads_publishBy p).of_history sound.bounded grows longer
  simp only [Event.requestTo, Option.toList_none, List.append_nil] at requests
  simp only [Event.publishBy, owner, Option.some.injEq, Task.publisher] at publishes
  have kept : ((s.withIntake l.publisher rest).openRequest t l notice caller c).publisher p
      = (s.withIntake l.publisher rest).publisher p := rfl
  by_cases own : l.publisher = p
  · subst own
    rw [if_pos rfl, Option.toList_some] at publishes
    refine ⟨?_, ?_⟩
    · have served := ordered.served
      rw [Publisher.Intake.order_of_take? next] at served
      rw [Service.requests, Service.publishes, requests, publishes, kept, publisher_withIntake,
        if_pos ⟨rfl, inBounds⟩, List.append_assoc]
      exact served
    · rw [Service.requests, requests]
      exact ordered.once
  · rw [if_neg own, Option.toList_none, List.append_nil] at publishes
    refine ordered.shrink ⟨requests, publishes⟩ ?_
    rw [kept, publisher_withIntake, if_neg fun same => own same.1.symm]

/-- Every step keeps the order. -/
theorem step (ordered : Ordered s p) (rested : RestedBut a s) (sound : Sound s) (h : Step s a s') :
    Ordered s' p := by
  have grows := h.grows
  obtain ⟨q, -, -, rfl⟩ | ⟨t, c, rfl, here, fresh, -, rfl⟩ |
    ⟨t, l, notice, caller, c, rest, -, here, -, next, -, rfl⟩ | minor := h.kinds
  · exact ordered.cancel sound
  · exact ordered.request rested sound here fresh
  · exact ordered.begin sound here next grows
  · exact ordered.shrink (minor.lists sound.bounded grows p) (minor.order p)

/-- Before anything happens nothing is out of order. -/
theorem fresh (p : Nat) : Ordered fresh p := ⟨List.Sublist.refl _, List.nodup_nil⟩

/-- A turn keeps the order, and during a poll all other loops stay rested. -/
theorem turn (ordered : Ordered s p) (rested : Rested s) (sound : Sound s) (h : Turn s s') :
    Ordered s' p := by
  cases h with
  | outside h => exact ordered.step rested sound h
  | poll t =>
    have steps : ∀ {r : Service}, Steps t s r → RestedBut (some t) r ∧ Ordered r p := by
      intro r h
      induction h with
      | refl => exact ⟨rested.but _, ordered⟩
      | tail before h ih =>
        exact ⟨ih.1.step (sound.steps before) h, ih.2.step ih.1 (sound.steps before) h⟩
    exact (steps (sound.poll t)).2

/-- So does every run. -/
theorem run (commands : List Command) (p : Nat) : Ordered (Service.fresh.run commands) p := by
  have turns : ∀ {r : Service}, Turns Service.fresh r → Rested r ∧ Ordered r p := by
    intro r h
    induction h with
    | refl => exact ⟨.fresh, fresh p⟩
    | tail before h ih =>
      have sound := Sound.fresh.turns before
      exact ⟨ih.1.turn sound h, ih.2.turn ih.1 sound h⟩
  exact (turns (Sound.fresh.run commands)).2

end Ordered

end Relay.Service
