import Relay.Proofs.Kinds

/-!
# The cut

The first cancellation of a publisher is told that it is the first, every later one that it is not, and
the publisher is dead from the first one on. What steps do to a dead publisher follows from the
conditions of the events that they add.
-/

namespace Relay.Service

open Broker (Exception)
open Publisher (Failure Detach)

variable {s s' : Service} {t : Nat}

/-! ## Answers to cancellations -/

/-- Nobody has cancelled the publisher, or exactly the first to do so was told that it was. -/
def CancelledOnce (s : Service) (p : Nat) : Prop :=
  ((s.publisher p).dead = false ∧ s.cancellations p = []) ∨
    (s.publisher p).dead = true ∧ ∃ k, s.cancellations p = true :: List.replicate k false

/-- A cancellation changes no other publisher. -/
theorem dead_cancel_of_ne {p q : Nat} (inBounds : q < s.publishers.size) (other : p ≠ q) :
    ((s.cancel q).1.publisher p).dead = (s.publisher p).dead := by
  cases dead : (s.publisher q).dead with
  | true => rw [cancel_of_dead dead]; rfl
  | false =>
    rw [cancel_of_live dead, publisher_drain, if_neg other, publisher_sentence inBounds,
      if_neg other]

/-- A history that gets longer by the end of something holds no further cancellation. -/
theorem Minor.cancellations {a : Option Nat} (minor : Minor s a s') (p : Nat) :
    s'.cancellations p = s.cancellations p := by
  rcases minor.history with same | ⟨e, longer, ending⟩
  · exact cancellations_of_same same p
  · rw [cancellations_of_history longer]
    cases e with
    | cancelled => cases ending
    | _ => simp [Event.cancellationOf]

/-- Only a cancellation changes whether a publisher is dead, and only it is answered. -/
theorem Step.cancels_or_keeps {a : Option Nat} (h : Step s a s') :
    (∃ q, q < s.publishers.size ∧ s' = (s.cancel q).1) ∨
      ∀ p, (s'.publisher p).dead = (s.publisher p).dead ∧ s'.cancellations p = s.cancellations p := by
  obtain ⟨q, inBounds, -, rfl⟩ | ⟨t, c, -, -, -, -, rfl⟩ |
    ⟨t, l, notice, caller, c, rest, -, -, -, -, -, rfl⟩ |
    minor := h.kinds
  · exact .inl ⟨q, inBounds, rfl⟩
  · refine .inr fun p => ⟨publisher_onPublisher_congr Publisher.dead rfl p, ?_⟩
    rw [cancellations_of_history (history_enqueue c)]
    simp [Event.cancellationOf]
  · refine .inr fun p => ⟨publisher_onPublisher_congr Publisher.dead rfl p, ?_⟩
    have longer := history_openRequest
      (s := s.withIntake l.publisher rest) (t := t) l notice caller c
    apply (cancellations_of_history (s := s) longer p).trans
    simp [Event.cancellationOf]
  · exact .inr fun p => ⟨minor.dead p, minor.cancellations p⟩

namespace CancelledOnce

/-- In a new service nobody was cancelled. -/
theorem fresh (p : Nat) : CancelledOnce fresh p := .inl ⟨rfl, rfl⟩

/-- Every step keeps it so that the first cancellation is told to be the first. -/
theorem step {a : Option Nat} {p : Nat} (once : CancelledOnce s p) (h : Step s a s') :
    CancelledOnce s' p := by
  rcases h.cancels_or_keeps with ⟨q, inBounds, rfl⟩ | keeps
  · have longer := cancellations_of_history (history_cancel s q) p
    by_cases own : q = p
    · subst own
      have dead := dead_cancel inBounds
      rcases once with ⟨live, none⟩ | ⟨was, k, answers⟩
      · refine .inr ⟨dead, 0, ?_⟩
        rw [longer, none, live]
        simp [Event.cancellationOf]
      · refine .inr ⟨dead, k + 1, ?_⟩
        rw [longer, answers, was]
        simp [Event.cancellationOf, List.replicate_succ']
    · have same : (s.cancel q).1.cancellations p = s.cancellations p := by
        rw [longer]
        simp [Event.cancellationOf, own]
      unfold CancelledOnce
      rw [dead_cancel_of_ne inBounds (Ne.symm own), same]
      exact once
  · obtain ⟨dead, same⟩ := keeps p
    unfold CancelledOnce
    rw [dead, same]
    exact once

/-- So does every run. -/
theorem run (commands : List Command) (p : Nat) : CancelledOnce (Service.fresh.run commands) p :=
  Sound.keeps_turns (P := fun s => CancelledOnce s p) (fun _ h once => once.step h) .fresh
    (Sound.fresh.run commands) (fresh p)

/-- Who was told to be the first has left the publisher dead. -/
theorem dead_of_cancelled {p : Nat} {first : Bool} (once : CancelledOnce s p)
    (told : .cancelled p first ∈ s.journal) : (s.publisher p).dead = true := by
  rcases once with ⟨-, none⟩ | ⟨dead, -⟩
  · have answer : first ∈ s.cancellations p := by
      rw [cancellations, chronicle, List.mem_filterMap]
      exact ⟨_, List.mem_reverse.mpr told, by simp [Event.cancellationOf]⟩
    rw [none] at answer
    cases answer
  · exact dead

end CancelledOnce

/-- What the command to cancel a publisher does and answers. -/
theorem step_cancel {n p : Nat} (named : s.names[n]? = some p) :
    s.step (.cancel n) = ((s.cancel p).1, .first (!(s.publisher p).dead)) := by
  simp only [Service.step, withPublisher, named]
  cases dead : (s.publisher p).dead with
  | true => rw [cancel_of_dead dead]; rfl
  | false => rw [cancel_of_live dead]; rfl

end Relay.Service
