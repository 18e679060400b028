import Relay.Proofs.Handlings

/-!
# A poll, move by move

A poll makes as many moves as it may need, and a task that can move no further stays where it is. So a task
that moves once and is polled then ends up where one poll would have taken it, and what is read off the acts
of a poll is read off its first move and off the poll from there.
-/

namespace Relay.Service

variable {s s' : Service} {t : Nat}

theorem moves_add (t n k : Nat) (s : Service) : moves t (n + k) s = moves t k (moves t n s) := by
  rw [← perform_replicate, ← perform_replicate, ← perform_replicate, List.replicate_add, perform_append]

/-- Moves beyond those that a poll needs change nothing. -/
theorem moves_of_moveBound_le {n : Nat} (sound : Sound s) (enough : s.moveBound t ≤ n) :
    moves t n s = s.poll t := by
  obtain ⟨k, rfl⟩ := Nat.exists_eq_add_of_le enough
  rw [moves_add]
  exact moves_of_stuck (sound.move_poll t) k

/-- To move once and to be polled then is to be polled. -/
theorem poll_of_move (sound : Sound s) (moved : s.move t = some s') : s.poll t = s'.poll t := by
  have sound' : Sound s' := sound.steps (sound.goes moved).1
  have whole : moves t (s.moveBound t + s'.moveBound t + 1) s = s.poll t :=
    moves_of_moveBound_le sound (by omega)
  rw [← whole, moves, moved]
  exact moves_of_moveBound_le sound' (by omega)

section Gather

variable {α : Type} {read : Service → Act → Option α}

/-- Nothing is read off a task that is stuck. -/
theorem gather_of_stuck (stuck : s.move t = none) (idle : read s (.move t) = none) (n : Nat) :
    gather read s (List.replicate n (.move t)) = [] := by
  induction n with
  | zero => rfl
  | succ n ih => rw [List.replicate_succ, gather, idle, act_move_of_none stuck, ih]; rfl

/-- Nothing more is read off moves beyond those that a poll needs. -/
theorem gather_of_moveBound_le {n : Nat} (sound : Sound s) (enough : s.moveBound t ≤ n)
    (idle : ∀ r : Service, r.move t = none → read r (.move t) = none) :
    gather read s (List.replicate n (.move t)) = gather read s (s.actsOfPoll t) := by
  obtain ⟨k, rfl⟩ := Nat.exists_eq_add_of_le enough
  have stuck := sound.move_poll t
  rw [List.replicate_add, gather_append, ← actsOfPoll, perform_actsOfPoll,
    gather_of_stuck stuck (idle _ stuck), List.append_nil]

/-- What is read off a poll is read off its first move and off the poll from there. -/
theorem gather_of_move (sound : Sound s) (moved : s.move t = some s')
    (idle : ∀ r : Service, r.move t = none → read r (.move t) = none) :
    gather read s (s.actsOfPoll t) =
      (read s (.move t)).toList ++ gather read s' (s'.actsOfPoll t) := by
  have sound' : Sound s' := sound.steps (sound.goes moved).1
  rw [← gather_of_moveBound_le (n := s.moveBound t + s'.moveBound t + 1) sound (by omega) idle,
    List.replicate_succ, gather, act_move_of_some moved,
    gather_of_moveBound_le sound' (by omega) idle]

end Gather

end Relay.Service
