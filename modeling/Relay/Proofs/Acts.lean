import Relay.Proofs.Turns

/-!
# Acts

A command that polls a task makes many moves at once. An `Act` is the smallest thing that happens: a
command that polls nothing, or one move of one task. Every run is a list of acts, `actsOfRun`, so what
holds after every list of acts holds whenever anything could look at the service, also between two
moves of one poll.
-/

namespace Relay

/-- Whether a command polls tasks. -/
def Command.polls : Command → Bool
  | .publish _ _ _ _ deferred | .write _ _ deferred _ | .serve _ _ deferred => !deferred
  | .poll _ | .settle _ => true
  | _ => false

namespace Service

/-- The smallest thing that happens. -/
inductive Act where
  | command (c : Command) (passive : c.polls = false)
  /-- A task moves, if it can. -/
  | move (t : Nat)

/-- The service after an act. -/
def act (s : Service) : Act → Service
  | .command c _ => (s.step c).1
  | .move t => (s.move t).getD s

/-- The service after acts, one after the other. -/
def perform (s : Service) (acts : List Act) : Service := acts.foldl act s

variable {s : Service}

@[simp] theorem perform_nil (s : Service) : s.perform [] = s := rfl

/-- The first act comes first. -/
theorem perform_cons (s : Service) (a : Act) (acts : List Act) :
    s.perform (a :: acts) = (s.act a).perform acts := rfl

/-- Acts and further acts are performed one after the other. -/
theorem perform_append (s : Service) (before after : List Act) :
    s.perform (before ++ after) = (s.perform before).perform after :=
  List.foldl_append

/-- The last act comes last. -/
theorem perform_concat (s : Service) (before : List Act) (a : Act) :
    s.perform (before ++ [a]) = (s.perform before).act a :=
  perform_append s before [a]

/-- A task that can move does. -/
theorem act_move_of_some {t : Nat} {s' : Service} (moves : s.move t = some s') :
    s.act (.move t) = s' := by
  rw [act, moves, Option.getD_some]

/-- A task that cannot move leaves the service as it is. -/
theorem act_move_of_none {t : Nat} (stuck : s.move t = none) : s.act (.move t) = s := by
  rw [act, stuck, Option.getD_none]

/-- What is read off acts, each together with the service that it meets. -/
def gather {α : Type} (read : Service → Act → Option α) : Service → List Act → List α
  | _, [] => []
  | s, a :: acts => (read s a).toList ++ gather read (s.act a) acts

/-- What is read off acts and then off further acts. -/
theorem gather_append {α : Type} (read : Service → Act → Option α) (s : Service)
    (first rest : List Act) :
    gather read s (first ++ rest) = gather read s first ++ gather read (s.perform first) rest := by
  induction first generalizing s with
  | nil => rfl
  | cons a first ih => rw [List.cons_append, gather, gather, ih, List.append_assoc, perform_cons]

/-- What the last act adds to what is read. -/
theorem gather_concat {α : Type} (read : Service → Act → Option α) (s : Service)
    (acts : List Act) (a : Act) :
    gather read s (acts ++ [a]) = gather read s acts ++ (read (s.perform acts) a).toList := by
  rw [gather_append, gather, gather, List.append_nil]

/-- What is read off acts is read off one of them, with the service that the acts before it leave. -/
theorem mem_gather {α : Type} {read : Service → Act → Option α} {s : Service} {acts : List Act} {x : α} :
    x ∈ gather read s acts ↔
      ∃ first a rest, acts = first ++ a :: rest ∧ read (s.perform first) a = some x := by
  induction acts generalizing s with
  | nil => simp [gather]
  | cons first acts ih =>
    rw [gather, List.mem_append, Option.mem_toList, ih]
    constructor
    · rintro (now | ⟨before, a, rest, rfl, later⟩)
      · exact ⟨[], first, acts, rfl, now⟩
      · exact ⟨first :: before, a, rest, rfl, later⟩
    · rintro ⟨before, a, rest, split, reads⟩
      cases before with
      | nil =>
        cases split
        exact .inl reads
      | cons b before =>
        cases split
        exact .inr ⟨before, a, rest, rfl, reads⟩

/-! ## Runs -/

/-- The acts of a poll: as many moves as it may need. -/
def actsOfPoll (s : Service) (t : Nat) : List Act := List.replicate (s.moveBound t) (.move t)

/-- The acts of polling woken tasks. -/
def actsOfSettle (direction : Direction) : Nat → Service → List Act
  | 0, _ => []
  | n + 1, s =>
    match (s.taskOrder direction).find? s.isWoken with
    | none => []
    | some t => s.actsOfPoll t ++ actsOfSettle direction n (s.poll t)

/-- The acts of a command that issues a task and polls it. -/
def actsOfStart (s : Service) (issue : Command) (passive : issue.polls = false) : List Act :=
  .command issue passive :: (s.step issue).1.actsOfPoll s.tasks.size

/-- The acts of a command. -/
def actsOf (s : Service) (c : Command) : List Act :=
  if passive : c.polls = false then [.command c passive]
  else
    match c with
    | .publish publisher routingKey message overtaken _ =>
      s.actsOfStart (.publish publisher routingKey message overtaken true) rfl
    | .write publisher body _ overtaken =>
      s.actsOfStart (.write publisher body true overtaken) rfl
    | .serve publisher channel _ => s.actsOfStart (.serve publisher channel true) rfl
    | .poll t => s.actsOfPoll t
    | .settle direction => actsOfSettle direction (8 * s.tasks.size + 8) s
    | _ => []

/-- The acts of a run. -/
def actsOfRun (s : Service) : List Command → List Act
  | [] => []
  | c :: rest => s.actsOf c ++ actsOfRun (s.step c).1 rest

/-- A task that cannot move stays where it is, however often it might. -/
theorem moves_of_stuck {t : Nat} (stuck : s.move t = none) (n : Nat) : moves t n s = s := by
  cases n with
  | zero => rfl
  | succ n => rw [moves, stuck]

/-- So many moves of a task, as far as it can move. -/
theorem perform_replicate (t n : Nat) (s : Service) :
    s.perform (List.replicate n (.move t)) = moves t n s := by
  induction n generalizing s with
  | zero => rfl
  | succ n ih =>
    rw [List.replicate_succ, perform_cons, ih, moves]
    cases h : s.move t with
    | some s' => rw [act_move_of_some h]
    | none => rw [act_move_of_none h, moves_of_stuck h]

/-- The acts of a poll make the poll. -/
theorem perform_actsOfPoll (s : Service) (t : Nat) : s.perform (s.actsOfPoll t) = s.poll t :=
  perform_replicate t _ s

/-- The acts of settling settle, for any bound on the polls. -/
theorem perform_actsOfSettle (direction : Direction) (n : Nat) (s : Service) :
    s.perform (actsOfSettle direction n s) = (settleWithin direction n s).1 := by
  induction n generalizing s with
  | zero => rfl
  | succ n ih =>
    rw [actsOfSettle, settleWithin]
    cases (s.taskOrder direction).find? s.isWoken with
    | none => rfl
    | some t =>
      simp only []
      rw [perform_append, perform_actsOfPoll, ih]
      split <;> rfl

/-- A task that cannot move is polled in vain. -/
theorem poll_of_stuck {t : Nat} (stuck : s.move t = none) : s.poll t = s := moves_of_stuck stuck _

/-- A task that is not there cannot move. -/
theorem move_of_absent {t : Nat} (absent : s.tasks[t]? = none) : s.move t = none := by
  rw [move, absent]

/-- Nor can one that is over. -/
theorem move_of_over {t : Nat} {x : Task} (here : s.tasks[t]? = some x) (isOver : x.isOver = true) :
    s.move t = none := by
  rw [move, here]
  cases x with
  | call c =>
    cases stage : c.stage with
    | finished | dropped => simp [moveCall, stage]
    | _ => simp [Task.isOver, stage] at isOver
  | loop l =>
    cases stage : l.stage with
    | finished | dropped => simp [moveLoop, isHeldUp, moveFreely, stage, LoopStage.operation?]
    | _ => simp [Task.isOver, stage] at isOver

/-- Polling a task once polls it, be it there or not: what is over cannot move. -/
theorem pollOnce_eq (s : Service) (t : Nat) : (s.pollOnce t).1 = s.poll t := by
  unfold pollOnce
  split
  · next absent => rw [poll_of_stuck (move_of_absent absent)]
  · next x here =>
    split
    · next isOver => rw [poll_of_stuck (move_of_over here isOver)]
    · simp only []
      split <;> rfl

/-- A task that is started is added, and polled as if that came later. -/
theorem start_eq_poll (s : Service) (x : Task) :
    (s.start x false).1 = (s.start x true).1.poll s.tasks.size := by
  unfold start
  simp only [Bool.false_eq_true, if_false, if_true]
  split <;> rfl

/-- Polling a task that was not issued does nothing. -/
theorem poll_size (s : Service) : s.poll s.tasks.size = s :=
  poll_of_stuck (move_of_absent (Array.getElem?_eq_none (Nat.le_refl _)))

/-- A command on a publisher polls the new task if it does for the publisher found. -/
theorem withPublisher_eq_poll {n : Nat} {f g : Nat → Service × Answer}
    (same : ∀ p, (f p).1 = (g p).1.poll s.tasks.size) :
    (s.withPublisher n f).1 = (s.withPublisher n g).1.poll s.tasks.size := by
  unfold withPublisher
  split
  · exact same _
  · exact (poll_size s).symm

/-- The same for a command on a channel. -/
theorem withChannel_eq_poll {h : Nat} {f g : Nat → Service × Answer}
    (same : ∀ c, (f c).1 = (g c).1.poll s.tasks.size) :
    (s.withChannel h f).1 = (s.withChannel h g).1.poll s.tasks.size := by
  unfold withChannel
  split
  · split
    · exact same _
    · exact (poll_size s).symm
  · exact (poll_size s).symm

/-- A command that starts a task is that command deferred and a poll. -/
theorem perform_actsOfStart {issue : Command} (passive : issue.polls = false) {r : Service}
    (polled : r = (s.step issue).1.poll s.tasks.size) :
    s.perform (s.actsOfStart issue passive) = r :=
  (perform_actsOfPoll _ _).trans polled.symm

/-- A command is its acts, one after the other. -/
theorem perform_actsOf (s : Service) (c : Command) : s.perform (s.actsOf c) = (s.step c).1 := by
  unfold actsOf
  split
  · rfl
  · next active =>
    cases c with
    | poll t => exact (perform_actsOfPoll s t).trans (pollOnce_eq s t).symm
    | settle direction => exact perform_actsOfSettle direction _ s
    -- the acts of an undeferred call are those of starting it and those of its poll
    | publish n routingKey message overtaken deferred =>
      cases deferred with
      | true => exact absurd rfl active
      | false => exact perform_actsOfStart _ (withPublisher_eq_poll fun p => start_eq_poll s _)
    | write n body deferred overtaken =>
      cases deferred with
      | true => exact absurd rfl active
      | false => exact perform_actsOfStart _ (withPublisher_eq_poll fun p => start_eq_poll s _)
    | serve n h deferred =>
      cases deferred with
      | true => exact absurd rfl active
      | false =>
        refine perform_actsOfStart _ (withPublisher_eq_poll fun p => withChannel_eq_poll fun c => ?_)
        exact start_eq_poll { s with broker := s.broker.hold c } _
    | _ => exact absurd rfl active

/-- A run is its acts, one after the other. -/
theorem perform_actsOfRun (s : Service) (commands : List Command) :
    s.perform (s.actsOfRun commands) = s.run commands := by
  induction commands generalizing s with
  | nil => rfl
  | cons c rest ih =>
    rw [actsOfRun, perform_append, perform_actsOf, ih]
    rfl

/-! ## What every act keeps -/

/-- An act is a few steps of the task that moves, or some turns. -/
theorem Sound.turns_or_steps (sound : Sound s) (a : Act) :
    Turns s (s.act a) ∨ ∃ t, a = .move t ∧ Steps t s (s.act a) := by
  cases a with
  | command c _ => exact .inl (sound.command c)
  | move t =>
    refine .inr ⟨t, rfl, ?_⟩
    cases h : s.move t with
    | none => rw [act_move_of_none h]
    | some s' =>
      rw [act_move_of_some h]
      exact (sound.goes h).steps

/-- An act leads from a sound service to a sound one that has grown out of it. -/
theorem Sound.act (sound : Sound s) (a : Act) : Sound (s.act a) ∧ Grows s (s.act a) := by
  rcases sound.turns_or_steps a with turns | ⟨t, -, steps⟩
  · exact ⟨sound.turns turns, sound.grows_turns turns⟩
  · exact ⟨sound.steps steps, steps.grows⟩

/-- So does a list of acts. -/
theorem Sound.perform (sound : Sound s) (acts : List Act) :
    Sound (s.perform acts) ∧ Grows s (s.perform acts) := by
  induction acts generalizing s with
  | nil => exact ⟨sound, .refl s⟩
  | cons a acts ih =>
    have first := sound.act a
    have rest := ih first.1
    exact ⟨rest.1, first.2.trans rest.2⟩

/-- Every service that acts reach is sound. -/
theorem sound_perform (acts : List Act) : Sound (Service.fresh.perform acts) :=
  (Sound.fresh.perform acts).1

/-- What every step keeps, acts keep. -/
theorem Sound.keeps_act {P : Service → Prop}
    (keeps : ∀ {r r' : Service} {a : Option Nat}, Sound r → Step r a r' → P r → P r')
    (sound : Sound s) (a : Act) (holds : P s) : P (s.act a) := by
  rcases sound.turns_or_steps a with turns | ⟨t, -, steps⟩
  · exact sound.keeps_turns keeps turns holds
  · exact sound.keeps_steps keeps steps holds

end Service

end Relay
