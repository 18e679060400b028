import Relay.Proofs.Moves

/-!
# Commands are turns

Between two commands every task has been polled as far as it goes or not at all. A `Turn` is a step
from outside or a whole poll; a command is a sequence of turns, and so is a run.
-/

namespace Relay.Service

variable {s s' : Service} {t : Nat}

/-- A step from outside, or a poll. -/
inductive Turn (s : Service) : Service → Prop
  | outside {s' : Service} (step : Step s none s') : Turn s s'
  | poll (t : Nat) : Turn s (s.poll t)

/-- Some turns. -/
abbrev Turns : Service → Service → Prop := Relation.ReflTransGen Turn

/-- The steps of a poll only add to a service. -/
theorem Steps.grows (h : Steps t s s') : Grows s s' := by
  induction h with
  | refl => exact .refl s
  | tail _ h ih => exact ih.trans h.grows

namespace Sound

/-- A turn leads from a sound service to a sound one. -/
theorem turn (sound : Sound s) (h : Turn s s') : Sound s' := by
  cases h with
  | outside h => exact sound.step h
  | poll t => exact sound.steps (sound.poll t)

/-- So do turns. -/
theorem turns (sound : Sound s) (h : Turns s s') : Sound s' := by
  induction h with
  | refl => exact sound
  | tail _ h ih => exact ih.turn h

/-- A turn only adds to a sound service. -/
theorem grows_turn (sound : Sound s) (h : Turn s s') : Grows s s' := by
  cases h with
  | outside h => exact h.grows
  | poll t => exact (sound.poll t).grows

/-- So do turns, since the services between them are sound. -/
theorem grows_turns (sound : Sound s) (h : Turns s s') : Grows s s' := by
  induction h with
  | refl => exact .refl s
  | tail before h ih => exact ih.trans ((sound.turns before).grows_turn h)

/-- What every step keeps, the steps of a task keep. -/
theorem keeps_steps {P : Service → Prop}
    (keeps : ∀ {r r' : Service} {a : Option Nat}, Sound r → Step r a r' → P r → P r')
    (sound : Sound s) (h : Steps t s s') (holds : P s) : P s' := by
  induction h with
  | refl => exact holds
  | tail before h ih => exact keeps (sound.steps before) h ih

/-- What every step keeps, turns keep. -/
theorem keeps_turns {P : Service → Prop}
    (keeps : ∀ {r r' : Service} {a : Option Nat}, Sound r → Step r a r' → P r → P r')
    (sound : Sound s) (h : Turns s s') (holds : P s) : P s' := by
  induction h with
  | refl => exact holds
  | tail before h ih =>
    cases h with
    | outside h => exact keeps (sound.turns before) h ih
    -- a poll is no step but a sequence of them, each from a sound service
    | poll t => exact keeps_steps keeps (sound.turns before) ((sound.turns before).poll t) ih

end Sound

/-- Services that are alike are at most one turn apart. -/
theorem Turns.quiet (alike : Alike s s') : Turns s s' := .single (.outside (.quiet alike))

/-! ## Commands -/

/-- A command on a channel is some turns if it is so for the channel found; an unknown or dropped
handle changes nothing. -/
theorem turns_withChannel {h : Nat} {f : Nat → Service × Answer}
    (inner : ∀ c, Turns s (f c).1) : Turns s (s.withChannel h f).1 := by
  unfold withChannel
  split
  · split
    · exact inner _
    · exact .refl
  · exact .refl

/-- A command on a publisher is some turns if it is so for the publisher that the name stands for.
-/
theorem turns_withPublisher {n : Nat} {f : Nat → Service × Answer}
    (inner : ∀ p, s.names[n]? = some p → Turns s (f p).1) : Turns s (s.withPublisher n f).1 := by
  unfold withPublisher
  split
  · next p here => exact inner p here
  · exact .refl

/-- A command on a sink is some turns if it is so for a sink that is there. -/
theorem turns_withSink {k : Nat} {f : Service × Answer} (inner : Turns s f.1) :
    Turns s (s.withSink k f).1 := by
  unfold withSink
  split
  · exact inner
  · exact .refl

/-- Opening channels is quiet: only the broker, its log and the handles change. -/
theorem turns_openHandle (s : Service) (count : Nat) : Turns s (s.openHandle count).1 := by
  unfold openHandle
  simp only []
  split
  · exact .quiet ((Alike.after _ _).trans (.of_fields rfl rfl rfl rfl))
  · exact .quiet (.after _ _)

/-- A publish straight on a channel is quiet: at most the delivery is written in the journal. -/
theorem turns_publishOn (s : Service) (c : Nat) (exchange routingKey : String)
    (options : Broker.PublishOptions) (message : Message) :
    Turns s (s.publishOn c exchange routingKey options message).1 := by
  unfold publishOn
  simp only []
  split
  · exact .quiet ((Alike.after _ _).trans (.record rfl))
  · exact .quiet (.after _ _)
  · exact .quiet (.after _ _)

/-- Looking at a listener forgets at most the listener. -/
theorem turns_check (s : Service) (l : Nat) : Turns s (s.check l).1 := by
  unfold check
  split
  · exact .refl
  · exact .refl
  · split
    · exact .refl
    · exact .quiet (.of_fields rfl rfl rfl rfl)
    · exact .quiet (.of_fields rfl rfl rfl rfl)

/-- A new task begins with its first poll, unless that is deferred. -/
theorem turns_start_of_pushed (s : Service) (x : Task) (deferred : Bool) :
    Turns { s with tasks := s.tasks.push x } (s.start x deferred).1 := by
  unfold start
  simp only []
  split
  · exact .refl
  · split
    · exact .single (.poll _)
    · exact .single (.poll _)

/-- A task that is issued and started is a step from outside and perhaps a poll. -/
theorem turns_start {x : Task} (new : x.issued = x) (inBounds : x.publisher < s.publishers.size)
    (deferred : Bool) : Turns s (s.start x deferred).1 :=
  .head (.outside (.issue new inBounds)) (turns_start_of_pushed s x deferred)

/-- Polling a task once is a poll or, for a task that is not there or is over, nothing. -/
theorem turns_pollOnce (s : Service) (t : Nat) : Turns s (s.pollOnce t).1 := by
  unfold pollOnce
  split
  · exact .refl
  · split
    · exact .refl
    · simp only []
      split
      · exact .single (.poll t)
      · exact .single (.poll t)

/-- Settling polls one woken task after another, so it is turns for any bound on the polls. -/
theorem turns_settleWithin (direction : Direction) (n : Nat) (s : Service) :
    Turns s (settleWithin direction n s).1 := by
  induction n generalizing s with
  | zero => exact .refl
  | succ n ih =>
    rw [settleWithin]
    split
    · exact .refl
    · next t _ =>
      simp only []
      split
      · exact .head (.poll t) (ih _)
      · exact .head (.poll t) (ih _)

/-- Dropping a task is a step from outside. -/
theorem step_drop (s : Service) (t : Nat) : Step s none (s.drop t) := by
  unfold drop
  split
  · next here => exact .dropCall here
  · next here => exact .dropLoop here
  · exact .quiet (.refl s)

/-- A command is some turns. -/
theorem Sound.command (sound : Sound s) (c : Command) : Turns s (s.step c).1 := by
  have quiet : ∀ {r : Service}, r.tasks = s.tasks → r.publishers = s.publishers →
      r.names = s.names → r.journal = s.journal → Turns s r :=
    fun tasks publishers names journal => .quiet (.of_fields tasks publishers names journal)
  have named : ∀ {n p : Nat}, s.names[n]? = some p → p < s.publishers.size :=
    fun here => sound.bounded.name _ _ here
  unfold Service.step
  cases c with
  | declare | rejectNext | nackNext | failConfirmSelect | sink => exact quiet rfl rfl rfl rfl
  | published => exact .refl
  | disconnect | restore => exact .quiet (.after _ _)
  | openChannel count => exact turns_openHandle s count
  | close | terminate => exact turns_withChannel fun _ => .quiet (.after _ _)
  | confirmSelect | listen | dropChannel | hold | release | mute =>
    exact turns_withChannel fun _ => quiet rfl rfl rfl rfl
  | notifyPublish =>
    exact turns_withChannel fun _ => turns_withSink (quiet rfl rfl rfl rfl)
  | publishOn => exact turns_withChannel fun _ => turns_publishOn _ _ _ _ _ _
  | check l => exact turns_check s l
  | receive | dropSink => exact turns_withSink (quiet rfl rfl rfl rfl)
  | publisher => exact .single (.outside (.addPublisher ⟨rfl, rfl, rfl⟩))
  | clone => exact turns_withPublisher fun _ here => .single (.outside (.addName (named here)))
  | profile => exact turns_withPublisher fun _ _ => .refl
  | cancel => exact turns_withPublisher fun _ here => .single (.outside (.cancel nofun (named here)))
  -- a new task is issued to a publisher that is there, since names stand for publishers
  | publish | write =>
    refine turns_withPublisher fun _ here => ?_
    dsimp only
    refine turns_start ?_ ?_ _
    · rfl
    · exact named here
  | serve =>
    refine turns_withPublisher fun _ here => turns_withChannel fun c => ?_
    have held : Turns s { s with broker := s.broker.hold c } := quiet rfl rfl rfl rfl
    refine held.trans (turns_start ?_ ?_ _)
    · rfl
    · exact named here
  | poll t => exact turns_pollOnce s t
  | settle direction => exact turns_settleWithin direction _ s
  | dropTask t =>
    simp only []
    split
    · exact .single (.outside (step_drop s t))
    · exact .refl

/-- A run is some turns. -/
theorem Sound.run (sound : Sound s) (commands : List Command) : Turns s (s.run commands) := by
  induction commands generalizing s with
  | nil => exact .refl
  | cons c rest ih =>
    have first := sound.command c
    exact first.trans (ih (sound.turns first))

/-- Every service that a run reaches is sound. -/
theorem sound_run (commands : List Command) : Sound (Service.fresh.run commands) :=
  Sound.fresh.turns (Sound.fresh.run commands)

/-- A run of two lists of commands is the run of the second from where the first leads. -/
theorem run_append (s : Service) (before after : List Command) :
    s.run (before ++ after) = (s.run before).run after := by
  rw [run, List.foldl_append]
  rfl

end Relay.Service
