import Relay.Proofs.Manning
import Relay.Proofs.Stemming

/-!
# After a publish to an exchange that is not there

The broker answers such a publish as if it had worked, and closes the channel. The loop that published is
told, since it holds its channel: it brings back the answer to its message, takes up no other request, and
with its next move ends with the exception, which it leaves as the status of its publisher. Only a loop that
is dropped, or whose publisher is cancelled before that move, does not. `Fails` draws this way, on which
`Answers` is the first place; no act leads off it.
-/

namespace Relay.Service

open Broker (Exception)

variable {s s' : Service} {t u : Nat} {l : Loop} {a : Act} {acts : List Act} {h : Handling}
  {e : Exception}

/-- A channel has closed with an exception. -/
def ClosedWith (s : Service) (c : Nat) (e : Exception) : Prop :=
  ∃ ch, s.broker.channels[c]? = some ch ∧ ch.state = .closed (some e)

/-- A move of a loop ends it with an exception, which is the status of its publisher afterwards. -/
def EndsWith (s : Service) (t p : Nat) (e : Exception) : Prop :=
  (s.act (.move t)).valueOf t = some (.detached (.closed (some e))) ∧
    ((s.act (.move t)).publisher p).status = .failed e

/-- A loop has yet to bring back the answer to the message of a call, which is that it worked. -/
def Answers (s : Service) (t u : Nat) : Prop :=
  ∃ l n, s.loop? t = some l ∧ l.stage = .publishing (some n) u (.leaving (.ok ()))

/-- The way of a loop that has brought back the answer to a message for an exchange that was not there. -/
inductive Fails (acts : List Act) (t : Nat) (e : Exception) : Prop
  /-- It is ready, and its next move ends it. -/
  | due {l : Loop} {n : Nat} (here : (fresh.perform acts).loop? t = some l)
      (place : l.stage = .idle (some n))
      (ends : ((fresh.perform acts).publisher l.publisher).dead = false →
        EndsWith (fresh.perform acts) t l.publisher e)
  /-- One of its moves ended it. -/
  | ended {l : Loop} {first rest : List Act} (here : (fresh.perform acts).loop? t = some l)
      (place : l.stage = .finished (.closed (some e))) (split : acts = first ++ .move t :: rest)
      (ends : EndsWith (fresh.perform first) t l.publisher e)
  | dropped {l : Loop} (here : (fresh.perform acts).loop? t = some l) (place : l.stage = .dropped)
  /-- Its publisher was cancelled before it ended. -/
  | cancelled {l : Loop} (here : (fresh.perform acts).loop? t = some l)
      (place : (∃ phase, l.stage = .closing .stopped phase) ∨ l.stage = .finished .cancelled)
      (dead : ((fresh.perform acts).publisher l.publisher).dead = true)

/-! ## Loops that are told -/

theorem ClosedWith.perform {c : Nat} (closed : s.ClosedWith c e) (acts : List Act) :
    (s.perform acts).ClosedWith c e := by
  obtain ⟨ch, here, shut⟩ := closed
  obtain ⟨ch', there, -, stays⟩ := lasts_perform s acts c ch here
  exact ⟨ch', there, stays _ shut⟩

/-- The channel of a loop stays closed. -/
theorem ClosedWith.of_loop (here : (fresh.perform acts).loop? t = some l)
    (closed : (fresh.perform acts).ClosedWith ((fresh.perform acts).channelOf l.handle) e) (a : Act) :
    (fresh.perform (acts ++ [a])).ClosedWith
      ((fresh.perform (acts ++ [a])).channelOf l.handle) e := by
  have kept := (surroundings_act (sound_perform acts) a).channelOf _
    ((hearing_perform acts).handles t l here)
  rw [perform_concat, kept]
  exact closed.perform [a]

/-- A loop learns why its channel closed. -/
theorem Manned.noticeOf_of_closed {n : Nat} (manned : Manned s) (here : s.loop? t = some l)
    (notice : l.stage.notice? = some n) (closed : s.ClosedWith (s.channelOf l.handle) e) :
    s.noticeOf (some n) = .told (some e) := by
  obtain ⟨ch, there, shut⟩ := closed
  rw [noticeOf, (manned.follows t l n here notice).notice there shut, Option.getD_some]

/-- A loop that is ready can move. -/
theorem move_of_idle {notice : Option Nat} (here : s.loop? t = some l)
    (idle : l.stage = .idle notice) : s.move t = s.moveIdle t l notice := by
  have free : s.isHeldUp l = false := by rw [isHeldUp, idle]; rfl
  rw [move_of_loop here, moveLoop, free]
  simp only [Bool.false_eq_true, if_false, moveFreely, idle]

/-- A loop that is told an exception ends with it, if its publisher is live. -/
theorem endsWith_of_told {notice : Option Nat} (sound : Sound s) (here : s.loop? t = some l)
    (idle : l.stage = .idle notice) (told : s.noticeOf notice = .told (some e))
    (live : (s.publisher l.publisher).dead = false) :
    (s.act (.move t)).loop? t = some { l with stage := .finished (.closed (some e)) } ∧
      EndsWith s t l.publisher e := by
  have inBounds : l.publisher < s.publishers.size :=
    sound.bounded.task t (.loop l) (loop?_eq_some.mp here)
  obtain ⟨relocates, move⟩ := moves_fail (e := e) here idle inBounds live
  have moves : s.move t = some (((s.note l.publisher (.channelFailed e)).onPublisher l.publisher
      fun q => { q with status := .failed e }).endLoop t l (.closed (some e))) := by
    rw [move_of_idle here idle, moveIdle]
    simp only [live, told, Bool.false_eq_true, if_false]
  rw [EndsWith, act_move_of_some moves]
  refine ⟨relocates.own, ?_, ?_⟩
  · rw [valueOf_of_loop? relocates.own]
    rfl
  · cases move with
    | accept fresh => rw [idle] at fresh; cases fresh
    | fail _ _ _ status => exact (status l.publisher).trans (if_pos rfl)
    | advance leads =>
      rw [idle] at leads
      cases leads

/-- A loop whose publisher is cancelled begins to close its channel. -/
theorem stops_of_dead {notice : Option Nat} (here : s.loop? t = some l)
    (idle : l.stage = .idle notice) (dead : (s.publisher l.publisher).dead = true) :
    (s.act (.move t)).loop? t = some { l with stage := .closing .stopped .entering } := by
  have moves : s.move t =
      some (((s.drain l.publisher).retire l.publisher).beginClose t l .stopped) := by
    rw [move_of_idle here idle, moveIdle]
    simp only [dead, if_true]
  have still : ((s.drain l.publisher).retire l.publisher).loop? t = some l := by
    rw [loop?_of_tasks (tasks_retire _ _), loop?_drain, here]
  rw [act_move_of_some moves]
  exact loop?_moveTo (s := ((s.drain l.publisher).retire l.publisher).record _) still _

/-! ## The way -/

/-- A loop that publishes has a notice. -/
theorem notice_of_publishing {notice : Option Nat} {phase : Phase} (acts : List Act)
    (here : (fresh.perform acts).loop? t = some l)
    (publishing : l.stage = .publishing notice u phase) : ∃ n, notice = some n := by
  induction acts using List.reverseRecOn generalizing l phase with
  | nil => cases here
  | append_singleton acts a ih =>
    rw [perform_concat] at here
    have sound := sound_perform acts
    rcases sound.act_cases a with ⟨outer, -⟩ | ⟨k, x, stage, rfl, own, relocates, move⟩
    · exact ih (outer.before (q := (· = .publishing notice u phase)) here publishing nofun nofun)
        publishing
    · rcases relocates.before here with ⟨rfl, rfl⟩ | ⟨-, before⟩
      · obtain rfl : stage = .publishing notice u phase := publishing
        cases move with
        | accept _ _ _ begins => rcases begins with no | no <;> cases no
        | begin _ _ waits =>
          cases notice with
          | none => cases waits
          | some n => exact ⟨n, rfl⟩
        | advance leads =>
          generalize stood : x.stage = place at leads
          cases leads
          exact ih own stood
      · exact ih before publishing

namespace Fails

/-- A loop that is ready and whose channel closed ends with its next move. -/
theorem of_idle {n : Nat} (here : (fresh.perform acts).loop? t = some l)
    (idle : l.stage = .idle (some n))
    (closed : (fresh.perform acts).ClosedWith ((fresh.perform acts).channelOf l.handle) e) :
    Fails acts t e := by
  have told := (manned_perform acts).noticeOf_of_closed here (by rw [idle]; rfl) closed
  exact .due here idle fun live => (endsWith_of_told (sound_perform acts) here idle told live).2

/-- A loop that did not move stands where it stood on its way. -/
theorem of_same (fails : Fails acts t e) (here : (fresh.perform acts).loop? t = some l)
    (there : (fresh.perform (acts ++ [a])).loop? t = some l)
    (closed : (fresh.perform (acts ++ [a])).ClosedWith
      ((fresh.perform (acts ++ [a])).channelOf l.handle) e) : Fails (acts ++ [a]) t e := by
  cases fails with
  | due own place =>
    cases here.symm.trans own
    exact of_idle there place closed
  | @ended _ first rest own place split ends =>
    cases here.symm.trans own
    have longer : acts ++ [a] = first ++ .move t :: (rest ++ [a]) := by
      rw [split, List.append_assoc, List.cons_append]
    exact .ended there place longer ends
  | dropped own place =>
    cases here.symm.trans own
    exact .dropped there place
  | cancelled own place dead =>
    cases here.symm.trans own
    refine .cancelled there place ?_
    rw [perform_concat]
    exact (((sound_perform acts).act a).2.dead _ dead).1

/-- A loop that moves goes on along its way. -/
theorem of_move {stage : LoopStage} (fails : Fails acts t e)
    (here : (fresh.perform acts).loop? t = some l)
    (relocates : Relocates (fresh.perform acts) t l ((fresh.perform acts).act (.move t)) stage)
    (move : LoopMove (fresh.perform acts) t l ((fresh.perform acts).act (.move t)) stage)
    (closed : (fresh.perform acts).ClosedWith ((fresh.perform acts).channelOf l.handle) e) :
    Fails (acts ++ [.move t]) t e := by
  have sound := sound_perform acts
  have there := relocates.own
  have dead := fun d => ((sound.act (.move t)).2.dead l.publisher d).1
  rw [← perform_concat] at there dead
  cases fails with
  | due own place ends =>
    cases here.symm.trans own
    have told := (manned_perform acts).noticeOf_of_closed here (by rw [place]; rfl) closed
    -- due to end: the notice is told by now, so the next move reads it, unless a cancellation comes before
    -- it
    cases alive : ((fresh.perform acts).publisher l.publisher).dead with
    | false =>
      have ends := endsWith_of_told sound here place told alive
      have there := ends.1
      rw [← perform_concat] at there
      exact .ended there rfl rfl ends.2
    | true =>
      refine .cancelled (l := { l with stage := .closing .stopped .entering }) ?_ (.inl ⟨_, rfl⟩)
        (dead alive)
      rw [perform_concat]
      exact stops_of_dead here place alive
  | ended own place | dropped own place =>
    cases here.symm.trans own
    have alive := move.alive
    simp [Task.isOver, place] at alive
  | cancelled own place cut =>
    cases here.symm.trans own
    refine .cancelled there ?_ (dead cut)
    rcases place with ⟨phase, place⟩ | place
    · cases move with
      | refuse new | retire new | accept new => rw [place] at new; cases new
      | fail idle | begin idle => rw [place] at idle; cases idle
      | advance leads =>
        rw [place] at leads
        cases leads with
        | close => exact .inl ⟨_, rfl⟩
        | leave => exact .inr rfl
    · have alive := move.alive
      simp [Task.isOver, place] at alive

/-- No act leads off the way. -/
theorem act (fails : Fails acts t e) (here : (fresh.perform acts).loop? t = some l)
    (closed : (fresh.perform acts).ClosedWith ((fresh.perform acts).channelOf l.handle) e)
    (a : Act) : Fails (acts ++ [a]) t e := by
  have sound := sound_perform acts
  have later := ClosedWith.of_loop here closed a
  have grows := (sound.act a).2
  rcases sound.act_cases a with ⟨outer, -⟩ | ⟨k, x, stage, rfl, own, relocates, move⟩
  · rcases outer.loop grows here with same | ⟨-, dropped⟩
    · rw [← perform_concat] at same
      exact fails.of_same here same later
    · rw [← perform_concat] at dropped
      exact .dropped dropped rfl
  · rcases relocates.after own here with ⟨rfl, rfl⟩ | ⟨-, same⟩
    · exact fails.of_move here relocates move closed
    · rw [← perform_concat] at same
      exact fails.of_same here same later

/-- A loop that brings back the answer is on its way then. -/
theorem of_answers (answers : (fresh.perform acts).Answers t u)
    (here : (fresh.perform acts).loop? t = some l)
    (closed : (fresh.perform acts).ClosedWith ((fresh.perform acts).channelOf l.handle) e)
    (a : Act) : (fresh.perform (acts ++ [a])).Answers t u ∨ Fails (acts ++ [a]) t e := by
  obtain ⟨x, n, own, place⟩ := answers
  cases here.symm.trans own
  have sound := sound_perform acts
  have later := ClosedWith.of_loop here closed a
  rw [perform_concat] at later ⊢
  rcases sound.act_cases a with ⟨outer, -⟩ | ⟨k, x, stage, rfl, moved, relocates, move⟩
  · rcases outer.loop (sound.act a).2 here with same | ⟨-, dropped⟩
    · exact .inl ⟨l, n, same, place⟩
    · rw [← perform_concat] at dropped
      exact .inr (.dropped dropped rfl)
  · rcases relocates.after moved here with ⟨rfl, rfl⟩ | ⟨-, same⟩
    · have there := relocates.own
      rw [← perform_concat] at there later
      cases move with
      | refuse new | retire new | accept new => rw [place] at new; cases new
      | fail idle | begin idle => rw [place] at idle; cases idle
      | advance leads =>
        rw [place] at leads
        cases leads
        exact .inr (of_idle there rfl later)
    · exact .inl ⟨l, n, same, place⟩

end Fails

end Relay.Service
