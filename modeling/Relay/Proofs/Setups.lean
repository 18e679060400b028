import Relay.Proofs.LoopMoves
import Relay.Proofs.Reports
import Relay.Proofs.Chronicle

/-!
# Setting up confirmations

A loop of a publisher whose confirmations somebody wants asks for confirm mode before it serves. If its
channel grants that, the loop registers the sink of the publisher; if not, it reports the exception to the
owner, and serves all the same. `SetsUp` says what a loop has done about confirmations, by where it stands:
it asks once at most, and a refusal is reported exactly once, unless the loop is dropped before its request
comes back.
-/

namespace Relay.Service

open Broker (Exception)

/-- What a loop does about confirmations before it serves. -/
inductive SetupStep where
  /-- It asks for confirm mode, with this result. -/
  | selected (result : Except Exception Unit)
  | registered (sink : Nat)
  /-- It reports that confirm mode was refused. -/
  | reported (error : Exception)

namespace SetupStep

/-- The exception that the owner is told. -/
def error? : SetupStep → Option Exception
  | reported e => some e
  | selected _ | registered _ => none

/-- Whether confirm mode was granted. -/
def isGrant : SetupStep → Bool
  | selected (.ok ()) => true
  | selected (.error _) | registered _ | reported _ => false

/-- Whether the sink of the publisher was registered. -/
def isRegistration : SetupStep → Bool
  | registered _ => true
  | selected _ | reported _ => false

end SetupStep

/-- What a loop does about confirmations with its next move, if no wait holds it up. -/
def loopSetup? (s : Service) (l : Loop) : Option SetupStep :=
  match l.stage with
  | .confirming _ .entering => some (.selected (s.broker.confirmSelect (s.channelOf l.handle)).1)
  | .confirming _ (.leaving (.ok ())) => (s.publisher l.publisher).sink.map .registered
  | .confirming _ (.leaving (.error e)) => some (.reported e)
  | _ => none

/-- What an act does about confirmations, with the loop that does it. -/
def setup? (s : Service) : Act → Option (Nat × SetupStep)
  | .command _ _ => none
  | .move t =>
    match s.loop? t with
    | some l => if s.isHeldUp l then none else (s.loopSetup? l).map fun step => (t, step)
    | none => none

/-- What loops did about confirmations, in order. -/
def setups (acts : List Act) : List (Nat × SetupStep) := gather setup? fresh acts

/-- What one loop did about confirmations, in order. -/
def stepsOf (acts : List Act) (t : Nat) : List SetupStep :=
  (setups acts).filterMap fun x => if x.1 = t then some x.2 else none

/-- What one loop does about confirmations by an act. -/
def stepBy (s : Service) (a : Act) (t : Nat) : Option SetupStep :=
  (s.setup? a).bind fun x => if x.1 = t then some x.2 else none

namespace LoopStage

/-- Whether a loop at this place is done with setting up. -/
def isSetUp : LoopStage → Bool
  | idle _ | publishing _ _ _ | closing .stopped _ | finished _ | dropped => true
  | fresh | closing _ _ | confirming _ _ => false

/-- Whether a loop at this place has asked for confirm mode and waits for what comes of it. -/
def isAwaiting : LoopStage → Bool
  | confirming _ (.leaving _) => true
  | _ => false

end LoopStage

variable {s s' : Service} {t : Nat} {l : Loop} {a : Act} {acts : List Act} {stage : LoopStage}

/-- The last act adds the step of setting up that it is, if it is one. -/
theorem stepsOf_concat (acts : List Act) (a : Act) (t : Nat) :
    stepsOf (acts ++ [a]) t = stepsOf acts t ++ ((fresh.perform acts).stepBy a t).toList := by
  rw [stepsOf, setups, gather_concat, List.filterMap_append, ← setups, ← stepsOf, stepBy]
  cases (fresh.perform acts).setup? a with
  | none => rfl
  | some x => by_cases own : x.1 = t <;> simp [own]

/-! ## One act -/

/-- A loop that cannot move does nothing. -/
theorem loopSetup?_of_stuck (stuck : s.moveFreely t l = none) : s.loopSetup? l = none := by
  unfold moveFreely at stuck
  unfold loopSetup?
  cases stage : l.stage with
  | fresh | idle | finished | dropped | closing | publishing => rfl
  | confirming notice phase =>
    rw [stage] at stuck
    cases phase <;> cases stuck

/-- A loop that is done with setting up has no step left. -/
theorem loopSetup?_of_isSetUp (done : l.stage.isSetUp = true) : s.loopSetup? l = none := by
  unfold loopSetup?
  cases stage : l.stage with
  | confirming notice phase =>
    rw [stage] at done
    cases done
  | _ => rfl

/-- What is no loop has no steps. -/
theorem stepBy_of_absent (absent : s.loop? t = none) (a : Act) : s.stepBy a t = none := by
  cases a with
  | command => rfl
  | move k =>
    rw [stepBy, setup?]
    cases here : s.loop? k with
    | none => rfl
    | some l =>
      have other : k ≠ t := by
        rintro rfl
        rw [here] at absent
        cases absent
      simp only []
      split
      · rfl
      · cases s.loopSetup? l <;> simp [other]

/-- Only its own moves have a loop do something. -/
theorem stepBy_of_other (other : a ≠ .move t) : s.stepBy a t = none := by
  cases a with
  | command => rfl
  | move k =>
    have apart : k ≠ t := fun same => other (by rw [same])
    rw [stepBy, setup?]
    cases s.loop? k with
    | none => rfl
    | some l =>
      simp only []
      split
      · rfl
      · cases s.loopSetup? l <;> simp [apart]

/-- A loop that moves makes the step that it has, unless it is held up. -/
theorem stepBy_move (here : s.loop? t = some l) :
    s.stepBy (.move t) t = if s.isHeldUp l then none else s.loopSetup? l := by
  rw [stepBy, setup?, here]
  simp only []
  split
  · rfl
  · cases s.loopSetup? l <;> simp

/-- An act leaves a loop where it stands, drops it, or moves it; what it does about confirmations it does
by moving. -/
theorem Sound.setup_cases (sound : Sound s) (a : Act) (here : s.loop? t = some l) :
    (s.stepBy a t = none ∧ (s.act a).loop? t = some l) ∨
    (s.stepBy a t = none ∧ (s.act a).loop? t = some { l with stage := .dropped }) ∨
    ∃ stage, a = .move t ∧ s.isHeldUp l = false ∧ s.stepBy a t = s.loopSetup? l ∧
      (s.act a).loop? t = some { l with stage } ∧ LoopMove s t l (s.act a) stage := by
  by_cases own : a = .move t
  · subst own
    cases moves : s.move t with
    | none =>
      -- a loop that cannot move has no step of its own: it is held up, or stands where `loopSetup?` has
      -- none
      have stuck := moves
      rw [move_of_loop here, moveLoop] at stuck
      refine .inl ⟨?_, by rw [act_move_of_none moves, here]⟩
      rw [stepBy_move here]
      split at stuck
      · next held => rw [if_pos held]
      · rw [loopSetup?_of_stuck stuck, ite_self]
    | some s' =>
      obtain ⟨stage, relocates, move⟩ := moves_loop sound here moves
      have free : s.isHeldUp l = false := by
        refine Bool.eq_false_iff.mpr fun held => ?_
        rw [move_of_loop here, moveLoop, if_pos held] at moves
        cases moves
      refine .inr (.inr ⟨stage, rfl, free, ?_, ?_, ?_⟩)
      · rw [stepBy_move here, free]
        rfl
      · rw [act_move_of_some moves, relocates.own]
      · rw [act_move_of_some moves]
        exact move
  · rcases sound.act_cases a with ⟨outer, -⟩ | ⟨k, x, stage, rfl, there, relocates, -⟩
    · rcases outer.loop (sound.act a).2 here with same | ⟨-, dropped⟩
      · exact .inl ⟨stepBy_of_other own, same⟩
      · exact .inr (.inl ⟨stepBy_of_other own, dropped⟩)
    · rcases relocates.after there here with ⟨rfl, -⟩ | ⟨-, same⟩
      · exact absurd rfl own
      · exact .inl ⟨stepBy_of_other own, same⟩

/-- A loop that is done with setting up stays so. -/
theorem LoopMove.isSetUp (move : LoopMove s t l s' stage) (done : l.stage.isSetUp = true) :
    stage.isSetUp = true := by
  cases move with
  | refuse fresh | retire fresh | accept fresh =>
    rw [fresh] at done
    cases done
  | fail | begin => rfl
  | advance leads =>
    generalize l.stage = place at done leads
    cases leads with
    | @close f r => cases f <;> first | rfl | cases done
    | leave | serve | stop | end_ | skip | publish | answer => rfl
    | confirm => cases done

/-- A loop that serves and is done with setting up was so before, unless it was accepted just now or had
asked for confirm mode. -/
theorem LoopMove.isServing (move : LoopMove s t l s' stage) (serving : stage.isServing = true) :
    l.stage = .fresh ∨ l.stage.isServing = true := by
  cases move with
  | refuse fresh | retire fresh | accept fresh => exact .inl fresh
  | fail => cases serving
  | begin idle =>
    rw [idle]
    exact .inr rfl
  | advance leads => exact .inr (leads.isServing serving)

/-- A loop that attaches serves at once only if nobody wants confirmations. -/
theorem sink_of_attached {l' : Loop} (here : s.loop? t = some l)
    (there : (s.attach t l).loop? t = some l') (done : l'.stage.isSetUp = true) :
    (s.publisher l.publisher).sink = none := by
  let cleared := s.onPublisher l.publisher fun p => { p with status := .clear }
  have listens : (cleared.listen t l).1.loop? t = some l :=
    ((calm_listen cleared t l).1.loops t).trans here
  have same : ((cleared.listen t l).1.publisher l.publisher).sink = (s.publisher l.publisher).sink := by
    have kept : (cleared.listen t l).1.publishers = cleared.publishers := by
      unfold listen
      simp only []
      split <;> rfl
    rw [publisher, kept]
    exact publisher_onPublisher_congr Publisher.sink rfl l.publisher
  unfold attach at there
  simp only [] at there
  split at there
  · next none => exact same.symm.trans none
  · rw [loop?_moveTo (s := (cleared.listen t l).1.record _) listens] at there
    cases there
    cases done

/-- A loop that is accepted serves at once only if nobody wants confirmations. -/
theorem sink_of_accepted {l' : Loop} (here : s.loop? t = some l) (fresh : l.stage = .fresh)
    (there : (s.act (.move t)).loop? t = some l') (done : l'.stage.isSetUp = true) :
    (s.publisher l.publisher).sink = none := by
  rw [act_move_of_some (move_of_fresh here fresh)] at there
  unfold beginLoop at there
  split at there
  · rw [beginClose, loop?_moveTo (s := (s.note _ _).record _) here] at there
    cases there
    cases done
  · simp only [] at there
    split at there
    · have kept := (calm_retire (s.onPublisher l.publisher fun p => { p with loop := some t }) t
        l.publisher).loops t
      rw [beginClose, loop?_moveTo (s := (Service.note _ _ _).record _) (kept.trans here)] at there
      cases there
      cases done
    · have none := sink_of_attached (s := s.onPublisher l.publisher fun p => { p with loop := some t })
        here there done
      rwa [publisher_onPublisher_congr Publisher.sink rfl] at none

/-- Only a loop that has asked for confirm mode awaits what comes of it. -/
theorem LoopMove.isAwaiting (move : LoopMove s t l s' stage) (awaiting : stage.isAwaiting = true) :
    ∃ notice, l.stage = .confirming notice .entering := by
  cases move with
  | accept _ _ _ begins => rcases begins with rfl | rfl <;> cases awaiting
  | refuse | retire | fail | begin => cases awaiting
  | advance leads =>
    generalize l.stage = place at leads
    cases leads with
    | confirm => exact ⟨_, rfl⟩
    | _ => cases awaiting

/-- A loop that learns what came of its request begins to serve. -/
theorem LoopMove.idle_of_leaving {notice : Option Nat} {r : Except Exception Unit}
    (move : LoopMove s t l s' stage) (leaving : l.stage = .confirming notice (.leaving r)) :
    stage = .idle notice := by
  cases move with
  | refuse place | retire place | accept place | fail place | begin place =>
    rw [leaving] at place
    cases place
  | advance leads =>
    rw [leaving] at leads
    cases leads
    rfl

/-- A loop that serves is done with setting up, unless it is about to ask for confirm mode or awaits the
answer. -/
theorem LoopStage.isSetUp_of_isServing (serving : stage.isServing = true)
    (place : stage.isAwaiting = false) (other : ∀ notice, stage ≠ .confirming notice .entering) :
    stage.isSetUp = true := by
  cases stage with
  | confirming notice phase =>
    cases phase with
    | entering => exact absurd rfl (other notice)
    | leaving => cases place
  | closing f => cases f <;> first | rfl | cases serving
  | fresh => cases serving
  | _ => rfl

/-! ## What loops have done -/

/-- A loop reported that confirm mode was refused, and went on to serve. -/
def ReportsAndServes (acts : List Act) (t : Nat) (e : Exception) : Prop :=
  ∃ first rest l notice, acts = first ++ .move t :: rest ∧
    (fresh.perform first).loop? t = some l ∧ l.stage = .confirming notice (.leaving (.error e)) ∧
    (fresh.perform (first ++ [.move t])).loop? t = some { l with stage := .idle notice }

/-- A loop was dropped while it awaited what comes of its request for confirm mode. -/
def DroppedAwaiting (acts : List Act) (t : Nat) (r : Except Exception Unit) : Prop :=
  ∃ first a rest l notice, acts = first ++ a :: rest ∧
    (fresh.perform first).loop? t = some l ∧ l.stage = .confirming notice (.leaving r) ∧
    (fresh.perform (first ++ [a])).loop? t = some { l with stage := .dropped }

/-- What a loop has done about confirmations, by where it stands. -/
inductive SetsUp (acts : List Act) (t : Nat) (l : Loop) : Prop
  /-- It has not asked for confirm mode; if it serves all the same, nobody wants confirmations. -/
  | nothing (steps : stepsOf acts t = []) (place : l.stage.isAwaiting = false)
      (unwanted : l.stage.isServing = true → l.stage.isSetUp = true →
        ((fresh.perform acts).publisher l.publisher).sink = none)
  /-- It awaits what comes of its request. -/
  | awaiting {notice : Option Nat} {r : Except Exception Unit} (steps : stepsOf acts t = [.selected r])
      (place : l.stage = .confirming notice (.leaving r))
  | registered {k : Nat} (steps : stepsOf acts t = [.selected (.ok ()), .registered k])
      (place : l.stage.isSetUp = true)
      (sink : ((fresh.perform acts).publisher l.publisher).sink = some k)
  /-- Nobody wants confirmations. -/
  | unwanted (steps : stepsOf acts t = [.selected (.ok ())]) (place : l.stage.isSetUp = true)
      (sink : ((fresh.perform acts).publisher l.publisher).sink = none)
  | reported {e : Exception} (steps : stepsOf acts t = [.selected (.error e), .reported e])
      (place : l.stage.isSetUp = true) (serves : ReportsAndServes acts t e)
  | dropped {r : Except Exception Unit} (steps : stepsOf acts t = [.selected r])
      (place : l.stage = .dropped) (awaited : DroppedAwaiting acts t r)

/-- A loop that reported its refusal during a run did so during every longer one. -/
theorem ReportsAndServes.concat {e : Exception} (serves : ReportsAndServes acts t e) (a : Act) :
    ReportsAndServes (acts ++ [a]) t e := by
  obtain ⟨first, rest, l, notice, rfl, here, place, there⟩ := serves
  exact ⟨first, rest ++ [a], l, notice, by simp, here, place, there⟩

/-- So it is with a loop that was dropped. -/
theorem DroppedAwaiting.concat {r : Except Exception Unit} (dropped : DroppedAwaiting acts t r)
    (a : Act) : DroppedAwaiting (acts ++ [a]) t r := by
  obtain ⟨first, b, rest, l, notice, rfl, here, place, there⟩ := dropped
  exact ⟨first, b, rest ++ [a], l, notice, by simp, here, place, there⟩

/-- A loop that is done with setting up awaits nothing. -/
theorem LoopStage.isAwaiting_of_isSetUp (done : stage.isSetUp = true) : stage.isAwaiting = false := by
  cases stage with
  | confirming => cases done
  | _ => rfl

/-- The sink of a publisher is settled when it is made. -/
theorem sink_act (sound : Sound s) (here : s.loop? t = some l) (a : Act) :
    ((s.act a).publisher l.publisher).sink = (s.publisher l.publisher).sink := by
  have inBounds : l.publisher < s.publishers.size :=
    sound.bounded.task t (.loop l) (loop?_eq_some.mp here)
  have same := congrArg Publisher.sink ((sound.act a).2.founded _ inBounds)
  exact same

namespace SetsUp

section Act

variable (here : (fresh.perform acts).loop? t = some l)

include here

/-- Nothing changes for a loop that does nothing and does not await anything then. -/
theorem of_idle {l' : Loop} (setsUp : SetsUp acts t l)
    (idle : (fresh.perform acts).stepBy a t = none) (own : l'.publisher = l.publisher)
    (done : l.stage.isSetUp = true → l'.stage.isSetUp = true)
    (dropped : l.stage = .dropped → l'.stage = .dropped)
    (unaware : l.stage.isAwaiting = false → l'.stage.isAwaiting = false)
    (stays : l.stage.isAwaiting = true → l'.stage = l.stage)
    (serves : l'.stage.isServing = true → l'.stage.isSetUp = true →
      l.stage.isServing = true ∧ l.stage.isSetUp = true) : SetsUp (acts ++ [a]) t l' := by
  have same : stepsOf (acts ++ [a]) t = stepsOf acts t := by
    rw [stepsOf_concat, idle, Option.toList_none, List.append_nil]
  have sink : ((fresh.perform (acts ++ [a])).publisher l'.publisher).sink =
      ((fresh.perform acts).publisher l.publisher).sink := by
    rw [perform_concat, own, sink_act (sound_perform acts) here]
  cases setsUp with
  | nothing steps place unwanted =>
    refine .nothing (same.trans steps) (unaware place) fun serving done => sink.trans ?_
    exact unwanted (serves serving done).1 (serves serving done).2
  | awaiting steps place =>
    exact .awaiting (same.trans steps) ((stays (by rw [place]; rfl)).trans place)
  | registered steps place own => exact .registered (same.trans steps) (done place) (sink.trans own)
  | unwanted steps place own => exact .unwanted (same.trans steps) (done place) (sink.trans own)
  | reported steps place serves =>
    exact .reported (same.trans steps) (done place) (serves.concat a)
  | dropped steps place awaited =>
    exact .dropped (same.trans steps) (dropped place) (awaited.concat a)

/-- A loop is dropped. -/
theorem of_drop (setsUp : SetsUp acts t l) (idle : (fresh.perform acts).stepBy a t = none)
    (there : (fresh.perform (acts ++ [a])).loop? t = some { l with stage := .dropped }) :
    SetsUp (acts ++ [a]) t { l with stage := .dropped } := by
  cases awaits : l.stage.isAwaiting with
  | false =>
    exact setsUp.of_idle here idle rfl (fun _ => rfl) (fun _ => rfl) (fun _ => rfl)
      (fun awaits' => nomatch awaits.symm.trans awaits') fun serving => by cases serving
  | true =>
    have same : stepsOf (acts ++ [a]) t = stepsOf acts t := by
      rw [stepsOf_concat, idle, Option.toList_none, List.append_nil]
    cases setsUp with
    | @awaiting notice r steps place =>
      exact .dropped (same.trans steps) rfl ⟨acts, a, [], l, notice, rfl, here, place, there⟩
    | nothing _ place => rw [place] at awaits; cases awaits
    | registered _ place | unwanted _ place | reported _ place =>
      rw [LoopStage.isAwaiting_of_isSetUp place] at awaits
      cases awaits
    | dropped _ place =>
      rw [place] at awaits
      cases awaits

/-- A loop that asks for confirm mode awaits what came of it. -/
theorem of_select {notice : Option Nat} (none : stepsOf acts t = [])
    (free : (fresh.perform acts).isHeldUp l = false)
    (entering : l.stage = .confirming notice .entering) :
    ∃ l', (fresh.perform (acts ++ [.move t])).loop? t = some l' ∧
      SetsUp (acts ++ [.move t]) t l' := by
  let r := ((fresh.perform acts).broker.confirmSelect ((fresh.perform acts).channelOf l.handle)).1
  have moves : (fresh.perform acts).move t = some ({ fresh.perform acts with
      broker := ((fresh.perform acts).broker.confirmSelect
        ((fresh.perform acts).channelOf l.handle)).2 }.moveTo t l (.confirming notice (.leaving r))) := by
    rw [move_of_loop here, moveLoop, free]
    simp only [Bool.false_eq_true, if_false, moveFreely, entering]
    rfl
  refine ⟨{ l with stage := .confirming notice (.leaving r) }, ?_, .awaiting ?_ rfl⟩
  · rw [perform_concat, act_move_of_some moves]
    exact loop?_moveTo (s := { fresh.perform acts with broker := _ }) here _
  · rw [stepsOf_concat, stepBy_move here, free, none, loopSetup?, entering]
    rfl

/-- A loop that learns what came of its request goes on to serve. -/
theorem of_answer {notice : Option Nat} {r : Except Exception Unit}
    (steps : stepsOf acts t = [.selected r]) (place : l.stage = .confirming notice (.leaving r))
    (does : (fresh.perform acts).stepBy (.move t) t = (fresh.perform acts).loopSetup? l)
    (there : (fresh.perform (acts ++ [.move t])).loop? t = some { l with stage := .idle notice }) :
    SetsUp (acts ++ [.move t]) t { l with stage := .idle notice } := by
  have longer := stepsOf_concat acts (.move t) t
  have sink : ((fresh.perform (acts ++ [.move t])).publisher l.publisher).sink =
      ((fresh.perform acts).publisher l.publisher).sink := by
    rw [perform_concat, sink_act (sound_perform acts) here]
  rw [steps, does, loopSetup?, place] at longer
  cases r with
  | error e => exact .reported longer rfl ⟨acts, [], l, notice, rfl, here, place, there⟩
  | ok =>
    cases own : ((fresh.perform acts).publisher l.publisher).sink with
    | none =>
      simp only [own] at longer
      exact .unwanted longer rfl (sink.trans own)
    | some k =>
      simp only [own] at longer
      exact .registered longer rfl (sink.trans own)

/-- A loop moves that is done with setting up. -/
theorem of_move_done (setsUp : SetsUp acts t l) (done : l.stage.isSetUp = true)
    (does : (fresh.perform acts).stepBy a t = (fresh.perform acts).loopSetup? l)
    (move : LoopMove (fresh.perform acts) t l s' stage) : SetsUp (acts ++ [a]) t { l with stage } := by
  have alive := move.alive
  refine setsUp.of_idle here (does.trans (loopSetup?_of_isSetUp done)) rfl (fun _ => move.isSetUp done)
    (fun gone => ?_) (fun _ => LoopStage.isAwaiting_of_isSetUp (move.isSetUp done)) (fun awaits => ?_)
    fun serving _ => ⟨(move.isServing serving).resolve_left fun new => ?_, done⟩
  · simp [Task.isOver, gone] at alive
  · rw [LoopStage.isAwaiting_of_isSetUp done] at awaits
    cases awaits
  · rw [new] at done
    cases done

/-- A loop that does not ask for confirm mode moves before it has asked. -/
theorem of_move_unasked (steps : stepsOf acts t = []) (place : l.stage.isAwaiting = false)
    (unwanted : l.stage.isServing = true → l.stage.isSetUp = true →
      ((fresh.perform acts).publisher l.publisher).sink = none)
    (other : ∀ notice, l.stage ≠ .confirming notice .entering)
    (does : (fresh.perform acts).stepBy (.move t) t = (fresh.perform acts).loopSetup? l)
    (there : (fresh.perform (acts ++ [.move t])).loop? t = some { l with stage })
    (move : LoopMove (fresh.perform acts) t l s' stage) :
    SetsUp (acts ++ [.move t]) t { l with stage } := by
  have idle : (fresh.perform acts).loopSetup? l = none := by
    unfold loopSetup?
    split
    · next notice entering => exact absurd entering (other notice)
    · next leaving =>
      rw [leaving] at place
      cases place
    · next leaving =>
      rw [leaving] at place
      cases place
    · rfl
  refine .nothing ?_ (Bool.eq_false_iff.mpr fun awaits => ?_) fun serving done => ?_
  · rw [stepsOf_concat, does, idle, steps]
    rfl
  · obtain ⟨notice, entering⟩ := move.isAwaiting awaits
    exact other notice entering
  · rw [perform_concat, sink_act (sound_perform acts) here]
    rcases move.isServing serving with new | serving
    · exact sink_of_accepted here new (by rw [← perform_concat, there]) done
    · exact unwanted serving (LoopStage.isSetUp_of_isServing serving place other)

/-- Whatever an act does to a loop, it goes on as before. -/
theorem act (setsUp : SetsUp acts t l) (a : Act) :
    ∃ l', (fresh.perform (acts ++ [a])).loop? t = some l' ∧ SetsUp (acts ++ [a]) t l' := by
  rcases (sound_perform acts).setup_cases a here with ⟨idle, same⟩ | ⟨idle, dropped⟩ |
    ⟨stage, rfl, free, does, there, move⟩
  · rw [← perform_concat] at same
    exact ⟨l, same, setsUp.of_idle here idle rfl id id id (fun _ => rfl) .intro⟩
  · rw [← perform_concat] at dropped
    exact ⟨_, dropped, setsUp.of_drop here idle dropped⟩
  · rw [← perform_concat] at there
    have kept := setsUp
    cases setsUp with
    | nothing steps place unwanted =>
      by_cases asks : ∃ notice, l.stage = .confirming notice .entering
      · obtain ⟨notice, entering⟩ := asks
        exact of_select here steps free entering
      · have other : ∀ notice, l.stage ≠ .confirming notice .entering :=
          fun notice entering => asks ⟨notice, entering⟩
        exact ⟨_, there, of_move_unasked here steps place unwanted other does there move⟩
    | awaiting steps place =>
      obtain rfl := move.idle_of_leaving place
      exact ⟨_, there, of_answer here steps place does there⟩
    | registered _ done | unwanted _ done | reported _ done =>
      exact ⟨_, there, kept.of_move_done here done does move⟩
    | dropped _ gone => exact ⟨_, there, kept.of_move_done here (by rw [gone]; rfl) does move⟩

end Act

end SetsUp

/-- What a call does is nothing, and what will be a loop has done nothing. -/
theorem stepsOf_of_absent (acts : List Act) (absent : (fresh.perform acts).loop? t = none) :
    stepsOf acts t = [] := by
  induction acts using List.reverseRecOn with
  | nil => rfl
  | append_singleton acts a ih =>
    have before : (fresh.perform acts).loop? t = none := by
      cases here : (fresh.perform acts).loop? t with
      | none => rfl
      | some l =>
        obtain ⟨l', there, -⟩ := ((sound_perform acts).act a).2.loop (loop?_eq_some.mp here)
        rw [perform_concat, loop?_eq_some.mpr there] at absent
        cases absent
    rw [stepsOf_concat, ih before, stepBy_of_absent before]
    rfl

/-- Whatever happens, a loop has done about confirmations what its place tells. -/
theorem setsUp_perform (acts : List Act) (here : (fresh.perform acts).loop? t = some l) :
    SetsUp acts t l := by
  induction acts using List.reverseRecOn generalizing l with
  | nil => cases here
  | append_singleton acts a ih =>
    cases before : (fresh.perform acts).loop? t with
    | some x =>
      obtain ⟨l', there, setsUp⟩ := (ih before).act before a
      cases here.symm.trans there
      exact setsUp
    | none =>
      -- the loop is new
      have steps := stepsOf_concat acts a t
      rw [stepsOf_of_absent acts before, stepBy_of_absent before] at steps
      have fresh : l.stage = .fresh := by
        rw [perform_concat] at here
        rcases (sound_perform acts).act_cases a with ⟨outer, -⟩ |
          ⟨k, x, stage, -, there, relocates, -⟩
        · rcases outer.loops t l here with same | ⟨x, there, -⟩ | ⟨-, fresh, -⟩
          · exact nomatch before.symm.trans same
          · exact nomatch before.symm.trans there
          · exact fresh
        · rcases relocates.before here with ⟨rfl, -⟩ | ⟨-, same⟩
          · exact nomatch before.symm.trans there
          · exact nomatch before.symm.trans same
      exact .nothing steps (by rw [fresh]; rfl) fun serving => by rw [fresh] at serving; cases serving

/-- A loop that is about to ask for confirm mode has done nothing before. -/
theorem stepsOf_of_entering {notice : Option Nat} (here : (fresh.perform acts).loop? t = some l)
    (entering : l.stage = .confirming notice .entering) : stepsOf acts t = [] := by
  cases setsUp_perform acts here with
  | nothing steps => exact steps
  | awaiting _ place | dropped _ place => cases entering.symm.trans place
  | registered _ done | unwanted _ done | reported _ done =>
    rw [entering] at done
    cases done

/-- A loop that awaits what comes of its request has done nothing else. -/
theorem stepsOf_of_leaving {notice : Option Nat} {r : Except Exception Unit}
    (here : (fresh.perform acts).loop? t = some l)
    (leaving : l.stage = .confirming notice (.leaving r)) : stepsOf acts t = [.selected r] := by
  cases setsUp_perform acts here with
  | nothing _ place =>
    rw [leaving] at place
    cases place
  | awaiting steps place =>
    cases leaving.symm.trans place
    exact steps
  | dropped _ place => cases leaving.symm.trans place
  | registered _ done | unwanted _ done | reported _ done =>
    rw [leaving] at done
    cases done

/-- A loop that learns of a refusal reports it with its next move, if no wait holds it up. -/
theorem reportsAndServes_of_leaving {notice : Option Nat} {e : Exception}
    (here : (fresh.perform acts).loop? t = some l)
    (leaving : l.stage = .confirming notice (.leaving (.error e)))
    (free : (fresh.perform acts).isHeldUp l = false) : ReportsAndServes (acts ++ [.move t]) t e := by
  refine ⟨acts, [], l, notice, rfl, here, leaving, ?_⟩
  have moves : (fresh.perform acts).move t =
      some ((fresh.perform acts).endConfirm t l notice (.error e)) := by
    rw [move_of_loop here, moveLoop, free]
    simp only [Bool.false_eq_true, if_false, moveFreely, leaving]
  rw [perform_concat, act_move_of_some moves, endConfirm, beginServing]
  refine loop?_moveTo ?_ (.idle notice)
  exact here

/-! ## What the owner is told -/

/-- The exception that an event tells the owner. -/
def Event.toldOwner? : Event → Option Exception
  | .reported e => some e
  | _ => none

/-- The exceptions that the owner was told, in order. -/
def errorsTold (s : Service) : List Exception := s.chronicle Event.toldOwner?

/-- What is told are the reports, the oldest first. -/
theorem errorsTold_eq (s : Service) :
    s.errorsTold = (s.reports.filterMap Event.toldOwner?).reverse := by
  rw [errorsTold, chronicle, List.filterMap_reverse, reports, List.filterMap_filter]
  refine congrArg List.reverse (List.filterMap_congr fun e _ => ?_)
  cases e <;> rfl

/-- Of all that acts report, the owner is told what loops report that were refused confirm mode. -/
theorem toldOwner?_report (s : Service) (a : Act) :
    (s.report? a).bind Event.toldOwner? = (s.setup? a).bind fun x => x.2.error? := by
  cases a with
  | command => rfl
  | move t =>
    rw [report?, setup?]
    cases s.loop? t with
    | none => rfl
    | some l =>
      simp only []
      split
      · rfl
      · unfold loopReport? loopSetup?
        cases l.stage with
        | confirming notice phase =>
          cases phase with
          | entering => rfl
          | leaving r =>
            cases r with
            | error e => rfl
            | ok => cases (s.publisher l.publisher).sink <;> rfl
        | publishing notice u phase =>
          cases phase with
          | entering => rfl
          | leaving r =>
            change ((s.call? u).map fun _ => Event.returned t u r).bind Event.toldOwner? = none
            cases s.call? u <;> rfl
        | _ => rfl

/-- Over every run the errors that are told are those of setting up. -/
theorem errorsTold_perform (acts : List Act) :
    (fresh.perform acts).errorsTold = (setups acts).filterMap fun x => x.2.error? := by
  induction acts using List.reverseRecOn with
  | nil => rfl
  | append_singleton acts a ih =>
    have last : ((fresh.perform acts).setup? a).toList.filterMap (fun x => x.2.error?) =
        (((fresh.perform acts).report? a).bind Event.toldOwner?).toList := by
      rw [toldOwner?_report]
      cases (fresh.perform acts).setup? a with
      | none => rfl
      | some x => cases error : x.2.error? <;> simp [error]
    rw [setups, gather_concat, List.filterMap_append, ← setups, ← ih, last, perform_concat,
      errorsTold_eq, errorsTold_eq, reports_act (sound_perform acts)]
    cases (fresh.perform acts).report? a with
    | none => simp
    | some e => cases told : e.toldOwner? <;> simp [told]

end Relay.Service
