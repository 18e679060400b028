import Relay.Proofs.LoopMoves
import Relay.Proofs.Waiting

/-!
# What the status of a publisher tells

A loop is accepted if its first move finds its publisher vacant and alive. The status of a publisher is
the history of its accepted loops: it was never served, its last accepted loop ended with the exception
that closed its channel, or it is clear. `Attested` is that law together with what carries it from one
act to the next: only the loop that was accepted last can be serving, so only that one can fail.
-/

namespace Relay.Service

open Broker (Exception)
open Publisher (Failure Status Detach)

/-- The loop of a publisher that is accepted by an act. -/
def accepts? (p : Nat) (s : Service) (a : Act) : Option Nat :=
  if (s.publisher p).attached || (s.publisher p).dead then none else begins? p s a

/-- The loops of a publisher that were accepted, the last one last. -/
def accepted (p : Nat) (acts : List Act) : List Nat := gather (accepts? p) fresh acts

/-- The status of a publisher whose last accepted loop is given. -/
def statusAfter (s : Service) : Option Nat → Status
  | none => .uninitialized
  | some t =>
    match s.valueOf t with
    | some (.detached (.closed (some e))) => .failed e
    | _ => .clear

/-- The exception with which a loop ended that failed. -/
def LoopStage.failure? : LoopStage → Option Exception
  | finished (.closed (some e)) => some e
  | _ => none

variable {s s' : Service} {t p : Nat} {l : Loop} {stage : LoopStage} {last : Option Nat} {a : Act}

/-- The status after a loop was accepted is told from where the loop stands. -/
theorem statusAfter_of_loop (here : s.loop? t = some l) :
    s.statusAfter (some t) =
      match l.stage.failure? with
      | some e => .failed e
      | none => .clear := by
  rw [statusAfter, valueOf, loop?_eq_some.mp here]
  cases stage : l.stage with
  | finished reason =>
    cases reason with
    | closed why => cases why <;> simp [Task.value?, stage, LoopStage.failure?]
    | cancelled | alreadyAttached => simp [Task.value?, stage, LoopStage.failure?]
  | _ => simp [Task.value?, stage, LoopStage.failure?]

/-- A loop that has not failed since leaves the status that it left before. -/
theorem statusAfter_of_same {x x' : Loop} (here : s.loop? t = some x) (there : s'.loop? t = some x')
    (same : x'.stage.failure? = x.stage.failure?) :
    s'.statusAfter (some t) = s.statusAfter (some t) := by
  rw [statusAfter_of_loop there, statusAfter_of_loop here, same]

/-- A loop that has not ended has not failed. -/
theorem failure?_of_not_over (alive : (Task.loop l).isOver = false) : l.stage.failure? = none := by
  unfold Task.isOver at alive
  cases stage : l.stage <;> first | rfl | simp [stage] at alive

namespace LoopStage

/-- A loop that is not at its end fails in no other way than by failing. -/
theorem Leads.failure? {stage' : LoopStage} (leads : stage.Leads stage') :
    stage'.failure? = stage.failure? := by
  cases leads with
  | @leave f r => cases f <;> rfl
  | _ => rfl

end LoopStage

/-- A move that leaves the status as it is, and lets no loop serve that did not before. -/
structure Unremarked (s : Service) (l : Loop) (s' : Service) (stage : LoopStage) : Prop where
  status : ∀ p, (s'.publisher p).status = (s.publisher p).status
  fresh : l.stage = .fresh → stage.isServing = false ∧
    ((s.publisher l.publisher).attached = true ∨ (s.publisher l.publisher).dead = true)
  serving : l.stage ≠ .fresh → stage.isServing = true → l.stage.isServing = true
  failure : l.stage ≠ .fresh → stage.failure? = l.stage.failure?

/-- What a move does to the status: a loop is accepted, it fails, or nothing happens. -/
theorem LoopMove.remark (move : LoopMove s t l s' stage) :
    (l.stage = .fresh ∧ (s.publisher l.publisher).loop = none ∧
      (s.publisher l.publisher).dead = false ∧
      (∃ notice, stage = .idle notice ∨ stage = .confirming notice .entering) ∧
      SetsStatus s s' l.publisher .clear) ∨
    (∃ notice e, l.stage = .idle notice ∧ stage = .finished (.closed (some e)) ∧
      SetsStatus s s' l.publisher (.failed e)) ∨
    Unremarked s l s' stage := by
  cases move with
  | accept fresh vacant live begins _ _ status => exact .inl ⟨fresh, vacant, live, ⟨_, begins⟩, status⟩
  | fail idle _ _ status => exact .inr (.inl ⟨_, _, idle, rfl, status⟩)
  | refuse fresh taken _ status =>
    exact .inr (.inr ⟨status, fun _ => ⟨rfl, .inl taken⟩, fun begun => absurd fresh begun,
      fun begun => absurd fresh begun⟩)
  | retire fresh _ dead _ status =>
    exact .inr (.inr ⟨status, fun _ => ⟨rfl, .inr dead⟩, fun begun => absurd fresh begun,
      fun begun => absurd fresh begun⟩)
  | begin idle _ _ _ _ _ _ status =>
    refine .inr (.inr ⟨status, fun fresh => ?_, fun _ _ => ?_, fun _ => ?_⟩)
    · rw [idle] at fresh
      cases fresh
    · rw [idle]
      rfl
    · rw [idle]
      rfl
  | advance leads _ status =>
    refine .inr (.inr ⟨status, fun fresh => ?_, fun _ => leads.isServing, fun _ => leads.failure?⟩)
    rw [fresh] at leads
    cases leads

/-! ## The law -/

/-- The status tells how the last accepted loop fared, and no other is serving. -/
structure Attested (s : Service) (p : Nat) (last : Option Nat) : Prop where
  status : (s.publisher p).status = s.statusAfter last
  begun : ∀ t, last = some t → ∃ l, s.loop? t = some l ∧ l.publisher = p ∧ l.stage ≠ .fresh
  serving : ∀ t l, s.loop? t = some l → l.publisher = p → l.stage.isServing = true → last = some t

/-- A loop that serves is the one attached to its publisher. -/
theorem Sound.loop_of_isServing (sound : Sound s) (here : s.loop? t = some l)
    (serving : l.stage.isServing = true) : (s.publisher l.publisher).loop = some t :=
  (sound.moored l.publisher t).mpr
    (mooring_of_attached (loop?_eq_some.mp here) (LoopStage.isAttached_of_isServing serving))

/-- A publisher with a loop is taken. -/
theorem attached_of_loop {k : Nat} (attached : (s.publisher p).loop = some k) :
    (s.publisher p).attached = true := by
  rw [Publisher.attached, attached]
  rfl

/-- One without is free. -/
theorem attached_of_vacant (vacant : (s.publisher p).loop = none) :
    (s.publisher p).attached = false := by
  rw [Publisher.attached, vacant]
  rfl

namespace Attested

/-- Before anything happens no loop was accepted. -/
theorem fresh (p : Nat) : Attested fresh p none where
  status := rfl
  begun := nofun
  serving t l here := by cases here

/-- No loop moves. -/
theorem outer (attested : Attested s p last) (outer : Outer s s') (grows : Grows s s') :
    Attested s' p last := by
  refine ⟨?_, fun t new => ?_, fun t l' there own serving => ?_⟩
  · rw [outer.status, attested.status]
    cases last with
    | none => rfl
    | some t =>
      obtain ⟨l, here, -, -⟩ := attested.begun t rfl
      symm
      rcases outer.loop grows here with there | ⟨alive, there⟩
      · exact statusAfter_of_same here there rfl
      · exact statusAfter_of_same here there (failure?_of_not_over alive).symm
  · obtain ⟨l, here, own, begun⟩ := attested.begun t new
    rcases outer.loop grows here with there | ⟨-, there⟩
    · exact ⟨l, there, own, begun⟩
    · exact ⟨_, there, own, nofun⟩
  · have before := outer.before (q := (·.isServing = true)) there serving nofun nofun
    exact attested.serving t l' before own serving

/-- A loop moves, and leaves the status as it is. -/
theorem move (attested : Attested s p last) (here : s.loop? t = some l)
    (relocates : Relocates s t l s' stage) (onward : stage ≠ .fresh)
    (unremarked : Unremarked s l s' stage) : Attested s' p last := by
  refine ⟨?_, fun k new => ?_, fun k x there own serves => ?_⟩
  · rw [unremarked.status, attested.status]
    cases last with
    | none => rfl
    | some k =>
      obtain ⟨x, before, -, begun⟩ := attested.begun k rfl
      symm
      rcases relocates.after here before with ⟨rfl, rfl⟩ | ⟨-, after⟩
      · exact statusAfter_of_same here relocates.own (unremarked.failure begun)
      · exact statusAfter_of_same before after rfl
  · obtain ⟨x, before, own, begun⟩ := attested.begun k new
    rcases relocates.after here before with ⟨rfl, rfl⟩ | ⟨-, after⟩
    · exact ⟨_, relocates.own, own, onward⟩
    · exact ⟨x, after, own, begun⟩
  · rcases relocates.before there with ⟨rfl, rfl⟩ | ⟨-, before⟩
    · have begun : l.stage ≠ .fresh := fun fresh =>
        Bool.false_ne_true ((unremarked.fresh fresh).1.symm.trans serves)
      exact attested.serving t l here own (unremarked.serving begun serves)
    · exact attested.serving k x before own serves

/-- A loop of another publisher moves. -/
theorem move_other (attested : Attested s p last) (here : s.loop? t = some l)
    (relocates : Relocates s t l s' stage)
    (status : (s'.publisher p).status = (s.publisher p).status) (other : l.publisher ≠ p) :
    Attested s' p last := by
  have after : ∀ {k x}, s.loop? k = some x → x.publisher = p → s'.loop? k = some x := by
    intro k x before own
    rcases relocates.after here before with ⟨-, rfl⟩ | ⟨-, after⟩
    · exact absurd own other
    · exact after
  refine ⟨?_, fun k new => ?_, fun k x there own serves => ?_⟩
  · rw [status, attested.status]
    cases last with
    | none => rfl
    | some k =>
      obtain ⟨x, before, own, -⟩ := attested.begun k rfl
      exact (statusAfter_of_same before (after before own) rfl).symm
  · obtain ⟨x, before, own, moved⟩ := attested.begun k new
    exact ⟨x, after before own, own, moved⟩
  · rcases relocates.before there with ⟨rfl, rfl⟩ | ⟨-, before⟩
    · exact absurd own other
    · exact attested.serving k x before own serves

/-- A loop is accepted. Nobody else is serving, since the publisher was vacant. -/
theorem accept {notice : Option Nat} (sound : Sound s) (relocates : Relocates s t l s' stage)
    (vacant : (s.publisher l.publisher).loop = none)
    (begins : stage = .idle notice ∨ stage = .confirming notice .entering)
    (status : SetsStatus s s' l.publisher .clear) : Attested s' l.publisher (some t) := by
  refine ⟨?_, fun k new => ?_, fun k x there own serves => ?_⟩
  · rw [status, if_pos rfl, statusAfter_of_loop relocates.own]
    rcases begins with rfl | rfl <;> rfl
  · cases new
    refine ⟨_, relocates.own, rfl, ?_⟩
    rcases begins with rfl | rfl <;> exact nofun
  · rcases relocates.before there with ⟨rfl, rfl⟩ | ⟨-, before⟩
    · rfl
    · have attached := sound.loop_of_isServing before serves
      rw [own, vacant] at attached
      cases attached

/-- The loop that was accepted last fails. -/
theorem fail {notice : Option Nat} {e : Exception} (attested : Attested s l.publisher last)
    (here : s.loop? t = some l) (idle : l.stage = .idle notice)
    (relocates : Relocates s t l s' (.finished (.closed (some e))))
    (status : SetsStatus s s' l.publisher (.failed e)) : Attested s' l.publisher last := by
  have own : last = some t := attested.serving t l here rfl (by rw [idle]; rfl)
  refine ⟨?_, fun k new => ?_, fun k x there same serves => ?_⟩
  · rw [status, if_pos rfl, own, statusAfter_of_loop relocates.own]
    rfl
  · rw [own] at new
    cases new
    exact ⟨_, relocates.own, rfl, nofun⟩
  · rcases relocates.before there with ⟨rfl, rfl⟩ | ⟨-, before⟩
    · cases serves
    · exact attested.serving k x before same serves

end Attested

/-! ## Every act -/

/-- Where no loop begins none is accepted. -/
theorem accepts?_of_begins (unbegun : begins? p s a = none) : accepts? p s a = none := by
  rw [accepts?, unbegun, ite_self]

/-- What an act does to the status of a publisher, with the loop that it accepts. -/
inductive Attests (s : Service) (a : Act) (p : Nat) (last : Option Nat) : Option Nat → Prop
  | keeps (status : ((s.act a).publisher p).status = (s.publisher p).status) : Attests s a p last none
  | accepts {t : Nat} (status : ((s.act a).publisher p).status = .clear) : Attests s a p last (some t)
  /-- The loop that was accepted last ends with the exception that closed its channel. -/
  | fails {t : Nat} {e : Exception} (moves : a = .move t) (own : last = some t)
      (open_ : s.valueOf t = none)
      (ends : (s.act a).valueOf t = some (.detached (.closed (some e))))
      (status : ((s.act a).publisher p).status = .failed e) : Attests s a p last none

/-- The status stays the one that the loop accepted last leaves, and each act changes it as it should.
-/
theorem Attested.act (attested : Attested s p last) (sound : Sound s) (a : Act) :
    Attests s a p last (accepts? p s a) ∧ Attested (s.act a) p ((accepts? p s a).or last) := by
  rcases sound.act_cases a with ⟨outer, unmoved⟩ | ⟨t, l, stage, moved, here, relocates, move⟩
  · rw [accepts?_of_begins (begins?_of_outer unmoved)]
    exact ⟨.keeps (outer.status p), attested.outer outer (sound.act a).2⟩
  by_cases own : l.publisher = p
  · subst own
    -- a move either accepts the loop, ends it with its exception, or leaves the status as it was
    rcases move.remark with ⟨fresh, vacant, live, ⟨notice, begins⟩, status⟩ |
      ⟨notice, e, idle, rfl, status⟩ | unremarked
    · have accepted : accepts? l.publisher s a = some t := by
        rw [accepts?, attached_of_vacant vacant, live]
        exact begins?_of_fresh moved here fresh rfl
      rw [accepted]
      exact ⟨.accepts (by rw [status, if_pos rfl]), .accept sound relocates vacant begins status⟩
    · have begun : l.stage = .fresh → l.publisher ≠ l.publisher := fun fresh => by
        rw [idle] at fresh
        cases fresh
      rw [accepts?_of_begins (begins?_of_begun moved here begun)]
      refine ⟨.fails moved (attested.serving t l here rfl (by rw [idle]; rfl)) ?_ ?_
        (by rw [status, if_pos rfl]), attested.fail here idle relocates status⟩
      · rw [valueOf_of_loop? here, Task.value?, idle]
      · rw [valueOf_of_loop? relocates.own]
        rfl
    · have unaccepted : accepts? l.publisher s a = none := by
        by_cases fresh : l.stage = .fresh
        · rcases (unremarked.fresh fresh).2 with taken | dead
          · simp [accepts?, taken]
          · simp [accepts?, dead]
        · exact accepts?_of_begins (begins?_of_begun moved here fun young => absurd young fresh)
      rw [unaccepted]
      exact ⟨.keeps (unremarked.status _), attested.move here relocates move.ne_fresh unremarked⟩
  · have status : ((s.act a).publisher p).status = (s.publisher p).status := by
      rcases move.remark with ⟨-, -, -, -, status⟩ | ⟨_, _, -, -, status⟩ | unremarked
      · rw [status, if_neg (Ne.symm own)]
      · rw [status, if_neg (Ne.symm own)]
      · exact unremarked.status p
    rw [accepts?_of_begins (begins?_of_begun moved here fun _ => own)]
    exact ⟨.keeps status, attested.move_other here relocates status own⟩

/-- The last act adds the loop that it has accepted, if any. -/
theorem accepted_concat (p : Nat) (acts : List Act) (a : Act) :
    accepted p (acts ++ [a]) = accepted p acts ++ (accepts? p (fresh.perform acts) a).toList :=
  gather_concat _ _ _ _

/-- So it is over every run. -/
theorem Attested.perform (acts : List Act) (p : Nat) :
    Attested (Service.fresh.perform acts) p (accepted p acts).getLast? := by
  induction acts using List.reverseRecOn with
  | nil => exact .fresh p
  | append_singleton acts a ih =>
    have next := (ih.act (sound_perform acts) a).2
    have single : ∀ x : Option Nat, x.toList.getLast? = x := by
      intro x
      cases x <;> rfl
    rw [perform_concat, accepted_concat, List.getLast?_append, single]
    exact next

/-! ## What calls meet -/

variable {c : Call}

/-- What the first poll of a call on a live publisher comes to. -/
structure Admission (s : Service) (t : Nat) (c : Call) : Prop where
  uninitialized : (s.poll t).valueOf t = some (.failed .notInitialized) ↔
    (s.publisher c.publisher).status = .uninitialized
  failed : ∀ e, (s.poll t).valueOf t = some (.failed (.channel e)) ↔
    (s.publisher c.publisher).status = .failed e
  /-- Intakes stay as they are. -/
  refused : (s.publisher c.publisher).status ≠ .clear →
    (s.poll t).publishers = s.publishers ∧ .requested t ∉ (s.poll t).journal
  admitted : (s.publisher c.publisher).status = .clear → c.overtaken = false →
    ((s.poll t).publisher c.publisher).intake =
        (s.publisher c.publisher).intake.put t (s.isReady c.publisher) ∧
      ∃ c', Pending (s.poll t) t c' ∧ Queued (s.poll t) t c'
  /-- A cancellation comes before the request. -/
  overtaken : (s.publisher c.publisher).status = .clear → c.overtaken = true →
    (s.poll t).valueOf t = some (.failed .dead) ∧
      ((s.poll t).publisher c.publisher).dead = true

/-- A call that is turned away changes no publisher and requests nothing. -/
theorem refused_of_poll {f : Failure} (sound : Sound s) (here : s.tasks[t]? = some (.call c))
    (fresh : c.stage = .fresh) (refused : (s.publisher c.publisher).refusal? = some f) :
    (s.poll t).publishers = s.publishers ∧ .requested t ∉ (s.poll t).journal := by
  have moves : s.move t = some (s.endCall t c (.error f)) := by
    rw [move_of_call here, moveCall, fresh]
    simp only [beginCall, refused]
  obtain ⟨F, accounted⟩ := sound.accounted
  have fits := accounted.call t c (call?_eq_some.mpr here)
  rw [(poll_of_endCall here here moves).1]
  refine ⟨rfl, fun asked => ?_⟩
  rcases List.mem_cons.mp asked with ended | before
  · cases ended
  · exact fits.requested_iff.mp ((mem_history rfl).mpr before) (fits.fresh fresh)

/-- A call that is admitted puts its request into the intake, and there its first poll ends. -/
theorem poll_of_admitted (sound : Sound s) (here : s.tasks[t]? = some (.call c))
    (fresh : c.stage = .fresh) (admitted : (s.publisher c.publisher).refusal? = none)
    (alone : c.overtaken = false) : s.poll t = s.enqueue t c := by
  obtain ⟨F, accounted⟩ := sound.accounted
  have fits := accounted.call t c (call?_eq_some.mpr here)
  have awaited : c.request.outcome? = none := by
    rw [Publisher.Request.outcome?, fits.reply, fits.fresh fresh]
    rfl
  have moves : s.move t = some (s.enqueue t c) := by
    rw [move_of_call here, moveCall, fresh]
    simp only [beginCall, admitted, alone, Bool.false_eq_true, if_false]
  have there : (s.enqueue t c).tasks[t]? = some (.call { c with stage := .waiting }) := by
    rw [tasks_enqueue here, if_pos rfl]
  have stays : (s.enqueue t c).move t = none := by
    rw [move_of_call there]
    simp only [moveCall, awaited, Option.map_none]
  have bound : s.moveBound t = 3 := by rw [moveBound, here]
  simp only [poll, bound, Service.moves, moves, stays]

/-- A call that is put in is pending, and its request is in the intake. -/
theorem queued_of_enqueue (sound : Sound s) (here : s.tasks[t]? = some (.call c))
    (fresh : c.stage = .fresh) (admitted : (s.publisher c.publisher).refusal? = none) :
    Pending (s.enqueue t c) t { c with stage := .waiting } ∧
      Queued (s.enqueue t c) t { c with stage := .waiting } := by
  have there : (s.enqueue t c).tasks[t]? = some (.call { c with stage := .waiting }) := by
    rw [tasks_enqueue here, if_pos rfl]
  obtain ⟨F, accounted⟩ := sound.accounted
  have unclaimed : c.request.claimed = false := by
    have fits := accounted.call t c (call?_eq_some.mpr here)
    exact Bool.eq_false_iff.mpr fun claimed => fits.claimed.mp claimed (.inr fresh)
  obtain ⟨F', accounted'⟩ := (sound.step (.request here fresh admitted)).accounted
  have fits' := accounted'.call t _ (call?_eq_some.mpr there)
  have queued := fits'.queued_of_unclaimed unclaimed nofun
  exact ⟨⟨there, List.mem_cons_self, rfl⟩, ⟨count_order accounted' there queued, unclaimed⟩⟩

/-- What the first poll of a call on a live publisher returns: the failure that the status stands for,
that of a cancellation which overtakes the request, or nothing yet. -/
theorem valueOf_poll_of_fresh (sound : Sound s) (here : s.tasks[t]? = some (.call c))
    (fresh : c.stage = .fresh)
    (refusal : (s.publisher c.publisher).refusal? = (s.publisher c.publisher).status.failure?) :
    (s.poll t).valueOf t = (s.publisher c.publisher).status.failure?.elim
      (if c.overtaken = true then some (.failed .dead) else none) fun f => some (.failed f) := by
  cases failure : (s.publisher c.publisher).status.failure? with
  | some f => exact poll_of_refusal here fresh (refusal.trans failure)
  | none =>
    by_cases overtaken : c.overtaken = true
    · simp only [overtaken, if_true]
      exact (poll_of_overtaken sound here fresh (refusal.trans failure) overtaken).1
    · have alone := Bool.eq_false_iff.mpr overtaken
      rw [poll_of_admitted sound here fresh (refusal.trans failure) alone,
        valueOf_of_tasks (tasks_enqueue here), if_pos rfl]
      simp only [alone, Bool.false_eq_true, if_false]
      rfl

/-- A call on a live publisher meets the status in its first poll, or its request is put in. -/
theorem admission (sound : Sound s) (here : s.tasks[t]? = some (.call c))
    (fresh : c.stage = .fresh) (live : (s.publisher c.publisher).dead = false) :
    Admission s t c := by
  have refusal : (s.publisher c.publisher).refusal? = (s.publisher c.publisher).status.failure? := by
    rw [Publisher.refusal?, live]
    rfl
  have value := valueOf_poll_of_fresh sound here fresh refusal
  have admits : (s.publisher c.publisher).status = .clear →
      (s.publisher c.publisher).refusal? = none := by
    intro clear
    rw [refusal, clear]
    rfl
  refine ⟨?_, fun e => ?_, fun status => ?_, fun clear alone => ?_, fun clear overtaken => ?_⟩
  · rw [value]
    cases (s.publisher c.publisher).status <;> simp [Status.failure?]
  · rw [value]
    cases (s.publisher c.publisher).status <;> simp [Status.failure?]
  · cases failure : (s.publisher c.publisher).status.failure? with
    | some f => exact refused_of_poll sound here fresh (refusal.trans failure)
    | none =>
      cases known : (s.publisher c.publisher).status with
      | clear => exact absurd known status
      | uninitialized | failed e =>
        rw [known] at failure
        cases failure
  · have inBounds : c.publisher < s.publishers.size := sound.bounded.task t _ here
    obtain ⟨pending, queued⟩ := queued_of_enqueue sound here fresh (admits clear)
    rw [poll_of_admitted sound here fresh (admits clear) alone]
    refine ⟨?_, _, pending, queued⟩
    rw [publisher_enqueue, if_pos ⟨rfl, inBounds⟩]
  · exact poll_of_overtaken sound here fresh (admits clear) overtaken

/-! ## The status in every state -/

/-- For everything that can happen, in every state, also in the midst of a poll: the status of a
publisher says whether a loop was ever accepted, and of the one that was accepted last whether it ended
with the exception that closed its channel. It changes when a loop is accepted, and when that loop ends
so; nothing else touches it. A call on a live publisher fails with its status in its first poll, and
then leaves the intakes alone, or it puts its request into the intake, unless a cancellation overtakes
it. -/
theorem status_tells_acceptances (acts : List Act) (p : Nat) :
    let s := fresh.perform acts
    let last := (accepted p acts).getLast?
    ((s.publisher p).status = .uninitialized ↔ accepted p acts = []) ∧
    (∀ e, (s.publisher p).status = .failed e ↔
      ∃ t, last = some t ∧ s.valueOf t = some (.detached (.closed (some e)))) ∧
    ((s.publisher p).status = .clear ↔
      ∃ t, last = some t ∧ ∀ e, s.valueOf t ≠ some (.detached (.closed (some e)))) ∧
    (∀ a, Attests s a p last (accepts? p s a)) ∧
    ∀ t c, s.tasks[t]? = some (.call c) → c.publisher = p → c.stage = .fresh →
      (s.publisher p).dead = false → Admission s t c := by
  intro s last
  have sound : Sound s := sound_perform acts
  have attested : Attested s p last := .perform acts p
  have status := attested.status
  refine ⟨?_, fun e => ?_, ?_, fun a => (attested.act sound a).1, fun t c here own fresh live => ?_⟩
  · rw [status, ← List.getLast?_eq_none_iff]
    -- the status is a function of the loop accepted last, so each clause reads off `statusAfter`
    change s.statusAfter last = .uninitialized ↔ last = none
    cases last with
    | none => simp [statusAfter]
    | some t => rw [statusAfter]; split <;> simp
  · rw [status]
    cases last with
    | none => simp [statusAfter]
    | some t =>
      rw [statusAfter]
      split
      · next ended => simp [ended]
      · next other => simpa using other e
  · rw [status]
    cases last with
    | none => simp [statusAfter]
    | some t =>
      rw [statusAfter]
      split
      · next ended => simp [ended]
      · next other => simpa using fun e => other e
  · subst own
    exact admission sound here fresh live

/-- The channel of the only accepted loop closed with an exception, and the next call meets it. -/
theorem status_after_closed_channel :
    let acts : List Act := [.command (.publisher "" "key" {} none) rfl, .command (.openChannel 1) rfl,
      .command (.serve 0 0 true) rfl, .move 0, .command (.terminate 0 (some .channelClosed)) rfl,
      .move 0, .command (.publish 0 none {} false true) rfl]
    let s := fresh.perform acts
    accepted 0 acts = [0] ∧ (s.publisher 0).status = .failed .channelClosed ∧
      (s.poll 1).valueOf 1 = some (.failed (.channel .channelClosed)) ∧
      (s.poll 1).publishers = s.publishers := by
  intro acts s
  have law := status_tells_acceptances acts 0
  have status : (s.publisher 0).status = .failed .channelClosed :=
    (law.2.1 .channelClosed).mpr ⟨0, rfl, rfl⟩
  let c : Call :=
    { publisher := 0, purpose := .publish, request := { routingKey := "key", message := {} } }
  have admission : Admission s 1 c := law.2.2.2.2 1 c rfl rfl rfl rfl
  have unclear : (s.publisher 0).status ≠ .clear := by
    rw [status]
    exact nofun
  exact ⟨rfl, status, (admission.failed .channelClosed).mpr status, (admission.refused unclear).1⟩

end Relay.Service
