import Relay.Proofs.Acceptance
import Relay.Proofs.Refusal

/-!
# The guard of a publisher

The first move of a loop decides: it wins the guard of its publisher if no other loop holds it, and is
refused otherwise. The loop that won holds the guard until it is over, wherever it stands meanwhile, and
a loop that was refused never does. `Judged` follows both kinds of loops from their first move on.
-/

namespace Relay.Service

open Broker (Exception)
open Publisher (Detach)

/-- The loop of a publisher that an act decides about, if the decision is the given one. -/
def judged? (won : Bool) (p : Nat) (s : Service) (a : Act) : Option Nat :=
  if (s.publisher p).attached = won then none else begins? p s a

/-- The loops of a publisher that won its guard. -/
def winners (p : Nat) (acts : List Act) : List Nat := gather (judged? true p) fresh acts

/-- The loops of a publisher that found another one attached. -/
def refusedLoops (p : Nat) (acts : List Act) : List Nat := gather (judged? false p) fresh acts

/-- What was decided about a loop, as far as its place tells: whether it won the guard. -/
def LoopStage.verdict? : LoopStage → Option Bool
  | fresh | dropped => none
  | closing .refused _ | finished .alreadyAttached => some false
  | closing _ _ | confirming _ _ | idle _ | publishing _ _ _ | finished _ => some true

/-- A task that is there and not over. -/
def Alive (s : Service) (t : Nat) : Prop := ∃ x, s.tasks[t]? = some x ∧ x.isOver = false

variable {s s' : Service} {t p : Nat} {l : Loop} {stage : LoopStage} {won : Bool} {ts : List Nat}
  {a : Act}

namespace LoopStage

/-- A loop that is attached has won. -/
theorem verdict?_of_isAttached (attached : stage.isAttached = true) :
    stage.verdict? = some true := by
  cases stage with
  | closing f phase => cases f <;> first | rfl | cases attached
  | fresh | finished | dropped => cases attached
  | confirming | idle | publishing => rfl

/-- A loop that won and is not over is attached. -/
theorem isAttached_of_verdict? (verdict : stage.verdict? = some true)
    (alive : (Task.loop { l with stage }).isOver = false) : stage.isAttached = true := by
  cases stage with
  | closing f phase => cases f <;> first | rfl | cases verdict
  | fresh | dropped => cases verdict
  | finished => cases alive
  | confirming | idle | publishing => rfl

/-- Nothing that happens later changes what was decided. -/
theorem Leads.verdict? {stage' : LoopStage} (leads : stage.Leads stage') :
    stage'.verdict? = stage.verdict? := by
  cases leads with
  | @close f r => cases f <;> rfl
  | @leave f r => cases f <;> rfl
  | _ => rfl

end LoopStage

namespace LoopMove

/-- The first move decides, and the others leave it at that. -/
theorem verdict? (move : LoopMove s t l s' stage) :
    stage.verdict? =
      if l.stage.isFresh = true then some (!(s.publisher l.publisher).attached)
      else l.stage.verdict? := by
  cases move with
  | refuse fresh taken => rw [fresh, taken]; rfl
  | retire fresh vacant => rw [fresh, attached_of_vacant vacant]; rfl
  | accept fresh vacant _ begins =>
    rw [fresh, attached_of_vacant vacant]
    rcases begins with rfl | rfl <;> rfl
  | fail idle | begin idle => rw [idle]; rfl
  | advance leads =>
    rw [leads.verdict?]
    cases here : l.stage with
    | fresh => rw [here] at leads; cases leads
    | _ => rfl

end LoopMove

/-! ## What was decided -/

/-- The loops of a publisher about which a decision was made are known by their places, unless they were
dropped. -/
structure Judged (s : Service) (p : Nat) (won : Bool) (ts : List Nat) : Prop where
  told : ∀ t l, s.loop? t = some l → l.publisher = p → l.stage.verdict? = some won → t ∈ ts
  kept : ∀ t ∈ ts, ∃ l, s.loop? t = some l ∧ l.publisher = p ∧
    (l.stage.verdict? = some won ∨ l.stage = .dropped)

namespace Judged

/-- In a new service nobody was judged. -/
theorem fresh (p : Nat) (won : Bool) : Judged fresh p won [] where
  told t l here := by cases here
  kept t inside := absurd inside List.not_mem_nil

/-- An act that moves no loop judges none. -/
theorem outer (judged : Judged s p won ts) (outer : Outer s s') (grows : Grows s s') :
    Judged s' p won ts := by
  refine ⟨fun t l' there own verdict => ?_, fun t inside => ?_⟩
  · have before := outer.before (q := (·.verdict? = some won)) there verdict nofun nofun
    exact judged.told t l' before own verdict
  · obtain ⟨l, here, own, verdict⟩ := judged.kept t inside
    rcases outer.loop grows here with there | ⟨-, there⟩
    · exact ⟨l, there, own, verdict⟩
    · exact ⟨_, there, own, .inr rfl⟩

/-- The first move of a loop judges it, and no other move changes the verdict. -/
theorem move (judged : Judged s p won ts) (moved : a = .move t) (here : s.loop? t = some l)
    (relocates : Relocates s t l s' stage) (move : LoopMove s t l s' stage) :
    Judged s' p won (ts ++ (judged? won p s a).toList) := by
  have decided := move.verdict?
  -- first, who carries the verdict was told it; second, who was told it carries it or was dropped
  refine ⟨fun k x there own verdict => List.mem_append.mpr ?_, fun k inside => ?_⟩
  · rcases relocates.before there with ⟨rfl, rfl⟩ | ⟨-, before⟩
    · subst own
      rw [show stage.verdict? = some won from verdict] at decided
      split at decided
      · next fresh =>
        -- the verdict is the place found at this first move, taken or free, so this very move put the loop
        -- on the list
        have begins := begins?_of_fresh moved here (LoopStage.isFresh_iff.mp fresh) rfl
        have unlike : (s.publisher l.publisher).attached ≠ won := by
          rw [Option.some.inj decided]
          cases (s.publisher l.publisher).attached <;> exact nofun
        rw [judged?, if_neg unlike, begins]
        exact .inr List.mem_cons_self
      · exact .inl (judged.told t l here rfl decided.symm)
    · exact .inl (judged.told k x before own verdict)
  · rcases List.mem_append.mp inside with before | new
    · obtain ⟨x, there, own, verdict⟩ := judged.kept k before
      rcases relocates.after here there with ⟨rfl, rfl⟩ | ⟨-, after⟩
      · refine ⟨_, relocates.own, own, .inl ?_⟩
        have alive := move.alive
        rcases verdict with verdict | dropped
        · rw [show ({ l with stage } : Loop).stage.verdict? = _ from decided]
          split
          · next fresh =>
            rw [LoopStage.isFresh_iff.mp fresh] at verdict
            cases verdict
          · exact verdict
        · simp [Task.isOver, dropped] at alive
      · exact ⟨x, after, own, verdict⟩
    · rw [judged?, Option.mem_toList] at new
      split at new
      · cases new
      · next unlike =>
        obtain ⟨rfl, x, there, fresh, own⟩ := begins?_eq_some.mp new
        cases moved
        rw [here] at there
        cases there
        refine ⟨_, relocates.own, own, .inl ?_⟩
        rw [show ({ l with stage } : Loop).stage.verdict? = _ from decided, fresh, own]
        cases attached : (s.publisher p).attached <;> cases won <;> simp_all [LoopStage.isFresh]

/-- Every act keeps the verdicts. -/
theorem act (judged : Judged s p won ts) (sound : Sound s) (a : Act) :
    Judged (s.act a) p won (ts ++ (judged? won p s a).toList) := by
  rcases sound.act_cases a with ⟨outer, unmoved⟩ | ⟨t, l, stage, moved, here, relocates, move⟩
  · rw [judged?, begins?_of_outer unmoved, ite_self, Option.toList_none, List.append_nil]
    exact judged.outer outer (sound.act a).2
  · exact judged.move moved here relocates move

/-- So does every run. -/
theorem perform (acts : List Act) (p : Nat) (won : Bool) :
    Judged (Service.fresh.perform acts) p won (gather (judged? won p) Service.fresh acts) := by
  induction acts using List.reverseRecOn with
  | nil => exact fresh p won
  | append_singleton acts a ih =>
    rw [perform_concat, gather_concat]
    exact ih.act (sound_perform acts) a

end Judged

/-! ## The guard -/

/-- The guard of a publisher is held by the loop that won it, as long as that loop is not over. -/
structure Guarded (s : Service) (p : Nat) (won : List Nat) : Prop where
  holder : ∀ t, (s.publisher p).loop = some t ↔ t ∈ won ∧ s.Alive t
  attached : (s.publisher p).attached = true ↔ ∃ t ∈ won, s.Alive t
  one : ∀ t ∈ won, ∀ k ∈ won, s.Alive t → s.Alive k → t = k
  place : ∀ t ∈ won, s.Alive t →
    ∃ l, s.loop? t = some l ∧ l.publisher = p ∧ l.stage.isAttached = true

/-- A loop that won and is alive stands where attached loops stand. -/
theorem Judged.place (judged : Judged s p true ts) (inside : t ∈ ts) (alive : s.Alive t) :
    ∃ l, s.loop? t = some l ∧ l.publisher = p ∧ l.stage.isAttached = true := by
  obtain ⟨l, here, own, verdict⟩ := judged.kept t inside
  obtain ⟨x, there, open_⟩ := alive
  rw [loop?_eq_some.mp here] at there
  cases there
  refine ⟨l, here, own, ?_⟩
  rcases verdict with verdict | dropped
  · exact LoopStage.isAttached_of_verdict? (l := l) verdict open_
  · simp [Task.isOver, dropped] at open_

/-- A loop that is attached is not over. -/
theorem alive_of_isAttached (here : s.loop? t = some l) (attached : l.stage.isAttached = true) :
    s.Alive t := by
  refine ⟨_, loop?_eq_some.mp here, ?_⟩
  cases place : l.stage with
  | finished | dropped =>
    rw [place] at attached
    cases attached
  | _ => simp [Task.isOver, place]

/-- Of the loops that won, the one that is not over holds the guard. -/
theorem Judged.guarded (judged : Judged s p true ts) (sound : Sound s) : Guarded s p ts := by
  have holder : ∀ t, (s.publisher p).loop = some t ↔ t ∈ ts ∧ s.Alive t := by
    intro t
    rw [sound.moored p t, mooring_eq_some]
    constructor
    · rintro ⟨l, here, attached, own⟩
      have here := loop?_eq_some.mpr here
      exact ⟨judged.told t l here own (LoopStage.verdict?_of_isAttached attached),
        alive_of_isAttached here attached⟩
    · rintro ⟨inside, alive⟩
      obtain ⟨l, here, own, attached⟩ := judged.place inside alive
      exact ⟨l, loop?_eq_some.mp here, attached, own⟩
  refine ⟨holder, ?_, fun t inside k inside' alive alive' => ?_, fun t => judged.place⟩
  · rw [Publisher.attached, Option.isSome_iff_exists]
    exact exists_congr holder
  · have first := (holder t).mpr ⟨inside, alive⟩
    rw [(holder k).mpr ⟨inside', alive'⟩] at first
    exact (Option.some.inj first).symm

/-! ## Passing the guard on -/

/-- The guard is free once its holder is over, and then the next loop of a live publisher gets it. -/
structure PassesOn (s : Service) (p : Nat) : Prop where
  freed : ∀ a t, (s.publisher p).loop = some t → ¬ (s.act a).Alive t →
    ((s.act a).publisher p).attached = false
  next : ∀ t l, s.loop? t = some l → l.publisher = p → l.stage = .fresh →
    (s.publisher p).attached = false → (s.publisher p).dead = false →
    ((s.act (.move t)).publisher p).loop = some t ∧
      ((s.act (.move t)).publisher p).status = .clear ∧
      ∃ notice, (s.act (.move t)).loop? t = some { l with stage := .idle notice } ∨
        (s.act (.move t)).loop? t = some { l with stage := .confirming notice .entering }

/-- A loop that is attached was so before the act, or it begins with the act and finds its publisher
vacant. -/
theorem attached_before {k : Nat} {x : Loop} (sound : Sound s) (there : (s.act a).loop? k = some x)
    (attached : x.stage.isAttached = true) :
    (∃ y, s.loop? k = some y ∧ y.publisher = x.publisher ∧ y.stage.isAttached = true) ∨
      (s.publisher x.publisher).attached = false := by
  rcases sound.act_cases a with ⟨outer, -⟩ | ⟨t, l, stage, -, here, relocates, move⟩
  · have before := outer.before (q := (·.isAttached = true)) there attached nofun nofun
    exact .inl ⟨x, before, rfl, attached⟩
  · rcases relocates.before there with ⟨rfl, rfl⟩ | ⟨-, before⟩
    · have verdict : stage.verdict? = some true := LoopStage.verdict?_of_isAttached attached
      rw [move.verdict?] at verdict
      split at verdict
      · exact .inr (by simpa using verdict)
      · exact .inl ⟨l, here, rfl, LoopStage.isAttached_of_verdict? (l := l) verdict move.alive⟩
    · exact .inl ⟨x, before, rfl, attached⟩

/-- No loop gets the guard in the act in which another one gives it up. -/
theorem attached_of_ended (sound : Sound s) (holder : (s.publisher p).loop = some t)
    (ended : ¬ (s.act a).Alive t) : ((s.act a).publisher p).attached = false := by
  rw [Publisher.attached, Option.isSome_eq_false_iff, Option.isNone_iff_eq_none]
  cases taken : ((s.act a).publisher p).loop with
  | none => rfl
  | some k =>
    exfalso
    obtain ⟨x, there, attached, own⟩ := mooring_eq_some.mp (((sound.act a).1.moored p k).mp taken)
    have there := loop?_eq_some.mpr there
    rcases attached_before sound there attached with ⟨y, before, same, already⟩ | vacant
    · -- it was attached beside the one that ended, so it is that one
      have held := (sound.moored y.publisher k).mpr
        (mooring_of_attached (loop?_eq_some.mp before) already)
      rw [same, own, holder] at held
      cases held
      exact ended (alive_of_isAttached there attached)
    · rw [own, attached_of_loop holder] at vacant
      cases vacant

/-- The guard passes on to the next loop once the one that held it is over. -/
theorem passesOn (sound : Sound s) (p : Nat) : PassesOn s p := by
  refine ⟨fun a t holder ended => attached_of_ended sound holder ended,
    fun t l here own fresh vacant live => ?_⟩
  subst own
  have sound' := (sound.act (.move t)).1
  rcases sound.act_cases (.move t) with ⟨-, unmoved⟩ | ⟨u, x, stage, moved, there, relocates, move⟩
  · exact absurd fresh (unmoved t l rfl here)
  · cases moved
    rw [here] at there
    cases there
    cases move with
    | refuse _ taken =>
      rw [vacant] at taken
      cases taken
    | retire _ _ dead =>
      rw [live] at dead
      cases dead
    | fail idle | begin idle =>
      rw [fresh] at idle
      cases idle
    | advance leads =>
      rw [fresh] at leads
      cases leads
    | @accept _ notice _ _ _ begins _ _ status =>
      have serving : stage.isServing = true := by
        rcases begins with rfl | rfl <;> rfl
      have attached : ((s.act (.move t)).publisher l.publisher).loop = some t :=
        sound'.loop_of_isServing (l := { l with stage }) relocates.own serving
      refine ⟨attached, by rw [status, if_pos rfl], notice, ?_⟩
      rcases begins with rfl | rfl
      · exact .inl relocates.own
      · exact .inr relocates.own

/-! ## Refusal -/

/-- A loop that is refused, or will be when it moves. -/
def Refused (s : Service) (l : Loop) : Prop :=
  l.stage = .fresh ∧ (s.publisher l.publisher).attached = true ∨
    ∃ phase, l.stage = .closing .refused phase

/-- A loop that was refused and is not over is closing its channel. -/
theorem Judged.closing (judged : Judged s p false ts) (inside : t ∈ ts) (here : s.loop? t = some l)
    (alive : (Task.loop l).isOver = false) : ∃ phase, l.stage = .closing .refused phase := by
  obtain ⟨x, there, -, verdict⟩ := judged.kept t inside
  rw [here] at there
  cases there
  unfold Task.isOver at alive
  cases place : l.stage with
  | closing f phase =>
    rw [place] at verdict
    cases f with
    | refused => exact ⟨phase, rfl⟩
    | retired | stopped => rcases verdict with no | no <;> cases no
  | finished | dropped => simp [place] at alive
  | fresh | confirming | idle | publishing =>
    rw [place] at verdict
    rcases verdict with no | no <;> cases no

/-- Each loop that is refused begins one close, and loops that have not begun nothing. -/
structure RefusedCloseOnce (s : Service) (refused : List Nat) : Prop where
  unbegun : ∀ t, (∀ l, s.loop? t = some l → l.stage = .fresh) → s.begun t = []
  once : ∀ t ∈ refused, ∃ l, s.loop? t = some l ∧ s.begun t = [.began t l.handle .close]

namespace LoopMove

/-- What a loop does that moves adds nothing to what others began. -/
theorem begun_of_ne {k : Nat} (move : LoopMove s t l s' stage) (apart : k ≠ t) :
    s'.begun k = s.begun k := by
  have other : some t ≠ some k := fun same => apart (Option.some.inj same).symm
  cases move with
  | refuse _ _ keeps | retire _ _ _ keeps | accept _ _ _ _ _ keeps | fail _ _ keeps
    | advance _ keeps => exact keeps.begun_of_ne other
  | begin _ _ _ opens journal =>
    rw [begun, journal, List.filter_cons, Event.begunBy?_of_opens opens]
    simp [begun, Ne.symm apart]

end LoopMove

namespace RefusedCloseOnce

/-- In a new service nobody was refused. -/
theorem fresh : RefusedCloseOnce fresh [] where
  unbegun _ _ := rfl
  once _ inside := absurd inside List.not_mem_nil

/-- An act that moves no loop begins no close. -/
theorem outer (closeOnce : RefusedCloseOnce s ts) (outer : Outer s s') (grows : Grows s s') :
    RefusedCloseOnce s' ts := by
  have same : ∀ t, s'.begun t = s.begun t := fun t => outer.keeps.begun_of_ne nofun
  refine ⟨fun t fresh => ?_, fun t inside => ?_⟩
  · rw [same]
    refine closeOnce.unbegun t fun l here => ?_
    rcases outer.loop grows here with there | ⟨-, there⟩
    · exact fresh l there
    · cases fresh _ there
  · obtain ⟨l, here, once⟩ := closeOnce.once t inside
    rw [← same] at once
    rcases outer.loop grows here with there | ⟨-, there⟩
    · exact ⟨l, there, once⟩
    · exact ⟨_, there, once⟩

/-- Every act keeps it so that refused loops close once. -/
theorem act (closeOnce : RefusedCloseOnce s ts) (judged : Judged s p false ts) (sound : Sound s) (a : Act) :
    RefusedCloseOnce (s.act a) (ts ++ (judged? false p s a).toList) := by
  rcases sound.act_cases a with ⟨outer, unmoved⟩ | ⟨t, l, stage, rfl, here, relocates, move⟩
  · rw [judged?, begins?_of_outer unmoved, ite_self, Option.toList_none, List.append_nil]
    exact closeOnce.outer outer (sound.act a).2
  refine ⟨fun k fresh => ?_, fun k inside => ?_⟩
  · by_cases own : k = t
    · subst own
      exact absurd (fresh _ relocates.own) move.ne_fresh
    · rw [move.begun_of_ne own]
      exact closeOnce.unbegun k fun x before => fresh x ((relocates.other own).mpr before)
  · rcases List.mem_append.mp inside with before | new
    · obtain ⟨x, there, once⟩ := closeOnce.once k before
      rcases relocates.after here there with ⟨rfl, rfl⟩ | ⟨apart, after⟩
      · refine ⟨_, relocates.own, ?_⟩
        -- it is closing its channel, and begins nothing more
        obtain ⟨phase, closing⟩ := judged.closing before here move.alive
        cases moves : s.move t with
        | none => rw [act_move_of_none moves, once]
        | some r =>
          rw [act_move_of_some moves, ← once]
          exact (harmless_move here closing moves).2.begun_of_ne nofun
      · exact ⟨x, after, by rw [move.begun_of_ne apart, once]⟩
    · rw [judged?, Option.mem_toList] at new
      split at new
      · cases new
      · next taken =>
        obtain ⟨same, x, there, fresh, own⟩ := begins?_eq_some.mp new
        cases same
        rw [here] at there
        cases there
        subst own
        have first := closeOnce.unbegun t fun x before => by
          rw [here] at before
          cases before
          exact fresh
        have attached : (s.publisher l.publisher).attached = true := by
          simpa using taken
        refine ⟨_, relocates.own, ?_⟩
        rw [act_move_of_some (move_of_fresh here fresh), (harmless_beginLoop attached).2, first]

/-- So does every run. -/
theorem perform (acts : List Act) (p : Nat) :
    RefusedCloseOnce (Service.fresh.perform acts) (refusedLoops p acts) := by
  induction acts using List.reverseRecOn with
  | nil => exact fresh
  | append_singleton acts a ih =>
    rw [perform_concat, refusedLoops, gather_concat]
    exact ih.act (.perform acts p false) (sound_perform acts) a

end RefusedCloseOnce

/-- A loop goes on as if nothing had happened: its place, its channel and its notice are the same. -/
structure Undisturbed (s : Service) (k : Nat) (x : Loop) (s' : Service) : Prop where
  place : s'.loop? k = some x
  channelOf : s'.channelOf x.handle = s.channelOf x.handle
  channel : s'.broker.channels[s.channelOf x.handle]? = s.broker.channels[s.channelOf x.handle]?
  notice : s'.noticeOf x.stage.notice? = s.noticeOf x.stage.notice?

/-- What is harmless does not disturb a loop on another channel. -/
theorem Harmless.undisturbed {h k : Nat} {x : Loop} (harmless : Harmless s t h s')
    (hearing : Hearing s) (apart : k ≠ t) (there : s.loop? k = some x)
    (other : s.channelOf x.handle ≠ s.channelOf h) : Undisturbed s k x s' where
  place := by rw [loop?, harmless.tasks k apart, ← loop?, there]
  channelOf := by rw [Service.channelOf, harmless.handles, Service.channelOf]
  channel := harmless.broker.channels _ other
  notice := by
    cases held : x.stage.notice? with
    | none => rfl
    | some n =>
      rw [noticeOf, hearing.unheard there held other harmless.broker, noticeOf]

/-- Refusals concern those that are refused, and nobody else. -/
structure Refusals (s : Service) (p : Nat) (refused : List Nat) : Prop where
  value : ∀ t l r, s.loop? t = some l → l.publisher = p → s.valueOf t = some (.detached r) →
    (r = .alreadyAttached ↔ t ∈ refused)
  /-- A loop that nothing holds up returns from its first poll. -/
  returns : ∀ t l, s.loop? t = some l → l.publisher = p → s.Refused l →
    (∀ side, s.mustWait l.handle .close side = false) →
    (s.poll t).valueOf t = some (.detached .alreadyAttached)
  once : ∀ t ∈ refused, ∃ l, s.loop? t = some l ∧ l.publisher = p ∧
    s.begun t = [.began t l.handle .close]
  moved : ∀ t l, s.loop? t = some l → l.publisher = p → s.Refused l →
    Harmless s t l.handle (s.act (.move t))
  dropped : ∀ t l phase, s.loop? t = some l → l.publisher = p → l.stage = .closing .refused phase →
    Harmless s t l.handle (s.act (.command (.dropTask t) rfl))
  undisturbed : ∀ t l s' k x, s.loop? t = some l → Harmless s t l.handle s' → k ≠ t →
    s.loop? k = some x → s.channelOf x.handle ≠ s.channelOf l.handle → Undisturbed s k x s'

/-- A loop ends with the refusal if it was refused, and with nothing else. -/
theorem Judged.value {r : Detach} (judged : Judged s p false ts) (here : s.loop? t = some l)
    (own : l.publisher = p) (value : s.valueOf t = some (.detached r)) :
    r = .alreadyAttached ↔ t ∈ ts := by
  have ended : l.stage = .finished r := by
    rw [valueOf_of_loop? here, Task.value?] at value
    cases place : l.stage <;> simp_all
  constructor
  · rintro rfl
    exact judged.told t l here own (by rw [ended]; rfl)
  · intro inside
    obtain ⟨x, there, -, verdict⟩ := judged.kept t inside
    rw [here] at there
    cases there
    rw [ended] at verdict
    cases r <;> simp_all [LoopStage.verdict?]

/-- The move of a refused loop is harmless. -/
theorem harmless_act (here : s.loop? t = some l) (refused : s.Refused l) :
    Harmless s t l.handle (s.act (.move t)) := by
  rcases refused with ⟨fresh, taken⟩ | ⟨phase, closing⟩
  · rw [act_move_of_some (move_of_fresh here fresh)]
    exact (harmless_beginLoop taken).1
  · cases moves : s.move t with
    | none =>
      rw [act_move_of_none moves]
      exact .refl s t l.handle
    | some s' =>
      rw [act_move_of_some moves]
      exact (harmless_move here closing moves).1

/-- What is true of refused loops at every moment. -/
theorem refusals (hearing : Hearing s) (judged : Judged s p false ts)
    (closeOnce : RefusedCloseOnce s ts) : Refusals s p ts where
  value _ _ _ here own := judged.value here own
  returns t l here _ refused free := poll_of_refused here refused free
  once t inside := by
    obtain ⟨l, here, own, -⟩ := judged.kept t inside
    obtain ⟨x, there, once⟩ := closeOnce.once t inside
    rw [here] at there
    cases there
    exact ⟨l, here, own, once⟩
  moved _ _ here _ refused := harmless_act here refused
  dropped t l phase here _ closing := by
    have inBounds : t < s.tasks.size := lt_size_of_task (loop?_eq_some.mp here)
    have drops : s.act (.command (.dropTask t) rfl) = s.drop t := by
      simp only [Service.act, step, inBounds, if_true]
    rw [drops]
    exact harmless_drop here closing
  undisturbed _ _ _ _ _ _ harmless apart there other := harmless.undisturbed hearing apart there other

/-! ## In every state -/

/-- For everything that can happen, in every state, also in the midst of a poll: the guard of a publisher
is held by at most one loop, which won it and is neither at its end nor dropped, and the publisher counts
as attached exactly if there is one. Loops that find it so are refused; they close the channel that they
were offered, once, and touch nothing else. When the guard is given up, the next loop of a live publisher
is accepted. -/
theorem one_loop_attached (acts : List Act) (p : Nat) :
    let s := fresh.perform acts
    Guarded s p (winners p acts) ∧ Refusals s p (refusedLoops p acts) ∧ PassesOn s p := by
  intro s
  have sound : Sound s := sound_perform acts
  exact ⟨(Judged.perform acts p true).guarded sound,
    refusals (hearing_perform acts) (.perform acts p false) (.perform acts p), passesOn sound p⟩

/-- The second loop of a publisher returns from its first poll, and the first one goes on. -/
theorem second_loop_refused :
    let acts : List Act := [.command (.publisher "" "key" {} none) rfl,
      .command (.openChannel 1) rfl, .command (.openChannel 1) rfl, .command (.serve 0 0 true) rfl,
      .move 0, .command (.serve 0 1 true) rfl]
    let s := fresh.perform acts
    winners 0 acts = [0] ∧ (s.publisher 0).loop = some 0 ∧ refusedLoops 0 (acts ++ [.move 1]) = [1] ∧
      (s.poll 1).valueOf 1 = some (.detached .alreadyAttached) ∧
      Harmless s 1 1 (s.act (.move 1)) ∧
      Undisturbed s 0 { publisher := 0, handle := 0, stage := .idle (some 0) } (s.act (.move 1)) := by
  intro acts s
  obtain ⟨guarded, refusals, -⟩ := one_loop_attached acts 0
  let l : Loop := { publisher := 0, handle := 1 }
  have refused : s.Refused l := .inl ⟨rfl, rfl⟩
  have harmless : Harmless s 1 1 (s.act (.move 1)) := refusals.moved 1 l rfl rfl refused
  have alive : s.Alive 0 := ⟨_, rfl, rfl⟩
  refine ⟨rfl, (guarded.holder 0).mpr ⟨List.mem_singleton_self 0, alive⟩, rfl,
    refusals.returns 1 l rfl rfl refused ?_, harmless, ?_⟩
  · rintro (_ | _) <;> rfl
  · exact refusals.undisturbed 1 l _ 0 _ rfl harmless (by decide) rfl (by decide)

end Relay.Service
