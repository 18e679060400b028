import Relay.Proofs.LoopMoves

/-!
# What loops hear of their channels

A serving loop holds a close notice of its own channel, registered when the loop was accepted. As long as
that notice waits, it is registered with the channel, and the channel is live: `Hearing` is that
invariant. So a loop that finds its notice waiting serves on a live channel.
-/

namespace Relay.Service

open Broker (Heeds Awaits)

variable {s s' : Service} {t : Nat} {l : Loop} {stage : LoopStage} {a : Act}

/-- Loops that serve are registered with their channels. -/
structure Hearing (s : Service) : Prop where
  tuned : s.broker.Tuned
  held : s.Held
  handles : ∀ t l, s.loop? t = some l → l.handle < s.handles.size
  notices : ∀ t l n, s.loop? t = some l → l.stage.notice? = some n →
    Awaits s.broker n (s.channelOf l.handle)

namespace LoopMove

/-- A loop that moves leaves handles and channels as every act does. -/
theorem surroundings (move : LoopMove s t l s' stage) :
    Surroundings s s' := by
  cases move with
  | refuse _ _ keeps | retire _ _ _ keeps | accept _ _ _ _ _ keeps | fail _ _ keeps
    | advance _ keeps => exact keeps.toSurroundings
  | begin _ _ _ _ _ handles broker =>
    exact .of_heeds handles (.of_fields (by rw [broker]) (by rw [broker]))

/-- The notice of a loop that moved was its notice before, unless it was accepted. -/
theorem notice (move : LoopMove s t l s' stage) {n : Nat} (held : stage.notice? = some n) :
    l.stage.notice? = some n ∨ Awaits s'.broker n (s.channelOf l.handle) := by
  cases move with
  | refuse | retire | fail => cases held
  | accept _ _ _ begins awaits => rcases begins with rfl | rfl <;> exact .inr (awaits n held)
  | begin idle =>
    rw [idle]
    exact .inl held
  | advance leads =>
    rcases leads.notice? with same | none
    · exact .inl (same.symm.trans held)
    · rw [none] at held
      cases held

end LoopMove

namespace Hearing

/-- In a service that nobody has used no loop listens. -/
theorem fresh : Hearing fresh where
  tuned := by
    have silent : ∀ n c, ¬ Service.fresh.broker.Listens n c := by
      rintro n c ⟨ch, here, -⟩
      cases here
    exact ⟨fun n c h => absurd h (silent n c), fun n c _ h => absurd h (silent n c),
      fun n c h => absurd h (silent n c)⟩
  held h inBounds := absurd inBounds (Nat.not_lt_zero h)
  handles t l here := by cases here
  notices t l n here := by cases here

/-- An act that moves no loop leaves every serving loop registered. -/
theorem outer (hearing : Hearing s) (outer : Outer s s') : Hearing s' where
  tuned := outer.keeps.heeds.tuned hearing.tuned
  held := outer.keeps.held hearing.held
  handles t l' there := by
    refine Nat.lt_of_lt_of_le ?_ outer.keeps.handles
    rcases outer.loops t l' there with same | ⟨l, here, -, rfl⟩ | ⟨-, -, inBounds⟩
    · exact hearing.handles t l' same
    · exact hearing.handles t l here
    · exact inBounds
  notices t l' n there held := by
    rcases outer.loops t l' there with same | ⟨l, here, -, rfl⟩ | ⟨-, fresh, -⟩
    · rw [outer.keeps.channelOf _ (hearing.handles t l' same)]
      exact (hearing.notices t l' n same held).heeds outer.keeps.heeds
    · cases held
    · rw [fresh] at held
      cases held

/-- So does the move of a loop: it keeps its notice, gives it up or has just registered it. -/
theorem move (hearing : Hearing s) (here : s.loop? t = some l) (relocates : Relocates s t l s' stage)
    (move : LoopMove s t l s' stage) : Hearing s' := by
  obtain ⟨longer, channelOf, heeds, held⟩ := move.surroundings
  refine ⟨heeds.tuned hearing.tuned, held hearing.held, fun k x there => ?_,
    fun k x n there held => ?_⟩
  · refine Nat.lt_of_lt_of_le ?_ longer
    rcases relocates.before there with ⟨rfl, rfl⟩ | ⟨-, before⟩
    · exact hearing.handles t l here
    · exact hearing.handles k x before
  · rcases relocates.before there with ⟨rfl, rfl⟩ | ⟨-, before⟩
    · rw [channelOf _ (hearing.handles t l here)]
      rcases move.notice held with before | awaits
      · exact (hearing.notices t l n here before).heeds heeds
      · exact awaits
    · rw [channelOf _ (hearing.handles k x before)]
      exact (hearing.notices k x n before held).heeds heeds

/-- So does every act. -/
theorem act (hearing : Hearing s) (sound : Sound s) (a : Act) : Hearing (s.act a) := by
  rcases sound.act_cases a with ⟨outer, -⟩ | ⟨t, l, stage, -, here, relocates, move⟩
  · exact hearing.outer outer
  · exact hearing.move here relocates move

/-- So does every run. -/
theorem perform (hearing : Hearing s) (sound : Sound s) (acts : List Act) :
    Hearing (s.perform acts) := by
  induction acts generalizing s with
  | nil => exact hearing
  | cons a acts ih => exact ih (hearing.act sound a) (sound.act a).1

/-- A loop whose notice waits serves on a live channel. -/
theorem isLive_of_waiting {notice : Option Nat} (hearing : Hearing s) (here : s.loop? t = some l)
    (held : l.stage.notice? = notice) (waits : s.noticeOf notice = .waiting) :
    s.broker.isLive (s.channelOf l.handle) = true := by
  cases notice with
  | none => cases waits
  | some n =>
    have awaits := hearing.notices t l n here held
    have found : s.broker.notices[n]? = some .waiting := by
      rw [noticeOf, Array.getElem?_eq_getElem awaits.lt_size, Option.getD_some] at waits
      rw [Array.getElem?_eq_getElem awaits.lt_size, waits]
    exact hearing.tuned.live n _ (awaits.listens found)

/-- What happens to one channel and its listeners is not heard by a loop on another. -/
theorem unheard {c n : Nat} {b : Broker} (hearing : Hearing s) (here : s.loop? t = some l)
    (held : l.stage.notice? = some n) (other : s.channelOf l.handle ≠ c)
    (elsewhere : Broker.Elsewhere c s.broker b) : b.notices[n]? = s.broker.notices[n]? := by
  refine (elsewhere.notices n fun listens => other ?_).1
  have waits := hearing.tuned.waiting n c listens
  exact hearing.tuned.once n _ _ ((hearing.notices t l n here held).listens waits) listens

end Hearing

/-- In every service that a run reaches, serving loops are registered with their channels. -/
theorem hearing_perform (acts : List Act) : Hearing (fresh.perform acts) :=
  Hearing.fresh.perform .fresh acts

/-- Handles keep their channels and the broker goes on, whatever happens. -/
theorem surroundings_act (sound : Sound s) (a : Act) : Surroundings s (s.act a) := by
  rcases sound.act_cases a with ⟨outer, -⟩ | ⟨t, l, stage, -, -, -, move⟩
  · exact outer.keeps.toSurroundings
  · exact move.surroundings

/-- The same over a run. -/
theorem surroundings_perform (sound : Sound s) (acts : List Act) :
    Surroundings s (s.perform acts) := by
  induction acts generalizing s with
  | nil => exact .refl s
  | cons a acts ih => exact (surroundings_act sound a).trans (ih (sound.act a).1)

end Relay.Service
