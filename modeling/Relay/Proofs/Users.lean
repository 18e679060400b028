import Relay.Proofs.Hearing
import Relay.Proofs.Registrations
import Relay.Proofs.Setups
import Relay.Proofs.Stemming

/-!
# Who uses which channel

Loops are given channels, and what they ask of the broker they ask on their own. `usersOf` lists who
publishes on a channel or puts it into confirm mode, and a channel that nobody uses so is not in confirm
mode. A loop that has handed over a message is done with setting up, so what it has done about
confirmations by then is all that it ever does about them.
-/

namespace Relay.Service

open Broker (Exception)

variable {s s' : Service} {t c k p : Nat} {l : Loop} {a : Act} {acts : List Act} {h : Handling}

/-- The loops that were started for a publisher, each with its channel. -/
def channelsOf (s : Service) (p : Nat) : List (Nat × Nat) :=
  (List.range s.tasks.size).filterMap fun t =>
    match s.loop? t with
    | some l => if l.publisher = p then some (t, s.channelOf l.handle) else none
    | none => none

/-- Who publishes on a channel or puts it into confirm mode, in order. -/
def usersOf (acts : List Act) (c : Nat) : List (Option Nat) :=
  gather (fun s a => (s.dealing a).user? c) fresh acts

/-- The channels of a publisher are those that its loops were given. -/
theorem mem_channelsOf : (t, c) ∈ s.channelsOf p ↔
    ∃ l, s.loop? t = some l ∧ l.publisher = p ∧ s.channelOf l.handle = c := by
  rw [channelsOf, List.mem_filterMap]
  constructor
  · rintro ⟨k, -, found⟩
    cases here : s.loop? k with
    | none =>
      rw [here] at found
      cases found
    | some l =>
      rw [here] at found
      simp only [Option.ite_none_right_eq_some, Option.some.injEq, Prod.mk.injEq] at found
      obtain ⟨own, rfl, channel⟩ := found
      exact ⟨l, here, own, channel⟩
  · rintro ⟨l, here, own, channel⟩
    refine ⟨t, List.mem_range.mpr (Array.getElem?_eq_some_iff.mp (loop?_eq_some.mp here)).1, ?_⟩
    rw [here]
    simp only [own, channel, if_true]

/-- A loop with one of these channels is a loop of the publisher. -/
theorem of_mem_channelsOf (given : (t, c) ∈ s.channelsOf p) (here : s.loop? t = some l) :
    l.publisher = p ∧ s.channelOf l.handle = c := by
  obtain ⟨x, there, own⟩ := mem_channelsOf.mp given
  cases here.symm.trans there
  exact own

/-! ## Loops and their dealings -/

/-- A loop puts its own channel into confirm mode. -/
theorem confirming_of_select {d : Nat} (selects : s.dealing a = .select (some t) d) :
    ∃ l notice, a = .move t ∧ s.loop? t = some l ∧ s.isHeldUp l = false ∧
      l.stage = .confirming notice .entering ∧ s.channelOf l.handle = d := by
  cases a with
  | command c passive =>
    cases c with
    | publishOn | confirmSelect | dropSink | receive | notifyPublish =>
      simp only [dealing, commandDealing] at selects
      repeat split at selects
      all_goals cases selects
    | _ => cases selects
  | move k =>
    simp only [dealing] at selects
    split at selects
    · next l here =>
      split at selects
      · cases selects
      · next free =>
        unfold loopDealing at selects
        split at selects
        · next notice stage =>
          cases selects
          exact ⟨l, notice, rfl, here, Bool.eq_false_iff.mpr free, stage, rfl⟩
        · split at selects <;> cases selects
        · split at selects <;> cases selects
        · cases selects
    · cases selects

/-- A sink is registered directly, or by a loop of the publisher that it belongs to. -/
theorem registering_of_register (registers : s.dealing a = .register c k) :
    (∃ handle passive, a = .command (.notifyPublish handle k) passive) ∨
    ∃ t l notice, a = .move t ∧ s.loop? t = some l ∧ s.isHeldUp l = false ∧
      l.stage = .confirming notice (.leaving (.ok ())) ∧ s.channelOf l.handle = c ∧
      (s.publisher l.publisher).sink = some k := by
  cases a with
  | command d passive =>
    cases d with
    | publishOn | confirmSelect | dropSink | receive =>
      simp only [dealing, commandDealing] at registers
      repeat split at registers
      all_goals cases registers
    | notifyPublish handle j =>
      simp only [dealing, commandDealing] at registers
      repeat split at registers
      all_goals cases registers
      exact .inl ⟨handle, passive, rfl⟩
    | _ => cases registers
  | move t =>
    refine .inr ?_
    simp only [dealing] at registers
    split at registers
    · next l here =>
      split at registers
      · cases registers
      · next free =>
        -- of a loop's dealings only the one that comes back from confirm mode registers a sink
        unfold loopDealing at registers
        split at registers
        · cases registers
        · next notice stage =>
          split at registers
          · next sink =>
            cases registers
            exact ⟨t, l, notice, rfl, here, Bool.eq_false_iff.mpr free, stage, rfl, sink⟩
          · cases registers
        · split at registers <;> cases registers
        · cases registers
    · cases registers

/-- A step of setting up is a move of the loop. -/
theorem moved_of_stepBy {step : SetupStep} (does : s.stepBy a t = some step) :
    ∃ l, a = .move t ∧ s.loop? t = some l ∧ s.isHeldUp l = false ∧
      s.loopSetup? l = some step := by
  cases here : s.loop? t with
  | none => exact nomatch (stepBy_of_absent here a).symm.trans does
  | some l =>
    by_cases own : a = .move t
    · subst own
      rw [stepBy_move here] at does
      split at does
      · cases does
      · next free => exact ⟨l, rfl, rfl, Bool.eq_false_iff.mpr free, does⟩
    · exact nomatch (stepBy_of_other own).symm.trans does

/-- A loop that is granted confirm mode puts its own channel into it. -/
theorem select_of_isGrant (grants : (s.stepBy a t).any SetupStep.isGrant = true) :
    ∃ l, s.loop? t = some l ∧ s.dealing a = .select (some t) (s.channelOf l.handle) := by
  cases does : s.stepBy a t with
  | none =>
    rw [does] at grants
    cases grants
  | some step =>
    rw [does] at grants
    obtain ⟨l, rfl, here, free, setup⟩ := moved_of_stepBy does
    refine ⟨l, here, ?_⟩
    unfold loopSetup? at setup
    split at setup
    · next stage => simp only [dealing, here, free, Bool.false_eq_true, if_false, loopDealing, stage]
    · obtain ⟨k, -, rfl⟩ := Option.map_eq_some_iff.mp setup
      cases grants
    · cases setup
      cases grants
    · cases setup

/-- A loop that registers a sink registers that of its publisher, with its own channel. -/
theorem register_of_isRegistration
    (registers : (s.stepBy a t).any SetupStep.isRegistration = true) :
    ∃ l k, s.loop? t = some l ∧ (s.publisher l.publisher).sink = some k ∧
      s.dealing a = .register (s.channelOf l.handle) k := by
  cases does : s.stepBy a t with
  | none =>
    rw [does] at registers
    cases registers
  | some step =>
    rw [does] at registers
    obtain ⟨l, rfl, here, free, setup⟩ := moved_of_stepBy does
    unfold loopSetup? at setup
    split at setup
    · cases setup
      cases registers
    · next stage =>
      obtain ⟨k, sink, -⟩ := Option.map_eq_some_iff.mp setup
      refine ⟨l, k, here, sink, ?_⟩
      simp only [dealing, here, free, Bool.false_eq_true, if_false, loopDealing, stage, sink]
    · cases setup
      cases registers
    · cases setup

/-- A loop uses no channel but its own. -/
theorem loop_of_user (uses : (s.dealing a).user? c = some (some t)) :
    ∃ l, a = .move t ∧ s.loop? t = some l ∧ s.channelOf l.handle = c := by
  cases deals : s.dealing a with
  | publish m =>
    rw [deals] at uses
    simp only [Dealing.user?, Option.ite_none_right_eq_some, Option.some.injEq,
      Option.map_eq_some_iff] at uses
    obtain ⟨rfl, ⟨k, u⟩, origin, rfl⟩ := uses
    cases a with
    | command d passive =>
      obtain ⟨_, _, _, _, _, -, -, sent⟩ := publishOn_of_dealing deals
      rw [sent] at origin
      cases origin
    | move j =>
      obtain ⟨l, _, _, _, here, -, -, -, sent⟩ := publishing_of_dealing deals
      rw [sent] at origin ⊢
      cases origin
      exact ⟨l, rfl, here, rfl⟩
  | select user d =>
    rw [deals] at uses
    simp only [Dealing.user?, Option.ite_none_right_eq_some, Option.some.injEq] at uses
    obtain ⟨rfl, rfl⟩ := uses
    obtain ⟨l, -, rfl, here, -, -, channel⟩ := confirming_of_select deals
    exact ⟨l, rfl, here, channel⟩
  | _ =>
    rw [deals] at uses
    cases uses

/-! ## Runs -/

/-- A loop stays the loop of its publisher and of its channel. -/
theorem loop_concat (here : (fresh.perform acts).loop? t = some l) (a : Act) :
    ∃ l', (fresh.perform (acts ++ [a])).loop? t = some l' ∧ l'.publisher = l.publisher ∧
      (fresh.perform (acts ++ [a])).channelOf l'.handle = (fresh.perform acts).channelOf l.handle := by
  have sound := sound_perform acts
  obtain ⟨l', there, publisher, handle⟩ := (sound.act a).2.loop (loop?_eq_some.mp here)
  rw [perform_concat]
  refine ⟨l', loop?_eq_some.mpr there, publisher, ?_⟩
  rw [handle, (surroundings_act sound a).channelOf _ ((hearing_perform acts).handles t l here)]

/-- A channel that a publisher has it keeps. -/
theorem channelsOf_concat (a : Act) {x : Nat × Nat} (given : x ∈ (fresh.perform acts).channelsOf p) :
    x ∈ (fresh.perform (acts ++ [a])).channelsOf p := by
  obtain ⟨l, here, own, channel⟩ := mem_channelsOf.mp given
  obtain ⟨l', there, publisher, kept⟩ := loop_concat here a
  exact mem_channelsOf.mpr ⟨l', there, publisher.trans own, kept.trans channel⟩

/-- A loop that was not there before is a new one. -/
theorem channelsOf_before {x : Nat × Nat}
    (given : x ∈ (fresh.perform (acts ++ [a])).channelsOf p) :
    x ∈ (fresh.perform acts).channelsOf p ∨ (fresh.perform acts).loop? x.1 = none := by
  cases before : (fresh.perform acts).loop? x.1 with
  | none => exact .inr rfl
  | some l =>
    obtain ⟨l', there, own, channel⟩ := mem_channelsOf.mp given
    obtain ⟨k, here, publisher, kept⟩ := loop_concat before a
    cases there.symm.trans here
    exact .inl (mem_channelsOf.mpr ⟨l, before, publisher.symm.trans own, kept.symm.trans channel⟩)

/-- A channel that was given to a loop does not come to life again. -/
theorem isLive_of_concat (given : (t, c) ∈ (fresh.perform acts).channelsOf p)
    (live : (fresh.perform (acts ++ [a])).broker.isLive c = true) :
    (fresh.perform acts).broker.isLive c = true := by
  obtain ⟨l, here, -, rfl⟩ := mem_channelsOf.mp given
  have hearing := hearing_perform acts
  have inBounds := hearing.held _ (hearing.handles t l here)
  by_contra closed
  rw [perform_concat, (surroundings_act (sound_perform acts) a).heeds.closed _ inBounds
    (Bool.eq_false_iff.mpr closed)] at live
  cases live

/-- The last act adds the user that it makes use a channel for. -/
theorem usersOf_concat (acts : List Act) (a : Act) (c : Nat) :
    usersOf (acts ++ [a]) c =
      usersOf acts c ++ (((fresh.perform acts).dealing a).user? c).toList :=
  gather_concat _ fresh acts a

/-- A loop that used a channel was given it. -/
theorem loop_of_mem_usersOf (uses : some t ∈ usersOf acts c) :
    ∃ l, (fresh.perform acts).loop? t = some l ∧ (fresh.perform acts).channelOf l.handle = c := by
  induction acts using List.reverseRecOn with
  | nil => cases uses
  | append_singleton acts a ih =>
    have before : ∃ l, (fresh.perform acts).loop? t = some l ∧
        (fresh.perform acts).channelOf l.handle = c := by
      rw [usersOf_concat, List.mem_append, Option.mem_toList] at uses
      rcases uses with earlier | now
      · exact ih earlier
      · obtain ⟨l, -, here, channel⟩ := loop_of_user now
        exact ⟨l, here, channel⟩
    obtain ⟨l, here, channel⟩ := before
    obtain ⟨l', there, -, kept⟩ := loop_concat here a
    exact ⟨l', there, kept.trans channel⟩

/-- A channel that nobody uses is not in confirm mode. -/
theorem tagOn_of_usersOf (unused : usersOf acts c = []) :
    (fresh.perform acts).broker.tagOn c = none := by
  induction acts using List.reverseRecOn with
  | nil => rfl
  | append_singleton acts a ih =>
    rw [usersOf_concat, List.append_eq_nil_iff, Option.toList_eq_nil_iff] at unused
    rw [perform_concat, ((fresh.perform acts).deals a).tagOn_of_unused unused.2, ih unused.1]

/-! ## Loops that are done with setting up -/

/-- A loop is done with setting up its channel. -/
def Prepared (s : Service) (t c : Nat) : Prop :=
  ∃ l, s.loop? t = some l ∧ l.stage.isSetUp = true ∧ s.channelOf l.handle = c

/-- A loop that is prepared stays so. -/
theorem Prepared.concat (prepared : (fresh.perform acts).Prepared t c) (a : Act) :
    (fresh.perform (acts ++ [a])).Prepared t c := by
  obtain ⟨l, here, done, channel⟩ := prepared
  obtain ⟨l', there, -, kept⟩ := loop_concat here a
  refine ⟨l', there, ?_, kept.trans channel⟩
  rw [perform_concat] at there
  rcases (sound_perform acts).setup_cases a here with ⟨-, same⟩ | ⟨-, dropped⟩ |
    ⟨_, -, -, -, own, move⟩
  · cases there.symm.trans same
    exact done
  · cases there.symm.trans dropped
    rfl
  · cases there.symm.trans own
    exact move.isSetUp done

/-- A loop that is done does nothing more about confirmations. -/
theorem Prepared.stepBy (prepared : s.Prepared t c) (a : Act) : s.stepBy a t = none := by
  obtain ⟨l, here, done, -⟩ := prepared
  by_cases own : a = .move t
  · rw [own, stepBy_move here, loopSetup?_of_isSetUp done, ite_self]
  · exact stepBy_of_other own

/-- A loop that hands over a message is done with setting up. -/
theorem prepared_of_handling (handles : s.handling? a = some h)
    (user : h.sending.origin.map Prod.fst = some t) : s.Prepared t h.sending.channel := by
  obtain ⟨⟨k, u⟩, origin, rfl⟩ := Option.map_eq_some_iff.mp user
  obtain ⟨_, l, _, _, -, here, -, publishing, -, sending⟩ :=
    handling_of_caller handles (u := u) (by rw [Handling.caller?, origin]; rfl)
  cases origin.symm.trans (congrArg Sending.origin sending)
  exact ⟨l, here, by rw [publishing]; rfl, (congrArg Sending.channel sending).symm⟩

/-- A loop was prepared before it had a message handled. -/
theorem prepared_of_mem_handlings (inside : h ∈ handlings acts)
    (user : h.sending.origin.map Prod.fst = some t) :
    (fresh.perform acts).Prepared t h.sending.channel := by
  induction acts using List.reverseRecOn with
  | nil => cases inside
  | append_singleton acts a ih =>
    rw [handlings_concat, List.mem_append, Option.mem_toList] at inside
    rcases inside with before | now
    · exact (ih before).concat a
    · exact (prepared_of_handling now user).concat a

/-- Whoever has a message handled is a user of its channel. -/
theorem mem_usersOf_of_handling (inside : h ∈ handlings acts) :
    h.sending.origin.map Prod.fst ∈ usersOf acts h.sending.channel := by
  obtain ⟨first, a, rest, split, handles⟩ := mem_gather.mp inside
  refine mem_gather.mpr ⟨first, a, rest, split, ?_⟩
  rw [(handling?_eq_some.mp handles).1, Dealing.user?, if_pos rfl]

end Relay.Service
