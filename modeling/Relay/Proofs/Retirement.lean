import Relay.Proofs.Aftermath
import Relay.Proofs.Guard

/-!
# Forgetting a publisher

The loop that first finds its publisher dead tells the owner to forget it, and then closes its channel;
every later one only closes. Loops that find another one attached close their channels without a word. So
the owner is told once, after the cancellation and before the first close for that reason, and a loop that
returns because of a cancellation or a refusal has begun to close its channel exactly once: `ClosesAsPlaced`
reads that off its place.
-/

namespace Relay.Service

open Broker (Exception)
open Publisher (Detach)

/-- The publisher that an event tells the owner to forget. -/
def Event.forgets? : Event → Option Nat
  | .forgotten p => some p
  | _ => none

/-- Whether a loop begins to close a channel with an event. -/
def Event.isClose : Event → Bool
  | .began _ _ .close => true
  | _ => false

/-- The publishers that the owner was told to forget, in order. -/
def forgettings (s : Service) : List Nat := s.chronicle Event.forgets?

/-- The closes that a loop began, the last first. -/
def closesBy (s : Service) (t : Nat) : List Event := (s.begun t).filter Event.isClose

/-- The loop of a publisher that begins with an act although its publisher is dead. -/
def belated? (p : Nat) (s : Service) (a : Act) : Option Nat :=
  if (s.publisher p).dead then begins? p s a else none

/-- The loops of a publisher that began when it was dead. -/
def belated (p : Nat) (acts : List Act) : List Nat := gather (belated? p) fresh acts

/-- In a list that gives the last event first, one event came before every occurrence of another. -/
def Precedes (x y : Event) (es : List Event) : Prop :=
  ∀ later earlier, es = later ++ y :: earlier → x ∈ earlier

/-- Whether a loop at this place has begun to close its channel; one that was dropped may have as well. -/
def LoopStage.hasClosed : LoopStage → Bool
  | closing _ _ | finished .cancelled | finished .alreadyAttached => true
  | fresh | confirming _ _ | idle _ | publishing _ _ _ | finished (.closed _) | dropped => false

variable {s s' : Service} {t p : Nat} {l x : Loop} {stage : LoopStage} {a : Act} {es fs : List Event}

/-! ## What loops do -/

/-- The operations that a loop began are deeds. -/
theorem begun_eq (s : Service) (t : Nat) :
    s.begun t = s.proceedings.filter fun e => e.begunBy? = some t := by
  rw [begun, proceedings, List.filter_filter]
  congr 1
  funext e
  cases e <;> simp [Event.begunBy?, Event.isProceeding]

/-- So are the messages to forget a publisher. -/
theorem forgettings_eq (s : Service) :
    s.forgettings = (s.proceedings.filterMap Event.forgets?).reverse := by
  rw [forgettings, chronicle, List.filterMap_reverse, proceedings, List.filterMap_filter]
  congr 1
  refine List.filterMap_congr fun e _ => ?_
  cases e <;> rfl

/-- An act adds the operations that are read off it. -/
theorem begun_act (sound : Sound s) (a : Act) (t : Nat) :
    (s.act a).begun t = (s.entries a).filter (fun e => e.begunBy? = some t) ++ s.begun t := by
  rw [begun_eq, (proceeds_act sound a).proceedings, List.filter_append, ← begun_eq]

/-- An act adds the messages that are read off it. -/
theorem forgettings_act (sound : Sound s) (a : Act) :
    (s.act a).forgettings =
      s.forgettings ++ ((s.entries a).filterMap Event.forgets?).reverse := by
  rw [forgettings_eq, (proceeds_act sound a).proceedings, List.filterMap_append,
    List.reverse_append, ← forgettings_eq]

/-- A publisher was to be forgotten just if the journal says so. -/
theorem mem_forgettings : p ∈ s.forgettings ↔ .forgotten p ∈ s.journal := by
  rw [forgettings, chronicle, List.mem_filterMap]
  constructor
  · rintro ⟨e, inside, tells⟩
    cases e <;> cases tells
    exact List.mem_reverse.mp inside
  · exact fun inside => ⟨_, List.mem_reverse.mpr inside, rfl⟩

/-- What an act adds to the journal, as far as loops do it. -/
theorem journal_act (sound : Sound s) (a : Act) :
    ∃ added, (s.act a).journal = added ++ s.journal ∧
      added.filter Event.isProceeding = s.entries a := by
  obtain ⟨added, longer⟩ := (sound.act a).2.journal
  refine ⟨added, longer.symm, ?_⟩
  have both := (proceeds_act sound a).proceedings
  rw [proceedings, ← longer, List.filter_append] at both
  exact List.append_cancel_right both

/-- What is neither a close nor tells the owner to forget. -/
def Event.NeitherClosesNorForgets (e : Event) : Prop := e.isClose = false ∧ e.forgets? = none

/-- Telling the owner closes nothing. -/
theorem filter_isClose_farewells (s : Service) (p : Nat) : (s.farewells p).filter Event.isClose = [] := by
  unfold farewells
  split <;> rfl

/-- Why a loop closes its channel with its next move, if it does: it is refused, or its publisher is dead.
In the latter case the owner is told before. -/
inductive ClosingCause (s : Service) (t : Nat) (l : Loop) : Prop
  | refused (fresh : l.stage = .fresh) (attached : (s.publisher l.publisher).attached = true)
      (one : s.loopEntries t l = [.began t l.handle .close])
  | retired (dead : (s.publisher l.publisher).dead = true)
      (place : l.stage = .fresh ∧ (s.publisher l.publisher).attached = false ∨
        ∃ n, l.stage = .idle n)
      (one : s.loopEntries t l = .began t l.handle .close :: s.farewells l.publisher)
  /-- It neither closes anything nor tells the owner to forget anybody. -/
  | stays (vacant : l.stage = .fresh → (s.publisher l.publisher).attached = false)
      (live : (l.stage = .fresh ∨ ∃ n, l.stage = .idle n) → (s.publisher l.publisher).dead = false)
      (neither : ∀ e ∈ s.loopEntries t l, e.NeitherClosesNorForgets)

/-- A loop that neither begins nor is idle closes and forgets nothing. -/
theorem closingCause_of_begun (begun : l.stage ≠ .fresh) (busy : ∀ n, l.stage ≠ .idle n)
    (neither : ∀ e ∈ s.loopEntries t l, e.NeitherClosesNorForgets) : ClosingCause s t l := by
  refine .stays (fun fresh => absurd fresh begun) ?_ neither
  rintro (fresh | ⟨n, idle⟩)
  · exact absurd fresh begun
  · exact absurd idle (busy n)

/-- Nor does the beginning of a publish. -/
theorem neither_nextPublish? {e : Event} (inside : e ∈ s.nextPublish? t l) : e.NeitherClosesNorForgets := by
  simp only [nextPublish?, Option.mem_def, Option.bind_eq_some_iff, Option.map_eq_some_iff] at inside
  obtain ⟨⟨u, rest⟩, -, c, -, message, -, rfl⟩ := inside
  exact ⟨rfl, rfl⟩

/-- Why a loop may close its channel with its first move. -/
theorem closingCause_of_fresh (fresh : l.stage = .fresh) : ClosingCause s t l := by
  have entries := loopEntries_of_fresh (s := s) (t := t) fresh
  cases attached : (s.publisher l.publisher).attached with
  | true =>
    rw [attached, if_pos rfl] at entries
    exact .refused fresh attached entries
  | false =>
    rw [attached, if_neg Bool.false_ne_true] at entries
    cases dead : (s.publisher l.publisher).dead with
    | true =>
      rw [dead, if_pos rfl] at entries
      exact .retired dead (.inl ⟨fresh, attached⟩) entries
    | false =>
      rw [dead, if_neg Bool.false_ne_true] at entries
      refine .stays (fun _ => attached) (fun _ => dead) fun e inside => ?_
      simp only [entries, List.mem_append, Option.mem_toList, Option.map_eq_some_iff,
        List.mem_singleton] at inside
      rcases inside with ⟨-, -, rfl⟩ | rfl <;> exact ⟨rfl, rfl⟩

/-- Why it may do so between two requests. -/
theorem closingCause_of_idle {notice : Option Nat} (idle : l.stage = .idle notice) : ClosingCause s t l := by
  have entries := loopEntries_of_idle (s := s) (t := t) idle
  cases dead : (s.publisher l.publisher).dead with
  | true =>
    rw [dead, if_pos rfl] at entries
    exact .retired dead (.inr ⟨notice, idle⟩) entries
  | false =>
    rw [dead, if_neg Bool.false_ne_true] at entries
    refine .stays (fun fresh => ?_) (fun _ => dead) fun e inside => ?_
    · rw [idle] at fresh
      cases fresh
    · rw [entries] at inside
      split at inside
      · exact neither_nextPublish? (Option.mem_toList.mp inside)
      · cases inside

/-- Why a loop may close its channel or tell the owner, wherever it stands. -/
theorem closingCause (s : Service) (t : Nat) (l : Loop) : ClosingCause s t l := by
  cases stage : l.stage with
  | fresh => exact closingCause_of_fresh stage
  | idle notice => exact closingCause_of_idle stage
  | confirming notice phase =>
    refine closingCause_of_begun (by simp [stage]) (by simp [stage]) fun e inside => ?_
    simp only [loopEntries, stage] at inside
    cases phase with
    | entering => cases inside
    | leaving r =>
      cases r with
      | error f =>
        cases List.mem_singleton.mp inside
        exact ⟨rfl, rfl⟩
      | ok =>
        simp only [Option.mem_toList, Option.map_eq_some_iff] at inside
        obtain ⟨k, -, rfl⟩ := inside
        exact ⟨rfl, rfl⟩
  | publishing notice u phase =>
    refine closingCause_of_begun (by simp [stage]) (by simp [stage]) fun e inside => ?_
    simp only [loopEntries, stage] at inside
    cases phase with
    | entering => cases inside
    | leaving r =>
      simp only [Option.mem_toList, Option.map_eq_some_iff] at inside
      obtain ⟨k, -, rfl⟩ := inside
      exact ⟨rfl, rfl⟩
  | closing | finished | dropped =>
    refine closingCause_of_begun (by simp [stage]) (by simp [stage]) fun e inside => ?_
    simp only [loopEntries, stage] at inside
    cases inside

/-- An act that adds anything to what loops do is the move of a loop. -/
theorem loop_of_entries {e : Event} (inside : e ∈ s.entries a) :
    ∃ t l, a = .move t ∧ s.loop? t = some l ∧ s.entries a = s.loopEntries t l := by
  cases a with
  | command => cases inside
  | move t =>
    cases here : s.loop? t with
    | none => simp [entries, here] at inside
    | some l =>
      refine ⟨t, l, rfl, here, ?_⟩
      simp only [entries, here] at inside ⊢
      split at inside
      · cases inside
      · next free => rw [if_neg free]

/-- Who tells the owner to forget a publisher is a loop of it that finds it dead. -/
theorem entries_of_forgotten (inside : .forgotten p ∈ s.entries a) :
    (s.publisher p).dead = true ∧ (s.publisher p).forgotten = false ∧
      ∃ t l, a = .move t ∧ s.loop? t = some l ∧ l.publisher = p ∧
        s.entries a = [.began t l.handle .close, .forgotten p] := by
  obtain ⟨t, l, rfl, here, same⟩ := loop_of_entries inside
  rw [same] at inside ⊢
  rcases closingCause s t l with ⟨-, -, one⟩ | ⟨dead, -, one⟩ | ⟨-, -, neither⟩
  · rw [one] at inside
    cases List.mem_singleton.mp inside
  · rw [one] at inside ⊢
    cases known : (s.publisher l.publisher).forgotten with
    | true => simp [farewells, known] at inside
    | false =>
      have tells : s.farewells l.publisher = [.forgotten l.publisher] := by simp [farewells, known]
      rw [tells] at inside ⊢
      obtain rfl : p = l.publisher := by simpa using inside
      exact ⟨dead, known, t, l, rfl, here, rfl, rfl⟩
  · cases (neither _ inside).2

/-- Who closes a channel is a loop that is refused, or one of a dead publisher. -/
theorem entries_of_close {h : Nat} (inside : .began t h .close ∈ s.entries a) :
    a = .move t ∧ ∃ l, s.loop? t = some l ∧
      (l.stage = .fresh ∧ (s.publisher l.publisher).attached = true ∨
        (s.publisher l.publisher).dead = true ∧
          s.entries a = .began t h .close :: s.farewells l.publisher) := by
  obtain ⟨k, l, rfl, here, same⟩ := loop_of_entries inside
  rw [same] at inside ⊢
  rcases closingCause s k l with ⟨fresh, attached, one⟩ | ⟨dead, -, one⟩ | ⟨-, -, neither⟩
  · rw [one] at inside
    cases List.mem_singleton.mp inside
    exact ⟨rfl, l, here, .inl ⟨fresh, attached⟩⟩
  · rw [one] at inside ⊢
    rcases List.mem_cons.mp inside with first | later
    · cases first
      exact ⟨rfl, l, here, .inr ⟨dead, rfl⟩⟩
    · have unclosed := List.filter_eq_nil_iff.mp (filter_isClose_farewells s l.publisher) _ later
      exact absurd rfl unclosed
  · cases (neither _ inside).1

/-! ## Order in the journal -/

/-- An event comes before another one if it did so far and does so in what is added. -/
theorem Precedes.append {y z : Event} (precedes : Precedes y z es)
    (new : ∀ later earlier, fs = later ++ z :: earlier → y ∈ earlier ∨ y ∈ es) :
    Precedes y z (fs ++ es) := by
  intro later earlier split
  rcases List.append_eq_append_iff.mp split with ⟨more, rfl, rest⟩ | ⟨more, rfl, rest⟩
  · exact precedes more earlier rest
  · cases more with
    | nil => exact precedes [] earlier rest.symm
    | cons first more =>
      cases rest
      exact List.mem_append.mpr (new later more rfl)

/-- Over every run the first cancellation alone is told to be the first. -/
theorem CancelledOnce.perform (acts : List Act) (p : Nat) :
    CancelledOnce (Service.fresh.perform acts) p := by
  induction acts using List.reverseRecOn with
  | nil => exact .fresh p
  | append_singleton acts a ih =>
    rw [perform_concat]
    exact (sound_perform acts).keeps_act (P := fun s => CancelledOnce s p)
      (fun _ h once => once.step h) a ih

/-- Somebody was told to be the first to cancel a publisher that is dead. -/
theorem CancelledOnce.cancelled_of_dead (once : CancelledOnce s p)
    (dead : (s.publisher p).dead = true) : .cancelled p true ∈ s.journal := by
  rcases once with ⟨live, -⟩ | ⟨-, k, answers⟩
  · rw [live] at dead
    cases dead
  · have first : true ∈ s.cancellations p := by rw [answers]; exact List.mem_cons_self
    rw [cancellations, chronicle, List.mem_filterMap] at first
    obtain ⟨e, inside, reads⟩ := first
    cases e with
    | cancelled q yes =>
      simp only [Event.cancellationOf, Option.ite_none_right_eq_some, Option.some.injEq] at reads
      obtain ⟨rfl, rfl⟩ := reads
      exact List.mem_reverse.mp inside
    | _ => cases reads

/-- The owner is told of a publisher after the first cancellation was answered. -/
theorem cancelled_precedes_forgotten (acts : List Act) (p : Nat) :
    Precedes (.cancelled p true) (.forgotten p) (fresh.perform acts).journal := by
  induction acts using List.reverseRecOn with
  | nil => exact fun later earlier split => by cases later <;> cases split
  | append_singleton acts a ih =>
    obtain ⟨added, longer, own⟩ := journal_act (sound_perform acts) a
    rw [perform_concat, longer]
    refine ih.append fun later earlier split => .inr ?_
    have told : .forgotten p ∈ (fresh.perform acts).entries a := by
      rw [← own, split]
      exact List.mem_filter.mpr ⟨by simp, rfl⟩
    exact (CancelledOnce.perform acts p).cancelled_of_dead (entries_of_forgotten told).1

/-! ## Once -/

/-- The owner was told at most once to forget a publisher: a dead one, and the publisher knows of it. -/
structure ToldOnce (s : Service) (p : Nat) : Prop where
  flag : (s.publisher p).forgotten = true ↔ p ∈ s.forgettings
  dead : p ∈ s.forgettings → (s.publisher p).dead = true
  once : s.forgettings.count p ≤ 1

namespace ToldOnce

/-- In a new service nobody is forgotten. -/
theorem fresh (p : Nat) : ToldOnce fresh p := ⟨⟨nofun, nofun⟩, nofun, Nat.zero_le _⟩

/-- Every act keeps it so that the owner is told once. -/
theorem act (toldOnce : ToldOnce s p) (sound : Sound s) (a : Act) : ToldOnce (s.act a) p := by
  have grows := (sound.act a).2
  have flag := (proceeds_act sound a).forgotten p
  have longer := forgettings_act sound a
  by_cases told : .forgotten p ∈ s.entries a
  · -- nobody told the owner before
    obtain ⟨dead, unknown, t, l, -, -, -, entries⟩ := entries_of_forgotten told
    have first : p ∉ s.forgettings := fun before => by
      rw [toldOnce.flag.mpr before] at unknown
      cases unknown
    rw [entries, show List.filterMap Event.forgets? [.began t l.handle .close, .forgotten p] = [p] from rfl,
      List.reverse_singleton] at longer
    refine ⟨?_, fun _ => (grows.dead p dead).1, ?_⟩
    · rw [flag, longer]
      exact ⟨fun _ => by simp, fun _ => .inr told⟩
    · rw [longer, List.count_append, List.count_eq_zero.mpr first]
      simp
  · have unsaid : p ∉ ((s.entries a).filterMap Event.forgets?).reverse := by
      rw [List.mem_reverse, List.mem_filterMap]
      rintro ⟨e, inside, tells⟩
      cases e <;> cases tells
      exact told inside
    have same : p ∈ (s.act a).forgettings ↔ p ∈ s.forgettings := by
      rw [longer, List.mem_append, or_iff_left unsaid]
    refine ⟨?_, fun inside => (grows.dead p (toldOnce.dead (same.mp inside))).1, ?_⟩
    · rw [flag, or_iff_left told, same, toldOnce.flag]
    · rw [longer, List.count_append, List.count_eq_zero.mpr unsaid]
      exact toldOnce.once

/-- So does every run. -/
theorem perform (acts : List Act) (p : Nat) : ToldOnce (Service.fresh.perform acts) p := by
  induction acts using List.reverseRecOn with
  | nil => exact fresh p
  | append_singleton acts a ih =>
    rw [perform_concat]
    exact ih.act (sound_perform acts) a

end ToldOnce

/-! ## Forgotten before it closes -/

/-- A loop that begins and finds another one attached is refused. -/
theorem mem_refusedLoops_of_attached {acts : List Act} (here : (fresh.perform acts).loop? t = some l)
    (fresh : l.stage = .fresh)
    (attached : ((Service.fresh.perform acts).publisher l.publisher).attached = true) :
    t ∈ refusedLoops l.publisher (acts ++ [.move t]) := by
  have begins := begins?_of_fresh (a := .move t) rfl here fresh rfl
  rw [refusedLoops, gather_concat, judged?, attached, begins]
  simp

/-- A loop that closes its channel was refused, or told the owner before, unless somebody did. -/
theorem forgotten_precedes_close (acts : List Act) (t h : Nat)
    (accepted : ∀ l, (fresh.perform acts).loop? t = some l → l.publisher = p ∧ t ∉ refusedLoops p acts) :
    Precedes (.forgotten p) (.began t h .close) (fresh.perform acts).journal := by
  induction acts using List.reverseRecOn with
  | nil => exact fun later earlier split => by cases later <;> cases split
  | append_singleton acts a ih =>
    have sound := sound_perform acts
    obtain ⟨added, longer, own⟩ := journal_act sound a
    rw [perform_concat] at accepted ⊢
    have before : ∀ l, (fresh.perform acts).loop? t = some l →
        l.publisher = p ∧ t ∉ refusedLoops p (acts ++ [a]) := fun l here => by
      obtain ⟨l', there, same, -⟩ := (sound.act a).2.loop (loop?_eq_some.mp here)
      rw [← same]
      exact accepted l' (loop?_eq_some.mpr there)
    have earlier := ih fun l here => ⟨(before l here).1, fun inside => (before l here).2 (by
      rw [refusedLoops, gather_concat]
      exact List.mem_append_left _ inside)⟩
    rw [longer]
    refine earlier.append fun later earlier split => ?_
    have entries : (fresh.perform acts).entries a =
        later.filter Event.isProceeding ++ .began t h .close :: earlier.filter Event.isProceeding := by
      rw [← own, split, List.filter_append]
      rfl
    obtain ⟨rfl, l, here, refused | ⟨-, closes⟩⟩ :=
      entries_of_close (h := h) (t := t) (a := a) (by rw [entries]; simp)
    · obtain ⟨rfl, unrefused⟩ := before l here
      exact absurd (mem_refusedLoops_of_attached here refused.1 refused.2) unrefused
    · obtain ⟨rfl, -⟩ := before l here
      cases known : ((fresh.perform acts).publisher l.publisher).forgotten with
      | true => exact .inr (mem_forgettings.mp ((ToldOnce.perform acts l.publisher).flag.mp known))
      | false =>
        -- the close comes first in the list of entries, so the owner was told earlier
        rw [entries, farewells, known] at closes
        refine .inl (List.mem_of_mem_filter (p := Event.isProceeding) ?_)
        cases first : later.filter Event.isProceeding with
        | nil =>
          rw [first] at closes
          rw [(List.cons.inj closes).2]
          exact List.mem_cons_self
        | cons e more =>
          rw [first] at closes
          have rest := (List.cons.inj closes).2
          cases more <;> simp at rest

/-! ## One close -/

/-- A loop that is ready closes its channel only if its publisher is dead. -/
theorem hasClosed_of_live {notice : Option Nat} (sound : Sound s) (here : s.loop? t = some l)
    (idle : l.stage = .idle notice) (live : (s.publisher l.publisher).dead = false)
    (moves : s.move t = some s') (there : s'.loop? t = some x) : x.stage.hasClosed = false := by
  have inBounds : l.publisher < s.publishers.size :=
    sound.bounded.task t (.loop l) (loop?_eq_some.mp here)
  have lands : ∀ {stage : LoopStage}, stage.hasClosed = false →
      s'.loop? t = some { l with stage } → x.stage.hasClosed = false := by
    intro stage unclosed own
    rw [there] at own
    cases own
    exact unclosed
  rw [move_of_idle here idle, moveIdle] at moves
  simp only [live, Bool.false_eq_true, if_false] at moves
  split at moves
  · cases moves
    exact lands rfl (moves_fail here idle inBounds live).1.own
  · cases moves
    exact lands rfl ((Calm.note s _ _).relocates_endLoop here (.closed none)).1.own
  · cases moves
    exact lands rfl ((Calm.note s _ _).relocates_endLoop here (.closed none)).1.own
  · next waits =>
    obtain ⟨⟨u, rest⟩, next, rfl⟩ := Option.map_eq_some_iff.mp moves
    obtain ⟨stage, stays | opens, relocates, -⟩ := moves_takeUp sound here idle live waits next
    · exact lands (by rw [stays]; rfl) relocates.own
    · exact lands (by rw [opens]; rfl) relocates.own

/-- A loop that begins when its publisher is dead closes its channel. -/
theorem LoopMove.hasClosed_of_fresh (move : LoopMove s t l s' stage) (fresh : l.stage = .fresh)
    (dead : (s.publisher l.publisher).dead = true) : stage.hasClosed = true := by
  cases move with
  | refuse | retire => rfl
  | accept _ _ live =>
    rw [live] at dead
    cases dead
  | fail idle | begin idle =>
    rw [idle] at fresh
    cases fresh
  | advance leads =>
    rw [fresh] at leads
    cases leads

/-- A loop that nothing refuses and whose publisher is live does not close its channel. -/
theorem LoopMove.not_hasClosed (sound : Sound s) (here : s.loop? t = some l)
    (relocates : Relocates s t l (s.act (.move t)) stage)
    (move : LoopMove s t l (s.act (.move t)) stage)
    (vacant : l.stage = .fresh → (s.publisher l.publisher).attached = false)
    (live : (l.stage = .fresh ∨ ∃ n, l.stage = .idle n) → (s.publisher l.publisher).dead = false)
    (unclosed : l.stage.hasClosed = false) : stage.hasClosed = false := by
  cases move with
  | refuse fresh taken =>
    rw [vacant fresh] at taken
    cases taken
  | retire fresh _ dead =>
    rw [live (.inl fresh)] at dead
    cases dead
  | accept _ _ _ begins => rcases begins with rfl | rfl <;> rfl
  | fail | begin => rfl
  | advance leads =>
    generalize stood : l.stage = place at leads
    cases leads with
    | close | leave =>
      rw [stood] at unclosed
      cases unclosed
    | confirm | serve | end_ | skip | publish | answer => rfl
    | stop =>
      cases moves : s.move t with
      | none =>
        have there := relocates.own
        rw [act_move_of_none moves, here] at there
        rw [Option.some.inj there] at stood
        cases stood
      | some r =>
        have there := relocates.own
        rw [act_move_of_some moves] at there
        exact hasClosed_of_live sound here stood (live (.inr ⟨_, stood⟩)) moves there

/-- A loop begins to close its channel with the move that leads it there, and with no other. -/
theorem LoopMove.closes (sound : Sound s) (here : s.loop? t = some l)
    (relocates : Relocates s t l (s.act (.move t)) stage)
    (move : LoopMove s t l (s.act (.move t)) stage) :
    (s.loopEntries t l).filter Event.isClose =
      if l.stage.hasClosed = false ∧ stage.hasClosed = true then [.began t l.handle .close] else [] := by
  cases closingCause s t l with
  | refused fresh attached one =>
    cases move with
    | refuse =>
      rw [one, fresh]
      rfl
    | retire _ vacant | accept _ vacant =>
      rw [attached_of_vacant vacant] at attached
      cases attached
    | fail idle | begin idle =>
      rw [idle] at fresh
      cases fresh
    | advance leads =>
      rw [fresh] at leads
      cases leads
  | retired dead place one =>
    -- a dead publisher's loop is led to its close from both places where it may stand
    obtain ⟨closes, unclosed⟩ : stage.hasClosed = true ∧ l.stage.hasClosed = false := by
      rcases place with ⟨fresh, -⟩ | ⟨n, idle⟩
      · exact ⟨move.hasClosed_of_fresh fresh dead, by rw [fresh]; rfl⟩
      · have there := stops_of_dead here idle dead
        rw [relocates.own] at there
        cases there
        exact ⟨rfl, by rw [idle]; rfl⟩
    rw [one, List.filter_cons_of_pos rfl, filter_isClose_farewells, if_pos ⟨unclosed, closes⟩]
  | stays vacant live neither =>
    have none : (s.loopEntries t l).filter Event.isClose = [] :=
      List.filter_eq_nil_iff.mpr fun e inside => by rw [(neither e inside).1]; exact Bool.false_ne_true
    rw [none, if_neg]
    rintro ⟨unclosed, closes⟩
    rw [move.not_hasClosed sound here relocates vacant live unclosed] at closes
    cases closes

/-- What closes its channel goes on to its end. -/
theorem LoopMove.hasClosed (move : LoopMove s t l s' stage) (closed : l.stage.hasClosed = true) :
    stage.hasClosed = true := by
  cases move with
  | refuse | retire => rfl
  | accept fresh =>
    rw [fresh] at closed
    cases closed
  | fail idle | begin idle =>
    rw [idle] at closed
    cases closed
  | advance leads =>
    generalize l.stage = place at leads closed
    cases leads with
    | close => rfl
    | @leave f r => cases f <;> rfl
    | confirm | serve | stop | end_ | skip | publish | answer => cases closed

/-- Loops that have to wait are neither at their beginning nor ready. -/
theorem filter_isClose_entries (here : s.loop? t = some l) :
    (s.entries (.move t)).filter Event.isClose = (s.loopEntries t l).filter Event.isClose := by
  simp only [entries, here]
  split
  · next waits =>
    have none : (s.loopEntries t l).filter Event.isClose = [] := by
      cases closingCause s t l with
      | refused fresh =>
        rw [isHeldUp, fresh] at waits
        cases waits
      | retired _ place =>
        rcases place with ⟨fresh, -⟩ | ⟨n, idle⟩
        · rw [isHeldUp, fresh] at waits
          cases waits
        · rw [isHeldUp, idle] at waits
          cases waits
      | stays _ _ neither =>
        exact List.filter_eq_nil_iff.mpr fun e inside => by
          rw [(neither e inside).1]; exact Bool.false_ne_true
    exact none.symm
  · rfl

/-- A move begins a close just if it leads to a place after one. -/
theorem LoopMove.closesBy (sound : Sound s) (here : s.loop? t = some l)
    (relocates : Relocates s t l (s.act (.move t)) stage)
    (move : LoopMove s t l (s.act (.move t)) stage) :
    (s.act (.move t)).closesBy t =
      (if l.stage.hasClosed = false ∧ stage.hasClosed = true then [.began t l.handle .close] else []) ++
        s.closesBy t := by
  rw [Service.closesBy, begun_act sound, List.filter_append, List.filter_filter]
  simp only [Bool.and_comm (Event.isClose _)]
  rw [← List.filter_filter, filter_isClose_entries here, move.closes sound here relocates]
  split
  · rw [List.filter_cons_of_pos (by simp [Event.begunBy?])]
    rfl
  · rfl

/-- The closes that a loop began, as its place tells: there is one, or there is none. -/
def ClosesAsPlaced (s : Service) : Prop :=
  ∀ t l, s.loop? t = some l → l.stage ≠ .dropped →
    s.closesBy t = if l.stage.hasClosed = true then [.began t l.handle .close] else []

/-- Every act keeps it so that the place of a loop tells whether it has begun to close. -/
theorem ClosesAsPlaced.act {ts : List Nat} (asPlaced : ClosesAsPlaced s) (sound : Sound s)
    (closeOnce : RefusedCloseOnce (s.act a) ts) : ClosesAsPlaced (s.act a) := by
  intro k x there undropped
  rcases sound.act_cases a with ⟨outer, -⟩ | ⟨t, l, stage, rfl, here, relocates, move⟩
  · by_cases fresh : x.stage = .fresh
    · have none := closeOnce.unbegun k fun y own => by
        rw [there] at own
        cases own
        exact fresh
      rw [closesBy, none, fresh]
      rfl
    · have before := outer.before (q := (· = x.stage)) there rfl (Ne.symm fresh) (Ne.symm undropped)
      have same : (s.act a).begun k = s.begun k := outer.keeps.begun_of_ne nofun
      rw [closesBy, same]
      exact asPlaced k x before undropped
  · rcases relocates.before there with ⟨rfl, rfl⟩ | ⟨apart, before⟩
    · have alive : l.stage ≠ .dropped := fun dropped => by
        have alive := move.alive
        simp [Task.isOver, dropped] at alive
      rw [move.closesBy sound here relocates, asPlaced t l here alive]
      cases closed : l.stage.hasClosed with
      | true => simp [move.hasClosed closed]
      | false => simp
    · rw [closesBy, move.begun_of_ne apart]
      exact asPlaced k x before undropped

/-- So does every run. -/
theorem closesAsPlaced_perform (acts : List Act) : ClosesAsPlaced (fresh.perform acts) := by
  induction acts using List.reverseRecOn with
  | nil => exact fun t l here => by cases here
  | append_singleton acts a ih =>
    have closeOnce := RefusedCloseOnce.perform (acts ++ [a]) 0
    rw [perform_concat] at closeOnce ⊢
    exact ih.act (sound_perform acts) closeOnce

/-! ## Loops of a dead publisher -/

/-- A loop that began when its publisher was dead begins nothing but one close. -/
structure OnlyCloses (s : Service) (p t : Nat) (l : Loop) : Prop where
  here : s.loop? t = some l
  own : l.publisher = p
  once : s.begun t = [.began t l.handle .close]
  place : l.stage.hasClosed = true ∨ l.stage = .dropped

/-- A loop that closes its channel does nothing else any more. -/
theorem loopEntries_of_hasClosed (closed : l.stage.hasClosed = true) : s.loopEntries t l = [] := by
  cases place : l.stage with
  | closing | finished => simp only [loopEntries, place]
  | fresh | confirming | idle | publishing | dropped =>
    rw [place] at closed
    cases closed

/-- A loop that came to a dead publisher does nothing but close, whatever happens. -/
theorem OnlyCloses.act (onlyCloses : OnlyCloses s p t l) (sound : Sound s) (a : Act) :
    ∃ l, OnlyCloses (s.act a) p t l := by
  rcases sound.act_cases a with ⟨outer, -⟩ | ⟨k, x, stage, rfl, moved, relocates, move⟩
  · have same : (s.act a).begun t = s.begun t := outer.keeps.begun_of_ne nofun
    have once := same.trans onlyCloses.once
    rcases outer.loop (sound.act a).2 onlyCloses.here with there | ⟨-, there⟩
    · exact ⟨l, there, onlyCloses.own, once, onlyCloses.place⟩
    · exact ⟨_, there, onlyCloses.own, once, .inr rfl⟩
  · rcases relocates.after moved onlyCloses.here with ⟨rfl, rfl⟩ | ⟨apart, there⟩
    · rcases onlyCloses.place with closed | dropped
      · refine ⟨_, relocates.own, onlyCloses.own, ?_, .inl (move.hasClosed closed)⟩
        rw [begun_act sound, onlyCloses.once]
        simp only [entries, moved, loopEntries_of_hasClosed closed, ite_self]
        rfl
      · have alive := move.alive
        simp [Task.isOver, dropped] at alive
    · exact ⟨l, there, onlyCloses.own, (move.begun_of_ne apart).trans onlyCloses.once, onlyCloses.place⟩

/-- A loop that begins when its publisher is dead closes its channel. -/
theorem onlyCloses_of_fresh (sound : Sound s) (here : s.loop? t = some l) (fresh : l.stage = .fresh)
    (dead : (s.publisher l.publisher).dead = true) (unbegun : s.begun t = []) :
    ∃ x, OnlyCloses (s.act (.move t)) l.publisher t x := by
  rcases sound.act_cases (.move t) with ⟨-, unmoved⟩ | ⟨k, x, stage, moved, there, relocates, move⟩
  · exact absurd fresh (unmoved t l rfl here)
  · cases moved
    rw [here] at there
    cases there
    have free : s.isHeldUp l = false := by rw [isHeldUp, fresh]; rfl
    refine ⟨_, relocates.own, rfl, ?_, .inl ?_⟩
    · rw [begun_act sound, unbegun]
      simp only [entries, here, free, Bool.false_eq_true, if_false, loopEntries_of_fresh fresh, dead,
        if_true, farewells]
      cases (s.publisher l.publisher).attached <;> cases (s.publisher l.publisher).forgotten <;>
        simp [Event.begunBy?]
    · exact move.hasClosed_of_fresh fresh dead

/-- The same over every run. -/
theorem onlyCloses_perform (acts : List Act) (p : Nat) :
    ∀ t ∈ belated p acts, ∃ l, OnlyCloses (fresh.perform acts) p t l := by
  induction acts using List.reverseRecOn with
  | nil => exact fun t inside => absurd inside List.not_mem_nil
  | append_singleton acts a ih =>
    intro t inside
    have sound := sound_perform acts
    rw [belated, gather_concat, List.mem_append] at inside
    rw [perform_concat]
    rcases inside with before | new
    · obtain ⟨l, onlyCloses⟩ := ih t before
      exact onlyCloses.act sound a
    · rw [Option.mem_toList, belated?, Option.ite_none_right_eq_some] at new
      obtain ⟨dead, begins⟩ := new
      obtain ⟨rfl, l, here, fresh, rfl⟩ := begins?_eq_some.mp begins
      have closeOnce := RefusedCloseOnce.perform acts 0
      refine onlyCloses_of_fresh sound here fresh dead (closeOnce.unbegun t fun x own => ?_)
      rw [here] at own
      cases own
      exact fresh

/-! ## In every state -/

/-- The owner is told at most once to forget a publisher, after the first cancellation was answered, and by
one of its own loops. -/
structure Forgets (s : Service) (p : Nat) : Prop where
  once : s.forgettings.count p ≤ 1
  cancelled : Precedes (.cancelled p true) (.forgotten p) s.journal
  own : ∀ a, p ∉ s.forgettings → p ∈ (s.act a).forgettings →
    ∃ t l, a = .move t ∧ s.loop? t = some l ∧ l.publisher = p

/-- How a loop takes its leave. -/
structure TakesLeave (s : Service) (refused late : List Nat) (t : Nat) (l : Loop) : Prop where
  /-- A loop that was cancelled or refused has closed its own channel once. -/
  closed : ∀ r, s.valueOf t = some (.detached r) → r = .cancelled ∨ r = .alreadyAttached →
    s.closesBy t = [.began t l.handle .close]
  /-- By then the owner was told once. -/
  told : s.valueOf t = some (.detached .cancelled) → s.forgettings.count l.publisher = 1
  /-- Unless it is refused, a loop closes a channel after the owner was told. -/
  after : t ∉ refused → ∀ h, Precedes (.forgotten l.publisher) (.began t h .close) s.journal
  /-- A loop that begins when its publisher is dead does nothing else on a channel. -/
  late : t ∈ late → s.begun t = [.began t l.handle .close]

/-- The owner is told once at most, after the cancellation and by a loop of that publisher. -/
theorem forgets_perform (acts : List Act) (p : Nat) : Forgets (fresh.perform acts) p := by
  refine ⟨(ToldOnce.perform acts p).once, cancelled_precedes_forgotten acts p, fun a untold told => ?_⟩
  rw [forgettings_act (sound_perform acts), List.mem_append, or_iff_right untold, List.mem_reverse,
    List.mem_filterMap] at told
  obtain ⟨e, inside, tells⟩ := told
  cases e <;> cases tells
  obtain ⟨-, -, t, l, moved, here, own, -⟩ := entries_of_forgotten inside
  exact ⟨t, l, moved, here, own⟩

/-- A loop that has returned stands at its end. -/
theorem stage_of_value {r : Detach} (here : s.loop? t = some l)
    (value : s.valueOf t = some (.detached r)) : l.stage = .finished r := by
  rw [valueOf_of_loop? here, Task.value?] at value
  cases place : l.stage <;> simp_all

/-- What a loop has begun when it returns. -/
theorem takesLeave_perform (acts : List Act) (here : (fresh.perform acts).loop? t = some l) :
    TakesLeave (fresh.perform acts) (refusedLoops l.publisher acts) (belated l.publisher acts) t l := by
  have closed : ∀ r, (fresh.perform acts).valueOf t = some (.detached r) →
      r = .cancelled ∨ r = .alreadyAttached →
      (fresh.perform acts).closesBy t = [.began t l.handle .close] := by
    intro r value reason
    have ended := stage_of_value here value
    have asPlaced := closesAsPlaced_perform acts t l here (by rw [ended]; exact nofun)
    rw [asPlaced, ended]
    rcases reason with rfl | rfl <;> rfl
  have after : t ∉ refusedLoops l.publisher acts → ∀ h,
      Precedes (.forgotten l.publisher) (.began t h .close) (fresh.perform acts).journal := by
    intro accepted h
    refine forgotten_precedes_close acts t h fun x there => ?_
    rw [here] at there
    cases there
    exact ⟨rfl, accepted⟩
  refine ⟨closed, fun value => ?_, after, fun late => ?_⟩
  · -- it closed its channel, and before that the owner was told
    have accepted : t ∉ refusedLoops l.publisher acts := fun refused => by
      cases ((Judged.perform acts l.publisher false).value here rfl value).mpr refused
    have close : .began t l.handle .close ∈ (fresh.perform acts).journal := by
      have one := closed _ value (.inl rfl)
      have inside : .began t l.handle .close ∈ (fresh.perform acts).closesBy t := by
        rw [one]
        exact List.mem_cons_self
      exact List.mem_of_mem_filter (List.mem_of_mem_filter inside)
    obtain ⟨later, earlier, split⟩ := List.append_of_mem close
    have told := after accepted l.handle later earlier split
    have inside : l.publisher ∈ (fresh.perform acts).forgettings :=
      mem_forgettings.mpr (by rw [split]; exact List.mem_append_right _ (List.mem_cons_of_mem _ told))
    exact Nat.le_antisymm (ToldOnce.perform acts l.publisher).once (List.count_pos_iff.mpr inside)
  · obtain ⟨x, onlyCloses⟩ := onlyCloses_perform acts l.publisher t late
    have same := onlyCloses.here
    rw [here] at same
    cases same
    exact onlyCloses.once

/-- For everything that can happen, in every state, also in the midst of a poll: the owner is told at most
once to forget a publisher, by a loop of that publisher and after its cancellation, and exactly once when
a loop has returned because of it. A loop that returns cancelled or refused has begun to close its own
channel once, and in the first case after the owner was told. A loop that begins when its publisher is dead
does nothing else on its channel, and the status of a dead publisher stays what it was. -/
theorem forgotten_exactly_once (acts : List Act) (p : Nat) :
    let s := fresh.perform acts
    Forgets s p ∧
      (∀ t l, s.loop? t = some l → l.publisher = p →
        TakesLeave s (refusedLoops p acts) (belated p acts) t l) ∧
      ((s.publisher p).dead = true →
        ∀ later, ((s.perform later).publisher p).status = (s.publisher p).status) := by
  intro s
  refine ⟨forgets_perform acts p, fun t l here own => ?_, fun dead later => ?_⟩
  · subst own
    exact takesLeave_perform acts here
  · exact (((sound_perform acts).perform later).2.dead p dead).2

/-- A publisher is cancelled while a loop serves it, and another loop begins after that one returned. -/
def posthumous : List Act :=
  [.command (.publisher "" "key" {} none) rfl, .command (.openChannel 2) rfl,
    .command (.openChannel 2) rfl, .command (.serve 0 0 true) rfl, .move 0, .command (.cancel 0) rfl,
    .move 0, .move 0, .move 0, .command (.serve 0 1 true) rfl, .move 1, .move 1, .move 1]

/-- A loop that came to a publisher which another one had retired closes, and tells nobody. -/
theorem second_loop_of_dead_publisher :
    (fresh.perform posthumous).valueOf 1 = some (.detached .cancelled) ∧
      (fresh.perform posthumous).forgettings.count 0 = 1 ∧
      (fresh.perform posthumous).closesBy 0 = [.began 0 0 .close] ∧
      (fresh.perform posthumous).begun 1 = [.began 1 1 .close] ∧
      ∀ later, (((fresh.perform posthumous).perform later).publisher 0).status =
        ((fresh.perform posthumous).publisher 0).status := by
  obtain ⟨-, leaves, lasting⟩ := forgotten_exactly_once posthumous 0
  have first := leaves 0 { publisher := 0, handle := 0, stage := .finished .cancelled } rfl rfl
  have second := leaves 1 { publisher := 0, handle := 1, stage := .finished .cancelled } rfl rfl
  have cancelled : (fresh.perform posthumous).valueOf 0 = some (.detached .cancelled) := by
    decide +kernel
  have late : 1 ∈ belated 0 posthumous := by decide +kernel
  have dead : ((fresh.perform posthumous).publisher 0).dead = true := by decide +kernel
  exact ⟨by decide +kernel, first.told cancelled, first.closed .cancelled cancelled (.inl rfl),
    second.late late, lasting dead⟩

end Relay.Service
