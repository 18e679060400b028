import Relay.Proofs.Endings
import Relay.Proofs.Listening
import Relay.Proofs.Setups

/-!
# Loops that return, and channels that were closed before

A loop that returns the close of its channel returns the reason for which it was closed first: `FirstClosed`
names the act that did it. At that moment the status of the publisher says the same, and the loop has closed
nothing itself. A loop that is accepted with a channel that has closed already is a `Latecomer` until it
returns: it opens no request, and its next poll returns the reason, unless it has to wait for confirm mode.
-/

namespace Relay.Service

open Broker (Channel ChannelState CloseReason Exception)
open Publisher (Detach)

variable {s s' : Service} {t : Nat} {l x : Loop} {stage : LoopStage} {acts : List Act} {a : Act}
  {reason : CloseReason}

/-! ## Why a channel was closed first -/

/-- What closes an open channel, with the reason that it gives. -/
inductive ClosesFor (b : Broker) (c : Nat) : Deed → CloseReason → Prop
  /-- A graceful close. -/
  | close : ClosesFor b c (.close c) none
  | terminate (reason : CloseReason) : ClosesFor b c (.terminate c reason) reason
  | disconnect (error : Exception) (held : b.isHeld c = true) :
      ClosesFor b c (.disconnect error) (some error)
  /-- A message to an exchange that nobody declared. -/
  | publish (m : Sending) (own : m.channel = c) (free : b.rejections = [])
      (unknown : b.hasExchange m.exchange = false) :
      ClosesFor b c (.publish m) (some ⟨404, "no exchange '" ++ m.exchange ++ "' in vhost '/'"⟩)

/-- A channel was open until an act closed it for a reason. -/
def FirstClosed (acts : List Act) (c : Nat) (reason : CloseReason) : Prop :=
  ∃ first a rest d, acts = first ++ a :: rest ∧ (fresh.perform first).deed? a = some d ∧
    ClosesFor (fresh.perform first).broker c d reason ∧
    (fresh.perform first).broker.isLive c = true ∧
    (fresh.perform (first ++ [a])).broker.isLive c = false

/-- What closes a channel does so for the reason that is told. -/
theorem closesFor_of_closing? {b : Broker} {c : Nat} {d : Deed}
    (closes : d.closing? b c = some reason) : ClosesFor b c d reason := by
  cases d with
  | close e =>
    obtain ⟨rfl, given⟩ := Option.ite_none_right_eq_some.mp closes
    cases given
    exact .close
  | terminate e r =>
    obtain ⟨rfl, given⟩ := Option.ite_none_right_eq_some.mp closes
    cases given
    exact .terminate _
  | disconnect e =>
    obtain ⟨held, given⟩ := Option.ite_none_right_eq_some.mp closes
    cases given
    exact .disconnect e held
  | publish m =>
    obtain ⟨⟨own, free, unknown⟩, given⟩ := Option.ite_none_right_eq_some.mp closes
    cases given
    exact .publish m own (List.isEmpty_iff.mp free) unknown
  | declare | openLast | restore | rejectNext | nackNext | failConfirmSelect | listen | select | register
  | hold | letGo | addSink | receive | dropSink => cases closes

/-- The first of what is read off acts is read off an act before which there was nothing to read. -/
theorem first_of_gather {α : Type} {read : Service → Act → Option α} {y : α}
    (head : (gather read s acts).head? = some y) :
    ∃ first a rest, acts = first ++ a :: rest ∧ gather read s first = [] ∧
      read (s.perform first) a = some y := by
  induction acts generalizing s with
  | nil => cases head
  | cons a acts ih =>
    rw [gather] at head
    cases reads : read s a with
    | some z =>
      rw [reads] at head
      cases head
      exact ⟨[], a, acts, rfl, rfl, reads⟩
    | none =>
      rw [reads] at head
      obtain ⟨first, b, rest, rfl, nothing, found⟩ := ih head
      exact ⟨a :: first, b, rest, rfl, by rw [gather, reads, nothing]; rfl, found⟩

/-- A channel that has closed was closed by an act first. -/
theorem firstClosed_of_state {c : Nat} {ch : Channel}
    (here : (fresh.perform acts).broker.channels[c]? = some ch) (closed : ch.state = .closed reason) :
    FirstClosed acts c reason := by
  have state := (state_perform acts c).1 ch here
  rw [closed, stateLeft] at state
  have head : (closings acts c).head? = some reason := by
    cases found : (closings acts c).head? with
    | none => rw [found] at state; cases state
    | some r => rw [found] at state; cases state; rfl
  obtain ⟨first, a, rest, split, nothing, found⟩ := first_of_gather head
  obtain ⟨d, asks, closes⟩ := Option.bind_eq_some_iff.mp found
  refine ⟨first, a, rest, d, split, asks, closesFor_of_closing? closes, ?_, ?_⟩
  · cases before : (fresh.perform first).broker.channels[c]? with
    | none =>
      have held := fun e => held_of_deed (c := e) (hearing_perform first) (manned_perform first) asks
      rw [closing?_of_absent before held] at closes
      cases closes
    | some y => exact (isLive_iff_nil first before).mpr nothing
  · refine Bool.eq_false_iff.mpr fun live => ?_
    obtain ⟨y, after, -⟩ := Broker.isLive_iff.mp live
    have none := (isLive_iff_nil (first ++ [a]) after).mp live
    rw [closings_concat, asks, Option.bind_some, closes] at none
    simp at none

/-! ## The status at the return -/

/-- A loop returned with an act, and the status of its publisher then told the reason. -/
def ReturnsWithStatus (acts : List Act) (t p : Nat) (reason : CloseReason) : Prop :=
  ∃ first rest, acts = first ++ .move t :: rest ∧ (fresh.perform first).valueOf t = none ∧
    (fresh.perform (first ++ [.move t])).valueOf t = some (.detached (.closed reason)) ∧
    ((fresh.perform (first ++ [.move t])).publisher p).status = reason.elim .clear .failed

/-- What happens later does not change what a loop returned with. -/
theorem ReturnsWithStatus.append {p : Nat} (returns : ReturnsWithStatus acts t p reason)
    (more : List Act) : ReturnsWithStatus (acts ++ more) t p reason := by
  obtain ⟨first, rest, rfl, told⟩ := returns
  exact ⟨first, rest ++ more, by rw [List.append_assoc, List.cons_append], told⟩

/-- The status of a publisher whose loop is ready is clear. -/
theorem status_of_idle {notice : Option Nat} (acts : List Act)
    (here : (fresh.perform acts).loop? t = some l) (idle : l.stage = .idle notice) :
    ((fresh.perform acts).publisher l.publisher).status = .clear := by
  have attested := Attested.perform acts l.publisher
  have last := attested.serving t l here rfl (by rw [idle]; rfl)
  rw [attested.status, last, statusAfter_of_loop here, idle]
  rfl

/-- A loop that returned the close of its channel set the status of its publisher as it returned. -/
theorem status_of_returned (acts : List Act) (here : (fresh.perform acts).loop? t = some l)
    (returned : l.stage = .finished (.closed reason)) :
    ReturnsWithStatus acts t l.publisher reason := by
  induction acts using List.reverseRecOn generalizing l with
  | nil => cases here
  | append_singleton acts a ih =>
    have now := here
    rw [perform_concat] at now
    rcases (sound_perform acts).act_cases a with ⟨outer, -⟩ | ⟨k, y, stage, rfl, was, relocates, move⟩
    · have before := outer.before (q := (· = .finished (.closed reason))) now returned nofun nofun
      exact (ih before returned).append [a]
    · -- either this move is the return, and sets the status, or the loop had returned before
      rcases relocates.before now with ⟨rfl, rfl⟩ | ⟨-, before⟩
      · have value : (fresh.perform (acts ++ [.move k])).valueOf k =
            some (.detached (.closed reason)) := by
          rw [valueOf_of_loop? here, Task.value?, returned]
        have unfinished : ∀ {notice : Option Nat}, y.stage = .idle notice →
            (fresh.perform acts).valueOf k = none := by
          intro notice idle
          rw [valueOf_of_loop? was, Task.value?, idle]
        cases move with
        | refuse | retire | begin => cases returned
        | accept _ _ _ begins => rcases begins with rfl | rfl <;> cases returned
        | fail idle _ _ status =>
          cases returned
          refine ⟨acts, [], rfl, unfinished idle, value, ?_⟩
          rw [perform_concat]
          exact (status y.publisher).trans (if_pos rfl)
        | advance leads _ status =>
          generalize stood : y.stage = place at leads
          cases leads with
          | close | confirm | serve | stop | skip | publish | answer => cases returned
          | @leave f => cases f <;> cases returned
          | end_ =>
            cases returned
            refine ⟨acts, [], rfl, unfinished stood, value, ?_⟩
            rw [perform_concat]
            exact (status y.publisher).trans (status_of_idle acts was stood)
      · exact (ih before returned).append [.move k]

/-- What a loop tells that returned since its channel closed. -/
structure Departs (acts : List Act) (t : Nat) (l : Loop) (reason : CloseReason) : Prop where
  first : FirstClosed acts ((fresh.perform acts).channelOf l.handle) reason
  status : ReturnsWithStatus acts t l.publisher reason
  /-- The loop itself did not close its channel. -/
  unclosed : (fresh.perform acts).closesBy t = []

/-- A loop that returned the close of its channel tells the truth about it. -/
theorem departs_of_returned (here : (fresh.perform acts).loop? t = some l)
    (unmuted : Unmuted acts l.handle) (returned : l.stage = .finished (.closed reason)) :
    Departs acts t l reason where
  first := by
    obtain ⟨ch, there, tells⟩ := tellsOfChannel_perform acts here unmuted
    rw [returned] at tells
    exact firstClosed_of_state there tells
  status := status_of_returned acts here returned
  unclosed := by
    have closes := closesAsPlaced_perform acts t l here (by rw [returned]; exact nofun)
    rw [returned] at closes
    exact closes

/-! ## Loops that are given a closed channel -/

/-- The channel of a handle has closed for a reason. -/
def ShutFor (s : Service) (h : Nat) (reason : CloseReason) : Prop :=
  ∃ ch, s.broker.channels[s.channelOf h]? = some ch ∧ ch.state = .closed reason

/-- Where a loop stands that was accepted with a channel that had closed for a reason. -/
inductive Latecomer (s : Service) (t : Nat) (l : Loop) (reason : CloseReason) : Prop
  | dropped (here : s.loop? t = some { l with stage := .dropped })
  | cancelled (dead : (s.publisher l.publisher).dead = true)
  | returned (here : s.loop? t = some { l with stage := .finished (.closed reason) })
  /-- It asks for confirm mode, since somebody wants confirmations. -/
  | confirming {n : Nat} {phase : Phase}
      (here : s.loop? t = some { l with stage := .confirming (some n) phase })
      (live : (s.publisher l.publisher).dead = false)
      (wanted : (s.publisher l.publisher).sink ≠ none)
  | ready {n : Nat} (here : s.loop? t = some { l with stage := .idle (some n) })
      (live : (s.publisher l.publisher).dead = false)

/-- A channel that is shut stays shut, for the same reason. -/
theorem ShutFor.perform {h : Nat} (shut : ShutFor s h reason) (sound : Sound s)
    (inBounds : h < s.handles.size) (acts : List Act) : ShutFor (s.perform acts) h reason := by
  obtain ⟨ch, there, closed⟩ := shut
  obtain ⟨ch', after, -, still⟩ := lasts_perform s acts _ ch there
  refine ⟨ch', ?_, still reason closed⟩
  rw [(surroundings_perform sound acts).channelOf h inBounds, after]

/-- A loop with a notice is told why its channel closed. -/
theorem told_of_shut {n : Nat} (manned : Manned s) (here : s.loop? t = some l)
    (notice : l.stage.notice? = some n) (shut : ShutFor s l.handle reason) :
    s.noticeOf (some n) = .told reason := by
  obtain ⟨ch, there, closed⟩ := shut
  rw [noticeOf, (manned.follows t l n here notice).notice there closed, Option.getD_some]

/-- A shut channel is not open. -/
theorem ShutFor.not_isOpen {h : Nat} (shut : ShutFor s h reason) : s.isOpen h = false := by
  obtain ⟨ch, there, closed⟩ := shut
  rw [isOpen, Broker.isLive_eq there, Channel.isClosed, closed]
  rfl

/-- A loop that is over stays as it is. -/
theorem loop?_of_over (sound : Sound s) (here : s.loop? t = some l)
    (isOver : (Task.loop l).isOver = true) (a : Act) : (s.act a).loop? t = some l := by
  rcases sound.act_cases a with ⟨outer, -⟩ | ⟨k, y, stage, rfl, was, relocates, move⟩
  · rcases outer.loop (sound.act a).2 here with same | ⟨alive, -⟩
    · exact same
    · rw [isOver] at alive
      cases alive
  · rcases relocates.after was here with ⟨rfl, rfl⟩ | ⟨-, same⟩
    · rw [move.alive] at isOver
      cases isOver
    · exact same

/-- Moves of a loop cancel nobody. -/
theorem dead_of_move {p : Nat} (sound : Sound s) (here : s.loop? t = some l)
    (moved : s.move t = some s') : (s'.publisher p).dead = (s.publisher p).dead :=
  (suffix_of_loop (loop?_eq_some.mp here) (sound.goes moved).1).2

/-- A loop that asks for confirm mode does so since somebody wants confirmations. -/
theorem wanted_of_begins {notice : Option Nat} {phase : Phase} (here : s.loop? t = some l)
    (there : (s.beginLoop t l).loop? t = some { l with stage := .confirming notice phase }) :
    (s.publisher l.publisher).sink ≠ none := by
  have moved : ∀ {r : Service} {stage : LoopStage}, r.tasks = s.tasks →
      (r.moveTo t l stage).loop? t = some { l with stage := .confirming notice phase } →
      stage = .confirming notice phase := by
    intro r stage same found
    rw [loop?_moveTo ((loop?_of_tasks same t).trans here) stage] at found
    exact congrArg Loop.stage (Option.some.inj found)
  rcases beginLoop_cases s t l with ⟨r, farewell, closes, same⟩ | attaches
  · rw [closes] at there
    cases moved same there
  · intro unwanted
    let cleared := (s.onPublisher l.publisher fun p => { p with loop := some t }).onPublisher
      l.publisher fun p => { p with status := .clear }
    have sink : ((cleared.listen t l).1.publisher l.publisher).sink = none := by
      have kept : (cleared.listen t l).1.publishers = cleared.publishers := by
        unfold listen
        simp only []
        split <;> rfl
      rw [publisher, kept, ← publisher, publisher_onPublisher_congr Publisher.sink rfl,
        publisher_onPublisher_congr Publisher.sink rfl, unwanted]
    have tasks : (cleared.listen t l).1.tasks = s.tasks := (listen_alike cleared t l).tasks
    rw [attaches, attach] at there
    simp only [] at there
    split at there
    · cases moved (r := Service.note _ _ _) tasks there
    · next found => rw [sink] at found; cases found

/-- A loop that is accepted with a notice is ready, or asks for confirm mode since somebody wants
confirmations. -/
theorem accepted_of_fresh (acts : List Act) (here : (fresh.perform acts).loop? t = some l)
    (new : l.stage = .fresh) (unmuted : Unmuted acts l.handle)
    (live : ((fresh.perform acts).publisher l.publisher).dead = false)
    (vacant : ((fresh.perform acts).publisher l.publisher).loop = none) :
    ∃ n, (fresh.perform (acts ++ [.move t])).loop? t = some { l with stage := .idle (some n) } ∨
      (fresh.perform (acts ++ [.move t])).loop? t =
          some { l with stage := .confirming (some n) .entering } ∧
        ((fresh.perform (acts ++ [.move t])).publisher l.publisher).sink ≠ none := by
  have moves := move_of_fresh here new
  obtain ⟨stage, relocates, move⟩ := moves_loop (sound_perform acts) here moves
  have there := relocates.own
  have hears := hears_of_begins here (isMuted_perform acts unmuted) there
  rw [perform_concat, sink_act (sound_perform acts) here, act_move_of_some moves]
  cases move with
  | refuse _ taken =>
    rw [attached_of_vacant vacant] at taken
    cases taken
  | retire _ _ dead =>
    rw [live] at dead
    cases dead
  | @accept _ notice _ _ _ begins =>
    cases notice with
    | none => rcases begins with rfl | rfl <;> exact absurd rfl hears
    | some n =>
      rcases begins with rfl | rfl
      · exact ⟨n, .inl there⟩
      · exact ⟨n, .inr ⟨there, wanted_of_begins here there⟩⟩
  | fail idle | begin idle =>
    rw [new] at idle
    cases idle
  | advance leads =>
    rw [new] at leads
    cases leads

/-- What a loop that asks for confirm mode does next, if it can move. -/
theorem LoopMove.of_confirming {notice : Option Nat} {phase : Phase}
    (move : LoopMove s t l s' stage) (confirming : l.stage = .confirming notice phase) :
    stage = .idle notice ∨ phase = .entering ∧ ∃ r, stage = .confirming notice (.leaving r) := by
  cases move with
  | refuse place | retire place | accept place | fail place | begin place =>
    rw [confirming] at place
    cases place
  | advance leads =>
    rw [confirming] at leads
    cases leads with
    | confirm => exact .inr ⟨rfl, _, rfl⟩
    | serve => exact .inl rfl

/-- Whatever happens, a latecomer stays one. -/
theorem Latecomer.act (late : Latecomer s t l reason) (sound : Sound s) (manned : Manned s)
    (shut : ShutFor s l.handle reason) (a : Act) : Latecomer (s.act a) t l reason := by
  cases dead : ((s.act a).publisher l.publisher).dead with
  | true => exact .cancelled dead
  | false =>
    cases late with
    | dropped here => exact .dropped (loop?_of_over sound here rfl a)
    | cancelled was =>
      rw [((sound.act a).2.dead l.publisher was).1] at dead
      cases dead
    | returned here => exact .returned (loop?_of_over sound here rfl a)
    | confirming here live wanted =>
      have still : ((s.act a).publisher l.publisher).sink ≠ none := by
        rw [sink_act sound here]
        exact wanted
      rcases sound.setup_cases a here with ⟨-, same⟩ | ⟨-, gone⟩ | ⟨stage, rfl, -, -, there, move⟩
      · exact .confirming same dead still
      · exact .dropped gone
      · rcases move.of_confirming rfl with rfl | ⟨-, r, rfl⟩
        · exact .ready there dead
        · exact .confirming there dead still
    | @ready n here live =>
      rcases sound.setup_cases a here with ⟨-, same⟩ | ⟨-, gone⟩ | ⟨stage, rfl, -⟩
      · exact .ready same dead
      · exact .dropped gone
      · -- its notice tells the reason
        have inBounds := sound.bounded.task t _ (loop?_eq_some.mp here)
        exact .returned (returns_of_told (l := { l with stage := .idle (some n) }) here rfl inBounds live
          (.inl (told_of_shut manned here rfl shut)))

/-- A loop that is accepted with a closed channel is a latecomer ever after. -/
theorem latecomer_perform (acts : List Act) (here : (fresh.perform acts).loop? t = some l)
    (new : l.stage = .fresh) (unmuted : Unmuted acts l.handle)
    (live : ((fresh.perform acts).publisher l.publisher).dead = false)
    (vacant : ((fresh.perform acts).publisher l.publisher).loop = none)
    (shut : ShutFor (fresh.perform acts) l.handle reason) (later : List Act) :
    Latecomer (fresh.perform (acts ++ .move t :: later)) t l reason := by
  have sound := sound_perform acts
  induction later using List.reverseRecOn with
  | nil =>
    have alive := (dead_of_move (p := l.publisher) sound here (move_of_fresh here new)).trans live
    rw [← act_move_of_some (move_of_fresh here new), ← perform_concat] at alive
    obtain ⟨n, ready | ⟨confirming, wanted⟩⟩ := accepted_of_fresh acts here new unmuted live vacant
    · exact .ready ready alive
    · exact .confirming confirming alive wanted
  | append_singleton later a ih =>
    have shut' := shut.perform sound ((hearing_perform acts).handles t l here) (.move t :: later)
    rw [← perform_append] at shut'
    rw [← List.cons_append, ← List.append_assoc, perform_concat]
    exact ih.act (sound_perform _) (manned_perform _) shut' a

/-! ### Polled to its end -/

/-- A task that comes to a value with a move comes to it with a poll. -/
theorem valueOf_poll_of_move {v : Value} {y : Loop} (sound : Sound s) (moved : s.move t = some s')
    (there : s'.loop? t = some y) (value : (Task.loop y).value? = some v) :
    (s.poll t).valueOf t = some v := by
  have isOver : (Task.loop y).isOver = true := by
    cases stage : y.stage <;> simp_all [Task.value?, Task.isOver]
  rw [poll_of_move sound moved, poll_of_stuck (move_of_over (loop?_eq_some.mp there) isOver),
    valueOf_of_loop? there, value]

/-- A loop that is ready to serve a shut channel returns its reason when it is polled. -/
theorem returns_of_ready {n : Nat} (sound : Sound s) (manned : Manned s) (here : s.loop? t = some l)
    (idle : l.stage = .idle (some n)) (live : (s.publisher l.publisher).dead = false)
    (shut : ShutFor s l.handle reason) :
    (s.poll t).valueOf t = some (.detached (.closed reason)) := by
  have there := returns_of_told here idle (sound.bounded.task t _ (loop?_eq_some.mp here)) live
    (.inl (told_of_shut manned here (by rw [idle]; rfl) shut))
  cases moved : s.move t with
  | none =>
    rw [act_move_of_none moved, here] at there
    rw [Option.some.inj there] at idle
    cases idle
  | some s' =>
    rw [act_move_of_some moved] at there
    exact valueOf_poll_of_move sound moved there rfl

/-- What a loop on a closed channel that asks for confirm mode comes to with its next move, if it does not have
to wait. -/
structure Proceeding (acts : List Act) (t : Nat) (l : Loop) (reason : CloseReason)
    (stage : LoopStage) : Prop where
  here : (fresh.perform acts).loop? t = some { l with stage }
  live : ((fresh.perform acts).publisher l.publisher).dead = false
  shut : ShutFor (fresh.perform acts) l.handle reason
  free : ∀ side, (fresh.perform acts).mustWait l.handle .confirmSelect side = false

/-- A loop that sets up on a shut channel goes on, and the rest of its poll is as before. -/
theorem Proceeding.next {n : Nat} {phase : Phase}
    (goes : Proceeding acts t l reason (.confirming (some n) phase)) :
    ∃ stage, Proceeding (acts ++ [.move t]) t l reason stage ∧
      (fresh.perform acts).poll t = (fresh.perform (acts ++ [.move t])).poll t ∧
      (stage = .idle (some n) ∨
        phase = .entering ∧ ∃ r, stage = .confirming (some n) (.leaving r)) := by
  obtain ⟨here, live, shut, free⟩ := goes
  have sound := sound_perform acts
  obtain ⟨s', moved⟩ : ∃ s', (fresh.perform acts).move t = some s' := by
    rw [move_of_loop here, moveLoop, isHeldUp]
    simp only [LoopStage.operation?, free, Bool.false_eq_true, if_false, moveFreely]
    cases phase <;> exact ⟨_, rfl⟩
  obtain ⟨stage, relocates, move⟩ := moves_loop sound here moved
  have next : fresh.perform (acts ++ [.move t]) = s' := by
    rw [perform_concat, act_move_of_some moved]
  refine ⟨stage, ⟨?_, ?_, ?_, fun side => ?_⟩, ?_, move.of_confirming rfl⟩
  · rw [next]
    exact relocates.own
  · rw [next]
    exact (dead_of_move (p := l.publisher) sound here moved).trans live
  · rw [perform_append]
    exact shut.perform sound
      ((hearing_perform acts).handles t { l with stage := .confirming (some n) phase } here) [.move t]
  · rw [next, mustWait, handles_move moved]
    exact free side
  · rw [next]
    exact poll_of_move sound moved

/-- Once it is ready it returns. -/
theorem Proceeding.returns_of_ready {n : Nat} (goes : Proceeding acts t l reason (.idle (some n))) :
    ((fresh.perform acts).poll t).valueOf t = some (.detached (.closed reason)) :=
  Service.returns_of_ready (sound_perform acts) (manned_perform acts) goes.here rfl goes.live goes.shut

/-- A loop on a closed channel that asks for confirm mode gets ready after one move or two. -/
theorem Proceeding.returns {n : Nat} {phase : Phase}
    (goes : Proceeding acts t l reason (.confirming (some n) phase)) :
    ((fresh.perform acts).poll t).valueOf t = some (.detached (.closed reason)) := by
  obtain ⟨stage, goes, same, rfl | ⟨-, r, rfl⟩⟩ := goes.next
  · rw [same]
    exact goes.returns_of_ready
  · obtain ⟨stage, goes, same', rfl | ⟨leaving, -⟩⟩ := goes.next
    · rw [same, same']
      exact goes.returns_of_ready
    · cases leaving

/-- Nothing holds up a loop that is about to ask for confirm mode, or it does not ask. -/
def Unhindered (s : Service) (l : Loop) : Prop :=
  (s.publisher l.publisher).sink = none ∨ ∀ side, s.mustWait l.handle .confirmSelect side = false

/-- What becomes of a loop that begins with a channel that has closed for a reason. -/
structure TurnedAway (acts : List Act) (t : Nat) (l : Loop) (reason : CloseReason) : Prop where
  /-- It begins no publish, whatever happens and however many requests wait. -/
  unopened : ∀ later u, (t, u) ∉ (fresh.perform (acts ++ .move t :: later)).openings
  /-- It returns the reason, or its next poll does, unless it is dropped or cancelled. -/
  returns : ∀ later, let s := fresh.perform (acts ++ .move t :: later)
    s.loop? t = some { l with stage := .dropped } ∨ (s.publisher l.publisher).dead = true ∨
    s.valueOf t = some (.detached (.closed reason)) ∨
    s.valueOf t = none ∧ (Unhindered s l → (s.poll t).valueOf t = some (.detached (.closed reason)))
  /-- Its first poll returns the reason, if it does not have to wait. -/
  atOnce : Unhindered (fresh.perform acts) l →
    ((fresh.perform acts).poll t).valueOf t = some (.detached (.closed reason))

/-- A loop that begins on a shut channel never opens a request. -/
theorem unopened_of_shut (acts : List Act) (here : (fresh.perform acts).loop? t = some l)
    (new : l.stage = .fresh) (shut : ShutFor (fresh.perform acts) l.handle reason) (later : List Act)
    (u : Nat) : (t, u) ∉ (fresh.perform (acts ++ later)).openings := by
  have sound := sound_perform acts
  have hearing := hearing_perform acts
  rw [perform_append]
  intro opened
  rcases opened_meanwhile sound hearing later opened with before | ⟨first, rest, x, split, opens⟩
  · -- a loop that is new has begun nothing
    have nothing : (fresh.perform acts).begun t = [] := by
      refine (RefusedCloseOnce.perform acts 0).unbegun t fun y own => ?_
      rw [here] at own
      cases own
      exact new
    obtain ⟨e, inside, opens⟩ := List.mem_filterMap.mp before
    have begun : e ∈ (fresh.perform acts).begun t :=
      List.mem_filter.mpr ⟨inside, decide_eq_true (Event.begunBy?_of_opens opens)⟩
    rw [nothing] at begun
    cases begun
  · obtain ⟨y, there, -, handle⟩ := (sound.perform first).2.loop (loop?_eq_some.mp here)
    have same := (loop?_eq_some.mpr there).symm.trans opens.here
    have closed := (isOpen_perform sound hearing first (hearing.handles t l here)).2 shut.not_isOpen
    rw [← handle, Option.some.inj same, opens.channel.1] at closed
    cases closed

/-- A loop that begins on a shut channel serves nothing and returns the reason, at once if nothing holds
it up. -/
theorem turnedAway_of_shut (acts : List Act) (here : (fresh.perform acts).loop? t = some l)
    (new : l.stage = .fresh) (unmuted : Unmuted acts l.handle)
    (live : ((fresh.perform acts).publisher l.publisher).dead = false)
    (vacant : ((fresh.perform acts).publisher l.publisher).loop = none)
    (shut : ShutFor (fresh.perform acts) l.handle reason) : TurnedAway acts t l reason where
  unopened later u := unopened_of_shut acts here new shut (.move t :: later) u
  returns later := by
    have shut' := shut.perform (sound_perform acts) ((hearing_perform acts).handles t l here)
      (.move t :: later)
    rw [← perform_append] at shut'
    -- wherever the loop stands by then, its channel is closed: it has left, or it does so when it is polled
    cases latecomer_perform acts here new unmuted live vacant shut later with
    | dropped there => exact .inl there
    | cancelled dead => exact .inr (.inl dead)
    | returned there => exact .inr (.inr (.inl (valueOf_of_loop? there)))
    | confirming there alive wanted =>
      refine .inr (.inr (.inr ⟨valueOf_of_loop? there, fun free => ?_⟩))
      exact (Proceeding.mk there alive shut' (free.resolve_left wanted)).returns
    | @ready n there alive =>
      refine .inr (.inr (.inr ⟨valueOf_of_loop? there, fun _ => ?_⟩))
      exact returns_of_ready (l := { l with stage := .idle (some n) }) (sound_perform _)
        (manned_perform _) there rfl alive shut'
  atOnce free := by
    have sound := sound_perform acts
    have moved := move_of_fresh here new
    have next : fresh.perform (acts ++ [.move t]) = (fresh.perform acts).beginLoop t l := by
      rw [perform_concat, act_move_of_some moved]
    have alive := (dead_of_move (p := l.publisher) sound here moved).trans live
    have shut' := shut.perform sound ((hearing_perform acts).handles t l here) [.move t]
    rw [← perform_append] at shut'
    rw [← next] at alive
    rw [poll_of_move sound moved, ← next]
    obtain ⟨n, ready | ⟨confirming, wanted⟩⟩ := accepted_of_fresh acts here new unmuted live vacant
    · exact returns_of_ready (l := { l with stage := .idle (some n) }) (sound_perform _)
        (manned_perform _) ready rfl alive shut'
    · refine (Proceeding.mk confirming alive shut' fun side => ?_).returns
      rw [perform_concat, sink_act sound here] at wanted
      rw [next, mustWait, handles_move moved]
      exact free.resolve_left wanted side

/-- For everything that can happen, and for every loop on a channel whose handle nobody mutes: once the loop
has returned, its channel has closed. If it returned the close of its channel, with a reason, then this is the
reason of the act that closed the channel first, the status of the publisher told it at the return, and the
loop did not close the channel itself. A loop that begins with a channel that has closed, while its publisher
is live and vacant, returns the reason of that channel without beginning a publish. -/
theorem end_of_loop_tells_truth (acts : List Act) {t : Nat} {l : Loop}
    (here : (fresh.perform acts).loop? t = some l) (unmuted : Unmuted acts l.handle) :
    let s := fresh.perform acts
    (∀ reason, s.valueOf t = some (.detached reason) →
      ∃ ch cause, s.broker.channels[s.channelOf l.handle]? = some ch ∧ ch.state = .closed cause) ∧
    (∀ reason, s.valueOf t = some (.detached (.closed reason)) →
      ShutFor s l.handle reason ∧ Departs acts t l reason) ∧
    (∀ reason, l.stage = .fresh → (s.publisher l.publisher).dead = false →
      (s.publisher l.publisher).loop = none → ShutFor s l.handle reason →
      TurnedAway acts t l reason) := by
  intro s
  have place : ∀ {reason : Detach}, s.valueOf t = some (.detached reason) →
      l.stage = .finished reason := by
    intro reason value
    rw [valueOf_of_loop? here] at value
    cases stage : l.stage <;> simp_all [Task.value?]
  obtain ⟨ch, there, tells⟩ := tellsOfChannel_perform acts here unmuted
  refine ⟨fun reason value => ?_, fun reason value => ?_, fun reason new live vacant shut => ?_⟩
  · rw [place value] at tells
    cases reason with
    | closed r => exact ⟨ch, r, there, tells⟩
    | cancelled | alreadyAttached =>
      obtain ⟨r, closed⟩ := tells
      exact ⟨ch, r, there, closed⟩
  · have departs := departs_of_returned here unmuted (place value)
    rw [place value] at tells
    exact ⟨⟨ch, there, tells⟩, departs⟩
  · exact turnedAway_of_shut acts here new unmuted live vacant shut

/-- The broker terminates the channel of a loop while a request waits, and the loop returns the reason. A second
loop is given a channel that was closed gracefully, for a publisher that wants confirmations: it returns none,
and the request still waits. -/
theorem second_channel_closed_before :
    let acts : List Act := [.command (.sink none) rfl, .command (.publisher "" "key" {} (some 0)) rfl,
      .command (.openChannel 1) rfl, .command (.openChannel 1) rfl, .command (.serve 0 0 true) rfl,
      .move 0, .move 0, .move 0, .command (.publish 0 none {} false true) rfl, .move 1,
      .command (.terminate 0 (some ⟨320, "maintenance"⟩)) rfl, .move 0, .command (.close 1) rfl,
      .command (.serve 0 1 true) rfl]
    let s := fresh.perform acts
    s.valueOf 0 = some (.detached (.closed (some ⟨320, "maintenance"⟩))) ∧
      Departs acts 0 ⟨0, 0, .finished (.closed (some ⟨320, "maintenance"⟩))⟩
        (some ⟨320, "maintenance"⟩) ∧
      (s.publisher 0).intake.order = [1] ∧ TurnedAway acts 2 ⟨0, 1, .fresh⟩ none ∧
      (s.poll 2).valueOf 2 = some (.detached (.closed none)) := by
  intro acts s
  have returned : s.valueOf 0 = some (.detached (.closed (some ⟨320, "maintenance"⟩))) := rfl
  obtain ⟨-, departs, -⟩ := end_of_loop_tells_truth acts (t := 0)
    (l := ⟨0, 0, .finished (.closed (some ⟨320, "maintenance"⟩))⟩) rfl (by decide)
  obtain ⟨-, -, turned⟩ :=
    end_of_loop_tells_truth acts (t := 2) (l := ⟨0, 1, .fresh⟩) rfl (by decide)
  have turnedAway := turned none rfl rfl rfl ⟨_, rfl, rfl⟩
  exact ⟨returned, (departs _ returned).2, rfl, turnedAway,
    turnedAway.atOnce (.inr fun side => by cases side <;> rfl)⟩

end Relay.Service
