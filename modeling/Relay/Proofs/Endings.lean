import Relay.Proofs.Closing
import Relay.Proofs.Polls
import Relay.Proofs.Retirement

/-!
# What the end of a loop tells

A loop learns of the close of its channel by a notice. As long as nobody mutes the handle of the channel, that
notice is registered with the channel itself, so what the loop is told is why the channel closed, and a loop
that returns leaves a channel behind that has closed: `LoopStage.Tells` says for each place what the state of
the channel is. The reason that a loop returns is the reason for which its channel was closed first, and the
status of its publisher at that moment says the same.
-/

namespace Relay

namespace Service

open Broker (Channel ChannelState CloseReason Exception)
open Publisher (Detach)

variable {s s' : Service} {t : Nat} {l x : Loop} {stage : LoopStage} {acts : List Act} {a : Act}

/-! ## Handles that are muted -/

/-- Whether loops that begin on a handle get a notice whose other end is gone. -/
def isMuted (s : Service) (h : Nat) : Bool := (s.handles[h]?.map Handle.muted).getD false

/-- The handle that an act mutes. -/
def Act.mutes? : Act → Option Nat
  | .command (.mute h) _ => some h
  | _ => none

/-- Nobody mutes a handle. -/
def Unmuted (acts : List Act) (h : Nat) : Prop := ∀ a ∈ acts, a.mutes? ≠ some h

instance (acts : List Act) (h : Nat) : Decidable (Unmuted acts h) :=
  inferInstanceAs (Decidable (∀ a ∈ acts, a.mutes? ≠ some h))

/-- A handle that was never muted was not so before. -/
theorem Unmuted.left {more : List Act} {h : Nat} (unmuted : Unmuted (acts ++ more) h) :
    Unmuted acts h :=
  fun a inside => unmuted a (List.mem_append_left _ inside)

/-- The same handles are muted. -/
theorem isMuted_of_handles (same : s'.handles = s.handles) (h : Nat) : s'.isMuted h = s.isMuted h := by
  rw [isMuted, same, isMuted]

/-- A handle that changes in something else is as muted as it was. -/
theorem isMuted_onHandle {k h : Nat} {f : Handle → Handle}
    (same : k = h → ∀ x, (f x).muted = x.muted) : (s.onHandle k f).isMuted h = s.isMuted h := by
  unfold isMuted onHandle
  rw [Array.getElem?_modify]
  split
  · next own => cases s.handles[h]? <;> simp [same own]
  · rfl

/-- A move changes no handle. -/
theorem handles_move (moves : s.move t = some s') : s'.handles = s.handles := by
  unfold move at moves
  split at moves
  · exact (Rests.moveCall moves).handles
  · next l here =>
    unfold moveLoop at moves
    split at moves
    · cases moves
    · rcases moveFreely_rests_or_lets (loop?_eq_some.mpr here) moves with rests | lets
      · exact rests.handles
      · exact lets.handles
  · cases moves

/-- Nor does dropping a task. -/
theorem handles_drop (s : Service) (t : Nat) : (s.drop t).handles = s.handles := by
  unfold drop
  split
  · exact (Rests.dropCall s t _).handles
  · next l here =>
    cases isOver : (Task.loop l).isOver with
    | true => rw [dropLoop_of_over isOver]
    | false => exact (lets_dropLoop (loop?_eq_some.mpr here) isOver).handles
  · rfl

/-- A command on a publisher changes no handle if it does none for the publisher found. -/
theorem handles_withPublisher {n : Nat} {f : Nat → Service × Answer}
    (inner : ∀ p, (f p).1.handles = s.handles) : (s.withPublisher n f).1.handles = s.handles := by
  unfold withPublisher
  split
  · exact inner _
  · rfl

/-- The same for a command on a channel. -/
theorem handles_withChannel {h : Nat} {f : Nat → Service × Answer}
    (inner : ∀ c, (f c).1.handles = s.handles) : (s.withChannel h f).1.handles = s.handles := by
  rw [withChannel_eq]
  split
  · exact inner _
  · rfl

/-- The same for a command on a sink. -/
theorem handles_withSink {k : Nat} {f : Service × Answer} (inner : f.1.handles = s.handles) :
    (s.withSink k f).1.handles = s.handles := by
  unfold withSink
  split
  · exact inner
  · rfl

/-- What somebody does to a handle that is there leaves another handle muted or not. -/
theorem isMuted_withChannel {h k : Nat} {f : Handle → Handle} {answer : Answer}
    (same : k = h → ∀ x, (f x).muted = x.muted) :
    (s.withChannel k fun _ => (s.onHandle k f, answer)).1.isMuted h = s.isMuted h := by
  rw [withChannel_eq]
  split
  · exact isMuted_onHandle same
  · rfl

/-- A new handle is not muted. -/
theorem isMuted_openHandle (s : Service) (count h : Nat) :
    (s.openHandle count).1.isMuted h = s.isMuted h := by
  unfold openHandle isMuted
  simp only []
  split
  · change ((s.handles.push _)[h]?.map Handle.muted).getD false = _
    rw [Array.getElem?_push]
    split
    · next last => rw [last, Array.getElem?_eq_none (Nat.le_refl _)]; rfl
    · rfl
  · rfl

/-- Only a command to do so mutes a handle. -/
theorem isMuted_step {c : Command} {h : Nat} (passive : c.polls = false) (other : c ≠ .mute h) :
    (s.step c).1.isMuted h = s.isMuted h := by
  -- nearly every command leaves the handles alone; the three that write one follow by name
  have kept : ∀ {r : Service}, r.handles = s.handles → r.isMuted h = s.isMuted h :=
    fun same => isMuted_of_handles same h
  unfold step
  cases c with
  | declare | disconnect | restore | rejectNext | nackNext | failConfirmSelect | published | sink
  | publisher => rfl
  | openChannel count => exact isMuted_openHandle s count h
  | close | confirmSelect | terminate | listen => exact kept (handles_withChannel fun _ => rfl)
  | notifyPublish => exact kept (handles_withChannel fun _ => handles_withSink rfl)
  | publishOn =>
    refine kept (handles_withChannel fun _ => ?_)
    unfold publishOn
    simp only []
    split <;> rfl
  | check =>
    simp only []
    unfold check
    split
    · rfl
    · rfl
    · split <;> rfl
  | dropChannel k =>
    simp only []
    rw [withChannel_eq]
    split
    · exact (isMuted_of_handles rfl h).trans (isMuted_onHandle fun _ _ => rfl)
    · rfl
  | hold k | release k => exact isMuted_withChannel fun _ _ => rfl
  | mute k => exact isMuted_withChannel fun own => absurd (congrArg Command.mute own) other
  | receive | dropSink => exact kept (handles_withSink rfl)
  | clone | profile => exact kept (handles_withPublisher fun _ => rfl)
  | cancel => exact kept (handles_withPublisher fun p => (Rests.cancel s p).handles)
  | publish n key message overtaken deferred =>
    cases deferred with
    | false => cases passive
    | true => exact kept (handles_withPublisher fun _ => rfl)
  | write n body deferred overtaken =>
    cases deferred with
    | false => cases passive
    | true => exact kept (handles_withPublisher fun _ => rfl)
  | serve n k deferred =>
    cases deferred with
    | false => cases passive
    | true => exact kept (handles_withPublisher fun _ => handles_withChannel fun _ => rfl)
  | poll | settle => cases passive
  | dropTask u =>
    simp only []
    split
    · exact kept (handles_drop s u)
    · rfl

/-- Only the command to mute a handle does. -/
theorem isMuted_act {h : Nat} (other : a.mutes? ≠ some h) :
    (s.act a).isMuted h = s.isMuted h := by
  cases a with
  | command c passive =>
    refine isMuted_step passive ?_
    rintro rfl
    exact other rfl
  | move t =>
    rw [act]
    cases moves : s.move t with
    | none => rfl
    | some s' => exact isMuted_of_handles (handles_move moves) h

/-- A handle that nobody mutes is not muted. -/
theorem isMuted_perform (acts : List Act) {h : Nat} (unmuted : Unmuted acts h) :
    (fresh.perform acts).isMuted h = false := by
  induction acts using List.reverseRecOn with
  | nil => rfl
  | append_singleton acts a ih =>
    rw [perform_concat, isMuted_act (unmuted a (by simp))]
    exact ih unmuted.left

/-! ## Loops that hear of their channels -/

/-- What a loop at this place listens to, if it listens. -/
def LoopStage.heed? : LoopStage → Option (Option Nat)
  | confirming notice _ | idle notice | publishing notice _ _ => some notice
  | fresh | closing _ _ | finished _ | dropped => none

/-- A loop that holds a notice heeds it. -/
theorem LoopStage.heed?_of_notice {n : Nat} (notice : stage.notice? = some n) :
    stage.heed? = some (some n) := by
  cases stage with
  | confirming | idle | publishing => exact congrArg some notice
  | fresh | closing | finished | dropped => cases notice

/-- A loop that begins goes to close its channel, or attaches it. -/
theorem beginLoop_cases (s : Service) (t : Nat) (l : Loop) :
    (∃ (r : Service) (farewell : Farewell),
      s.beginLoop t l = r.moveTo t l (.closing farewell .entering) ∧ r.tasks = s.tasks) ∨
      s.beginLoop t l = (s.onPublisher l.publisher fun p => { p with loop := some t }).attach t l := by
  unfold beginLoop
  split
  · exact .inl ⟨_, _, rfl, rfl⟩
  · simp only []
    split
    · exact .inl ⟨_, _, rfl, tasks_retire _ _⟩
    · exact .inr rfl

/-- A loop that begins on a handle that is not muted has a notice if it listens. -/
theorem hears_of_begins (here : s.loop? t = some l) (unmuted : s.isMuted l.handle = false)
    (there : (s.beginLoop t l).loop? t = some x) : x.stage.heed? ≠ some none := by
  have moved : ∀ {r : Service} {stage : LoopStage}, r.tasks = s.tasks → stage.heed? ≠ some none →
      (r.moveTo t l stage).loop? t = some x → x.stage.heed? ≠ some none := by
    intro r stage same hears found
    rw [loop?_moveTo ((loop?_of_tasks same t).trans here) stage] at found
    cases found
    exact hears
  rcases beginLoop_cases s t l with ⟨r, farewell, closes, same⟩ | attaches
  · rw [closes] at there
    exact moved same (fun listens => by cases listens) there
  · obtain ⟨r, stage, moves, same, -, notice⟩ :=
      attach_eq (s.onPublisher l.publisher fun p => { p with loop := some t }) t l
    rw [attaches, moves] at there
    refine moved same ?_ there
    -- the handle is not muted, so there is a notice
    have heard : ((s.handles[l.handle]?.map Handle.muted).getD false) = false := unmuted
    obtain ⟨n, some⟩ : ∃ n, stage.notice? = some n := by
      rw [notice]
      unfold listen
      simp only []
      split
      · next muted => exact absurd muted (Bool.eq_false_iff.mp heard)
      · exact ⟨_, rfl⟩
    rw [LoopStage.heed?_of_notice some]
    exact nofun

/-- A loop that moved has no notice to listen to only if it had none before. -/
theorem LoopMove.heed? (move : LoopMove s t l s' stage) (begun : l.stage ≠ .fresh)
    (deaf : stage.heed? = some none) : l.stage.heed? = some none := by
  cases move with
  | refuse fresh | retire fresh | accept fresh => exact absurd fresh begun
  | fail => cases deaf
  | begin idle =>
    rw [idle]
    exact deaf
  | advance leads =>
    generalize l.stage = place at leads
    cases leads with
    | confirm | serve | skip | publish | answer => exact deaf
    | close | leave | stop | end_ => cases deaf

/-- A loop on a handle that nobody mutes has a notice as long as it listens. -/
theorem hears_perform (acts : List Act) (here : (fresh.perform acts).loop? t = some l)
    (unmuted : Unmuted acts l.handle) : l.stage.heed? ≠ some none := by
  induction acts using List.reverseRecOn generalizing l with
  | nil => cases here
  | append_singleton acts a ih =>
    rw [perform_concat] at here
    intro deaf
    rcases (sound_perform acts).act_cases a with ⟨outer, -⟩ | ⟨k, y, stage, rfl, there, relocates, move⟩
    · have before := outer.before (q := fun place => place.heed? = some none) here deaf nofun nofun
      exact ih before unmuted.left deaf
    · rcases relocates.before here with ⟨rfl, rfl⟩ | ⟨-, before⟩
      · by_cases fresh : y.stage = .fresh
        · rw [act_move_of_some (move_of_fresh there fresh)] at here
          exact hears_of_begins there (isMuted_perform acts unmuted.left) here deaf
        · exact ih there unmuted.left (move.heed? fresh deaf)
      · exact ih before unmuted.left deaf

/-! ## What a ready loop is told -/

/-- A loop that is told of the close of its channel returns the reason that it is told, and one whose notice
is lost returns none, if the publisher is live. -/
theorem returns_of_told {notice : Option Nat} {reason : CloseReason} (here : s.loop? t = some l)
    (idle : l.stage = .idle notice) (inBounds : l.publisher < s.publishers.size)
    (live : (s.publisher l.publisher).dead = false)
    (told : s.noticeOf notice = .told reason ∨ s.noticeOf notice = .lost ∧ reason = none) :
    (s.act (.move t)).loop? t = some { l with stage := .finished (.closed reason) } := by
  have moves := move_of_idle here idle
  rw [moveIdle] at moves
  simp only [live, Bool.false_eq_true, if_false] at moves
  cases reason with
  | some e =>
    rw [told.resolve_right fun lost => Option.some_ne_none e lost.2] at moves
    rw [act_move_of_some moves]
    exact (moves_fail here idle inBounds live).1.own
  | none =>
    rcases told with told | ⟨lost, -⟩
    · rw [told] at moves
      rw [act_move_of_some moves]
      exact ((Calm.note s _ _).relocates_endLoop here (.closed none)).1.own
    · rw [lost] at moves
      rw [act_move_of_some moves]
      exact ((Calm.note s _ _).relocates_endLoop here (.closed none)).1.own

/-- A ready loop that is told nothing does not return. -/
theorem stays_of_waiting {notice : Option Nat} {reason : Detach} (sound : Sound s)
    (here : s.loop? t = some l) (idle : l.stage = .idle notice)
    (live : (s.publisher l.publisher).dead = false) (waits : s.noticeOf notice = .waiting) :
    (s.act (.move t)).loop? t ≠ some { l with stage := .finished reason } := by
  intro there
  cases moves : s.move t with
  | none =>
    rw [act_move_of_none moves, here] at there
    have same := congrArg Loop.stage (Option.some.inj there)
    rw [idle] at same
    cases same
  | some r =>
    rw [act_move_of_some moves] at there
    rw [move_of_idle here idle, moveIdle] at moves
    simp only [live, waits, Bool.false_eq_true, if_false] at moves
    obtain ⟨⟨u, rest⟩, next, rfl⟩ := Option.map_eq_some_iff.mp moves
    obtain ⟨stage, place, relocates, -⟩ := moves_takeUp sound here idle live waits next
    rw [relocates.own] at there
    have same : stage = .finished reason := congrArg Loop.stage (Option.some.inj there)
    rcases place with rfl | rfl <;> cases same

/-- A loop returns the reason that it was told. -/
theorem told_of_returns {notice : Option Nat} {reason : CloseReason} (sound : Sound s)
    (here : s.loop? t = some l) (idle : l.stage = .idle notice)
    (there : (s.act (.move t)).loop? t = some { l with stage := .finished (.closed reason) }) :
    s.noticeOf notice = .told reason ∨ s.noticeOf notice = .lost ∧ reason = none := by
  have inBounds : l.publisher < s.publishers.size :=
    sound.bounded.task t (.loop l) (loop?_eq_some.mp here)
  cases dead : (s.publisher l.publisher).dead with
  | true =>
    rw [stops_of_dead here idle dead] at there
    cases there
  | false =>
    have same : ∀ {r : CloseReason},
        s.noticeOf notice = .told r ∨ s.noticeOf notice = .lost ∧ r = none → r = reason := by
      intro r told
      rw [returns_of_told here idle inBounds dead told] at there
      injection there with both
      injection both with _ _ both
      injection both with both
      injection both
    cases notified : s.noticeOf notice with
    | waiting => exact absurd there (stays_of_waiting sound here idle dead notified)
    | told r => exact .inl (by rw [same (.inl notified)])
    | lost => exact .inr ⟨rfl, (same (.inr ⟨notified, rfl⟩)).symm⟩

/-- What a notice tells that is registered with the channel of a loop is why the channel closed. -/
theorem state_of_told {n : Nat} (hearing : Hearing s) (manned : Manned s) (here : s.loop? t = some l)
    (notice : l.stage.notice? = some n) (told : s.noticeOf (some n) ≠ .waiting) :
    ∃ ch reason, s.broker.channels[s.channelOf l.handle]? = some ch ∧ ch.state = .closed reason ∧
      s.noticeOf (some n) = .told reason := by
  obtain ⟨ch, there, ⟨-, listens⟩ | ⟨reason, closed, known⟩⟩ := manned.follows t l n here notice
  · rw [noticeOf, hearing.tuned.waiting n _ ⟨ch, there, listens⟩] at told
    exact absurd rfl told
  · exact ⟨ch, reason, there, closed, by rw [noticeOf, known, Option.getD_some]⟩

/-! ## The state of the channel, by the place of its loop -/

/-- What a loop at this place says about the state of its channel. -/
def LoopStage.Tells (state : ChannelState) : LoopStage → Prop
  | finished (.closed reason) => state = .closed reason
  | closing _ (.leaving _) | finished _ => ∃ reason, state = .closed reason
  | fresh | closing _ .entering | confirming _ _ | idle _ | publishing _ _ _ | dropped => True

/-- What a place says of a channel stays true when channels close, and for the same reason. -/
theorem LoopStage.Tells.mono {state state' : ChannelState} (tells : stage.Tells state)
    (closed : ∀ reason, state = .closed reason → state' = .closed reason) : stage.Tells state' := by
  have some : (∃ reason, state = .closed reason) → ∃ reason, state' = .closed reason :=
    fun ⟨reason, was⟩ => ⟨reason, closed reason was⟩
  cases stage with
  | fresh | confirming | idle | publishing | dropped => exact trivial
  | closing f phase =>
    cases phase with
    | entering => exact trivial
    | leaving => exact some tells
  | finished reason =>
    cases reason with
    | closed r => exact closed r tells
    | cancelled | alreadyAttached => exact some tells

/-- The channel of a loop is there. -/
theorem channel_of_loop (hearing : Hearing s) (here : s.loop? t = some l) :
    ∃ ch, s.broker.channels[s.channelOf l.handle]? = some ch :=
  ⟨_, Array.getElem?_eq_getElem (hearing.held l.handle (hearing.handles t l here))⟩

/-- A loop that asked to close its channel leaves it closed. -/
theorem closed_of_close {farewell : Farewell} (here : s.loop? t = some l)
    (closing : l.stage = .closing farewell .entering)
    (moved : (s.act (.move t)).loop? t ≠ some l) {ch : Channel}
    (there : (s.act (.move t)).broker.channels[s.channelOf l.handle]? = some ch) :
    ∃ reason, ch.state = .closed reason := by
  have asks : s.deed? (.move t) = some (.close (s.channelOf l.handle)) := by
    simp only [deed?, here, loopDeed?, closing]
    split
    · next held =>
      rw [act_move_of_none (by rw [move_of_loop here, moveLoop, if_pos held])] at moved
      exact absurd here moved
    · rfl
  rw [broker_act, asks, obey, Deed.apply, Broker.broker_close, Broker.channels_shut,
    Array.getElem?_modify, if_pos rfl] at there
  obtain ⟨x, -, rfl⟩ := Option.map_eq_some_iff.mp there
  have closed : (x.ended none).isClosed = true := Channel.isClosed_ended
  unfold Channel.isClosed at closed
  cases state : (x.ended none).state with
  | live => rw [state] at closed; cases closed
  | closed reason => exact ⟨reason, rfl⟩

/-- A ready loop with a notice returns the reason for which its channel closed. -/
theorem tells_of_returns {notice : Option Nat} {reason : CloseReason} (sound : Sound s)
    (hearing : Hearing s) (manned : Manned s) (here : s.loop? t = some l)
    (idle : l.stage = .idle notice) (hears : l.stage.heed? ≠ some none)
    (there : (s.act (.move t)).loop? t = some { l with stage := .finished (.closed reason) }) :
    ∃ ch, s.broker.channels[s.channelOf l.handle]? = some ch ∧ ch.state = .closed reason := by
  cases notice with
  | none =>
    rw [idle] at hears
    exact absurd rfl hears
  | some n =>
    have told := told_of_returns sound here idle there
    have settled : s.noticeOf (some n) ≠ .waiting := by
      rcases told with told | ⟨lost, -⟩
      · rw [told]; exact nofun
      · rw [lost]; exact nofun
    obtain ⟨ch, r, there, closed, known⟩ :=
      state_of_told hearing manned here (by rw [idle]; rfl) settled
    rw [known] at told
    cases told.resolve_right fun lost => nomatch lost.1
    exact ⟨ch, there, closed⟩

/-- Loops on handles that nobody mutes say what has become of their channels. -/
theorem tellsOfChannel_perform (acts : List Act) (here : (fresh.perform acts).loop? t = some l)
    (unmuted : Unmuted acts l.handle) :
    ∃ ch, (fresh.perform acts).broker.channels[(fresh.perform acts).channelOf l.handle]? = some ch ∧
      l.stage.Tells ch.state := by
  induction acts using List.reverseRecOn generalizing l with
  | nil => cases here
  | append_singleton acts a ih =>
    have sound := sound_perform acts
    have hearing := hearing_perform acts
    obtain ⟨ch', there⟩ := channel_of_loop (hearing_perform (acts ++ [a])) here
    refine ⟨ch', there, ?_⟩
    rw [perform_concat] at here there
    -- what a channel was known to be before the act, it is known to be after it
    have stays : ∀ (y : Loop) {place : LoopStage}, y.handle = l.handle →
        (fresh.perform acts).loop? t = some y →
        (∃ ch, (fresh.perform acts).broker.channels[(fresh.perform acts).channelOf y.handle]? = some ch ∧
          place.Tells ch.state) → place.Tells ch'.state := by
      rintro y place own was ⟨ch, before, tells⟩
      have channel := (surroundings_act sound a).channelOf y.handle (hearing.handles t y was)
      obtain ⟨x, after, -, closed⟩ := ((fresh.perform acts).deals a).lasts _ ch before
      rw [← channel, own, there] at after
      cases after
      exact tells.mono closed
    rcases sound.act_cases a with ⟨outer, -⟩ | ⟨k, y, stage, rfl, was, relocates, move⟩
    · rcases outer.loops t l here with was | ⟨y, -, -, rfl⟩ | ⟨-, fresh, -⟩
      · exact stays _ rfl was (ih was unmuted.left)
      · exact trivial
      · rw [fresh]
        exact trivial
    · rcases relocates.before here with ⟨rfl, rfl⟩ | ⟨-, was⟩
      · have returns : ∀ {notice : Option Nat} {reason : CloseReason}, y.stage = .idle notice →
            stage = .finished (.closed reason) → stage.Tells ch'.state := by
          rintro notice reason idle rfl
          exact stays y rfl was (tells_of_returns sound hearing (manned_perform acts) was idle
            (hears_perform acts was unmuted.left) relocates.own)
        have channel := (surroundings_act sound (.move k)).channelOf y.handle (hearing.handles k y was)
        cases move with
        | refuse | retire | begin => exact trivial
        | accept _ _ _ begins => rcases begins with rfl | rfl <;> exact trivial
        | fail idle => exact returns idle rfl
        | advance leads =>
          generalize stood : y.stage = place at leads
          cases leads with
          | confirm | serve | stop | skip | publish | answer => exact trivial
          | end_ => exact returns stood rfl
          | close =>
            refine closed_of_close was stood (fun same => ?_) (by rw [← channel]; exact there)
            rw [relocates.own] at same
            rw [← congrArg Loop.stage (Option.some.inj same)] at stood
            cases stood
          | @leave f r =>
            have tells := ih was unmuted.left
            rw [stood] at tells
            have closed : (LoopStage.closing f (.leaving r)).Tells ch'.state := stays y rfl was tells
            cases f <;> exact closed
      · exact stays _ rfl was (ih was unmuted.left)

end Service

end Relay
