import Relay.Proofs.Hearing
import Relay.Proofs.Succession

/-!
# No request is spent on a closed channel

A loop opens a request only while its close notice waits, so its channel is open at that moment, and
its publisher is not cancelled. A publish that meets a closed channel was therefore begun on an open
one, which closed while the loop stood in that publish. And a loop whose channel has closed leaves
everything that waits in the intake to others.
-/

namespace Relay.Service

open Broker (Exception)

variable {s s' : Service} {t u : Nat} {l : Loop} {stage : LoopStage} {a : Act} {c : Call}

/-- The publishes that began, the last first, each with its loop and its call. -/
def openings (s : Service) : List (Nat × Nat) := s.journal.filterMap Event.opens?

/-- Whether the channel of a handle is open. -/
def isOpen (s : Service) (h : Nat) : Bool := s.broker.isLive (s.channelOf h)

/-- A loop opens the request of a call with its next move: it stands ready, its channel is open and
its publisher is not cancelled, before and after. -/
structure Opens (s : Service) (t : Nat) (l : Loop) (u : Nat) : Prop where
  here : s.loop? t = some l
  ready : ∃ notice, l.stage = .idle notice ∧
    (s.act (.move t)).loop? t = some { l with stage := .publishing notice u .entering }
  channel : s.isOpen l.handle = true ∧ (s.act (.move t)).isOpen l.handle = true
  publisher : (s.publisher l.publisher).dead = false ∧
    ((s.act (.move t)).publisher l.publisher).dead = false
  next : (s.publisher l.publisher).intake.order.head? = some u
  request : ∃ c, s.tasks[u]? = some (.call c) ∧ c.request.claimed = false ∧
    (s.act (.move t)).tasks[u]? =
      some (.call { c with request := { c.request with claimed := true } })
  opening : (s.act (.move t)).openings = (t, u) :: s.openings

/-! ## One act -/

theorem LoopMove.keeps_or_begins (move : LoopMove s t l s' stage) :
    s'.openings = s.openings ∨ ∃ notice u, stage = .publishing notice u .entering := by
  cases move with
  | refuse _ _ keeps | retire _ _ _ keeps | accept _ _ _ _ _ keeps | fail _ _ keeps
    | advance _ keeps => exact .inl keeps.openings
  | begin => exact .inr ⟨_, _, rfl⟩

/-- A loop gets into a publish by opening a request, on an open channel of a live publisher. -/
theorem Hearing.opens {notice : Option Nat} (hearing : Hearing s) (here : s.loop? t = some l)
    (relocates : Relocates s t l (s.act (.move t)) (.publishing notice u .entering))
    (move : LoopMove s t l (s.act (.move t)) (.publishing notice u .entering)) :
    l.stage = .idle notice ∧ Opens s t l u := by
  cases move with
  | accept _ _ _ begins => rcases begins with no | no <;> cases no
  | advance leads =>
    generalize l.stage = place at leads
    cases leads
  | @begin _ _ e idle live waits opens journal handles broker status dead next claims =>
    have channel := hearing.isLive_of_waiting here (by rw [idle]; rfl) waits
    refine ⟨idle, here, ⟨notice, idle, relocates.own⟩, ⟨channel, ?_⟩, ⟨live, dead.trans live⟩, next,
      claims, ?_⟩
    · rw [isOpen, broker, channelOf, handles, ← channelOf, channel]
    · rw [openings, journal, List.filterMap_cons, opens, openings]

/-- An act begins no publish, or one of a loop that opens a request. -/
theorem Hearing.openings_act (hearing : Hearing s) (sound : Sound s) (a : Act) :
    (s.act a).openings = s.openings ∨ ∃ t l u, a = .move t ∧ Opens s t l u := by
  rcases sound.act_cases a with ⟨outer, -⟩ | ⟨t, l, stage, rfl, here, relocates, move⟩
  · exact .inl outer.keeps.openings
  · rcases move.keeps_or_begins with same | ⟨notice, u, rfl⟩
    · exact .inl same
    · exact .inr ⟨t, l, u, rfl, (hearing.opens here relocates move).2⟩

/-! ## A publish under way -/

/-- Throughout some acts a loop stands at one place. -/
def Stands (s : Service) (acts : List Act) (t : Nat) (l : Loop) : Prop :=
  ∀ first rest, acts = first ++ rest → (s.perform first).loop? t = some l

theorem Stands.concat (stands : Stands s acts t l)
    (there : (s.perform (acts ++ [a])).loop? t = some l) : Stands s (acts ++ [a]) t l := by
  intro first rest split
  rcases List.eq_nil_or_concat rest with rfl | ⟨rest', b, rfl⟩
  · rw [List.append_nil] at split
    rw [← split]
    exact there
  · rw [List.concat_eq_append, ← List.append_assoc] at split
    exact stands first rest' (List.append_inj_left' split rfl)

/-- A loop in a publish opened its request some acts ago, and has stood in that publish since. -/
theorem opened_before {notice : Option Nat} (acts : List Act)
    (here : (fresh.perform acts).loop? t = some l)
    (publishing : l.stage = .publishing notice u .entering) :
    ∃ before during, acts = before ++ .move t :: during ∧
      Opens (fresh.perform before) t { l with stage := .idle notice } u ∧
      Stands (fresh.perform (before ++ [.move t])) during t l := by
  induction acts using List.reverseRecOn generalizing l with
  | nil => cases here
  | append_singleton acts a ih =>
    have there := here
    rw [perform_concat] at here
    -- the loop stood there before, unless the last act opened the request
    have longer : (fresh.perform acts).loop? t = some l →
        ∃ before during, acts ++ [a] = before ++ .move t :: during ∧
          Opens (fresh.perform before) t { l with stage := .idle notice } u ∧
          Stands (fresh.perform (before ++ [.move t])) during t l := by
      intro stood
      obtain ⟨before, during, rfl, opens, stands⟩ := ih stood publishing
      refine ⟨before, during ++ [a], by simp, opens, stands.concat ?_⟩
      rw [← perform_append]
      simpa using there
    have sound := sound_perform acts
    rcases sound.act_cases a with ⟨outer, -⟩ | ⟨k, x, stage, rfl, own, relocates, move⟩
    · exact longer
        (outer.before (q := (· = .publishing notice u .entering)) here publishing nofun nofun)
    · rcases relocates.before here with ⟨rfl, rfl⟩ | ⟨-, stood⟩
      · obtain rfl : stage = .publishing notice u .entering := publishing
        obtain ⟨idle, opens⟩ := (hearing_perform acts).opens own relocates move
        refine ⟨acts, [], rfl, ?_, ?_⟩
        · rw [← idle]
          exact opens
        · intro first rest split
          obtain ⟨rfl, rfl⟩ := List.append_eq_nil_iff.mp split.symm
          exact there
      · exact longer stood

/-! ## Channels that close -/

/-- The channel of a handle closes while some acts happen: there is one before which it is open, and
after which it is not. -/
def ClosesDuring (s : Service) (acts : List Act) (h : Nat) : Prop :=
  ∃ first a rest, acts = first ++ a :: rest ∧ (s.perform first).isOpen h = true ∧
    (s.perform (first ++ [a])).isOpen h = false

theorem closesDuring_of_isOpen {h : Nat} (before : s.isOpen h = true)
    (after : (s.perform acts).isOpen h = false) : ClosesDuring s acts h := by
  induction acts generalizing s with
  | nil => exact absurd (before.symm.trans after) nofun
  | cons a acts ih =>
    cases next : (s.act a).isOpen h with
    | false => exact ⟨[], a, acts, rfl, before, next⟩
    | true =>
      obtain ⟨first, b, rest, rfl, opened, closed⟩ := ih next after
      exact ⟨a :: first, b, rest, rfl, opened, closed⟩

/-- What a handle stands for does not change, and a closed channel stays closed. -/
theorem isOpen_perform {h : Nat} (sound : Sound s) (hearing : Hearing s) (acts : List Act)
    (inBounds : h < s.handles.size) :
    (s.perform acts).channelOf h = s.channelOf h ∧
      (s.isOpen h = false → (s.perform acts).isOpen h = false) := by
  have surroundings := surroundings_perform sound acts
  have same := surroundings.channelOf h inBounds
  refine ⟨same, fun closed => ?_⟩
  rw [isOpen, same]
  exact surroundings.heeds.closed _ (hearing.held h inBounds) closed

/-- What was opened while some acts happened was opened by one of them. -/
theorem opened_meanwhile {k : Nat} (sound : Sound s) (hearing : Hearing s) (acts : List Act)
    (opened : (k, u) ∈ (s.perform acts).openings) :
    (k, u) ∈ s.openings ∨ ∃ first rest x, acts = first ++ .move k :: rest ∧
      Opens (s.perform first) k x u := by
  induction acts generalizing s with
  | nil => exact .inl opened
  | cons a acts ih =>
    rcases ih (sound.act a).1 (hearing.act sound a) opened with before | ⟨first, rest, x, rfl, opens⟩
    · rcases hearing.openings_act sound a with same | ⟨t, l, v, rfl, opens⟩
      · rw [same] at before
        exact .inl before
      · rw [opens.opening] at before
        rcases List.mem_cons.mp before with new | old
        · cases new
          exact .inr ⟨[], acts, l, rfl, opens⟩
        · exact .inl old
    · exact .inr ⟨a :: first, rest, x, rfl, opens⟩

/-! ## Requests that wait -/

theorem Event.isPublishFor_iff {e : Event} :
    e.isPublishFor u = true ↔ ∃ k, e.opens? = some (k, u) := by
  cases e with
  | began k h operation => cases operation <;> simp [Event.isPublishFor, Event.opens?]
  | _ => simp [Event.isPublishFor, Event.opens?]

/-- The requests that loops opened are those for which they began publishes. -/
theorem mem_openings {F : Nat → Fate} (accounted : Accounted s F)
    (here : s.tasks[u]? = some (.call c)) :
    (∃ k, (k, u) ∈ s.openings) ↔ u ∈ s.publishes c.publisher := by
  have began := (accounted.call u c (call?_eq_some.mpr here)).publishesFor
  have listed : (∃ k, (k, u) ∈ s.openings) ↔ s.publishesFor u ≠ [] := by
    rw [Ne, List.eq_nil_iff_forall_not_mem, not_forall_not]
    simp only [openings, publishesFor, List.mem_filterMap, List.mem_filter, Event.isPublishFor_iff]
    constructor
    · rintro ⟨k, e, inside, opens⟩
      exact ⟨e, inside, k, opens⟩
    · rintro ⟨e, inside, k, opens⟩
      exact ⟨k, e, inside, opens⟩
  rw [listed, mem_publishes accounted here, began]
  cases (F u).opener? <;> simp

/-- What becomes of requests while the channel of a handle is closed. -/
structure Spared (s : Service) (acts : List Act) (h : Nat) : Prop where
  /-- No loop on the channel opens one. -/
  unopened : ∀ first rest k x u, acts = first ++ .move k :: rest → Opens (s.perform first) k x u →
    (s.perform first).channelOf x.handle ≠ s.channelOf h
  /-- Those that wait are left to the next loop, on another channel. -/
  waiting : ∀ u c, s.tasks[u]? = some (.call c) → c.stage = .waiting → c.request.claimed = false →
    StillWaiting (s.perform acts) u ∨ DroppedUnopened (s.perform acts) u ∨
    AnsweredDead (s.perform acts) u ∨
    ∃ first rest k x, acts = first ++ .move k :: rest ∧ Opens (s.perform first) k x u ∧
      (s.perform first).channelOf x.handle ≠ s.channelOf h

/-- Once the channel of a handle has closed, no loop on it opens a request. -/
theorem unopened_of_closed {h k : Nat} {x : Loop} {later first rest : List Act} (sound : Sound s)
    (hearing : Hearing s) (inBounds : h < s.handles.size) (closed : (s.act a).isOpen h = false)
    (split : a :: later = first ++ .move k :: rest) (opens : Opens (s.perform first) k x u) :
    (s.perform first).channelOf x.handle ≠ s.channelOf h := by
  intro same
  -- the acts up to the opening are the one that closes the channel and some that follow
  obtain ⟨between, within⟩ : ∃ between, first ++ [.move k] = a :: between := by
    cases first with
    | nil => exact ⟨[], by rw [(List.cons.inj split).1]; rfl⟩
    | cons b first => exact ⟨first ++ [.move k], by rw [(List.cons.inj split).1]; rfl⟩
  have own : (s.perform (first ++ [.move k])).channelOf x.handle = s.channelOf h := by
    have kept := surroundings_act (sound.perform first).1 (.move k)
    have exist := (hearing.perform sound first).handles k x opens.here
    rw [perform_concat, kept.channelOf _ exist, same]
  have shut : (s.perform (first ++ [.move k])).isOpen h = false := by
    have more := (surroundings_act sound a).handles
    rw [within]
    exact (isOpen_perform (sound.act a).1 (hearing.act sound a) between
      (Nat.lt_of_lt_of_le inBounds more)).2 closed
  have still := (isOpen_perform sound hearing (first ++ [.move k]) inBounds).1
  have opened := opens.channel.2
  rw [← perform_concat, isOpen, own, ← still, ← isOpen, shut] at opened
  cases opened

/-- A request that waits is opened by one of the acts that follow, or still waits after them, unless it
is withdrawn or answered by a cancellation. -/
theorem waits_or_opened (sound : Sound s) (hearing : Hearing s) (acts : List Act)
    (here : s.tasks[u]? = some (.call c)) (stage : c.stage = .waiting)
    (free : c.request.claimed = false) :
    StillWaiting (s.perform acts) u ∨ DroppedUnopened (s.perform acts) u ∨
      AnsweredDead (s.perform acts) u ∨
      ∃ first rest k x, acts = first ++ .move k :: rest ∧ Opens (s.perform first) k x u := by
  obtain ⟨F, accounted⟩ := sound.accounted
  obtain ⟨sound', grows⟩ := sound.perform acts
  obtain ⟨F', accounted'⟩ := sound'.accounted
  obtain ⟨c', there, -⟩ := grows.call here
  have fits := accounted.call u c (call?_eq_some.mpr here)
  have queued : F u = .queued := fits.queued_of_unclaimed free (by rw [stage]; exact nofun)
  have requested : .requested u ∈ (s.perform acts).history :=
    grows.history.subset (fits.requested_iff.mpr (by rw [queued]; exact nofun))
  by_cases opened : u ∈ (s.perform acts).publishes c'.publisher
  · obtain ⟨k, opened⟩ := (mem_openings accounted' there).mpr opened
    rcases opened_meanwhile sound hearing acts opened with before | ⟨first, rest, x, split, opens⟩
    · have unopened := (mem_publishes accounted here).mp ((mem_openings accounted here).mp ⟨k, before⟩)
      rw [queued] at unopened
      exact absurd rfl unopened
    · exact .inr (.inr (.inr ⟨first, rest, k, x, split, opens⟩))
  · rcases (not_mem_publishes_iff accounted' there requested).mp opened with gone | dead | still
    · exact .inr (.inl gone)
    · exact .inr (.inr (.inl dead))
    · exact .inl still

/-- Requests are spared from the act on with which the channel closes. -/
theorem spared {h : Nat} (sound : Sound s) (hearing : Hearing s) (a : Act) (later : List Act)
    (inBounds : h < s.handles.size) (closed : (s.act a).isOpen h = false) :
    Spared s (a :: later) h := by
  have unopened : ∀ first rest k x u, a :: later = first ++ .move k :: rest →
      Opens (s.perform first) k x u → (s.perform first).channelOf x.handle ≠ s.channelOf h :=
    fun _ _ _ _ _ split opens => unopened_of_closed sound hearing inBounds closed split opens
  refine ⟨unopened, fun u c here stage free => ?_⟩
  rcases waits_or_opened sound hearing (a :: later) here stage free with
    still | gone | dead | ⟨first, rest, k, x, split, opens⟩
  · exact .inl still
  · exact .inr (.inl gone)
  · exact .inr (.inr (.inl dead))
  · exact .inr (.inr (.inr ⟨first, rest, k, x, split, opens, unopened first rest k x u split opens⟩))

/-! ## In every state -/

/-- For everything that can happen, in every state: whatever act comes next opens no request, or it is
the move of a loop that opens one on an open channel, for a publisher that is not cancelled. A loop that
is about to publish on a channel that is not open began that publish while it was open, and it closed
while the loop stood there. And once the channel of a handle has closed, no loop on it opens a request,
and each request that waits is left to a loop on another channel. -/
theorem no_request_spent_on_closed_channel (acts : List Act) :
    let s := fresh.perform acts
    (∀ a, (s.act a).openings = s.openings ∨ ∃ t l u, a = .move t ∧ Opens s t l u) ∧
    (∀ t l notice u, s.loop? t = some l → l.stage = .publishing notice u .entering →
      s.isOpen l.handle = false → ∃ before during, acts = before ++ .move t :: during ∧
        Opens (fresh.perform before) t { l with stage := .idle notice } u ∧
        Stands (fresh.perform (before ++ [.move t])) during t l ∧
        ClosesDuring (fresh.perform (before ++ [.move t])) during l.handle) ∧
    ∀ a later h, h < s.handles.size → (s.act a).isOpen h = false → Spared s (a :: later) h := by
  intro s
  have sound : Sound s := sound_perform acts
  have hearing : Hearing s := hearing_perform acts
  refine ⟨hearing.openings_act sound, fun t l notice u here publishing closed => ?_,
    fun a later h inBounds closed => spared sound hearing a later inBounds closed⟩
  obtain ⟨before, during, split, opens, stands⟩ := opened_before acts here publishing
  refine ⟨before, during, split, opens, stands, closesDuring_of_isOpen ?_ ?_⟩
  · rw [perform_concat]
    exact opens.channel.2
  · rw [← perform_append, List.append_assoc, List.singleton_append, ← split]
    exact closed

/-- A channel is terminated under the first of two requests: the publish fails, its loop ends, and the
second request still waits. -/
theorem second_request_spared :
    let queued : List Act := [.command (.publisher "" "key" {} none) rfl,
      .command (.openChannel 1) rfl, .command (.hold 0 .publish .before) rfl,
      .command (.serve 0 0 true) rfl, .move 0, .command (.publish 0 none {} false true) rfl, .move 1,
      .command (.publish 0 none {} false true) rfl, .move 2, .move 0]
    let closing : Act := .command (.terminate 0 (some .channelClosed)) rfl
    let later : List Act := [.command (.release 0) rfl, .move 0, .move 0, .move 0]
    let l : Loop := { publisher := 0, handle := 0, stage := .publishing (some 0) 1 .entering }
    let s := fresh.perform queued
    let s' := s.perform (closing :: later)
    s.isOpen 0 = true ∧ (s.act closing).isOpen 0 = false ∧
      (∃ before during, queued ++ [closing] = before ++ .move 0 :: during ∧
        Opens (fresh.perform before) 0 { l with stage := .idle (some 0) } 1 ∧
        Stands (fresh.perform (before ++ [.move 0])) during 0 l ∧
        ClosesDuring (fresh.perform (before ++ [.move 0])) during 0) ∧
      Spared s (closing :: later) 0 ∧ s'.valueOf 0 = some (.detached (.closed (some .channelClosed))) ∧
      s'.openings = [(0, 1)] ∧ (s'.publisher 0).intake.order = [2] :=
  ⟨rfl, rfl, (no_request_spent_on_closed_channel _).2.1 0 _ (some 0) 1 rfl rfl rfl,
    (no_request_spent_on_closed_channel _).2.2 _ _ 0 (by decide) rfl, rfl, rfl, rfl⟩

end Relay.Service
