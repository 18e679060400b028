import Relay.Proofs.Dealings

/-!
# What loops do

The journal tells what loops begin on their channels and what they tell the calls and the owner. `entries`
reads off an act which of these events it adds, the last first, and `proceeds_act` says that no others are
added: no command adds any, nor does a call. A publisher counts as forgotten if the owner was told of it
and not otherwise, which `Proceeds` carries along. What holds of such events over a whole run is then a
matter of where loops stand when they move.
-/

namespace Relay.Service

open Broker (Exception Outcome)
open Publisher (Detach)

/-- Whether an event is the deed of a loop: an operation that it began, or something that it told. -/
def Event.isProceeding : Event → Bool
  | .began .. | .returned .. | .reported _ | .forgotten _ => true
  | _ => false

/-- What loops have done, the last first. -/
def proceedings (s : Service) : List Event := s.journal.filter Event.isProceeding

/-- What the owner is told when a publisher is retired. -/
def farewells (s : Service) (p : Nat) : List Event :=
  if (s.publisher p).forgotten then [] else [.forgotten p]

/-- The publish that a loop begins when it takes up the next request, unless the caller withdrew it. -/
def nextPublish? (s : Service) (t : Nat) (l : Loop) : Option Event :=
  (s.publisher l.publisher).intake.take?.bind fun (u, _) =>
    (s.call? u).bind fun c =>
      c.request.openBy.1.map fun message =>
        .began t l.handle
          (.publish u (s.publisher l.publisher).exchange c.request.routingKey {} message)

/-- What a loop does with its next move, if no wait holds it up; the last first. -/
def loopEntries (s : Service) (t : Nat) (l : Loop) : List Event :=
  let p := s.publisher l.publisher
  match l.stage with
  | .fresh =>
    if p.attached then [.began t l.handle .close]
    else if p.dead then .began t l.handle .close :: s.farewells l.publisher
    else (p.sink.map fun _ => .began t l.handle .confirmSelect).toList ++
      [.began t l.handle .notifyClose]
  | .confirming _ (.leaving (.ok ())) =>
    (p.sink.map fun _ => .began t l.handle .notifyPublish).toList
  | .confirming _ (.leaving (.error e)) => [.reported e]
  | .idle notice =>
    if p.dead then .began t l.handle .close :: s.farewells l.publisher
    else if s.noticeOf notice = .waiting then (s.nextPublish? t l).toList
    else []
  | .publishing _ u (.leaving result) => ((s.call? u).map fun _ => .returned t u result).toList
  | _ => []

/-- What an act adds to what loops have done, the last first. -/
def entries (s : Service) : Act → List Event
  | .command _ _ => []
  | .move t =>
    match s.loop? t with
    | some l => if s.isHeldUp l then [] else s.loopEntries t l
    | none => []

/-- What a loop does with its first move. -/
theorem loopEntries_of_fresh {s : Service} {t : Nat} {l : Loop} (fresh : l.stage = .fresh) :
    s.loopEntries t l =
      if (s.publisher l.publisher).attached then [.began t l.handle .close]
      else if (s.publisher l.publisher).dead then
        .began t l.handle .close :: s.farewells l.publisher
      else ((s.publisher l.publisher).sink.map fun _ => .began t l.handle .confirmSelect).toList ++
        [.began t l.handle .notifyClose] := by
  rw [loopEntries, fresh]

/-- What a loop does with a move between two requests. -/
theorem loopEntries_of_idle {s : Service} {t : Nat} {l : Loop} {notice : Option Nat}
    (idle : l.stage = .idle notice) :
    s.loopEntries t l =
      if (s.publisher l.publisher).dead then .began t l.handle .close :: s.farewells l.publisher
      else if s.noticeOf notice = .waiting then (s.nextPublish? t l).toList
      else [] := by
  rw [loopEntries, idle]

/-- Loops do what the events say, the last first, and nothing else. -/
structure Proceeds (s : Service) (es : List Event) (s' : Service) : Prop where
  proceedings : s'.proceedings = es ++ s.proceedings
  /-- The publishers of which the owner was told count as forgotten. -/
  forgotten : ∀ p, (s'.publisher p).forgotten = true ↔
    (s.publisher p).forgotten = true ∨ .forgotten p ∈ es

variable {s s' s'' r : Service} {es fs : List Event} {t p : Nat} {l : Loop} {c : Call}

namespace Proceeds

/-- Publishers stay as they are, and the owner is told nothing. -/
theorem of_publishers (publishers : s'.publishers = s.publishers)
    (proceedings : s'.proceedings = es ++ s.proceedings) (silent : ∀ p, .forgotten p ∉ es) :
    Proceeds s es s' where
  proceedings
  forgotten p := by
    rw [publisher, publishers, ← publisher]
    exact (or_iff_left (silent p)).symm

/-- Neither publishers nor the journal change. -/
theorem of_journal (publishers : s'.publishers = s.publishers) (journal : s'.journal = s.journal) :
    Proceeds s [] s' :=
  of_publishers publishers (congrArg (List.filter Event.isProceeding) journal) nofun

/-- Nothing happens. -/
theorem refl (s : Service) : Proceeds s [] s := of_journal rfl rfl

/-- Two changes follow one another; what the second adds comes before, since the last event is the
first. -/
theorem trans (first : Proceeds s es s') (second : Proceeds s' fs s'') :
    Proceeds s (fs ++ es) s'' where
  proceedings := by rw [second.proceedings, first.proceedings, List.append_assoc]
  forgotten p := by
    rw [second.forgotten, first.forgotten, List.mem_append, or_assoc]
    exact or_congr_right or_comm

/-- What loops do once nothing of that kind happened before. -/
theorem next (idle : Proceeds s [] s') (later : Proceeds s' es s'') : Proceeds s es s'' := by
  have both := idle.trans later
  rwa [List.append_nil] at both

/-! ## What is no deed of a loop -/

/-- An event of another kind is recorded. -/
theorem record {e : Event} (other : e.isProceeding = false) : Proceeds s [] (s.record e) := by
  refine of_publishers rfl ?_ nofun
  rw [Service.proceedings, Service.record, List.filter_cons, other]
  rfl

/-- A log line is no deed. -/
theorem note (s : Service) (p : Nat) (n : Publisher.Note) : Proceeds s [] (s.note p n) := record rfl

/-- The broker changes, and no event tells of it. -/
theorem broker (s : Service) (b : Broker) : Proceeds s [] { s with broker := b } := of_journal rfl rfl

/-- A task is written over. -/
theorem setTask (s : Service) (t : Nat) (x : Task) : Proceeds s [] (s.setTask t x) :=
  of_journal rfl rfl

/-- An operation of the broker adds log lines, which are no deeds. -/
theorem after {α : Type} (s : Service) (o : Outcome α) : Proceeds s [] (s.after o) := by
  refine of_publishers rfl ?_ nofun
  obtain ⟨added, longer, noted⟩ := journal_after s o
  have none : added.filter Event.isProceeding = [] := by
    refine List.filter_eq_nil_iff.mpr fun e inside => ?_
    obtain ⟨n, rfl⟩ := noted e inside
    exact Bool.false_ne_true
  rw [Service.proceedings, longer, List.filter_append, none]
  rfl

/-- A publisher changes, but not in whether it was forgotten. -/
theorem onPublisher {f : Publisher → Publisher}
    (same : (f (s.publisher p)).forgotten = (s.publisher p).forgotten) :
    Proceeds s [] (s.onPublisher p f) where
  proceedings := rfl
  forgotten q := by
    rw [publisher_onPublisher_congr Publisher.forgotten same]
    exact (or_iff_left List.not_mem_nil).symm

/-- An intake is emptied and its calls answered, of which no event tells. -/
theorem drain (s : Service) (p : Nat) : Proceeds s [] (s.drain p) := by
  have answered : Proceeds s [] (s.answerDead 0 (s.publisher p).intake.order).1 :=
    of_journal (answerDead_spec s 0 _).1 (answerDead_spec s 0 _).2.2.1
  have emptied := answered.next (.onPublisher (p := p) (f := fun q => { q with intake := {} }) rfl)
  unfold Service.drain
  simp only []
  split
  · exact emptied
  · exact emptied.next (.note _ _ _)

/-- A cancellation is the deed of whoever cancels. -/
theorem cancel (s : Service) (p : Nat) : Proceeds s [] (s.cancel p).1 := by
  unfold Service.cancel
  split
  · exact record rfl
  · have sentenced : Proceeds s [] ((s.record (.cancelled p true)).onPublisher p
        fun q => { q with dead := true }) := (record rfl).next (.onPublisher rfl)
    exact sentenced.next ((note _ _ _).next (drain _ p))

/-- A loop that leaves lets go of its publisher and of the channel, and tells nobody. -/
theorem detach (s : Service) (l : Loop) : Proceeds s [] (s.detach l) := by
  unfold Service.detach
  simp only []
  split
  · exact (broker s _).next (onPublisher rfl)
  · exact broker s _

/-- The end of a loop is the end of a task and no deed. -/
theorem endLoop (s : Service) (t : Nat) (l : Loop) (reason : Detach) :
    Proceeds s [] (s.endLoop t l reason) :=
  (detach s l).next ((setTask _ t _).next (record (e := .ended t (.detached reason)) rfl))

/-- No move of a call is the deed of a loop. -/
theorem moveCall (moves : s.moveCall t c = some s') : Proceeds s [] s' := by
  have ends : ∀ {r : Service} {result : Except Publisher.Failure Unit},
      Proceeds r [] (r.endCall t c result) := fun {r result} =>
    (setTask r t _).next (record (e := .ended t (c.value result)) rfl)
  unfold Service.moveCall at moves
  split at moves
  · cases moves
    unfold beginCall
    split
    · exact ends
    · split
      · exact (cancel s c.publisher).next ((note _ _ _).next ends)
      · exact (onPublisher rfl).next ((setTask _ t _).next (record (e := .requested t) rfl))
  · obtain ⟨result, -, rfl⟩ := Option.map_eq_some_iff.mp moves
    exact ends
  · cases moves
  · cases moves

/-- Nor is it one that a call is dropped. -/
theorem dropCall (s : Service) (t : Nat) (c : Call) : Proceeds s [] (s.dropCall t c) := by
  have leaves : ∀ {r : Service} {x : Task}, Proceeds r [] ((r.setTask t x).record (.dropped t)) :=
    fun {r x} => (setTask r t x).next (record rfl)
  unfold Service.dropCall
  split
  · exact leaves
  · exact (onPublisher rfl).next leaves
  · exact refl s
  · exact refl s

/-! ## Moves of loops -/

/-- A deed is recorded that is no message to forget a publisher. -/
theorem told {e : Event} (deed : e.isProceeding = true) (other : ∀ p, .forgotten p ≠ e) :
    Proceeds s [e] (s.record e) := by
  refine of_publishers rfl ?_ fun p inside => other p (List.mem_singleton.mp inside)
  rw [Service.proceedings, Service.record, List.filter_cons, deed]
  rfl

/-- A loop begins an operation. -/
theorem began (s : Service) (t h : Nat) (operation : ChannelCall) :
    Proceeds s [.began t h operation] (s.record (.began t h operation)) :=
  told rfl nofun

/-- A loop changes its place. -/
theorem moveTo (s : Service) (t : Nat) (l : Loop) (stage : LoopStage) :
    Proceeds s [] (s.moveTo t l stage) :=
  of_journal rfl rfl

/-- A loop that begins to close its channel does that and nothing else. -/
theorem beginClose (s : Service) (t : Nat) (l : Loop) (farewell : Farewell) :
    Proceeds s [.began t l.handle .close] (s.beginClose t l farewell) :=
  (began s t l.handle .close).trans (moveTo _ t l _)

/-- A retiring loop tells the owner to forget the publisher, unless that was told before. -/
theorem retire (inBounds : p < s.publishers.size) : Proceeds s (s.farewells p) (s.retire p) := by
  unfold Service.retire farewells
  split
  · exact refl s
  · refine ⟨rfl, fun q => ?_⟩
    rw [List.mem_singleton, Event.forgotten.injEq]
    change ((s.onPublisher p fun q => { q with forgotten := true }).publisher q).forgotten = true ↔ _
    rw [publisher_onPublisher]
    by_cases same : q = p
    · simp [same, inBounds]
    · simp [same]

/-- What the owner is told depends on nothing but whether the publisher was forgotten. -/
theorem farewells_of_same (same : (s'.publisher p).forgotten = (s.publisher p).forgotten) :
    s'.farewells p = s.farewells p := by
  rw [farewells, same, farewells]

/-- A loop that asks for a close notice begins that operation. -/
theorem listen (s : Service) (t : Nat) (l : Loop) :
    Proceeds s [.began t l.handle .notifyClose] (s.listen t l).1 := by
  have begins := began s t l.handle .notifyClose
  unfold Service.listen
  simp only []
  split
  · exact begins
  · exact begins.trans (broker _ _)

/-- Asking for a close notice leaves publishers as they are. -/
theorem publishers_listen (s : Service) (t : Nat) (l : Loop) :
    (s.listen t l).1.publishers = s.publishers := by
  unfold Service.listen
  simp only []
  split <;> rfl

/-- A loop that attaches itself asks for a notice and, with a sink, for confirm mode. -/
theorem attach (s : Service) (t : Nat) (l : Loop) :
    Proceeds s (((s.publisher l.publisher).sink.map
      fun _ => Event.began t l.handle .confirmSelect).toList ++ [.began t l.handle .notifyClose])
      (s.attach t l) := by
  have listens : Proceeds s [.began t l.handle .notifyClose]
      ((s.onPublisher l.publisher fun p => { p with status := .clear }).listen t l).1 :=
    (onPublisher rfl).next (listen _ t l)
  have sink : (((s.onPublisher l.publisher fun p => { p with status := .clear }).listen
      t l).1.publisher l.publisher).sink = (s.publisher l.publisher).sink := by
    rw [publisher, publishers_listen]
    exact publisher_onPublisher_congr Publisher.sink rfl _
  unfold Service.attach
  simp only [sink]
  cases (s.publisher l.publisher).sink with
  | none => exact listens.trans ((note _ _ _).next (moveTo _ t l _))
  | some k => exact listens.trans ((began _ t l.handle .confirmSelect).trans (moveTo _ t l _))

/-- The first move of a loop does what is read off the service before it. -/
theorem beginLoop (fresh : l.stage = .fresh) (inBounds : l.publisher < s.publishers.size) :
    Proceeds s (s.loopEntries t l) (s.beginLoop t l) := by
  have taken : Proceeds s [] (s.onPublisher l.publisher fun p => { p with loop := some t }) :=
    onPublisher rfl
  have kept : ∀ {α : Type} (g : Publisher → α), (∀ p k, g { p with loop := k } = g p) →
      g ((s.onPublisher l.publisher fun p => { p with loop := some t }).publisher l.publisher) =
        g (s.publisher l.publisher) :=
    fun g same => publisher_onPublisher_congr g (same _ _) _
  rw [loopEntries_of_fresh fresh]
  unfold Service.beginLoop
  simp only []
  split
  · exact (note _ _ _).next (beginClose _ t l _)
  · rw [kept Publisher.dead fun _ _ => rfl]
    split
    · rw [← farewells_of_same (kept Publisher.forgotten fun _ _ => rfl)]
      have still := publishers_size_onPublisher s l.publisher fun p => { p with loop := some t }
      have retired := taken.next (retire (still ▸ inBounds))
      exact retired.trans ((note _ _ _).next (beginClose _ t l _))
    · rw [← kept Publisher.sink fun _ _ => rfl]
      exact taken.next (attach _ t l)

/-- The end of a close is logged, and the loop is over. -/
theorem endClose (s : Service) (t : Nat) (l : Loop) (farewell : Farewell)
    (result : Except Exception Unit) : Proceeds s [] (s.endClose t l farewell result) := by
  unfold Service.endClose
  simp only []
  split
  · exact (note _ _ _).next ((note _ _ _).next (endLoop _ t l _))
  · exact (note _ _ _).next (endLoop _ t l _)
  · exact (note _ _ _).next (endLoop _ t l _)
  · exact endLoop _ t l _

/-- Taking up a request begins the publish of the message, if the caller is still there for it. -/
theorem takeUp {notice : Option Nat} {u : Nat} {rest : Publisher.Intake}
    (next : (s.publisher l.publisher).intake.take? = some (u, rest)) :
    Proceeds s (s.nextPublish? t l).toList ((s.withIntake l.publisher rest).takeUp t l notice u) := by
  have taken : Proceeds s [] (s.withIntake l.publisher rest) := onPublisher rfl
  have exchange : ((s.withIntake l.publisher rest).publisher l.publisher).exchange =
      (s.publisher l.publisher).exchange :=
    publisher_onPublisher_congr Publisher.exchange rfl _
  unfold Service.takeUp nextPublish?
  simp only [next, Option.bind_some, exchange]
  rw [show (s.withIntake l.publisher rest).call? u = s.call? u from rfl]
  cases s.call? u with
  | none => exact taken
  | some c =>
    simp only [Option.bind_some, Publisher.Request.openBy]
    cases c.request.claimed with
    | true => exact taken.next (note _ _ _)
    | false =>
      have opened : Proceeds s [] ((s.withIntake l.publisher rest).setTask u
          (.call { c with request := { c.request with claimed := true } })) :=
        taken.next (setTask _ u _)
      exact opened.next ((began _ t l.handle _).trans (moveTo _ t l _))

/-- A move between two requests does what is read off the service before it. -/
theorem moveIdle {notice : Option Nat} (idle : l.stage = .idle notice)
    (inBounds : l.publisher < s.publishers.size) (moves : s.moveIdle t l notice = some s') :
    Proceeds s (s.loopEntries t l) s' := by
  rw [loopEntries_of_idle idle]
  unfold Service.moveIdle at moves
  simp only [] at moves
  split at moves
  · next dead =>
    cases moves
    -- what the owner is told is read off before the intake is drained, which makes no difference
    have unaltered : ((s.drain l.publisher).publisher l.publisher).forgotten =
        (s.publisher l.publisher).forgotten := by
      rw [publisher_drain, if_pos rfl]
    have still : (s.drain l.publisher).publishers.size = s.publishers.size := by
      rw [publishers_drain, publishers_size_onPublisher]
    rw [if_pos dead, ← farewells_of_same unaltered]
    exact ((drain s _).next (retire (still ▸ inBounds))).trans (beginClose _ t l _)
  · next live =>
    rw [if_neg live]
    split at moves
    · next told =>
      cases moves
      rw [if_neg (by rw [told]; exact nofun)]
      exact (note _ _ _).next ((onPublisher rfl).next (endLoop _ t l _))
    · next told =>
      cases moves
      rw [if_neg (by rw [told]; exact nofun)]
      exact (note _ _ _).next (endLoop _ t l _)
    · next lost =>
      cases moves
      rw [if_neg (by rw [lost]; exact nofun)]
      exact (note _ _ _).next (endLoop _ t l _)
    · next waits =>
      obtain ⟨⟨u, rest⟩, next, rfl⟩ := Option.map_eq_some_iff.mp moves
      rw [if_pos waits]
      exact takeUp next

/-- The end of confirm mode registers the sink, or reports the refusal to the owner. -/
theorem endConfirm {notice : Option Nat} {result : Except Exception Unit}
    (confirming : l.stage = .confirming notice (.leaving result)) :
    Proceeds s (s.loopEntries t l) (s.endConfirm t l notice result) := by
  have serves : ∀ {r : Service}, Proceeds r [] (r.beginServing t l notice) :=
    (note _ _ _).next (moveTo _ t l _)
  unfold Service.endConfirm
  simp only [loopEntries, confirming]
  cases result with
  | error e => exact ((note _ _ _).next (told (e := .reported e) rfl nofun)).trans serves
  | ok =>
    cases (s.publisher l.publisher).sink with
    | none => exact serves
    | some k => exact (began s t l.handle .notifyPublish).trans ((broker _ _).next serves)

/-- That a message reaches the channel is an event of the broker and no deed of the loop. -/
theorem publishNow (s : Service) (t : Nat) (l : Loop) (notice : Option Nat) (u : Nat) :
    Proceeds s [] (s.publishNow t l notice u) := by
  unfold Service.publishNow
  split
  · exact moveTo s t l _
  · simp only []
    split
    · exact (after s _).next ((record rfl).next (moveTo _ t l _))
    · exact (after s _).next (moveTo _ t l _)

/-- The end of a publish is returned to the caller, if there is one. -/
theorem endPublish {notice : Option Nat} {u : Nat} {result : Except Exception Unit}
    (publishing : l.stage = .publishing notice u (.leaving result)) :
    Proceeds s (s.loopEntries t l) (s.endPublish t l notice u result) := by
  have answers : ∀ {r : Service} {x : Task}, Proceeds r [.returned t u result]
      (((r.setTask u x).moveTo t l (.idle notice)).record (.returned t u result)) := fun {r x} =>
    (setTask r u x).next ((moveTo _ t l _).next (told rfl nofun))
  unfold Service.endPublish
  simp only [loopEntries, publishing]
  cases s.call? u with
  | none => exact moveTo s t l _
  | some c =>
    cases result with
    | ok => exact answers
    | error e => exact (note _ _ _).next answers

/-- Every move of a loop does what is read off the service before it. -/
theorem moveFreely (inBounds : l.publisher < s.publishers.size)
    (moves : s.moveFreely t l = some s') : Proceeds s (s.loopEntries t l) s' := by
  unfold Service.moveFreely at moves
  split at moves
  · next fresh =>
    cases moves
    exact beginLoop fresh inBounds
  · next closing =>
    cases moves
    simp only [loopEntries, closing]
    exact (after s _).next (moveTo _ t l _)
  · next closing =>
    cases moves
    simp only [loopEntries, closing]
    exact endClose s t l _ _
  · next confirming =>
    cases moves
    simp only [loopEntries, confirming]
    exact of_journal rfl rfl
  · next confirming =>
    cases moves
    exact endConfirm confirming
  · next idle => exact moveIdle idle inBounds moves
  · next publishing =>
    cases moves
    simp only [loopEntries, publishing]
    exact publishNow s t l _ _
  · next publishing =>
    cases moves
    exact endPublish publishing
  · cases moves
  · cases moves

end Proceeds

/-- A loop that waits for requests, and cannot move, has none to take up. -/
theorem nextPublish?_of_stuck {notice : Option Nat} (stuck : s.moveIdle t l notice = none) :
    (s.publisher l.publisher).dead = false ∧ s.nextPublish? t l = none := by
  unfold moveIdle at stuck
  simp only [] at stuck
  split at stuck
  · cases stuck
  · next live =>
    split at stuck
    · cases stuck
    · cases stuck
    · cases stuck
    · rw [nextPublish?, Option.map_eq_none_iff.mp stuck]
      exact ⟨Bool.eq_false_iff.mpr live, rfl⟩

/-- Where a loop cannot move, nothing is read off. -/
theorem loopEntries_of_stuck (stuck : s.moveFreely t l = none) : s.loopEntries t l = [] := by
  unfold moveFreely at stuck
  unfold loopEntries
  cases stage : l.stage with
  | fresh =>
    rw [stage] at stuck
    cases stuck
  | idle notice =>
    rw [stage] at stuck
    obtain ⟨live, nothing⟩ := nextPublish?_of_stuck stuck
    simp [live, nothing]
  | finished | dropped | closing => rfl
  | confirming notice phase | publishing notice u phase =>
    rw [stage] at stuck
    cases phase <;> cases stuck

/-! ## Commands -/

namespace Proceeds

/-- A command on a channel adds no deed if it adds none for the channel found. -/
theorem withChannel {h : Nat} {f : Nat → Service × Answer} (inner : ∀ c, Proceeds s [] (f c).1) :
    Proceeds s [] (s.withChannel h f).1 := by
  rw [withChannel_eq]
  split
  · exact inner _
  · exact refl s

/-- A command on a publisher adds no deed if it adds none for the publisher found. -/
theorem withPublisher {n : Nat} {f : Nat → Service × Answer}
    (inner : ∀ p, Proceeds s [] (f p).1) : Proceeds s [] (s.withPublisher n f).1 := by
  unfold Service.withPublisher
  split
  · exact inner _
  · exact refl s

/-- A command on a sink adds no deed if it adds none for a sink that is there. -/
theorem withSink {k : Nat} {f : Service × Answer} (inner : Proceeds s [] f.1) :
    Proceeds s [] (s.withSink k f).1 := by
  unfold Service.withSink
  split
  · exact inner
  · exact refl s

/-- Looking at a listener adds no deed. -/
theorem check (s : Service) (n : Nat) : Proceeds s [] (s.check n).1 := by
  unfold Service.check
  split
  · exact refl s
  · exact refl s
  · split <;> exact of_journal rfl rfl

/-- Dropping a task adds no deed, not even where a loop is dropped in the midst of an operation. -/
theorem drop (s : Service) (t : Nat) : Proceeds s [] (s.drop t) := by
  unfold Service.drop
  split
  · exact dropCall s t _
  · next l here =>
    by_cases isOver : (Task.loop l).isOver = true
    · rw [dropLoop_of_over isOver]
      exact refl s
    · rw [dropLoop_of_not_over (Bool.eq_false_iff.mpr isOver)]
      have left : Proceeds s [] (s.abandonCall l) :=
        of_journal (publishers_abandonCall l) (journal_abandonCall l)
      exact left.next ((detach _ l).next ((moveTo _ t l _).next (record rfl)))
  · exact refl s

/-- A new publisher is not forgotten. -/
theorem addPublisher {q : Publisher} (new : q.forgotten = false) :
    Proceeds s [] (s.addPublisher q).1 where
  proceedings := rfl
  forgotten k := by
    rw [or_iff_left List.not_mem_nil]
    change ({ s with publishers := s.publishers.push q }.publisher k).forgotten = true ↔ _
    rw [publisher_push]
    split
    · next last =>
      rw [new, last, publisher, Array.getElem?_eq_none (Nat.le_refl _)]
      rfl
    · rfl

/-- A command that polls nothing adds no deed. -/
theorem step {c : Command} (s : Service) (passive : c.polls = false) :
    Proceeds s [] (s.step c).1 := by
  unfold Service.step
  cases c with
  | declare | rejectNext | nackNext | failConfirmSelect | sink | published => exact of_journal rfl rfl
  | openChannel count =>
    unfold openHandle
    simp only []
    split
    · exact (after s _).next (of_journal rfl rfl)
    · exact after s _
  | disconnect | restore => exact after s _
  | close | terminate => exact withChannel fun _ => after s _
  | confirmSelect | listen | dropChannel | hold | release | mute =>
    exact withChannel fun _ => of_journal rfl rfl
  | notifyPublish => exact withChannel fun _ => withSink (of_journal rfl rfl)
  | publishOn =>
    refine withChannel fun _ => ?_
    unfold publishOn
    simp only []
    split
    · exact (after s _).next (record rfl)
    · exact after s _
    · exact after s _
  | check n => exact check s n
  | receive | dropSink => exact withSink (of_journal rfl rfl)
  | publisher => exact addPublisher rfl
  | clone | profile => exact withPublisher fun _ => of_journal rfl rfl
  | cancel => exact withPublisher fun p => cancel s p
  | publish n key message overtaken deferred =>
    cases deferred with
    | false => cases passive
    | true => exact withPublisher fun _ => of_journal rfl rfl
  | write n body deferred overtaken =>
    cases deferred with
    | false => cases passive
    | true => exact withPublisher fun _ => of_journal rfl rfl
  | serve n h deferred =>
    cases deferred with
    | false => cases passive
    | true => exact withPublisher fun _ => withChannel fun _ => of_journal rfl rfl
  | poll | settle => cases passive
  | dropTask t =>
    simp only []
    split
    · exact drop s t
    · exact refl s

end Proceeds

/-! ## Acts -/

/-- What loops have done is what acts add, one after the other. -/
theorem proceeds_act (sound : Sound s) (a : Act) : Proceeds s (s.entries a) (s.act a) := by
  cases a with
  | command c passive => exact .step s passive
  | move t =>
    cases moves : s.move t with
    | none =>
      rw [act_move_of_none moves]
      cases here : s.loop? t with
      | none =>
        simp only [entries, here]
        exact .refl s
      | some l =>
        -- held up or stuck: in the first case no entry is read off, in the second there is none
        rw [move_of_loop here, moveLoop] at moves
        simp only [entries, here]
        split
        · exact .refl s
        · next free =>
          rw [if_neg free] at moves
          rw [loopEntries_of_stuck moves]
          exact .refl s
    | some s' =>
      rw [act_move_of_some moves]
      cases here : s.loop? t with
      | none =>
        simp only [entries, here]
        cases there : s.tasks[t]? with
        | none => rw [move_of_absent there] at moves; cases moves
        | some x =>
          cases x with
          | call c =>
            rw [move, there] at moves
            exact .moveCall moves
          | loop l =>
            rw [loop?_eq_some.mpr there] at here
            cases here
      | some l =>
        rw [move_of_loop here, moveLoop] at moves
        split at moves
        · cases moves
        · next free =>
          simp only [entries, here, if_neg free]
          exact .moveFreely (sound.bounded.task t _ (loop?_eq_some.mp here)) moves

end Relay.Service
