import Relay.Proofs.Effects

/-!
# What a run never takes back

The identity of a publisher, a call or a loop is fixed when it is made; nothing leaves a table; the
journal only gets longer; a cancelled publisher stays cancelled, with the status that it had. `Grows`
collects these facts. It is reflexive and transitive, holds of every single write, and so of every
step.
-/

namespace Relay

/-- A publisher as it was when it was new. -/
def Publisher.founded (p : Publisher) : Publisher :=
  { exchange := p.exchange, routingKey := p.routingKey, template := p.template, sink := p.sink }

namespace Service

/-- What stays when a service goes on. -/
structure Grows (s s' : Service) : Prop where
  size : s.publishers.size ≤ s'.publishers.size
  founded : ∀ p, p < s.publishers.size → (s'.publisher p).founded = (s.publisher p).founded
  names : ∀ n p : Nat, s.names[n]? = some p → s'.names[n]? = some p
  issued : ∀ (t : Nat) (x : Task), s.tasks[t]? = some x →
    ∃ x', s'.tasks[t]? = some x' ∧ x'.issued = x.issued
  history : s.history <:+ s'.history
  journal : s.journal <:+ s'.journal
  dead : ∀ p, (s.publisher p).dead = true →
    (s'.publisher p).dead = true ∧ (s'.publisher p).status = (s.publisher p).status

/-- What stays, moreover, when nothing is added to a table. -/
structure Alters (s s' : Service) : Prop extends Grows s s' where
  sameNames : s'.names = s.names
  samePublishers : s'.publishers.size = s.publishers.size
  sameTasks : s'.tasks.size = s.tasks.size

namespace Grows

variable {s s' s'' : Service}

/-- A service that nothing happens to. -/
theorem refl (s : Service) : Grows s s where
  size := Nat.le_refl _
  founded _ _ := rfl
  names _ _ h := h
  issued _ x h := ⟨x, h, rfl⟩
  history := List.suffix_rfl
  journal := List.suffix_rfl
  dead _ h := ⟨h, rfl⟩

/-- What stays in each of two steps stays in both. A cancelled publisher keeps the status that it
had before the first one. -/
theorem trans (h : Grows s s') (h' : Grows s' s'') : Grows s s'' where
  size := Nat.le_trans h.size h'.size
  founded p inBounds :=
    (h'.founded p (Nat.lt_of_lt_of_le inBounds h.size)).trans (h.founded p inBounds)
  names n p here := h'.names n p (h.names n p here)
  issued t x here := by
    obtain ⟨x', here', same⟩ := h.issued t x here
    obtain ⟨x'', here'', same'⟩ := h'.issued t x' here'
    exact ⟨x'', here'', same'.trans same⟩
  history := h.history.trans h'.history
  journal := h.journal.trans h'.journal
  dead p dead := by
    obtain ⟨dead', same⟩ := h.dead p dead
    obtain ⟨dead'', same'⟩ := h'.dead p dead'
    exact ⟨dead'', same'.trans same⟩

/-! ## Tasks that stay -/

/-- The loop of an index is still that loop after a service has grown. -/
theorem loop (grows : Grows s s') {l : Nat} {x : Loop} (here : s.tasks[l]? = some (.loop x)) :
    ∃ x', s'.tasks[l]? = some (.loop x') ∧ x'.publisher = x.publisher ∧ x'.handle = x.handle := by
  obtain ⟨y, here', same⟩ := grows.issued l _ here
  cases y with
  | call c => cases same
  | loop x' =>
    simp only [Task.issued, Task.loop.injEq, Loop.mk.injEq] at same
    exact ⟨x', here', same.1, same.2.1⟩

/-- The call of an index is still that call after a service has grown. -/
theorem call (grows : Grows s s') {t : Nat} {c : Call} (here : s.tasks[t]? = some (.call c)) :
    ∃ c', s'.tasks[t]? = some (.call c') ∧ c'.publisher = c.publisher ∧ c'.purpose = c.purpose ∧
      c'.request.routingKey = c.request.routingKey ∧ c'.request.message = c.request.message := by
  obtain ⟨x, there, same⟩ := grows.issued t _ here
  cases x with
  | loop l => cases same
  | call c' =>
    simp only [Task.issued, Task.call.injEq, Call.mk.injEq, Publisher.Request.mk.injEq] at same
    exact ⟨c', there, same.1, same.2.1, same.2.2.2.1.1, same.2.2.2.1.2.1⟩

/-! ## Additions -/

/-- A new task gets a new index. -/
theorem pushTask (s : Service) (x : Task) : Grows s { s with tasks := s.tasks.push x } := by
  refine { refl s with issued := fun u y there => ⟨y, ?_, rfl⟩ }
  have inBounds : u < s.tasks.size := (Array.getElem?_eq_some_iff.mp there).1
  rw [tasks_push, if_neg (Nat.ne_of_lt inBounds), there]

/-- A new handle gets a new number, and stands for a publisher that is there already. -/
theorem addName (s : Service) (p : Nat) : Grows s (s.addName p).1 := by
  refine { refl s with names := fun n q here => ?_ }
  have inBounds : n < s.names.size := (Array.getElem?_eq_some_iff.mp here).1
  rw [Service.addName, Array.getElem?_push, if_neg (Nat.ne_of_lt inBounds), here]

/-- A new publisher comes last, with a handle of its own. It is not dead, so nothing is asked of its
status. -/
theorem addPublisher (s : Service) (p : Publisher) : Grows s (s.addPublisher p).1 := by
  have earlier : ∀ q, q < s.publishers.size → (s.addPublisher p).1.publisher q = s.publisher q :=
    fun q inBounds => (publisher_push s p q).trans (if_neg (Nat.ne_of_lt inBounds))
  refine
    { refl s with
      size := by rw [Service.addPublisher, Array.size_push]; exact Nat.le_succ _
      founded := fun q inBounds => by rw [earlier q inBounds]
      names := (addName s s.publishers.size).names
      dead := fun q dead => ?_ }
  by_cases inBounds : q < s.publishers.size
  · rw [earlier q inBounds]
    exact ⟨dead, rfl⟩
  · -- beyond the table no publisher is dead
    rw [publisher, Array.getElem?_eq_none (Nat.le_of_not_lt inBounds)] at dead
    cases dead

end Grows

namespace Alters

variable {s s' s'' : Service}

/-- A service that nothing happens to adds nothing to a table either. -/
theorem refl (s : Service) : Alters s s := ⟨Grows.refl s, rfl, rfl, rfl⟩

/-- Nothing is added to a table by two steps that add nothing. -/
theorem trans (h : Alters s s') (h' : Alters s' s'') : Alters s s'' :=
  ⟨h.toGrows.trans h'.toGrows, h'.sameNames.trans h.sameNames,
    h'.samePublishers.trans h.samePublishers, h'.sameTasks.trans h.sameTasks⟩

/-! ## Single writes -/

/-- What calls and publishers cannot tell is at most something that is said in the journal. -/
theorem of_alike (h : Alike s s') : Alters s s' := by
  have publisher : ∀ p, s'.publisher p = s.publisher p := fun p => by
    rw [Service.publisher, h.publishers, Service.publisher]
  refine
    { size := Nat.le_of_eq (by rw [h.publishers])
      founded := fun p _ => by rw [publisher p]
      names := fun n p here => by rw [h.names, here]
      issued := fun t x here => ⟨x, by rw [h.tasks, here], rfl⟩
      history := by rw [h.history]
      journal := h.journal
      dead := fun p dead => ?_
      sameNames := h.names
      samePublishers := by rw [h.publishers]
      sameTasks := by rw [h.tasks] }
  rw [publisher p]
  exact ⟨dead, rfl⟩

/-- An event is added to the journal, and to the history too if it decides something. -/
theorem record (s : Service) (e : Event) : Alters s (s.record e) := by
  refine { refl s with history := ?_, journal := List.suffix_cons _ _ }
  by_cases decisive : e.isDecisive = true
  · rw [history_record_of_decisive decisive]
    exact List.suffix_cons _ _
  · rw [history_record_of_not_decisive (Bool.eq_false_iff.mpr decisive)]

/-- A publisher may change in everything but its identity, provided that a dead one stays dead, with
its status. -/
theorem onPublisher {p : Nat} {f : Publisher → Publisher}
    (founded : (f (s.publisher p)).founded = (s.publisher p).founded)
    (dead : (s.publisher p).dead = true →
      (f (s.publisher p)).dead = true ∧ (f (s.publisher p)).status = (s.publisher p).status) :
    Alters s (s.onPublisher p f) := by
  refine
    { refl s with
      size := Nat.le_of_eq (publishers_size_onPublisher _ _ _).symm
      founded := fun q _ => ?_
      dead := fun q => ?_
      samePublishers := publishers_size_onPublisher _ _ _ }
  · rw [publisher_onPublisher]
    split
    · next same => rw [same.1, founded]
    · rfl
  · rw [publisher_onPublisher]
    split
    · next same => rw [same.1]; exact dead
    · exact fun h => ⟨h, rfl⟩

/-- A task may change in everything that was not given when it was issued. -/
theorem setTask {t : Nat} {y x : Task} (here : s.tasks[t]? = some y)
    (same : x.issued = y.issued) : Alters s (s.setTask t x) := by
  refine { refl s with issued := fun u z there => ?_, sameTasks := tasks_size_setTask _ _ _ }
  rw [tasks_setTask_of_some here]
  by_cases at_t : u = t
  · subst at_t
    rw [here] at there
    cases there
    exact ⟨x, if_pos rfl, same⟩
  · exact ⟨z, by rw [if_neg at_t, there], rfl⟩

/-- A loop that leaves its publisher is no longer attached to it, and lets its channel go. -/
theorem detach (s : Service) (l : Loop) : Alters s (s.detach l) := by
  have quiet : Alters s { s with broker := s.broker.letGo (s.channelOf l.handle) } :=
    of_alike (.of_fields rfl rfl rfl rfl)
  unfold Service.detach
  split
  · exact quiet.trans (onPublisher rfl fun dead => ⟨dead, rfl⟩)
  · exact quiet

/-- A call whose request is answered because its publisher is dead is the same call. -/
theorem issued_strand (x : Task) : x.strand.issued = x.issued := by
  cases x with
  | call c =>
    by_cases claimed : c.request.claimed = true
    · simp only [Task.strand, Publisher.Request.strand_of_claimed claimed]
    · have free := Bool.eq_false_iff.mpr claimed
      simp only [Task.strand, Task.issued, Publisher.Request.strand_of_unclaimed free,
        Publisher.Request.answer]
      split <;> rfl
  | loop l => rfl

/-- A dead publisher answers what waits in its intake. Neither its identity nor its status changes,
and every call that it answers is the same call. -/
theorem drain (s : Service) (p : Nat) : Alters s (s.drain p) := by
  refine
    { size := Nat.le_of_eq (by rw [publishers_drain, publishers_size_onPublisher])
      founded := fun q _ => ?_
      names := fun n q here => by rw [names_drain, here]
      issued := fun u x here => ?_
      history := by rw [history_drain]
      journal := journal_suffix_drain s p
      dead := fun q => ?_
      sameNames := names_drain s p
      samePublishers := by rw [publishers_drain, publishers_size_onPublisher]
      sameTasks := tasks_size_drain s p }
  · rw [publisher_drain]
    split
    · next same => rw [same]; rfl
    · rfl
  · rw [tasks_drain, here]
    split
    · exact ⟨x.strand, rfl, issued_strand x⟩
    · exact ⟨x, rfl, rfl⟩
  · rw [publisher_drain]
    split
    · next same => rw [same]; exact fun dead => ⟨dead, rfl⟩
    · exact fun dead => ⟨dead, rfl⟩

/-- A cancellation makes a live publisher dead, whose status is then the one to keep; a dead one
only answers. -/
theorem cancel (s : Service) (p : Nat) : Alters s (s.cancel p).1 := by
  by_cases dead : (s.publisher p).dead = true
  · rw [cancel_of_dead dead]
    exact record _ _
  · rw [cancel_of_live (Bool.eq_false_iff.mpr dead)]
    have recorded : Alters s (s.record (.cancelled p true)) := record _ _
    have sentenced : Alters (s.record (.cancelled p true))
        ((s.record (.cancelled p true)).onPublisher p fun q => { q with dead := true }) :=
      onPublisher rfl fun dead' => absurd dead' dead
    have noted : Alters s (s.sentence p) :=
      (recorded.trans sentenced).trans (of_alike (.note _ _ _))
    exact noted.trans (drain _ _)

/-! ## Tasks -/

/-- A loop at another place is the same loop. -/
theorem moveTo {t : Nat} {l : Loop} (here : s.tasks[t]? = some (.loop l)) (stage : LoopStage) :
    Alters s (s.moveTo t l stage) := setTask here rfl

/-- A call that returns is the same call. -/
theorem endCall {t : Nat} {c : Call} (here : s.tasks[t]? = some (.call c))
    (r : Except Publisher.Failure Unit) : Alters s (s.endCall t c r) := by
  -- the request that the call forsakes has the key and the message that it had
  have ended : Alters s (s.setTask t (.call (c.ended r))) := setTask here (by
    simp only [Task.issued, Call.ended, Publisher.Request.forsake, Publisher.Request.withdraw]
    split <;> rfl)
  exact ended.trans (record _ _)

/-- A request that is put into an intake changes that intake and the place of its call. -/
theorem enqueue {t : Nat} {c : Call} (here : s.tasks[t]? = some (.call c)) :
    Alters s (s.enqueue t c) := by
  have put : Alters s (s.onPublisher c.publisher fun p =>
      { p with intake := p.intake.put t (s.isReady c.publisher) }) :=
    onPublisher rfl fun dead => ⟨dead, rfl⟩
  have waits : Alters (s.onPublisher c.publisher fun p =>
      { p with intake := p.intake.put t (s.isReady c.publisher) }) _ :=
    setTask (y := .call c) (x := .call { c with stage := .waiting }) here rfl
  exact (put.trans waits).trans (record _ _)

/-- A call that is dropped takes its request back, if nobody has opened it. -/
theorem dropCall {t : Nat} {c : Call} (here : s.tasks[t]? = some (.call c)) :
    Alters s (s.dropCall t c) := by
  have same : (Task.call c.left).issued = (Task.call c).issued := by
    simp only [Task.issued, Call.left, Publisher.Request.forsake, Publisher.Request.withdraw]
    split <;> rfl
  by_cases isOver : (Task.call c).isOver = true
  · rw [dropCall_of_over isOver]
    exact refl s
  · rw [dropCall_of_not_over (Bool.eq_false_iff.mpr isOver)]
    refine .trans ?_ (record _ _)
    split
    · have leave : Alters s (s.onPublisher c.publisher fun p =>
          { p with intake := p.intake.leave t }) := onPublisher rfl fun dead => ⟨dead, rfl⟩
      exact leave.trans (setTask (y := .call c) here same)
    · exact setTask here same

/-- A loop that returns has left its publisher first. -/
theorem endLoop {t : Nat} {l : Loop} (here : s.tasks[t]? = some (.loop l))
    (reason : Publisher.Detach) : Alters s (s.endLoop t l reason) := by
  have still : (s.detach l).tasks[t]? = some (.loop l) := by rw [tasks_detach, here]
  have ended : Alters (s.detach l)
      ((s.detach l).setTask t (.loop { l with stage := .finished reason })) := setTask still rfl
  exact (detach s l).trans (ended.trans (record _ _))

/-- The loop that writes to a call is another task, so it stays where it is. -/
theorem setCall {t u : Nat} {l : Loop} {c : Call} {x : Task} (here : s.tasks[t]? = some (.loop l))
    (there : s.tasks[u]? = some (.call c)) (same : x.issued = (Task.call c).issued) :
    Alters s (s.setTask u x) ∧ (s.setTask u x).tasks[t]? = some (.loop l) := by
  refine ⟨setTask there same, ?_⟩
  have apart : t ≠ u := by
    rintro rfl
    rw [here] at there
    cases there
  rw [tasks_setTask_of_some there, if_neg apart, here]

/-- A loop that opens a request claims it in the call, writes down the publish and moves on. -/
theorem openRequest {t u : Nat} {l : Loop} {c : Call} (here : s.tasks[t]? = some (.loop l))
    (there : s.tasks[u]? = some (.call c)) (notice : Option Nat) :
    Alters s (s.openRequest t l notice u c) := by
  obtain ⟨opened, still⟩ := setCall here there
    (x := .call { c with request := { c.request with claimed := true } }) rfl
  have recorded := opened.trans (record _ (.began t l.handle (.publish u
    (s.publisher l.publisher).exchange c.request.routingKey {} c.request.message)))
  exact recorded.trans (setTask (y := .loop l) still rfl)

/-- A loop that is through with a request answers it in the call and stands ready again. -/
theorem closeRequest {t u : Nat} {l : Loop} {c : Call} (here : s.tasks[t]? = some (.loop l))
    (there : s.tasks[u]? = some (.call c)) (notice : Option Nat)
    (result : Except Broker.Exception Unit) : Alters s (s.closeRequest t l notice u c result) := by
  obtain ⟨answered, still⟩ := setCall here there
    (x := .call { c with request := c.request.answer (result.mapError .publish) }) (by
      simp only [Task.issued, Publisher.Request.answer]
      split <;> rfl)
  exact answered.trans (.trans (moveTo still _) (record _ _))

/-- A call whose loop went away is the same call. -/
theorem issued_abandon (c : Call) :
    (Task.call { c with request := c.request.abandon }).issued = (Task.call c).issued := by
  simp only [Task.issued, Publisher.Request.abandon]
  split <;> rfl

/-- A loop that is dropped while it publishes leaves the request of one call without an answer, if
of any. -/
theorem abandonCall (s : Service) (l : Loop) : Alters s (s.abandonCall l) := by
  unfold Service.abandonCall
  split
  · exact refl s
  · split
    · exact refl s
    · next c found => exact setTask (call?_eq_some.mp found) (issued_abandon c)

/-- A loop that is dropped abandons the request that it has opened and leaves its publisher. -/
theorem dropLoop {t : Nat} {l : Loop} (here : s.tasks[t]? = some (.loop l)) :
    Alters s (s.dropLoop t l) := by
  by_cases isOver : (Task.loop l).isOver = true
  · rw [dropLoop_of_over isOver]
    exact refl s
  · rw [dropLoop_of_not_over (Bool.eq_false_iff.mpr isOver)]
    have still : ((s.abandonCall l).detach l).tasks[t]? = some (.loop l) := by
      rw [tasks_detach, loop_abandonCall here]
    have detached := (abandonCall s l).trans (detach _ l)
    exact (detached.trans (moveTo still _)).trans (record _ _)

end Alters

/-- Every step either adds one entry to a table or only changes entries. -/
theorem Step.alters_or_adds {s s' : Service} {a : Option Nat} (h : Step s a s') :
    Alters s s' ∨
      (∃ x : Task, x.issued = x ∧ x.publisher < s.publishers.size ∧
        s' = { s with tasks := s.tasks.push x }) ∨
      (∃ p : Publisher, (p.dead = false ∧ p.loop = none ∧ p.intake = {}) ∧
        s' = (s.addPublisher p).1) ∨
      ∃ p, p < s.publishers.size ∧ s' = (s.addName p).1 := by
  cases h with
  | quiet alike => exact .inl (.of_alike alike)
  | cancel _ _ => exact .inl (.cancel _ _)
  | refuse here _ _ => exact .inl (.endCall here _)
  | request here _ _ => exact .inl (.enqueue here)
  | learn here _ _ => exact .inl (.endCall here _)
  | @attach t l _ here _ _ _ _ =>
    have attached : Alters s (s.onPublisher l.publisher fun p => { p with loop := some t }) :=
      .onPublisher rfl fun dead => ⟨dead, rfl⟩
    exact .inl (attached.trans (.setTask (y := .loop l) here rfl))
  | status live =>
    exact .inl (.onPublisher rfl fun dead => absurd dead (by rw [live]; exact Bool.false_ne_true))
  | forget => exact .inl (.onPublisher rfl fun dead => ⟨dead, rfl⟩)
  | drain _ => exact .inl (.drain _ _)
  | advance here _ _ _ => exact .inl (.moveTo here _)
  | skip _ _ _ _ _ => exact .inl (.onPublisher rfl fun dead => ⟨dead, rfl⟩)
  | @begin t l _ _ _ rest here _ _ _ there _ =>
    have taken : Alters s (s.withIntake l.publisher rest) :=
      .onPublisher rfl fun dead => ⟨dead, rfl⟩
    exact .inl (taken.trans (.openRequest (s := s.withIntake l.publisher _) here there _))
  | answer here _ there => exact .inl (.closeRequest here there _ _)
  | endLoop here _ _ => exact .inl (.endLoop here _)
  | dropCall here => exact .inl (.dropCall here)
  | dropLoop here => exact .inl (.dropLoop here)
  | issue new inBounds => exact .inr (.inl ⟨_, new, inBounds, rfl⟩)
  | addPublisher new => exact .inr (.inr (.inl ⟨_, new, rfl⟩))
  | addName inBounds => exact .inr (.inr (.inr ⟨_, inBounds, rfl⟩))

/-- No step takes anything back. -/
theorem Step.grows {s s' : Service} {a : Option Nat} (h : Step s a s') : Grows s s' := by
  -- the three tables that can get longer are those of tasks, of publishers and of handles
  rcases h.alters_or_adds with alters | ⟨x, -, -, rfl⟩ | ⟨p, -, rfl⟩ | ⟨p, -, rfl⟩
  · exact alters.toGrows
  · exact .pushTask s x
  · exact .addPublisher s p
  · exact .addName s p

end Service

end Relay
