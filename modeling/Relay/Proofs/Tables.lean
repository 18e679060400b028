import Relay.Proofs.History

/-!
# Reading the tables of a service after a change

Tasks and publishers are read by index. Each change of a service touches one entry of a table, or,
when a publisher is cancelled, the calls whose requests wait in its intake; the lemmas below say what
every index reads afterwards.
-/

namespace Relay

namespace Publisher.Request

/-- What the cancellation makes of a waiting request: it is answered `dead`, unless its caller
withdrew it. -/
def strand (r : Request) : Request :=
  match r.openBy with
  | (none, _) => r
  | (some _, opened) => opened.answer (.error .dead)

/-- A request that somebody has claimed is left to whoever did. -/
theorem strand_of_claimed {r : Request} (claimed : r.claimed = true) : r.strand = r := by
  simp [strand, openBy, claimed]

/-- A request that nobody has claimed is claimed and answered. -/
theorem strand_of_unclaimed {r : Request} (free : r.claimed = false) :
    r.strand = { r with claimed := true }.answer (.error .dead) := by
  simp [strand, openBy, free]

/-- An answer changes nothing about who claimed the request. -/
@[simp] theorem claimed_answer (r : Request) (result : Except Failure Unit) :
    (r.answer result).claimed = r.claimed := by
  unfold answer
  split <;> rfl

/-- Nor the message. -/
@[simp] theorem message_answer (r : Request) (result : Except Failure Unit) :
    (r.answer result).message = r.message := by
  unfold answer
  split <;> rfl

/-- Nor the routing key. -/
@[simp] theorem routingKey_answer (r : Request) (result : Except Failure Unit) :
    (r.answer result).routingKey = r.routingKey := by
  unfold answer
  split <;> rfl

/-- An answer that is awaited is given. -/
theorem reply_answer {r : Request} (awaited : r.reply = .awaited) (result : Except Failure Unit) :
    (r.answer result).reply = .answered result := by
  rw [answer, awaited]

/-- A request whose caller went away: it is claimed, by the caller if by nobody else. -/
theorem forsake_eq (r : Request) : r.forsake = { r with claimed := true } := by
  unfold forsake withdraw
  split
  · next claimed => rw [← claimed]
  · rfl

/-- A request whose answer is awaited is left without one. -/
theorem abandon_eq {r : Request} (awaited : r.reply = .awaited) :
    r.abandon = { r with reply := .abandoned } := by
  rw [abandon, awaited]

/-- After the cancellation of its publisher a request is claimed. -/
theorem claimed_strand (r : Request) : r.strand.claimed = true := by
  by_cases claimed : r.claimed = true
  · rw [strand_of_claimed claimed, claimed]
  · rw [strand_of_unclaimed (Bool.eq_false_iff.mpr claimed), claimed_answer]

/-- So a second cancellation changes nothing. -/
theorem strand_strand (r : Request) : r.strand.strand = r.strand :=
  strand_of_claimed r.claimed_strand

end Publisher.Request

namespace Service

open Publisher (Request)

/-- The publisher that a task belongs to. -/
def Task.publisher : Task → Nat
  | .call c => c.publisher
  | .loop l => l.publisher

/-- What the cancellation makes of a task whose request waits. -/
def Task.strand : Task → Task
  | .call c => .call { c with request := c.request.strand }
  | .loop l => .loop l

/-- There is a call at an index just if the task there is that call. -/
theorem call?_eq_some {s : Service} {t : Nat} {c : Call} :
    s.call? t = some c ↔ s.tasks[t]? = some (.call c) := by
  unfold call?
  split <;> simp_all

/-! ## One entry -/

/-- The tasks after one of them was written over, if it was there. -/
theorem tasks_setTask (s : Service) (t : Nat) (x : Task) (u : Nat) :
    (s.setTask t x).tasks[u]?
      = if u = t then (if t < s.tasks.size then some x else none) else s.tasks[u]? := by
  rw [setTask, Array.getElem?_setIfInBounds]
  simp only [eq_comm (a := t)]

/-- Writing over a task that is there. -/
theorem tasks_setTask_of_some {s : Service} {t : Nat} {old : Task}
    (here : s.tasks[t]? = some old) (x : Task) (u : Nat) :
    (s.setTask t x).tasks[u]? = if u = t then some x else s.tasks[u]? := by
  have inBounds : t < s.tasks.size := (Array.getElem?_eq_some_iff.mp here).1
  rw [tasks_setTask, if_pos inBounds]

/-- The tasks with one more at the end. -/
theorem tasks_push (s : Service) (x : Task) (u : Nat) :
    { s with tasks := s.tasks.push x }.tasks[u]?
      = if u = s.tasks.size then some x else s.tasks[u]? := by
  rw [Array.getElem?_push]

/-- The publishers after one of them changed, if it is there. -/
theorem publisher_onPublisher (s : Service) (p : Nat) (f : Publisher → Publisher) (q : Nat) :
    (s.onPublisher p f).publisher q
      = if q = p ∧ p < s.publishers.size then f (s.publisher p) else s.publisher q := by
  rw [onPublisher, publisher, Array.getElem?_modify]
  by_cases same : p = q
  · subst same
    -- beyond the table there is nothing to change
    by_cases inBounds : p < s.publishers.size
    · simp [publisher, inBounds]
    · simp [publisher, inBounds]
  · simp [publisher, same, Ne.symm same]

/-- What a change of a publisher leaves as it is stays for all publishers. -/
theorem publisher_onPublisher_congr {α : Sort _} (g : Publisher → α) {s : Service} {p : Nat}
    {f : Publisher → Publisher} (same : g (f (s.publisher p)) = g (s.publisher p)) (q : Nat) :
    g ((s.onPublisher p f).publisher q) = g (s.publisher q) := by
  rw [publisher_onPublisher]
  split
  · next at_p => rw [at_p.1, same]
  · rfl

/-- The service with another intake for a publisher. -/
abbrev withIntake (s : Service) (p : Nat) (i : Publisher.Intake) : Service :=
  s.onPublisher p fun q => { q with intake := i }

/-- The publishers after one of them got another intake. -/
theorem publisher_withIntake (s : Service) (p : Nat) (i : Publisher.Intake) (q : Nat) :
    (s.withIntake p i).publisher q
      = if q = p ∧ p < s.publishers.size then { s.publisher p with intake := i }
        else s.publisher q :=
  publisher_onPublisher s p _ q

/-- Changing a publisher neither adds nor removes one. -/
theorem publishers_size_onPublisher (s : Service) (p : Nat) (f : Publisher → Publisher) :
    (s.onPublisher p f).publishers.size = s.publishers.size := by
  rw [onPublisher, Array.size_modify]

/-- Writing a task over neither adds nor removes one. -/
theorem tasks_size_setTask (s : Service) (t : Nat) (x : Task) :
    (s.setTask t x).tasks.size = s.tasks.size := by
  rw [setTask, Array.size_setIfInBounds]

/-- The publishers with one more at the end. -/
theorem publisher_push (s : Service) (x : Publisher) (q : Nat) :
    { s with publishers := s.publishers.push x }.publisher q
      = if q = s.publishers.size then x else s.publisher q := by
  rw [publisher, Array.getElem?_push]
  split <;> rfl

/-! ## What is read off tasks -/

section Reading

variable {α : Type} {s s' : Service} {t : Nat} {x : Task} {f : Task → Option α}

/-- A task is written over. -/
theorem bind_of_write (tasks : ∀ u : Nat, s'.tasks[u]? = if u = t then some x else s.tasks[u]?)
    (u : Nat) : s'.tasks[u]?.bind f = if u = t then f x else s.tasks[u]?.bind f := by
  rw [tasks u]
  split
  · rfl
  · rfl

/-- A task is written over by one that reads the same. -/
theorem bind_of_write_same {y : Task} (here : s.tasks[t]? = some y)
    (tasks : ∀ u : Nat, s'.tasks[u]? = if u = t then some x else s.tasks[u]?) (same : f x = f y)
    (u : Nat) : s'.tasks[u]?.bind f = s.tasks[u]?.bind f := by
  rw [bind_of_write tasks]
  split
  · next at_t => rw [at_t, here, same]; rfl
  · rfl

/-- What a change of tasks makes of a task reads the same. -/
theorem bind_map_of_same {g : Task → Task} (same : ∀ x, f (g x) = f x) (x : Option Task) :
    (x.map g).bind f = x.bind f := by
  rw [Option.bind_map]
  exact congrArg x.bind (funext same)

end Reading

/-! ## The cancellation -/

/-- Answering requests `dead` touches nothing but the calls that made them. -/
theorem answerDead_spec (s : Service) (count : Nat) (ts : List Nat) :
    (s.answerDead count ts).1.publishers = s.publishers ∧
    (s.answerDead count ts).1.names = s.names ∧
    (s.answerDead count ts).1.journal = s.journal ∧
    (s.answerDead count ts).1.tasks.size = s.tasks.size ∧
    ∀ u : Nat, (s.answerDead count ts).1.tasks[u]?
      = if u ∈ ts then s.tasks[u]?.map Task.strand else s.tasks[u]? := by
  induction ts generalizing s count with
  | nil => simp [answerDead]
  | cons t rest ih =>
    -- in each case the head is left as it is or stranded; stranding it again changes nothing
    rw [answerDead]
    cases found : s.call? t with
    | none =>
      obtain ⟨h1, h2, h3, h4, h5⟩ := ih s count
      refine ⟨h1, h2, h3, h4, fun u => ?_⟩
      rw [h5 u]
      by_cases same : u = t
      · subst same
        have noCall : s.tasks[u]?.map Task.strand = s.tasks[u]? := by
          cases here : s.tasks[u]? with
          | none => rfl
          | some x =>
            cases x with
            | call c => rw [call?_eq_some.mpr here] at found; cases found
            | loop l => rfl
        simp [noCall]
      · simp [same]
    | some c =>
      have here := call?_eq_some.mp found
      by_cases claimed : c.request.claimed = true
      · obtain ⟨h1, h2, h3, h4, h5⟩ := ih s count
        simp only [Request.openBy, claimed, if_true]
        refine ⟨h1, h2, h3, h4, fun u => ?_⟩
        rw [h5 u]
        by_cases same : u = t
        · subst same
          simp [here, Task.strand, Request.strand_of_claimed claimed]
        · simp [same]
      · have free := Bool.eq_false_iff.mpr claimed
        have stranded := Request.strand_of_unclaimed free
        simp only [Request.openBy, free, Bool.false_eq_true, if_false]
        rw [← stranded]
        obtain ⟨h1, h2, h3, h4, h5⟩ :=
          ih (s.setTask t (.call { c with request := c.request.strand })) (count + 1)
        refine ⟨h1, h2, h3, h4.trans (tasks_size_setTask _ _ _), fun u => ?_⟩
        rw [h5 u, tasks_setTask_of_some here]
        by_cases same : u = t
        · subst same
          simp [here, Task.strand, Request.strand_strand]
        · simp [same]

end Service

end Relay
