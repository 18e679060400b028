import Relay.Proofs.Accounts

/-!
# Requests stay accounted for

Each step keeps `Accounted`, for a new assignment of fates that differs from the old one in the calls
that the step is about. The last theorem puts the steps together; of a run it says that after every
command some assignment accounts for all requests.
-/

namespace Relay.Service

open Broker (Exception)
open Publisher (Failure Request)

variable {s s' : Service} {t : Nat} {F : Nat → Fate}

namespace Accounted

/-! ## Calls -/

/-- An event in the course of one call is none in the courses of the others. -/
theorem courses_of_other {e : Event} {v : Value} (longer : s'.history = e :: s.history)
    (own : e = .ended t v ∨ e = .requested t ∨ e = .dropped t) {u : Nat} (other : u ≠ t) :
    s'.course u = s.course u ∧ s'.returnsTo u = s.returnsTo u := by
  apply courses_of_history longer
  rcases own with rfl | rfl | rfl
  all_goals exact ⟨beq_false_of_ne (Ne.symm other), rfl⟩

/-- A call that ends, refused or with an answer. -/
theorem endCall {c : Call} {r : Except Failure Unit} (accounted : Accounted s F)
    (bounded : Bounded s) (here : s.tasks[t]? = some (.call c))
    (fits : Fits (s.endCall t c r) t (c.ended r) (F t)) (outside : ¬ (F t).Waits) :
    Accounted (s.endCall t c r) F := by
  have before := call?_eq_some.mpr here
  have tasks := tasks_endCall here r
  have change : Change s (s.endCall t c r) F t c (c.ended r) (F t) :=
    accounted.change_outside (Alters.endCall here r).toGrows before (call?_of_tasks tasks) rfl fits
      (fun u other _ => courses_of_other (v := c.value r) (history_endCall c r) (.inl rfl) other)
      (fun _ => ⟨rfl, rfl⟩) outside (fun queued => outside (.inl queued))
      (accounted.carried_update (carries_of_write here tasks rfl) fun _ _ => Iff.rfl)
  have changed := accounted.change bounded change
  rw [Function.update_eq_self] at changed
  exact changed

/-- A call that is turned away has put in no request. -/
theorem refuse {c : Call} {e : Failure} (accounted : Accounted s F) (bounded : Bounded s)
    (here : s.tasks[t]? = some (.call c)) (fresh : c.stage = .fresh) (refusal : e.isRefusal = true) :
    Accounted (s.endCall t c (.error e)) F := by
  have fits := accounted.call t c (call?_eq_some.mpr here)
  apply accounted.endCall bounded here (fits.refuse fresh refusal (history_endCall c _))
  rw [fits.fresh fresh]
  exact Fate.not_waits_unsent

/-- A call that learns its answer has been answered, or never will be. -/
theorem learn {c : Call} {r : Except Failure Unit} (accounted : Accounted s F) (bounded : Bounded s)
    (here : s.tasks[t]? = some (.call c)) (waiting : c.stage = .waiting)
    (outcome : c.request.outcome? = some r) : Accounted (s.endCall t c r) F := by
  have fits := accounted.call t c (call?_eq_some.mpr here)
  have inBounds : c.publisher < s.publishers.size := bounded.task t _ here
  refine accounted.endCall bounded here
    (fits.learn (Alters.endCall here r).toGrows inBounds waiting outcome (history_endCall c r)) ?_
  rintro (queued | withdrawn)
  · rw [Request.outcome?, fits.reply, queued] at outcome
    cases outcome
  · exact (fits.waiting waiting).2 withdrawn

/-- A request that is put in waits. -/
theorem request {c : Call} (accounted : Accounted s F) (bounded : Bounded s)
    (here : s.tasks[t]? = some (.call c)) (fresh : c.stage = .fresh)
    (admitted : (s.publisher c.publisher).refusal? = none) :
    Accounted (s.enqueue t c) (Function.update F t .queued) := by
  have before := call?_eq_some.mpr here
  have fits := accounted.call t c before
  have inBounds : c.publisher < s.publishers.size := bounded.task t _ here
  have unsent := fits.fresh fresh
  -- no task stands in the order twice: an unsent request is not yet in it
  have new : t ∉ (s.publisher c.publisher).intake.order := by
    refine accounted.not_mem_order ?_ _
    rw [unsent]
    exact Fate.not_waits_unsent
  have live : (s.publisher c.publisher).dead = false := by
    refine Bool.eq_false_iff.mpr fun dead => ?_
    rw [Publisher.refusal?, if_pos dead] at admitted
    cases admitted
  have tasks := tasks_enqueue here
  have order : ((s.enqueue t c).publisher c.publisher).intake
      = (s.publisher c.publisher).intake.put t (s.isReady c.publisher) := by
    rw [publisher_enqueue, if_pos ⟨rfl, inBounds⟩]
  -- the call is the only one whose fate changes, and its publisher the only one whose order does
  have change : Change s (s.enqueue t c) F t c { c with stage := .waiting } .queued :=
    { grows := (Alters.enqueue here).toGrows
      here := before
      own := rfl
      calls := call?_of_tasks tasks
      fits := fits.request fresh (history_enqueue c)
      courses := fun u other _ =>
        courses_of_other (v := .published) (history_enqueue c) (.inr (.inl rfl)) other
      elsewhere := fun p other => by rw [publisher_enqueue, if_neg fun own => other own.1]
      nodup := by
        rw [order]
        exact Publisher.Intake.nodup_order_put (accounted.nodup _) new
      others := fun u other => by
        rw [order, Publisher.Intake.mem_order_put, or_iff_right other]
      waits := fun _ => .inl rfl
      queued := fun _ => by
        rw [order]
        exact Publisher.Intake.mem_order_put.mpr (.inl rfl)
      dead := publisher_onPublisher_congr Publisher.dead rfl
      closed := fun dead => by rw [live] at dead; cases dead
      carried := accounted.carried_update (carries_of_write here tasks rfl) fun l h => by
        rw [unsent]
        exact ⟨nofun, nofun⟩ }
  exact accounted.change bounded change

/-- A request whose caller goes away waits on as a shell. -/
theorem left_waits {f : Fate} (waits : f.Waits) : f.left.Waits := by
  rcases waits with rfl | rfl
  · exact .inr rfl
  · exact .inr rfl

/-- One that is under way stays so. -/
theorem left_underWay {f : Fate} {l h : Nat} : f.left = .underWay l h ↔ f = .underWay l h := by
  cases f <;> simp [Fate.left]

/-- None whose caller has gone away is to be served. -/
theorem left_ne_queued (f : Fate) : f.left ≠ .queued := by
  cases f <;> simp [Fate.left]

/-- The intake of a call that is dropped is the old one, perhaps without the call. -/
theorem order_dropCall {c : Call} (alive : (Task.call c).isOver = false) :
    ((s.dropCall t c).publisher c.publisher).intake.order.Sublist
        (s.publisher c.publisher).intake.order ∧
      ∀ u, u ≠ t → (u ∈ ((s.dropCall t c).publisher c.publisher).intake.order ↔
        u ∈ (s.publisher c.publisher).intake.order) := by
  rcases publisher_dropCall (s := s) (t := t) alive c.publisher with same | ⟨-, left⟩
  · rw [same]
    exact ⟨List.Sublist.refl _, fun _ _ => Iff.rfl⟩
  · rw [left]
    exact ⟨Publisher.Intake.order_leave_sublist _ t,
      fun u other => Publisher.Intake.mem_order_leave other⟩

/-- After a call is dropped all is accounted for. -/
theorem dropCall {c : Call} (accounted : Accounted s F) (bounded : Bounded s)
    (here : s.tasks[t]? = some (.call c)) : ∃ F', Accounted (s.dropCall t c) F' := by
  by_cases isOver : (Task.call c).isOver = true
  · rw [dropCall_of_over isOver]
    exact ⟨F, accounted⟩
  have alive := Bool.eq_false_iff.mpr isOver
  have before := call?_eq_some.mpr here
  have fits := accounted.call t c before
  have inBounds : c.publisher < s.publishers.size := bounded.task t _ here
  have grows : Grows s (s.dropCall t c) := (Alters.dropCall here).toGrows
  have longer := history_dropCall (s := s) (t := t) alive
  have tasks := tasks_dropCall here alive
  obtain ⟨fewer, others⟩ := order_dropCall (s := s) (t := t) alive
  have publisher := publisher_dropCall (s := s) (t := t) alive
  -- the request stays where it was, as a shell: `Fate.left` says what its caller's going makes of it
  have change : Change s (s.dropCall t c) F t c c.left (F t).left :=
    { grows
      here := before
      own := rfl
      calls := call?_of_tasks tasks
      fits := fits.leave grows inBounds alive longer
      courses := fun u other _ =>
        courses_of_other (v := .published) longer (.inr (.inr rfl)) other
      elsewhere := fun p other => by
        rcases publisher p with same | ⟨own, -⟩
        · rw [same]
        · exact absurd own other
      nodup := fewer.nodup (accounted.nodup _)
      others
      waits := fun inside => by
        obtain ⟨-, -, -, waits⟩ := accounted.intake _ t (fewer.subset inside)
        exact left_waits waits
      queued := fun queued => absurd queued (left_ne_queued _)
      dead := fun p => by
        rcases publisher p with same | ⟨-, same⟩
        · rw [same]
        · rw [same]
      closed := fun dead => by
        rw [accounted.dead _ dead] at fewer
        exact List.sublist_nil.mp fewer
      carried := accounted.carried_update (carries_of_write here tasks rfl) fun _ _ =>
        left_underWay }
  exact ⟨_, accounted.change bounded change⟩

/-! ## Publishing -/

/-- A loop and a call change. -/
theorem call?_of_pair {l x : Loop} {caller : Nat} {c : Call} (here : s.tasks[t]? = some (.loop l))
    (away : t ≠ caller)
    (tasks : ∀ u : Nat, s'.tasks[u]? = if u = t then some (.loop x)
      else if u = caller then some (.call c) else s.tasks[u]?) (u : Nat) :
    s'.call? u = if u = caller then some c else s.call? u := by
  unfold call?
  rw [tasks u]
  by_cases at_t : u = t
  · subst at_t
    rw [if_pos rfl, if_neg away, here]
  · rw [if_neg at_t]
    by_cases at_caller : u = caller
    · simp only [if_pos at_caller]
    · simp only [if_neg at_caller]

/-- What loops publish after a loop and a call were written over. -/
theorem carries_of_pair {x : Loop} {caller : Nat} {c c' : Call}
    (there : s.tasks[caller]? = some (.call c))
    (tasks : ∀ u : Nat, s'.tasks[u]? = if u = t then some (.loop x)
      else if u = caller then some (.call c') else s.tasks[u]?) (u : Nat) :
    s'.carries u = if u = t then x.stage.caller? else s.carries u := by
  rw [carries, tasks u, carries]
  by_cases at_t : u = t
  · rw [if_pos at_t, if_pos at_t]
    rfl
  · rw [if_neg at_t, if_neg at_t]
    split
    · next at_caller => rw [at_caller, there]; rfl
    · rfl

/-- What an idle loop takes out of the intake next. -/
theorem taken {p caller : Nat} {rest : Publisher.Intake} (accounted : Accounted s F)
    (next : (s.publisher p).intake.take? = some (caller, rest)) :
    (∃ c, s.call? caller = some c ∧ c.publisher = p ∧ (F caller).Waits) ∧
      caller ∉ rest.order ∧ rest.order.Nodup ∧
      (∀ u, u ≠ caller → (u ∈ rest.order ↔ u ∈ (s.publisher p).intake.order)) ∧
      (s.publisher p).dead = false := by
  have order := Publisher.Intake.order_of_take? next
  have nodup := accounted.nodup p
  rw [order] at nodup
  obtain ⟨apart, nodup⟩ := List.nodup_cons.mp nodup
  refine ⟨accounted.intake p caller ?_, apart, nodup, fun u other => ?_, ?_⟩
  · rw [order]
    exact List.mem_cons_self
  · rw [order, List.mem_cons, or_iff_right other]
  · refine Bool.eq_false_iff.mpr fun dead => ?_
    rw [accounted.dead p dead] at order
    cases order

/-- The loop at an index no longer publishes for the call that it had. -/
theorem carried_release {caller h : Nat} {f : Fate} (accounted : Accounted s F)
    (underWay : F caller = .underWay t h) (returned : ∀ l h, f ≠ .underWay l h)
    (carries : ∀ l, s'.carries l = if l = t then none else s.carries l) (l u : Nat) :
    s'.carries l = some u ↔ ∃ h, Function.update F caller f u = .underWay l h := by
  have carried := (accounted.carried t caller).mpr ⟨h, underWay⟩
  rw [carries l]
  by_cases at_caller : u = caller
  · subst at_caller
    simp only [Function.update_self, returned, exists_false, iff_false]
    split
    · exact nofun
    · next other =>
      -- no other loop carries the call
      intro carried'
      obtain ⟨h', underWay'⟩ := (accounted.carried l u).mp carried'
      rw [underWay] at underWay'
      cases underWay'
      exact other rfl
  · rw [Function.update_of_ne at_caller, ← accounted.carried l u]
    split
    · next at_t =>
      rw [at_t, carried]
      simp [Ne.symm at_caller]
    · rfl

/-- The loop at an index begins to publish for a call that nobody published for. -/
theorem carried_take {caller h : Nat} (accounted : Accounted s F)
    (waits : (F caller).Waits) (idle : s.carries t = none)
    (carries : ∀ l, s'.carries l = if l = t then some caller else s.carries l) (l u : Nat) :
    s'.carries l = some u ↔ ∃ h', Function.update F caller (.underWay t h) u = .underWay l h' := by
  rw [carries l]
  by_cases at_caller : u = caller
  · subst at_caller
    rw [Function.update_self]
    by_cases at_t : l = t
    · subst at_t
      simp
    · simp only [at_t, if_false, Fate.underWay.injEq, Ne.symm at_t, false_and, exists_false,
        iff_false]
      intro carried
      obtain ⟨h', underWay⟩ := (accounted.carried l u).mp carried
      rw [underWay] at waits
      exact Fate.not_waits_underWay waits
  · rw [Function.update_of_ne at_caller, ← accounted.carried l u]
    split
    · next at_t =>
      rw [at_t, idle]
      simp [Ne.symm at_caller]
    · rfl

/-- A loop passes over a request that its caller withdrew. -/
theorem skip {p caller : Nat} {c : Call} {rest : Publisher.Intake} (accounted : Accounted s F)
    (bounded : Bounded s) (inBounds : p < s.publishers.size)
    (next : (s.publisher p).intake.take? = some (caller, rest))
    (there : s.tasks[caller]? = some (.call c)) (claimed : c.request.claimed = true) :
    Accounted (s.withIntake p rest) F := by
  have before := call?_eq_some.mpr there
  obtain ⟨⟨d, there', own, waits⟩, apart, nodup, others, live⟩ := accounted.taken next
  rw [before] at there'
  cases there'
  subst own
  have fits := accounted.call caller c before
  -- the call keeps its fate: a shell has left no trace but that of its caller
  have withdrawn : F caller ≠ .queued := by
    intro queued
    rw [queued] at fits
    rw [fits.unclaimed_of_queued] at claimed
    cases claimed
  have grows : Grows s (s.withIntake c.publisher rest) :=
    (Alters.onPublisher rfl fun dead => ⟨dead, rfl⟩).toGrows
  have written : (s.withIntake c.publisher rest).publisher c.publisher
      = { s.publisher c.publisher with intake := rest } := by
    rw [publisher_withIntake, if_pos ⟨rfl, inBounds⟩]
  have change : Change s (s.withIntake c.publisher rest) F caller c c (F caller) :=
    { grows
      here := before
      own := rfl
      calls := fun u => by
        split
        · next at_caller => rw [at_caller]; exact before
        · rfl
      fits := fits.grow grows inBounds rfl rfl
      courses := fun _ _ _ => ⟨rfl, rfl⟩
      elsewhere := fun p other => by rw [publisher_withIntake, if_neg fun own => other own.1]
      nodup := by rw [written]; exact nodup
      others := fun u other => by rw [written]; exact others u other
      waits := fun inside => by rw [written] at inside; exact absurd inside apart
      queued := fun queued => absurd queued withdrawn
      dead := publisher_onPublisher_congr Publisher.dead rfl
      closed := fun dead => by rw [live] at dead; cases dead
      carried := accounted.carried_update (fun _ => rfl) fun _ _ => Iff.rfl }
  have changed := accounted.change bounded change
  rw [Function.update_eq_self] at changed
  exact changed

/-- A loop opens a request. -/
theorem begin {l : Loop} {notice : Option Nat} {caller : Nat} {c : Call} {rest : Publisher.Intake}
    (accounted : Accounted s F) (bounded : Bounded s) (here : s.tasks[t]? = some (.loop l))
    (idle : l.stage = .idle notice)
    (next : (s.publisher l.publisher).intake.take? = some (caller, rest))
    (there : s.tasks[caller]? = some (.call c)) (free : c.request.claimed = false) :
    Accounted ((s.withIntake l.publisher rest).openRequest t l notice caller c)
      (Function.update F caller (.underWay t l.handle)) := by
  have before := call?_eq_some.mpr there
  obtain ⟨⟨d, there', own, waits⟩, apart, nodup, others, live⟩ := accounted.taken next
  rw [before] at there'
  cases there'
  have fits := accounted.call caller c before
  have inBounds : l.publisher < s.publishers.size := bounded.task t _ here
  -- what a loop finds unclaimed in the intake was not withdrawn
  have queued : F caller = .queued := by
    rcases waits with queued | withdrawn
    · exact queued
    · refine fits.queued_of_unclaimed free fun fresh => ?_
      rw [fits.fresh fresh] at withdrawn
      cases withdrawn
  rw [queued] at fits
  have taken : Grows s (s.withIntake l.publisher rest) :=
    (Alters.onPublisher rfl fun dead => ⟨dead, rfl⟩).toGrows
  have opened := Alters.openRequest (s := s.withIntake l.publisher rest) here there notice
  have grows := taken.trans opened.toGrows
  have tasks := tasks_openRequest (s := s.withIntake l.publisher rest) here there notice
  have written : (s.withIntake l.publisher rest).publisher l.publisher
      = { s.publisher l.publisher with intake := rest } := by
    rw [publisher_withIntake, if_pos ⟨rfl, inBounds⟩]
  have exchange : ((s.withIntake l.publisher rest).publisher l.publisher).exchange
      = (s.publisher c.publisher).exchange := by
    rw [written, own]
  have longer := history_openRequest (s := s.withIntake l.publisher rest) (t := t) l notice caller c
  rw [exchange] at longer
  have away : t ≠ caller := ne_of_loop_of_call here before
  have order : (((s.withIntake l.publisher rest).openRequest t l notice caller c).publisher
      c.publisher).intake = rest := by
    rw [own]
    exact congrArg Publisher.intake written
  have change : Change s ((s.withIntake l.publisher rest).openRequest t l notice caller c) F caller c
      { c with request := { c.request with claimed := true } } (.underWay t l.handle) :=
    { grows
      here := before
      own := rfl
      calls := call?_of_pair (s := s) here away tasks
      fits := fits.begin grows (by rw [own]; exact inBounds) ((tasks t).trans (if_pos rfl)) own.symm
        rfl longer
      courses := fun u other _ =>
        courses_of_history longer ⟨beq_false_of_ne (Ne.symm other), rfl⟩
      elsewhere := fun p other =>
        congrArg (fun q : Publisher => q.intake.order)
          ((publisher_withIntake s l.publisher rest p).trans
            (if_neg fun same => other (same.1.trans own.symm)))
      nodup := by rw [order]; exact nodup
      others := fun u other => by rw [order, own]; exact others u other
      waits := fun inside => by rw [order] at inside; exact absurd inside apart
      queued := nofun
      dead := publisher_onPublisher_congr Publisher.dead rfl
      closed := fun dead => by rw [own, live] at dead; cases dead
      carried := accounted.carried_take waits (carries_of_idle here idle)
        (carries_of_pair (s := s) there tasks) }
  exact accounted.change bounded change

/-- The request of a publishing loop is under way with this loop. -/
theorem underWay_of_publishing {l : Loop} {notice : Option Nat} {caller : Nat} {phase : Phase}
    (accounted : Accounted s F) (here : s.tasks[t]? = some (.loop l))
    (publishing : l.stage = .publishing notice caller phase) : ∃ h, F caller = .underWay t h := by
  apply (accounted.carried t caller).mp
  rw [carries, here, Option.bind_some, Task.caller?, publishing]
  rfl

/-- Only calls have their requests under way. -/
theorem call?_of_underWay {l h : Nat} (accounted : Accounted s F) (underWay : F t = .underWay l h) :
    ∃ c, s.call? t = some c := by
  cases here : s.call? t with
  | none =>
    rw [accounted.absent t here] at underWay
    cases underWay
  | some c => exact ⟨c, rfl⟩

/-- The publish of a loop comes back. -/
theorem answer {l : Loop} {notice : Option Nat} {caller : Nat} {phase : Phase} {c : Call}
    {result : Except Exception Unit} (accounted : Accounted s F) (bounded : Bounded s)
    (here : s.tasks[t]? = some (.loop l)) (publishing : l.stage = .publishing notice caller phase)
    (there : s.tasks[caller]? = some (.call c)) :
    ∃ F', Accounted (s.closeRequest t l notice caller c result) F' := by
  have before := call?_eq_some.mpr there
  obtain ⟨h, underWay⟩ := accounted.underWay_of_publishing here publishing
  have fits := accounted.call caller c before
  rw [underWay] at fits
  have grows := (Alters.closeRequest here there notice result).toGrows
  have tasks := tasks_closeRequest here there notice result
  have longer := history_closeRequest (s := s) (t := t) l notice caller c result
  have away : t ≠ caller := ne_of_loop_of_call here before
  have change : Change s (s.closeRequest t l notice caller c result) F caller c
      { c with request := c.request.answer (result.mapError .publish) } (.served t h result) := by
    refine accounted.change_outside grows before (call?_of_pair here away tasks) rfl
      (fits.answer grows (bounded.task caller _ there) result longer) (fun u other _ => ?_)
      (fun _ => ⟨rfl, rfl⟩) ?_ nofun
      (accounted.carried_release underWay nofun (carries_of_pair (s := s) there tasks))
    · exact courses_of_history longer ⟨rfl, beq_false_of_ne (Ne.symm other)⟩
    · rw [underWay]
      exact Fate.not_waits_underWay
  exact ⟨_, accounted.change bounded change⟩

/-! ## The end of a loop -/

/-- An event about a loop is none in the course of a call. -/
theorem courses_of_loop {e : Event} (longer : s'.history = e :: s.history)
    (own : (∃ v, e = .ended t v) ∨ e = .dropped t) {u : Nat} (other : u ≠ t) :
    s'.course u = s.course u ∧ s'.returnsTo u = s.returnsTo u := by
  apply courses_of_history longer
  rcases own with ⟨v, rfl⟩ | rfl
  all_goals exact ⟨beq_false_of_ne (Ne.symm other), rfl⟩

/-- A loop that ends outside a publish takes no request with it. -/
theorem endLoop {l : Loop} {reason : Publisher.Detach} (accounted : Accounted s F)
    (bounded : Bounded s) (here : s.tasks[t]? = some (.loop l)) (free : l.stage.caller? = none) :
    Accounted (s.endLoop t l reason) F := by
  refine accounted.move_loop bounded (Alters.endLoop here reason).toGrows here
    (x := { l with stage := .finished reason }) (tasks_endLoop here reason) (by rw [free]; rfl)
    (fun u other => courses_of_loop (history_endLoop l reason) (.inl ⟨_, rfl⟩) other)
    (fun p => ?_) fun p => (orders_detach s l p).2
  exact congrArg Publisher.Intake.order (orders_detach s l p).1

/-- The loop that is dropped was publishing for this call. -/
theorem tasks_dropLoop_of_caller {l : Loop} {caller : Nat} {c : Call}
    (here : s.tasks[t]? = some (.loop l)) (alive : (Task.loop l).isOver = false)
    (carried : l.stage.caller? = some caller) (there : s.tasks[caller]? = some (.call c)) (u : Nat) :
    (s.dropLoop t l).tasks[u]?
      = if u = t then some (.loop { l with stage := .dropped })
        else if u = caller then some (.call { c with request := c.request.abandon })
        else s.tasks[u]? := by
  rw [tasks_dropLoop here alive, carried]
  simp only [Option.some.injEq, eq_comm (a := caller)]
  split
  · rfl
  · split
    · next at_caller => rw [at_caller, there]; rfl
    · rfl

/-- A loop that is dropped in the midst of a publish leaves its call abandoned. -/
theorem dropLoop {l : Loop} (accounted : Accounted s F) (bounded : Bounded s)
    (here : s.tasks[t]? = some (.loop l)) : ∃ F', Accounted (s.dropLoop t l) F' := by
  by_cases isOver : (Task.loop l).isOver = true
  · rw [dropLoop_of_over isOver]
    exact ⟨F, accounted⟩
  have alive := Bool.eq_false_iff.mpr isOver
  have grows := (Alters.dropLoop here).toGrows
  have longer := history_dropLoop (s := s) (t := t) alive
  have publisher : ∀ p, ((s.dropLoop t l).publisher p).intake.order = (s.publisher p).intake.order ∧
      ((s.dropLoop t l).publisher p).dead = (s.publisher p).dead := by
    intro p
    obtain ⟨intake, dead⟩ := orders_detach s l p
    rw [publisher_dropLoop alive, intake, dead]
    exact ⟨rfl, rfl⟩
  -- outside a publish no call is touched; within one, only the call the loop carries
  cases carried : l.stage.caller? with
  | some caller =>
    obtain ⟨notice, phase, publishing⟩ := LoopStage.caller?_eq_some.mp carried
    obtain ⟨h, underWay⟩ := accounted.underWay_of_publishing here publishing
    obtain ⟨c, before⟩ := accounted.call?_of_underWay underWay
    have there := call?_eq_some.mp before
    have fits := accounted.call caller c before
    rw [underWay] at fits
    have away : t ≠ caller := ne_of_loop_of_call here before
    have tasks := tasks_dropLoop_of_caller here alive carried there
    have change : Change s (s.dropLoop t l) F caller c { c with request := c.request.abandon }
        (.abandoned t h) := by
      refine accounted.change_outside grows before (call?_of_pair here away tasks) rfl
        (fits.abandon grows (bounded.task caller _ there) away longer)
        (fun u _ call => courses_of_loop longer (.inr rfl) ?_) publisher ?_ nofun
        (accounted.carried_release underWay nofun (carries_of_pair there tasks))
      · rintro rfl
        exact call (call?_of_loop here)
      · rw [underWay]
        exact Fate.not_waits_underWay
    exact ⟨_, accounted.change bounded change⟩
  | none =>
    refine ⟨F, accounted.move_loop bounded grows here (x := { l with stage := .dropped })
      (fun u => ?_) (by rw [carried]; rfl)
      (fun u other => courses_of_loop longer (.inr rfl) other)
      (fun p => (publisher p).1) fun p => (publisher p).2⟩
    rw [tasks_dropLoop here alive, carried]
    simp only [reduceCtorEq, if_false]

/-! ## New entries -/

/-- No event speaks of a task that does not exist. -/
theorem courses_of_new (bounded : Bounded s) (beyond : s.tasks.size ≤ t) :
    s.course t = [] ∧ s.returnsTo t = [] := by
  have silent : ∀ e ∈ s.history, t ∉ e.tasks := by
    intro e inside named
    exact Nat.not_lt.mpr beyond (bounded.event e inside t named)
  constructor
  · refine List.filter_eq_nil_iff.mpr fun e inside own => silent e inside ?_
    cases e with
    | began l h operation => cases operation <;> simp_all [Event.isOf, Event.tasks]
    | _ => simp_all [Event.isOf, Event.tasks]
  · rw [returnsTo_eq_filter_history]
    refine List.filter_eq_nil_iff.mpr fun e inside own => silent e inside ?_
    cases e <;> simp_all [Event.isReturnTo, Event.tasks]

/-- A new task has put in no request. -/
theorem issue {x : Task} (accounted : Accounted s F) (bounded : Bounded s) (new : x.issued = x) :
    Accounted { s with tasks := s.tasks.push x } F := by
  -- nothing refers to the new index yet, and its fate is `unsent` already
  have noCall : s.call? s.tasks.size = none := by
    rw [call?, Array.getElem?_eq_none (Nat.le_refl _)]
  have unsent := accounted.absent _ noCall
  have tasks := tasks_push s x
  have calls := call?_of_tasks tasks
  have grows : Grows s { s with tasks := s.tasks.push x } := .pushTask s x
  refine
    { call := fun u c there => ?_
      absent := fun u none => ?_
      nodup := accounted.nodup
      intake := fun p u inside => ?_
      queued := fun u c there waiting => ?_
      carried := fun l u => ?_
      dead := accounted.dead }
  · rw [calls u] at there
    split at there
    · next at_end =>
      cases x with
      | call d =>
        cases there
        obtain ⟨course, returns⟩ := courses_of_new bounded (Nat.le_of_eq at_end.symm)
        rw [at_end, unsent, ← at_end]
        exact .issue course returns new
      | loop l => cases there
    · exact (accounted.call u c there).grow grows (bounded.task u _ (call?_eq_some.mp there)) rfl rfl
  · rw [calls u] at none
    split at none
    · next at_end => rw [at_end, unsent]
    · exact accounted.absent u none
  · obtain ⟨c, there, own, waits⟩ := accounted.intake p u inside
    refine ⟨c, ?_, own, waits⟩
    rw [calls u, if_neg ?_, there]
    rintro rfl
    rw [noCall] at there
    cases there
  · rw [calls u] at there
    split at there
    · next at_end =>
      rw [at_end, unsent] at waiting
      cases waiting
    · exact accounted.queued u c there waiting
  · rw [carries_of_tasks tasks]
    split
    · next at_end =>
      have idle : x.caller? = s.carries l := by
        rw [carries, at_end, Array.getElem?_eq_none (Nat.le_refl _), ← new]
        cases x <;> rfl
      rw [idle]
      exact accounted.carried l u
    · exact accounted.carried l u

/-- A new publisher has an empty intake. -/
theorem addPublisher {q : Publisher} (accounted : Accounted s F) (bounded : Bounded s)
    (new : q.dead = false ∧ q.loop = none ∧ q.intake = {}) : Accounted (s.addPublisher q).1 F := by
  -- beyond the table there is a live publisher without requests already
  have beyond : s.publisher s.publishers.size = { exchange := "", routingKey := "" } := by
    rw [publisher, Array.getElem?_eq_none (Nat.le_refl _)]
    rfl
  have pushed : ∀ p, (s.addPublisher q).1.publisher p = _ := publisher_push s q
  refine accounted.congr bounded (Grows.addPublisher s q) (fun _ => rfl) (fun _ _ => ⟨rfl, rfl⟩)
    (fun p => ?_) (fun p => ?_) fun _ => rfl
  · rw [pushed p]
    split
    · next at_end => rw [new.2.2, at_end, beyond]
    · rfl
  · rw [pushed p]
    split
    · next at_end => rw [new.1, at_end, beyond]
    · rfl

end Accounted

/-- A step keeps all requests accounted for. -/
theorem Accounted.step {a : Option Nat} (accounted : Accounted s F) (bounded : Bounded s)
    (h : Step s a s') : ∃ F', Accounted s' F' := by
  have grows := h.grows
  cases h with
  -- the fates change where a request is put in, taken, answered or abandoned; in all other cases `F` serves
  -- again
  | quiet alike =>
    have publisher : ∀ p, s'.publisher p = s.publisher p := fun p => by
      rw [Service.publisher, alike.publishers, Service.publisher]
    refine ⟨F, accounted.congr bounded grows (fun u => ?_) (fun _ _ => courses_of_same alike.history)
      (fun p => by rw [publisher p]) (fun p => by rw [publisher p]) fun u => ?_⟩
    · rw [call?, alike.tasks, call?]
    · rw [carries, alike.tasks, carries]
  | cancel _ inBounds => exact accounted.cancel bounded inBounds
  | refuse here fresh refused =>
    refine ⟨F, accounted.refuse bounded here fresh ?_⟩
    unfold Publisher.refusal? at refused
    split at refused
    · cases refused
      rfl
    · unfold Publisher.Status.failure? at refused
      split at refused
      all_goals cases refused
      all_goals rfl
  | request here fresh admitted => exact ⟨_, accounted.request bounded here fresh admitted⟩
  | learn here waiting outcome => exact ⟨_, accounted.learn bounded here waiting outcome⟩
  | @attach t l stage here fresh vacant attached free =>
    refine ⟨F, accounted.move_loop bounded grows here (x := { l with stage })
      (tasks_moveTo (s := s.onPublisher l.publisher _) here stage) ?_ (fun _ _ => ⟨rfl, rfl⟩)
      (publisher_onPublisher_congr (fun p => p.intake.order) rfl)
      (publisher_onPublisher_congr Publisher.dead rfl)⟩
    rw [fresh, free]
    rfl
  | status _ | forget =>
    exact ⟨F, accounted.congr bounded grows (fun _ => rfl) (fun _ _ => ⟨rfl, rfl⟩)
      (publisher_onPublisher_congr (fun p => p.intake.order) rfl)
      (publisher_onPublisher_congr Publisher.dead rfl) fun _ => rfl⟩
  | drain dead => exact ⟨F, accounted.drain bounded dead⟩
  | @advance t l stage here attached caller _ =>
    exact ⟨F, accounted.move_loop bounded grows here (x := { l with stage }) (tasks_moveTo here stage)
      caller (fun _ _ => ⟨rfl, rfl⟩) (fun _ => rfl) fun _ => rfl⟩
  | skip here idle next there claimed =>
    exact ⟨F, accounted.skip bounded (bounded.task _ _ here) next there claimed⟩
  | begin here idle live next there free =>
    exact ⟨_, accounted.begin bounded here idle next there free⟩
  | answer here publishing there => exact accounted.answer bounded here publishing there
  | endLoop here free _ => exact ⟨F, accounted.endLoop bounded here free⟩
  | dropCall here => exact accounted.dropCall bounded here
  | dropLoop here => exact accounted.dropLoop bounded here
  | issue new _ => exact ⟨F, accounted.issue bounded new⟩
  | addPublisher new => exact ⟨F, accounted.addPublisher bounded new⟩
  | addName _ =>
    exact ⟨F, accounted.congr bounded grows (fun _ => rfl) (fun _ _ => ⟨rfl, rfl⟩) (fun _ => rfl)
      (fun _ => rfl) fun _ => rfl⟩

end Relay.Service
