import Relay.Proofs.Fate

/-!
# Every request is accounted for

`Accounted` assigns a fate to the request of every call and says where requests with that fate are
found: those that wait, and only those and the shells of withdrawn ones, in the intake of their own
publisher; those under way with the loop that publishes them; no other place refers to a call. The
assignment is not part of the service. A step changes it for the call that it is about, and a
cancellation for all calls whose requests it finds in the intake; everything else fits as before.
-/

namespace Relay.Service

open Broker (Exception)
open Publisher (Failure Request)

/-- The call whose message a task is publishing. -/
def Task.caller? : Task → Option Nat
  | .call _ => none
  | .loop l => l.stage.caller?

/-- The call that a task is. -/
def Task.call? : Task → Option Call
  | .call c => some c
  | .loop _ => none

/-- The call whose message the task at an index is publishing. -/
def carries (s : Service) (l : Nat) : Option Nat := s.tasks[l]?.bind Task.caller?

/-- Whether a request with this fate has its place in an intake. -/
def Fate.Waits (f : Fate) : Prop := f = .queued ∨ f = .withdrawn

/-- A request that was not put in waits nowhere. -/
theorem Fate.not_waits_unsent : ¬ Fate.unsent.Waits := by
  rintro (queued | withdrawn)
  · cases queued
  · cases withdrawn

/-- Nor does one that is under way. -/
theorem Fate.not_waits_underWay {l h : Nat} : ¬ (Fate.underWay l h).Waits := by
  rintro (queued | withdrawn)
  · cases queued
  · cases withdrawn

/-- Requests are where their fates say, and nowhere else. -/
structure Accounted (s : Service) (fate : Nat → Fate) : Prop where
  call : ∀ t c, s.call? t = some c → Fits s t c (fate t)
  absent : ∀ t, s.call? t = none → fate t = .unsent
  nodup : ∀ p, (s.publisher p).intake.order.Nodup
  intake : ∀ p t, t ∈ (s.publisher p).intake.order →
    ∃ c, s.call? t = some c ∧ c.publisher = p ∧ (fate t).Waits
  queued : ∀ t c, s.call? t = some c → fate t = .queued →
    t ∈ (s.publisher c.publisher).intake.order
  carried : ∀ l t, s.carries l = some t ↔ ∃ h, fate t = .underWay l h
  dead : ∀ p, (s.publisher p).dead = true → (s.publisher p).intake.order = []

variable {s s' : Service} {t : Nat} {F : Nat → Fate}

/-! ## Calls and loops among the tasks -/

/-- A loop is no call. -/
theorem call?_of_loop {l : Loop} (here : s.tasks[t]? = some (.loop l)) : s.call? t = none := by
  rw [call?, here]

/-- So a loop and a call stand at different places. -/
theorem ne_of_loop_of_call {u : Nat} {l : Loop} {c : Call} (here : s.tasks[t]? = some (.loop l))
    (there : s.call? u = some c) : t ≠ u := by
  rintro rfl
  rw [call?_of_loop here] at there
  cases there

/-- The calls after one task was written over. -/
theorem call?_of_tasks {x : Task}
    (tasks : ∀ u : Nat, s'.tasks[u]? = if u = t then some x else s.tasks[u]?) (u : Nat) :
    s'.call? u = if u = t then x.call? else s.call? u := by
  unfold call?
  rw [tasks u]
  by_cases at_t : u = t
  · simp only [if_pos at_t]
    cases x <;> rfl
  · simp only [if_neg at_t]

/-- What loops publish after one task was written over. -/
theorem carries_of_tasks {x : Task}
    (tasks : ∀ u : Nat, s'.tasks[u]? = if u = t then some x else s.tasks[u]?) (u : Nat) :
    s'.carries u = if u = t then x.caller? else s.carries u :=
  bind_of_write tasks u

/-- A task is written over by one that publishes for the same call. -/
theorem carries_of_write {x y : Task} (here : s.tasks[t]? = some y)
    (tasks : ∀ u : Nat, s'.tasks[u]? = if u = t then some x else s.tasks[u]?)
    (same : x.caller? = y.caller?) (l : Nat) : s'.carries l = s.carries l :=
  bind_of_write_same here tasks same l

/-- An idle loop publishes nothing. -/
theorem carries_of_idle {l : Loop} {notice : Option Nat} (here : s.tasks[t]? = some (.loop l))
    (idle : l.stage = .idle notice) : s.carries t = none := by
  rw [carries, here, Option.bind_some, Task.caller?, idle]
  rfl

/-- Stranding a task changes calls only. -/
theorem caller?_strand (x : Task) : x.strand.caller? = x.caller? := by
  cases x <;> rfl

/-- Emptying an intake changes nothing about what is published. -/
theorem carries_drain (s : Service) (p l : Nat) : (s.drain p).carries l = s.carries l :=
  bind_drain caller?_strand s p l

/-- Nor does a cancellation. -/
theorem carries_cancel (s : Service) (p l : Nat) : (s.cancel p).1.carries l = s.carries l :=
  bind_cancel caller?_strand s p l

/-- An event about no call leaves the courses of all calls as they are. -/
theorem courses_of_history {e : Event} (longer : s'.history = e :: s.history)
    (other : e.isOf t = false ∧ e.isReturnTo t = false) :
    s'.course t = s.course t ∧ s'.returnsTo t = s.returnsTo t := by
  rw [course_of_history longer, returnsTo_of_history longer, other.1, other.2]
  exact ⟨rfl, rfl⟩

/-- The same history tells the same courses. -/
theorem courses_of_same (same : s'.history = s.history) :
    s'.course t = s.course t ∧ s'.returnsTo t = s.returnsTo t := by
  rw [course, returnsTo_eq_filter_history, returnsTo_eq_filter_history, same]
  exact ⟨rfl, rfl⟩

namespace Accounted

/-- In a new service nothing is to be accounted for. -/
theorem fresh : Accounted fresh fun _ => .unsent where
  call t c here := by cases here
  absent _ _ := rfl
  nodup _ := List.nodup_nil
  intake p t waits := absurd waits List.not_mem_nil
  queued t c here := by cases here
  carried l t := by simp [carries, Service.fresh]
  dead _ _ := rfl

/-! ## Changes of one call, or of none -/

/-- Only loops or other fields change. -/
theorem congr (accounted : Accounted s F) (bounded : Bounded s) (grows : Grows s s')
    (calls : ∀ u, s'.call? u = s.call? u)
    (courses : ∀ u, s.call? u ≠ none → s'.course u = s.course u ∧ s'.returnsTo u = s.returnsTo u)
    (orders : ∀ p, (s'.publisher p).intake.order = (s.publisher p).intake.order)
    (dead : ∀ p, (s'.publisher p).dead = (s.publisher p).dead)
    (carries : ∀ l, s'.carries l = s.carries l) : Accounted s' F where
  call u c here := by
    rw [calls u] at here
    obtain ⟨course, returns⟩ := courses u (by rw [here]; exact nofun)
    exact (accounted.call u c here).grow grows (bounded.task u _ (call?_eq_some.mp here)) course
      returns
  absent u none := accounted.absent u (by rw [← calls u, none])
  nodup p := by rw [orders p]; exact accounted.nodup p
  intake p u waits := by
    rw [orders p] at waits
    rw [calls u]
    exact accounted.intake p u waits
  queued u c here := by
    rw [calls u] at here
    rw [orders]
    exact accounted.queued u c here
  carried l u := by rw [carries l]; exact accounted.carried l u
  dead p := by rw [dead p, orders p]; exact accounted.dead p

/-- A request with another fate than waiting is in no intake. -/
theorem not_mem_order (accounted : Accounted s F) (away : ¬ (F t).Waits) (p : Nat) :
    t ∉ (s.publisher p).intake.order := by
  intro inside
  obtain ⟨-, -, -, waits⟩ := accounted.intake p t inside
  exact away waits

end Accounted

/-- One call changes, with the fate of its request and maybe its place in the intake of its
publisher. -/
structure Change (s s' : Service) (F : Nat → Fate) (t : Nat) (c c' : Call) (f : Fate) : Prop where
  grows : Grows s s'
  here : s.call? t = some c
  own : c'.publisher = c.publisher
  calls : ∀ u, s'.call? u = if u = t then some c' else s.call? u
  fits : Fits s' t c' f
  courses : ∀ u, u ≠ t → s.call? u ≠ none →
    s'.course u = s.course u ∧ s'.returnsTo u = s.returnsTo u
  elsewhere : ∀ p, p ≠ c.publisher →
    (s'.publisher p).intake.order = (s.publisher p).intake.order
  nodup : (s'.publisher c.publisher).intake.order.Nodup
  others : ∀ u, u ≠ t → (u ∈ (s'.publisher c.publisher).intake.order ↔
    u ∈ (s.publisher c.publisher).intake.order)
  waits : t ∈ (s'.publisher c.publisher).intake.order → f.Waits
  queued : f = .queued → t ∈ (s'.publisher c.publisher).intake.order
  dead : ∀ p, (s'.publisher p).dead = (s.publisher p).dead
  closed : (s.publisher c.publisher).dead = true →
    (s'.publisher c.publisher).intake.order = []
  carried : ∀ l u, s'.carries l = some u ↔ ∃ h, Function.update F t f u = .underWay l h

namespace Change

variable {c c' : Call} {f : Fate} {u : Nat}

/-- The call that a change is about. -/
theorem call?_self (change : Change s s' F t c c' f) : s'.call? t = some c' := by
  rw [change.calls, if_pos rfl]

/-- All other calls stay. -/
theorem call?_of_ne (change : Change s s' F t c c' f) (other : u ≠ t) :
    s'.call? u = s.call? u := by
  rw [change.calls, if_neg other]

/-- Other requests are where they were. -/
theorem mem_order_iff (change : Change s s' F t c c' f) (other : u ≠ t) (p : Nat) :
    u ∈ (s'.publisher p).intake.order ↔ u ∈ (s.publisher p).intake.order := by
  by_cases own : p = c.publisher
  · subst own
    exact change.others u other
  · rw [change.elsewhere p own]

/-- The request of the call is in no other intake than that of its publisher. -/
theorem eq_publisher {p : Nat} (change : Change s s' F t c c' f) (accounted : Accounted s F)
    (inside : t ∈ (s'.publisher p).intake.order) : p = c.publisher := by
  by_contra away
  rw [change.elsewhere p away] at inside
  obtain ⟨d, there, own, -⟩ := accounted.intake p t inside
  rw [change.here] at there
  cases there
  exact away own.symm

end Change

namespace Accounted

/-- In each field the call that changes is told apart from the others, which are as they were. -/
theorem change {c c' : Call} {f : Fate} (accounted : Accounted s F) (bounded : Bounded s)
    (change : Change s s' F t c c' f) : Accounted s' (Function.update F t f) where
  -- every field is split in the same way: at the call that changes by what is given, elsewhere as before
  call u d there := by
    by_cases at_t : u = t
    · subst at_t
      rw [change.call?_self] at there
      cases there
      rw [Function.update_self]
      exact change.fits
    · rw [change.call?_of_ne at_t] at there
      rw [Function.update_of_ne at_t]
      obtain ⟨course, returns⟩ := change.courses u at_t (by rw [there]; exact nofun)
      exact (accounted.call u d there).grow change.grows
        (bounded.task u _ (call?_eq_some.mp there)) course returns
  absent u none := by
    by_cases at_t : u = t
    · subst at_t
      rw [change.call?_self] at none
      cases none
    · rw [change.call?_of_ne at_t] at none
      rw [Function.update_of_ne at_t]
      exact accounted.absent u none
  nodup p := by
    by_cases own : p = c.publisher
    · subst own
      exact change.nodup
    · rw [change.elsewhere p own]
      exact accounted.nodup p
  intake p u inside := by
    by_cases at_t : u = t
    · subst at_t
      obtain rfl := change.eq_publisher accounted inside
      rw [Function.update_self]
      exact ⟨c', change.call?_self, change.own, change.waits inside⟩
    · rw [change.call?_of_ne at_t, Function.update_of_ne at_t]
      exact accounted.intake p u ((change.mem_order_iff at_t p).mp inside)
  queued u d there := by
    by_cases at_t : u = t
    · subst at_t
      rw [change.call?_self] at there
      cases there
      rw [change.own, Function.update_self]
      exact change.queued
    · rw [change.call?_of_ne at_t] at there
      rw [change.mem_order_iff at_t, Function.update_of_ne at_t]
      exact accounted.queued u d there
  carried := change.carried
  dead p := by
    rw [change.dead p]
    by_cases own : p = c.publisher
    · subst own
      exact change.closed
    · rw [change.elsewhere p own]
      exact accounted.dead p

/-- One call changes whose request is in no intake, before and after. -/
theorem change_outside {c c' : Call} {f : Fate} (accounted : Accounted s F) (grows : Grows s s')
    (here : s.call? t = some c)
    (calls : ∀ u, s'.call? u = if u = t then some c' else s.call? u)
    (own : c'.publisher = c.publisher) (fits : Fits s' t c' f)
    (courses : ∀ u, u ≠ t → s.call? u ≠ none →
      s'.course u = s.course u ∧ s'.returnsTo u = s.returnsTo u)
    (publisher : ∀ p, (s'.publisher p).intake.order = (s.publisher p).intake.order ∧
      (s'.publisher p).dead = (s.publisher p).dead)
    (before : ¬ (F t).Waits) (after : f ≠ .queued)
    (carried : ∀ l u, s'.carries l = some u ↔ ∃ h, Function.update F t f u = .underWay l h) :
    Change s s' F t c c' f := by
  have order := fun p => (publisher p).1
  exact
    { grows, here, own, calls, fits, courses, carried
      elsewhere := fun p _ => order p
      nodup := by rw [order]; exact accounted.nodup _
      others := fun u _ => by rw [order]
      waits := fun inside => by
        rw [order] at inside
        exact absurd inside (accounted.not_mem_order before _)
      queued := fun queued => absurd queued after
      dead := fun p => (publisher p).2
      closed := by rw [order]; exact accounted.dead _ }

/-- The fate of a request changes without a loop taking it up or giving it back. -/
theorem carried_update {f : Fate} (accounted : Accounted s F)
    (carries : ∀ l, s'.carries l = s.carries l)
    (same : ∀ l h, f = .underWay l h ↔ F t = .underWay l h) (l u : Nat) :
    s'.carries l = some u ↔ ∃ h, Function.update F t f u = .underWay l h := by
  rw [carries l, accounted.carried l u]
  by_cases at_t : u = t
  · subst at_t
    simp only [Function.update_self, same]
  · simp only [Function.update_of_ne at_t]

/-! ## Loops -/

/-- A loop moves on with the request that it has, or without one. -/
theorem move_loop {l x : Loop} (accounted : Accounted s F) (bounded : Bounded s)
    (grows : Grows s s') (here : s.tasks[t]? = some (.loop l))
    (tasks : ∀ u : Nat, s'.tasks[u]? = if u = t then some (.loop x) else s.tasks[u]?)
    (same : x.stage.caller? = l.stage.caller?)
    (courses : ∀ u, u ≠ t → s'.course u = s.course u ∧ s'.returnsTo u = s.returnsTo u)
    (orders : ∀ p, (s'.publisher p).intake.order = (s.publisher p).intake.order)
    (dead : ∀ p, (s'.publisher p).dead = (s.publisher p).dead) : Accounted s' F := by
  have noCall := call?_of_loop here
  refine accounted.congr bounded grows (fun u => ?_) (fun u there => courses u ?_) orders dead
    fun u => ?_
  · rw [call?_of_tasks tasks]
    split
    · next at_t => rw [at_t, noCall]; rfl
    · rfl
  · rintro rfl
    exact there noCall
  · exact carries_of_write here tasks same u

/-- A publisher's intake and whether it is dead do not depend on its loop. -/
theorem orders_detach (s : Service) (l : Loop) (p : Nat) :
    ((s.detach l).publisher p).intake = (s.publisher p).intake ∧
      ((s.detach l).publisher p).dead = (s.publisher p).dead := by
  rw [publisher_detach]
  split
  · next at_p => rw [at_p.2.1]; exact ⟨rfl, rfl⟩
  · exact ⟨rfl, rfl⟩

/-- A dead publisher has nothing left to drain. -/
theorem drain {p : Nat} (accounted : Accounted s F) (bounded : Bounded s)
    (dead : (s.publisher p).dead = true) : Accounted (s.drain p) F := by
  have empty := accounted.dead p dead
  have tasks : ∀ u : Nat, (s.drain p).tasks[u]? = s.tasks[u]? := by
    intro u
    rw [tasks_drain, empty, if_neg List.not_mem_nil]
  refine accounted.congr bounded (Alters.drain s p).toGrows (fun u => ?_)
    (fun u _ => courses_of_same (history_drain s p)) (fun q => ?_) (fun q => ?_) (carries_drain s p)
  · rw [call?, tasks u, call?]
  · rw [publisher_drain]
    split
    · next at_p => rw [at_p, empty]; rfl
    · rfl
  · rw [publisher_drain]
    split
    · next at_p => rw [at_p]
    · rfl

/-! ## The cancellation -/

/-- The fates after the cancellation of a publisher whose intake has this order. -/
def doom (order : List Nat) (F : Nat → Fate) (t : Nat) : Fate :=
  if t ∈ order then (F t).doomed else F t

/-- A cancellation dooms no request that is under way. -/
theorem doom_underWay {order : List Nat} {l h : Nat} :
    doom order F t = .underWay l h ↔ F t = .underWay l h := by
  unfold doom
  split
  · cases F t <;> simp [Fate.doomed]
  · rfl

/-- The calls after those in an intake were stranded. -/
theorem call?_of_strand {order : List Nat}
    (tasks : ∀ u : Nat, s'.tasks[u]? = if u ∈ order then s.tasks[u]?.map Task.strand else s.tasks[u]?)
    (u : Nat) :
    s'.call? u = if u ∈ order then
      (s.call? u).map fun c => { c with request := c.request.strand } else s.call? u := by
  unfold call?
  rw [tasks u]
  by_cases inside : u ∈ order
  · simp only [if_pos inside]
    cases s.tasks[u]? with
    | none => rfl
    | some x => cases x <;> rfl
  · simp only [if_neg inside]

/-- A withdrawn request stays as it is, a waiting one is answered. -/
theorem fits_strand {c : Call} (accounted : Accounted s F) (grows : Grows s s')
    (inBounds : c.publisher < s.publishers.size) (dead : (s'.publisher c.publisher).dead = true)
    (courses : s'.course t = s.course t ∧ s'.returnsTo t = s.returnsTo t)
    (here : s.call? t = some c) (waits : (F t).Waits) :
    Fits s' t { c with request := c.request.strand } (F t).doomed := by
  have fits := accounted.call t c here
  rcases waits with queued | withdrawn
  · rw [queued] at fits ⊢
    exact fits.strand dead courses.1 courses.2
  · have begun : c.stage ≠ .fresh := by
      intro fresh
      rw [fits.fresh fresh] at withdrawn
      cases withdrawn
    have claimed : c.request.claimed = true := fits.claimed.mpr (by simp [withdrawn, begun])
    rw [withdrawn] at fits ⊢
    rw [Request.strand_of_claimed claimed]
    exact fits.grow grows inBounds courses.1 courses.2

/-- A request is in the intake of one publisher at most. -/
theorem eq_of_mem_order {p q : Nat} (accounted : Accounted s F)
    (inside : t ∈ (s.publisher p).intake.order) (inside' : t ∈ (s.publisher q).intake.order) :
    p = q := by
  obtain ⟨c, here, own, -⟩ := accounted.intake p t inside
  obtain ⟨c', here', own', -⟩ := accounted.intake q t inside'
  rw [here] at here'
  cases here'
  exact own.symm.trans own'

/-- A cancellation is no part of the course of a call. -/
theorem courses_cancel (s : Service) (p : Nat) :
    (s.cancel p).1.course t = s.course t ∧ (s.cancel p).1.returnsTo t = s.returnsTo t :=
  courses_of_history (history_cancel s p) ⟨rfl, rfl⟩

/-- The cancellation of a live publisher strands the calls whose requests are in its intake; to other
calls nothing happens. -/
theorem fits_cancel {p : Nat} {c : Call} (accounted : Accounted s F) (bounded : Bounded s)
    (inBounds : p < s.publishers.size) (live : (s.publisher p).dead = false)
    (there : (s.cancel p).1.call? t = some c) :
    Fits (s.cancel p).1 t c (doom (s.publisher p).intake.order F t) := by
  have grows : Grows s (s.cancel p).1 := (Alters.cancel s p).toGrows
  rw [call?_of_strand (tasks_cancel_of_live inBounds live)] at there
  unfold doom
  split at there
  · next inside =>
    obtain ⟨d, was, rfl⟩ := Option.map_eq_some_iff.mp there
    obtain ⟨d', was', own, waits⟩ := accounted.intake p t inside
    rw [was] at was'
    cases was'
    have dead : ((s.cancel p).1.publisher d.publisher).dead = true := by
      rw [publisher_cancel_of_live inBounds live, if_pos own]
    rw [if_pos inside]
    exact accounted.fits_strand grows (bounded.task t _ (call?_eq_some.mp was)) dead
      (courses_cancel s p) was waits
  · next outside =>
    have courses := courses_cancel (t := t) s p
    rw [if_neg outside]
    exact (accounted.call t c there).grow grows (bounded.task t _ (call?_eq_some.mp there)) courses.1
      courses.2

/-- No call is queued that the cancellation found in the intake. -/
theorem queued_of_doom {order : List Nat} (queued : doom order F t = .queued) :
    t ∉ order ∧ F t = .queued := by
  unfold doom at queued
  split at queued
  · cases before : F t <;> rw [before] at queued <;> cases queued
  · next outside => exact ⟨outside, queued⟩

/-- After the first cancellation what waited is doomed, and all is accounted for. -/
theorem cancel_live {p : Nat} (accounted : Accounted s F) (bounded : Bounded s)
    (inBounds : p < s.publishers.size) (live : (s.publisher p).dead = false) :
    Accounted (s.cancel p).1 (doom (s.publisher p).intake.order F) := by
  have calls := call?_of_strand (tasks_cancel_of_live inBounds live)
  have publisher := publisher_cancel_of_live inBounds live
  -- only the intake of the publisher changes, and the calls whose requests were in it
  refine
    { call := fun u c there => accounted.fits_cancel bounded inBounds live there
      absent := fun u none => ?_
      nodup := fun q => ?_
      intake := fun q u inside => ?_
      queued := fun u c there waiting => ?_
      carried := fun l u => ?_
      dead := fun q dead => ?_ }
  · have before : s.call? u = Option.none := by
      rw [calls u] at none
      split at none
      · exact Option.map_eq_none_iff.mp none
      · exact none
    have outside : u ∉ (s.publisher p).intake.order := by
      intro inside
      obtain ⟨c, there, -⟩ := accounted.intake p u inside
      rw [before] at there
      cases there
    rw [doom, if_neg outside]
    exact accounted.absent u before
  · rw [publisher q]
    split
    · exact List.nodup_nil
    · exact accounted.nodup q
  · rw [publisher q] at inside
    split at inside
    · exact absurd inside List.not_mem_nil
    · next away =>
      have outside : u ∉ (s.publisher p).intake.order :=
        fun inside' => away (accounted.eq_of_mem_order inside inside')
      rw [calls u, if_neg outside, doom, if_neg outside]
      exact accounted.intake q u inside
  · obtain ⟨outside, queued⟩ := queued_of_doom waiting
    rw [calls u, if_neg outside] at there
    have inside := accounted.queued u c there queued
    rw [publisher]
    split
    · next at_p => rw [at_p] at inside; exact absurd inside outside
    · exact inside
  · rw [carries_cancel, accounted.carried l u]
    simp only [doom_underWay]
  · rw [publisher q] at dead ⊢
    split at dead
    · next at_p => rw [if_pos at_p]; rfl
    · next away => rw [if_neg away]; exact accounted.dead q dead

/-- After any cancellation all is accounted for. -/
theorem cancel {p : Nat} (accounted : Accounted s F) (bounded : Bounded s)
    (inBounds : p < s.publishers.size) : ∃ F', Accounted (s.cancel p).1 F' := by
  cases dead : (s.publisher p).dead with
  | true =>
    have courses : ∀ u, (s.cancel p).1.course u = s.course u ∧
        (s.cancel p).1.returnsTo u = s.returnsTo u := fun u => courses_cancel s p
    rw [cancel_of_dead dead] at courses ⊢
    exact ⟨F, accounted.congr bounded (Alters.record s _).toGrows (fun _ => rfl)
      (fun u _ => courses u) (fun _ => rfl) (fun _ => rfl) fun _ => rfl⟩
  | false => exact ⟨_, accounted.cancel_live bounded inBounds dead⟩

end Accounted

end Relay.Service
