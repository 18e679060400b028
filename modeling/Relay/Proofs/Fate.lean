import Relay.Proofs.Attachment
import Mathlib.Logic.Function.Basic

/-!
# The fate of a request

A request waits in the intake, is opened by a loop, withdrawn by its caller or answered by the
cancellation; one that was opened is answered or abandoned. `Fate` names these places, and `Fits` says
how everything that concerns a call looks while its request has a certain fate: the request itself,
where the call stands, and the history of both, event by event.
-/

namespace Relay

/-- Failures that turn a call away before it puts its request into the intake. -/
def Publisher.Failure.isRefusal : Publisher.Failure → Bool
  | .dead | .notInitialized | .channel _ => true
  | .interrupted | .publish _ => false

namespace Service

open Broker (Exception)
open Publisher (Failure Reply Request)

/-- What has become of the request of a call. -/
inductive Fate where
  /-- The call has not put it into the intake. -/
  | unsent
  /-- It waits in the intake, and its caller for it. -/
  | queued
  /-- Its caller went away while it waited. -/
  | withdrawn
  /-- The cancellation answered it. -/
  | stranded
  /-- A loop opened it and has begun to publish its message on the channel of a handle. -/
  | underWay (loop handle : Nat)
  /-- The publish came back, and its result was the answer. -/
  | served (loop handle : Nat) (result : Except Exception Unit)
  /-- The loop was dropped before the publish came back. -/
  | abandoned (loop handle : Nat)

namespace Fate

/-- What becomes of the request when its caller goes away. -/
def left : Fate → Fate
  | queued => withdrawn
  | f => f

/-- What becomes of the request when the cancellation finds it in the intake. -/
def doomed : Fate → Fate
  | queued => stranded
  | f => f

/-- What is in the reply slot of the request. -/
def reply : Fate → Reply
  | unsent | queued | withdrawn | underWay .. => .awaited
  | stranded => .answered (.error .dead)
  | served _ _ result => .answered (result.mapError .publish)
  | abandoned .. => .abandoned

/-- The loop that opened the request, with the handle of its channel. -/
def opener? : Fate → Option (Nat × Nat)
  | unsent | queued | withdrawn | stranded => none
  | underWay l h | served l h _ | abandoned l h => some (l, h)

/-- What happened to the request up to its opening, the last first. -/
def trail (t : Nat) (exchange : String) (r : Request) : Fate → List Event
  | unsent => []
  | queued | withdrawn | stranded => [.requested t]
  | underWay l h | served l h _ | abandoned l h =>
    [.began l h (.publish t exchange r.routingKey {} r.message), .requested t]

/-- How the publish for the request came back. -/
def returns (t : Nat) : Fate → List Event
  | served l _ result => [.returned l t result]
  | _ => []

end Fate

/-- The last event in the course of a call, if it is over. -/
def Call.closing (c : Call) (t : Nat) : List Event :=
  match c.stage with
  | .fresh | .waiting => []
  | .finished r => [.ended t (c.value r)]
  | .dropped => [.dropped t]

/-- What closes a call does not depend on its request. -/
theorem Call.closing_request (c : Call) (r : Request) (t : Nat) :
    Call.closing { c with request := r } t = c.closing t := by
  unfold Call.closing
  cases c.stage <;> rfl

/-- A call of an index agrees with the fate of its request and with the history. -/
structure Fits (s : Service) (t : Nat) (c : Call) (f : Fate) : Prop where
  course : s.course t = c.closing t ++ f.trail t (s.publisher c.publisher).exchange c.request
  returns : s.returnsTo t = f.returns t
  reply : c.request.reply = f.reply
  claimed : c.request.claimed = true ↔ ¬ (f = .queued ∨ c.stage = .fresh)
  fresh : c.stage = .fresh → f = .unsent
  waiting : c.stage = .waiting → f ≠ .unsent ∧ f ≠ .withdrawn
  finished : ∀ r, c.stage = .finished r →
    (f = .unsent ∧ ∃ e : Failure, r = .error e ∧ e.isRefusal = true) ∨ c.request.outcome? = some r
  dropped : c.stage = .dropped → f ≠ .queued
  opener : ∀ l h, f.opener? = some (l, h) →
    ∃ x, s.tasks[l]? = some (.loop x) ∧ x.publisher = c.publisher ∧ x.handle = h
  gone : ∀ l h, f = .abandoned l h → .dropped l ∈ s.history
  cut : f = .stranded → (s.publisher c.publisher).dead = true

/-! ## Histories of one call -/

variable {s s' : Service}

/-- An entry adds to the course of its own task alone. -/
theorem course_of_history {e : Event} (longer : s'.history = e :: s.history) (t : Nat) :
    s'.course t = if e.isOf t = true then e :: s.course t else s.course t := by
  rw [course, longer, List.filter_cons, course]

/-- An entry adds to the returns of its own caller alone. -/
theorem returnsTo_of_history {e : Event} (longer : s'.history = e :: s.history) (t : Nat) :
    s'.returnsTo t = if e.isReturnTo t = true then e :: s.returnsTo t else s.returnsTo t := by
  rw [returnsTo_eq_filter_history, longer, List.filter_cons, returnsTo_eq_filter_history]

namespace Fits

variable {t : Nat} {c : Call} {f : Fate}

/-- A publisher keeps its exchange. -/
theorem exchange_of_grows (_fits : Fits s t c f) (grows : Grows s s')
    (inBounds : c.publisher < s.publishers.size) :
    (s'.publisher c.publisher).exchange = (s.publisher c.publisher).exchange := by
  have same := congrArg Publisher.exchange (grows.founded _ inBounds)
  exact same

/-- A loop that opened the request is still there. -/
theorem opener_of_grows (fits : Fits s t c f) (grows : Grows s s') :
    ∀ l h, f.opener? = some (l, h) →
      ∃ x, s'.tasks[l]? = some (.loop x) ∧ x.publisher = c.publisher ∧ x.handle = h := by
  intro l h opened
  obtain ⟨x, here, publisher, handle⟩ := fits.opener l h opened
  obtain ⟨x', here', publisher', handle'⟩ := grows.loop here
  exact ⟨x', here', publisher'.trans publisher, handle'.trans handle⟩

/-- The loop that left a call behind stays dropped. -/
theorem gone_of_grows (fits : Fits s t c f) (grows : Grows s s') :
    ∀ l h, f = .abandoned l h → .dropped l ∈ s'.history :=
  fun l h abandoned => grows.history.subset (fits.gone l h abandoned)

/-- The publisher of a stranded call stays dead. -/
theorem cut_of_grows (fits : Fits s t c f) (grows : Grows s s') :
    f = .stranded → (s'.publisher c.publisher).dead = true :=
  fun stranded => (grows.dead _ (fits.cut stranded)).1

/-- A call that a growing service leaves alone keeps fitting. -/
theorem grow (fits : Fits s t c f) (grows : Grows s s')
    (inBounds : c.publisher < s.publishers.size) (course : s'.course t = s.course t)
    (returns : s'.returnsTo t = s.returnsTo t) : Fits s' t c f := by
  have exchange := fits.exchange_of_grows grows inBounds
  exact
    { fits with
      course := by rw [course, exchange, fits.course]
      returns := by rw [returns, fits.returns]
      opener := fits.opener_of_grows grows
      gone := fits.gone_of_grows grows
      cut := fits.cut_of_grows grows }

/-- The call has put its request into the intake, unless the fate says that it has not. -/
theorem waiting_of_queued (fits : Fits s t c .queued) : c.stage = .waiting := by
  cases stage : c.stage with
  | fresh => exact absurd (fits.fresh stage) nofun
  | waiting => rfl
  | finished r =>
    rcases fits.finished r stage with ⟨unsent, -⟩ | outcome
    · cases unsent
    · rw [Request.outcome?, fits.reply, Fate.reply] at outcome
      cases outcome
  | dropped => exact absurd rfl (fits.dropped stage)

/-- Nobody claimed a request that is queued. -/
theorem unclaimed_of_queued (fits : Fits s t c .queued) : c.request.claimed = false :=
  Bool.eq_false_iff.mpr fun claimed => fits.claimed.mp claimed (.inl rfl)

/-- An opened request is claimed, and its call has begun. -/
theorem claimed_of_opener (fits : Fits s t c f) {x : Nat × Nat} (opened : f.opener? = some x) :
    c.request.claimed = true ∧ c.stage ≠ .fresh := by
  have begun : c.stage ≠ .fresh := by
    intro fresh
    rw [fits.fresh fresh] at opened
    cases opened
  refine ⟨fits.claimed.mpr ?_, begun⟩
  rintro (rfl | fresh)
  · cases opened
  · exact begun fresh

/-- A call that put its request into the intake does not end before the reply. -/
theorem not_finished_of_awaited (fits : Fits s t c f) (awaited : f.reply = .awaited)
    (begun : f ≠ .unsent) (r : Except Failure Unit) : c.stage ≠ .finished r := by
  intro ended
  rcases fits.finished r ended with ⟨unsent, -⟩ | outcome
  · exact begun unsent
  · rw [Request.outcome?, fits.reply, awaited] at outcome
    cases outcome

/-- A request without a claim that its call has put into the intake is still there. -/
theorem queued_of_unclaimed (fits : Fits s t c f) (free : c.request.claimed = false)
    (begun : c.stage ≠ .fresh) : f = .queued := by
  by_cases queued : f = .queued
  · exact queued
  · exact absurd (fits.claimed.mpr (by simp [queued, begun])) (by rw [free]; exact Bool.false_ne_true)

/-! ## From one fate to another -/

/-- A new call. -/
theorem issue (course : s.course t = []) (returns : s.returnsTo t = [])
    (new : (Task.call c).issued = .call c) : Fits s t c .unsent := by
  have untouched := Task.call.inj new
  have fresh : c.stage = .fresh := (congrArg Call.stage untouched).symm
  have request := congrArg Call.request untouched
  have free : c.request.claimed = false := (congrArg Request.claimed request).symm
  have awaited : c.request.reply = .awaited := (congrArg Request.reply request).symm
  exact
    { course := by rw [course, Call.closing, fresh]; rfl
      returns := returns
      reply := awaited
      claimed := by simp [free, fresh]
      fresh := fun _ => rfl
      waiting := fun waiting => by rw [fresh] at waiting; cases waiting
      finished := fun r finished => by rw [fresh] at finished; cases finished
      dropped := fun dropped => by rw [fresh] at dropped; cases dropped
      opener := nofun
      gone := nofun
      cut := nofun }

/-- A call that is turned away. -/
theorem refuse {e : Failure} (fits : Fits s t c f) (fresh : c.stage = .fresh)
    (refusal : e.isRefusal = true)
    (longer : s'.history = .ended t (c.value (.error e)) :: s.history) :
    Fits s' t (c.ended (.error e)) f := by
  obtain rfl := fits.fresh fresh
  have before : s.course t = [] := by rw [fits.course, Call.closing, fresh]; rfl
  refine
    { course := ?_
      returns := ?_
      reply := ?_
      claimed := by simp [Call.ended, Request.forsake_eq]
      fresh := nofun
      waiting := nofun
      finished := fun r ended => ?_
      dropped := nofun
      opener := nofun
      gone := nofun
      cut := nofun }
  · rw [course_of_history longer, before]
    simp [Event.isOf, Call.closing, Call.ended, Call.value, Fate.trail]
  · rw [returnsTo_of_history longer, fits.returns]
    simp [Event.isReturnTo]
  · rw [Call.ended, Request.forsake_eq]
    exact fits.reply
  · cases ended
    exact .inl ⟨rfl, e, rfl, refusal⟩

/-- A call puts its request into the intake. -/
theorem request (fits : Fits s t c f) (fresh : c.stage = .fresh)
    (longer : s'.history = .requested t :: s.history) :
    Fits s' t { c with stage := .waiting } .queued := by
  obtain rfl := fits.fresh fresh
  have before : s.course t = [] := by rw [fits.course, Call.closing, fresh]; rfl
  have free : c.request.claimed = false := by
    refine Bool.eq_false_iff.mpr fun claimed => ?_
    exact fits.claimed.mp claimed (.inr fresh)
  refine
    { course := ?_
      returns := ?_
      reply := fits.reply
      claimed := by simp [free]
      fresh := nofun
      waiting := fun _ => ⟨nofun, nofun⟩
      finished := nofun
      dropped := nofun
      opener := nofun
      gone := nofun
      cut := nofun }
  · rw [course_of_history longer, before]
    simp [Event.isOf, Call.closing, Fate.trail]
  · rw [returnsTo_of_history longer, fits.returns]
    simp [Event.isReturnTo, Fate.returns]

/-- A call gets its answer. -/
theorem learn {r : Except Failure Unit} (fits : Fits s t c f) (grows : Grows s s')
    (inBounds : c.publisher < s.publishers.size) (waiting : c.stage = .waiting)
    (outcome : c.request.outcome? = some r)
    (longer : s'.history = .ended t (c.value r) :: s.history) : Fits s' t (c.ended r) f := by
  have exchange : (s'.publisher c.publisher).exchange = (s.publisher c.publisher).exchange :=
    fits.exchange_of_grows grows inBounds
  have begun : f ≠ .unsent := (fits.waiting waiting).1
  -- the reply is there, so the request does not wait any more
  have answered : f ≠ .queued := by
    rintro rfl
    rw [Request.outcome?, fits.reply, Fate.reply] at outcome
    cases outcome
  have outcome' : (c.ended r).request.outcome? = some r := by
    rw [Call.ended, Request.forsake_eq]
    exact outcome
  refine
    { course := ?_
      returns := ?_
      reply := ?_
      claimed := by simp [Call.ended, Request.forsake_eq, answered]
      fresh := fun stage => by cases stage
      waiting := fun stage => by cases stage
      finished := fun r' stage => by cases stage; exact .inr outcome'
      dropped := fun stage => by cases stage
      opener := fits.opener_of_grows grows
      gone := fits.gone_of_grows grows
      cut := fits.cut_of_grows grows }
  · rw [course_of_history longer, fits.course, Call.ended, Request.forsake_eq]
    simp only [Event.isOf, beq_self_eq_true, if_true, Call.closing, waiting, exchange,
      List.nil_append, List.cons_append]
    cases f <;> rfl
  · rw [returnsTo_of_history longer, fits.returns]
    simp [Event.isReturnTo]
  · rw [Call.ended, Request.forsake_eq]
    exact fits.reply

/-- The cancellation answers a request. -/
theorem strand (fits : Fits s t c .queued) (dead : (s'.publisher c.publisher).dead = true)
    (course : s'.course t = s.course t)
    (returns : s'.returnsTo t = s.returnsTo t) :
    Fits s' t { c with request := c.request.strand } .stranded := by
  have waiting := fits.waiting_of_queued
  have free := fits.unclaimed_of_queued
  rw [Request.strand_of_unclaimed free]
  refine
    { course := ?_
      returns := by rw [returns, fits.returns]; rfl
      reply := Request.reply_answer (r := { c.request with claimed := true }) fits.reply _
      claimed := by simp [waiting]
      fresh := fun fresh => absurd (waiting.symm.trans fresh) nofun
      waiting := fun _ => ⟨nofun, nofun⟩
      finished := fun r ended => absurd (waiting.symm.trans ended) nofun
      dropped := fun _ => nofun
      opener := nofun
      gone := nofun
      cut := fun _ => dead }
  rw [course, fits.course]
  simp [Call.closing, waiting, Fate.trail]

/-- A loop opens a request. -/
theorem begin {l h : Nat} {x : Loop} (fits : Fits s t c .queued) (grows : Grows s s')
    (inBounds : c.publisher < s.publishers.size) (there : s'.tasks[l]? = some (.loop x))
    (own : x.publisher = c.publisher) (handle : x.handle = h)
    (longer : s'.history = .began l h (.publish t (s.publisher c.publisher).exchange
      c.request.routingKey {} c.request.message) :: s.history) :
    Fits s' t { c with request := { c.request with claimed := true } } (.underWay l h) := by
  have exchange : (s'.publisher c.publisher).exchange = (s.publisher c.publisher).exchange :=
    fits.exchange_of_grows grows inBounds
  have waiting := fits.waiting_of_queued
  refine
    { course := ?_
      returns := ?_
      reply := fits.reply
      claimed := by simp [waiting]
      fresh := fun fresh => absurd (waiting.symm.trans fresh) nofun
      waiting := fun _ => ⟨nofun, nofun⟩
      finished := fun r ended => absurd (waiting.symm.trans ended) nofun
      dropped := fun _ => nofun
      opener := fun l' h' opened => ?_
      gone := nofun
      cut := nofun }
  · rw [course_of_history longer, fits.course]
    simp [Event.isOf, Call.closing, waiting, Fate.trail, exchange]
  · rw [returnsTo_of_history longer, fits.returns]
    simp [Event.isReturnTo, Fate.returns]
  · cases opened
    exact ⟨x, there, own, handle⟩

/-- A publish comes back. -/
theorem answer {l h : Nat} (fits : Fits s t c (.underWay l h)) (grows : Grows s s')
    (inBounds : c.publisher < s.publishers.size) (result : Except Exception Unit)
    (longer : s'.history = .returned l t result :: s.history) :
    Fits s' t { c with request := c.request.answer (result.mapError .publish) }
      (.served l h result) := by
  have exchange : (s'.publisher c.publisher).exchange = (s.publisher c.publisher).exchange :=
    fits.exchange_of_grows grows inBounds
  have claimed := fits.claimed_of_opener rfl
  have unfinished := fits.not_finished_of_awaited rfl
  refine
    { course := ?_
      returns := ?_
      reply := Request.reply_answer fits.reply _
      claimed := by simp [claimed.1, claimed.2]
      fresh := fun fresh => absurd fresh claimed.2
      waiting := fun _ => ⟨nofun, nofun⟩
      finished := fun r ended => absurd ended (unfinished nofun r)
      dropped := fun _ => nofun
      opener := fits.opener_of_grows grows
      gone := nofun
      cut := nofun }
  · rw [course_of_history longer, fits.course,
      ← c.closing_request (c.request.answer (result.mapError .publish))]
    simp [Event.isOf, Fate.trail, exchange]
  · rw [returnsTo_of_history longer, fits.returns]
    simp [Event.isReturnTo, Fate.returns]

/-- The loop that opened the request is dropped before the publish comes back. -/
theorem abandon {l h : Nat} (fits : Fits s t c (.underWay l h)) (grows : Grows s s')
    (inBounds : c.publisher < s.publishers.size) (apart : l ≠ t)
    (longer : s'.history = .dropped l :: s.history) :
    Fits s' t { c with request := c.request.abandon } (.abandoned l h) := by
  have exchange : (s'.publisher c.publisher).exchange = (s.publisher c.publisher).exchange :=
    fits.exchange_of_grows grows inBounds
  have claimed := fits.claimed_of_opener rfl
  have unfinished := fits.not_finished_of_awaited rfl
  rw [Request.abandon_eq fits.reply]
  refine
    { course := ?_
      returns := ?_
      reply := rfl
      claimed := by simp [claimed.1, claimed.2]
      fresh := fun fresh => absurd fresh claimed.2
      waiting := fun _ => ⟨nofun, nofun⟩
      finished := fun r ended => absurd ended (unfinished nofun r)
      dropped := fun _ => nofun
      opener := fits.opener_of_grows grows
      gone := fun l' h' abandoned => ?_
      cut := nofun }
  · rw [course_of_history longer, fits.course,
      ← c.closing_request { c.request with reply := .abandoned }]
    simp [Event.isOf, apart, Fate.trail, exchange]
  · rw [returnsTo_of_history longer, fits.returns]
    simp [Event.isReturnTo, Fate.returns]
  · cases abandoned
    rw [longer]
    exact List.mem_cons_self

/-- A caller goes away. -/
theorem leave (fits : Fits s t c f) (grows : Grows s s')
    (inBounds : c.publisher < s.publishers.size) (alive : (Task.call c).isOver = false)
    (longer : s'.history = .dropped t :: s.history) : Fits s' t c.left f.left := by
  have exchange : (s'.publisher c.publisher).exchange = (s.publisher c.publisher).exchange :=
    fits.exchange_of_grows grows inBounds
  -- only a waiting request is affected; what loops did for others stays
  have trail : ∀ e r, f.left.trail t e r = f.trail t e r := by cases f <;> exact fun _ _ => rfl
  have opener : f.left.opener? = f.opener? := by cases f <;> rfl
  have unclosed : c.closing t = [] := by
    unfold Task.isOver at alive
    unfold Call.closing
    cases stage : c.stage <;> simp_all
  refine
    { course := ?_
      returns := ?_
      reply := ?_
      claimed := ?_
      fresh := nofun
      waiting := nofun
      finished := nofun
      dropped := fun _ => by cases f <;> exact nofun
      opener := by rw [opener]; exact fits.opener_of_grows grows
      gone := fun l h abandoned => ?_
      cut := fun stranded => fits.cut_of_grows grows ?_ }
  · rw [course_of_history longer, fits.course, unclosed, trail, Call.left, Request.forsake_eq]
    simp only [Event.isOf, beq_self_eq_true, if_true, Call.closing, exchange, List.nil_append,
      List.cons_append]
    cases f <;> rfl
  · rw [returnsTo_of_history longer, fits.returns]
    simp only [Event.isReturnTo, Bool.false_eq_true, if_false]
    cases f <;> rfl
  · rw [Call.left, Request.forsake_eq, fits.reply]
    cases f <;> rfl
  · rw [Call.left, Request.forsake_eq]
    cases f <;> simp [Fate.left]
  · apply fits.gone_of_grows grows l h
    cases f <;> first | exact abandoned | cases abandoned
  · cases f <;> first | rfl | cases stranded

end Fits

end Service

end Relay
