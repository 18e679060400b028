import Relay.Proofs.Order

/-!
# One publish at a time

A publish that a loop has begun is closed, by its return or by the drop of the loop, or the loop still
carries the call that it is for. A loop that begins a publish is idle and the only one attached to its
publisher, so every earlier publish of this publisher is closed by then.
-/

namespace Relay.Service

open Broker (Exception)
open Publisher (Failure Reply)

variable {s s' : Service} {t p : Nat} {a : Option Nat} {F : Nat → Fate}

/-- Publishes are closed or carried, and those of one publisher are closed before the next begins.
Histories have the last event first. -/
structure Serial (s : Service) : Prop where
  carried : ∀ later earlier e l t, s.history = later ++ e :: earlier → e.opens? = some (l, t) →
    (∃ e' ∈ later, e'.Closes l t) ∨ s.carries l = some t
  closed : ∀ p later mid earlier e e' l t l' t', s.history = later ++ e' :: (mid ++ e :: earlier) →
    e.opens? = some (l, t) → e'.opens? = some (l', t') →
    s.publisherOf l = some p → s.publisherOf l' = some p → ∃ d ∈ mid, d.Closes l t

/-- The loop that began a publish is in the table. -/
theorem lt_size_of_opens {e : Event} {l : Nat} (bounded : Bounded s) (inside : e ∈ s.history)
    (opens : e.opens? = some (l, t)) : l < s.tasks.size := by
  apply bounded.event e inside l
  cases e with
  | began k h operation =>
    cases operation with
    | publish u => cases opens; exact List.mem_cons_self
    | _ => cases opens
  | _ => cases opens

/-- A loop that carries a call is attached to its publisher. -/
theorem mooring_of_carries {l : Nat} (carried : s.carries l = some t)
    (own : s.publisherOf l = some p) : s.mooring l = some p := by
  obtain ⟨x, here, caller⟩ := Option.bind_eq_some_iff.mp carried
  cases x with
  | call c => cases caller
  | loop x =>
    rw [publisherOf_of_task here] at own
    rw [mooring_eq_some]
    obtain ⟨notice, phase, publishing⟩ := LoopStage.caller?_eq_some.mp caller
    exact ⟨x, here, by rw [publishing]; rfl, Option.some.inj own⟩

namespace Serial

/-- The publishers of loops that have begun publishes are the ones that they were. -/
theorem closed_of_grows (serial : Serial s) (bounded : Bounded s) (grows : Grows s s')
    {later mid earlier : List Event} {e e' : Event} {l l' t' : Nat}
    (split : s.history = later ++ e' :: (mid ++ e :: earlier)) (opens : e.opens? = some (l, t))
    (opens' : e'.opens? = some (l', t')) (own : s'.publisherOf l = some p)
    (own' : s'.publisherOf l' = some p) : ∃ d ∈ mid, d.Closes l t := by
  have inside : e ∈ s.history := by rw [split]; simp
  have inside' : e' ∈ s.history := by rw [split]; simp
  rw [grows.publisherOf (lt_size_of_opens bounded inside opens)] at own
  rw [grows.publisherOf (lt_size_of_opens bounded inside' opens')] at own'
  exact serial.closed p later mid earlier e e' l t l' t' split opens opens' own own'

/-- Nothing is added to the history. -/
theorem of_same (serial : Serial s) (bounded : Bounded s) (grows : Grows s s')
    (same : s'.history = s.history)
    (carries : ∀ l u, s.carries l = some u → s'.carries l = some u) : Serial s' where
  carried later earlier e l t split opens := by
    rw [same] at split
    exact (serial.carried later earlier e l t split opens).imp_right (carries l t)
  closed p later mid earlier e e' l t l' t' split opens opens' own own' := by
    rw [same] at split
    exact serial.closed_of_grows bounded grows split opens opens' own own'

/-- An event is added that opens nothing. -/
theorem of_closing {d : Event} (serial : Serial s) (bounded : Bounded s) (grows : Grows s s')
    (longer : s'.history = d :: s.history) (shut : d.opens? = none)
    (carries : ∀ l u, s.carries l = some u → s'.carries l = some u ∨ d.Closes l u) :
    Serial s' where
  carried later earlier e l t split opens := by
    rw [longer] at split
    cases later with
    | nil =>
      obtain ⟨rfl, -⟩ := List.cons.inj split
      rw [shut] at opens
      cases opens
    | cons d' later =>
      obtain ⟨rfl, shorter⟩ := List.cons.inj split
      rcases serial.carried later earlier e l t shorter opens with ⟨e', inside, closes⟩ | carried
      · exact .inl ⟨e', List.mem_cons_of_mem _ inside, closes⟩
      · rcases carries l t carried with carried | closes
        · exact .inr carried
        · exact .inl ⟨d, List.mem_cons_self, closes⟩
  closed p later mid earlier e e' l t l' t' split opens opens' own own' := by
    rw [longer] at split
    cases later with
    | nil =>
      obtain ⟨rfl, -⟩ := List.cons.inj split
      rw [shut] at opens'
      cases opens'
    | cons d' later =>
      obtain ⟨rfl, shorter⟩ := List.cons.inj split
      exact serial.closed_of_grows bounded grows shorter opens opens' own own'

/-- An idle loop begins a publish. -/
theorem of_opening {d : Event} {caller : Nat} {l : Loop} {notice : Option Nat} (serial : Serial s)
    (sound : Sound s) (grows : Grows s s') (here : s.tasks[t]? = some (.loop l))
    (idle : l.stage = .idle notice) (longer : s'.history = d :: s.history)
    (begins : d.opens? = some (t, caller))
    (carries : ∀ k, s'.carries k = if k = t then some caller else s.carries k) : Serial s' where
  carried later earlier e k u split opens := by
    rw [longer] at split
    cases later with
    | nil =>
      obtain ⟨rfl, -⟩ := List.cons.inj split
      rw [begins] at opens
      cases opens
      exact .inr (by rw [carries, if_pos rfl])
    | cons d' later =>
      obtain ⟨rfl, shorter⟩ := List.cons.inj split
      rcases serial.carried later earlier e k u shorter opens with ⟨e', inside, closes⟩ | carried
      · exact .inl ⟨e', List.mem_cons_of_mem _ inside, closes⟩
      · -- a loop that carries a call is not the idle one
        refine .inr ?_
        rw [carries, if_neg ?_, carried]
        rintro rfl
        rw [carries_of_idle here idle] at carried
        cases carried
  closed p later mid earlier e e' k u k' u' split opens opens' own own' := by
    rw [longer] at split
    cases later with
    | nil =>
      obtain ⟨rfl, shorter⟩ := List.cons.inj split
      rw [begins] at opens'
      cases opens'
      rcases serial.carried mid earlier e k u shorter opens with closed | carried
      · exact closed
      · -- the loop that carries the earlier publish would be attached beside the idle one
        have inside : e ∈ s.history := by rw [shorter]; simp
        rw [grows.publisherOf (lt_size_of_opens sound.bounded inside opens)] at own
        rw [grows.publisherOf (lt_size_of_task here), publisherOf_of_task here] at own'
        have moored := mooring_of_attached here (by rw [idle]; rfl)
        rw [show l.publisher = p from Option.some.inj own', ← sound.moored] at moored
        have other := mooring_of_carries carried own
        rw [← sound.moored, moored] at other
        cases other
        rw [carries_of_idle here idle] at carried
        cases carried
    | cons d' later =>
      obtain ⟨rfl, shorter⟩ := List.cons.inj split
      exact serial.closed_of_grows sound.bounded grows shorter opens opens' own own'

/-- In a new service no publish has begun. -/
theorem fresh : Serial fresh where
  carried later earlier e l t split := by
    cases later <;> cases split
  closed p later mid earlier e e' l t l' t' split := by
    cases later <;> cases split

/-- Every step keeps it so that a publish is closed before the next. -/
theorem step (serial : Serial s) (sound : Sound s) (h : Step s a s') : Serial s' := by
  have grows := h.grows
  obtain ⟨q, -, -, rfl⟩ | ⟨t, c, rfl, here, -, -, rfl⟩ |
    ⟨t, l, notice, caller, c, rest, -, here, idle, -, there, rfl⟩ | minor := h.kinds
  · refine serial.of_closing sound.bounded grows (history_cancel s q) rfl fun l u carried => .inl ?_
    rw [carries_cancel, carried]
  · refine serial.of_closing sound.bounded grows (history_enqueue c) rfl fun l u carried => .inl ?_
    rw [carries_of_write here (tasks_enqueue here) rfl, carried]
  · exact serial.of_opening sound grows here idle (history_openRequest _ _ _ _) rfl
      (Accounted.carries_of_pair (s := s) there
        (tasks_openRequest (s := s.withIntake l.publisher _) here there notice))
  · rcases minor.history with same | ⟨e, longer, ending⟩
    · refine serial.of_same sound.bounded grows same fun l u carried => ?_
      rcases minor.carries l u carried with still | ⟨e, longer, -⟩
      · exact still
      · rw [same] at longer
        exact absurd longer.symm (List.cons_ne_self e s.history)
    · refine serial.of_closing sound.bounded grows longer ?_ fun l u carried => ?_
      · cases e with
        | began => cases ending
        | _ => rfl
      · rcases minor.carries l u carried with still | ⟨e', longer', closes⟩
        · exact .inl still
        · rw [longer] at longer'
          cases longer'
          exact .inr closes

/-- So does every run. -/
theorem run (commands : List Command) : Serial (Service.fresh.run commands) :=
  Sound.keeps_turns (P := Serial) (fun sound h serial => serial.step sound h) .fresh
    (Sound.fresh.run commands) fresh

end Serial

end Relay.Service
