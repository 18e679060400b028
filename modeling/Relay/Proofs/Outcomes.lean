import Relay.Proofs.Turns

/-!
# Outcome and effect

What a call returns and what loops did for it agree. At most one loop ever begins a publish for a call,
and it publishes what the call asked for; the value of a finished call tells whether there was such a
publish and how it came back, and this stays true however the run goes on.
-/

namespace Relay.Service

open Broker (Exception)
open Publisher (Failure Request)

variable {s s' : Service} {t : Nat} {c : Call} {f : Fate}

/-! ## Courses and publishes -/

/-- The publish that a loop begins for a call. -/
def publishEvent (s : Service) (t : Nat) (c : Call) (l h : Nat) : Event :=
  .began l h (.publish t (s.publisher c.publisher).exchange c.request.routingKey {} c.request.message)

namespace Fits

theorem course_closing (c : Call) (t : Nat) : (c.closing t).filter (Event.isPublishFor t) = [] := by
  unfold Call.closing
  cases c.stage <;> rfl

/-- The publishes for a call are those of the loop that opened its request. -/
theorem publishesFor (fits : Fits s t c f) :
    s.publishesFor t = (f.opener?.map fun (l, h) => s.publishEvent t c l h).toList := by
  rw [publishesFor_eq_filter_course, fits.course, List.filter_append, course_closing, List.nil_append]
  cases f <;> simp [Fate.trail, Fate.opener?, Event.isPublishFor, publishEvent]

/-- The end of a call is in the history exactly if the call has come to this end. -/
theorem ended_iff (fits : Fits s t c f) {v : Value} :
    .ended t v ∈ s.history ↔ ∃ r, c.stage = .finished r ∧ v = c.value r := by
  have own : Event.ended t v ∈ s.history ↔ Event.ended t v ∈ s.course t := by
    rw [Service.course, List.mem_filter]
    simp [Event.isOf]
  rw [own, fits.course, List.mem_append]
  have unsaid : Event.ended t v ∉ f.trail t (s.publisher c.publisher).exchange c.request := by
    cases f <;> simp [Fate.trail]
  rw [or_iff_left unsaid, Call.closing]
  cases c.stage <;> simp

/-- A call that is not turned away learns what became of its request. -/
theorem outcome_cases {r : Except Failure Unit} (fits : Fits s t c f)
    (outcome : c.request.outcome? = some r) :
    (f = .stranded ∧ r = .error .dead) ∨
      (∃ l h result, f = .served l h result ∧ r = result.mapError .publish) ∨
      ∃ l h, f = .abandoned l h ∧ r = .error .interrupted := by
  rw [Request.outcome?, fits.reply] at outcome
  cases f with
  | unsent | queued | withdrawn | underWay => cases outcome
  | stranded => exact .inl ⟨rfl, (Option.some.inj outcome).symm⟩
  | served l h result => exact .inr (.inl ⟨l, h, result, rfl, (Option.some.inj outcome).symm⟩)
  | abandoned l h => exact .inr (.inr ⟨l, h, rfl, (Option.some.inj outcome).symm⟩)

end Fits

theorem valueOf_eq_some {v : Value} (here : s.tasks[t]? = some (.call c)) :
    s.valueOf t = some v ↔ ∃ r, c.stage = .finished r ∧ v = c.value r := by
  rw [valueOf, here, Option.bind_some, Task.value?]
  cases c.stage <;> simp [eq_comm]

/-- A finished call has the same value ever after. -/
theorem valueOf_of_grows {F F' : Nat → Fate} {v : Value} (accounted : Accounted s F)
    (accounted' : Accounted s' F') (grows : Grows s s') (here : s.tasks[t]? = some (.call c))
    (value : s.valueOf t = some v) : s'.valueOf t = some v := by
  obtain ⟨c', there, -⟩ := grows.call here
  have fits := accounted.call t c (call?_eq_some.mpr here)
  have fits' := accounted'.call t c' (call?_eq_some.mpr there)
  rw [valueOf_eq_some here, ← fits.ended_iff] at value
  rw [valueOf_eq_some there, ← fits'.ended_iff]
  exact grows.history.subset value

/-! ## What a call asks for -/

/-- A command asks a publisher to publish a message under a routing key. The last index is what the
call returns if that succeeds. -/
inductive Asks (s : Service) : Command → Nat → String → Message → Value → Prop
  | publish {n p : Nat} {message : Message} {overtaken deferred : Bool}
      (named : s.names[n]? = some p) :
      Asks s (.publish n none message overtaken deferred) p (s.publisher p).routingKey message
        .published
  | publishWithRoutingKey {n p : Nat} {key : String} {message : Message} {overtaken deferred : Bool}
      (named : s.names[n]? = some p) :
      Asks s (.publish n (some key) message overtaken deferred) p key message .published
  | write {n p : Nat} {body : List UInt8} {overtaken deferred : Bool}
      (named : s.names[n]? = some p) :
      Asks s (.write n body deferred overtaken) p (s.publisher p).routingKey
        { (s.publisher p).template with body } (.written body.length)

/-- A command that asks for a publish issues a call for it. -/
theorem Asks.issues {command : Command} {p : Nat} {key : String} {message : Message}
    {success : Value} (asks : Asks s command p key message success) :
    ∃ (c : Call) (deferred : Bool), s.step command = s.start (.call c) deferred ∧
      (Task.call c).issued = .call c ∧ (∃ n : Nat, s.names[n]? = some p) ∧ c.publisher = p ∧
      c.request.routingKey = key ∧ c.request.message = message ∧ c.value (.ok ()) = success := by
  cases asks with
  | @publish n p message overtaken deferred named =>
    let request : Request := { routingKey := (s.publisher p).routingKey, message }
    refine ⟨{ publisher := p, purpose := .publish, overtaken, request }, deferred, ?_, rfl,
      ⟨n, named⟩, rfl, rfl, rfl, rfl⟩
    simp only [Service.step, withPublisher, named]
    rfl
  | @publishWithRoutingKey n p key message overtaken deferred named =>
    let request : Request := { routingKey := key, message }
    refine ⟨{ publisher := p, purpose := .publish, overtaken, request }, deferred, ?_, rfl,
      ⟨n, named⟩, rfl, rfl, rfl, rfl⟩
    simp only [Service.step, withPublisher, named]
    rfl
  | @write n p body overtaken deferred named =>
    let message := (s.publisher p).template.withBody body
    let request : Request := { routingKey := (s.publisher p).routingKey, message }
    refine ⟨{ publisher := p, purpose := .write body.length, overtaken, request }, deferred, ?_, rfl,
      ⟨n, named⟩, rfl, rfl, rfl, rfl⟩
    simp only [Service.step, withPublisher, named]
    rfl

theorem answer_start (s : Service) (x : Task) (deferred : Bool) :
    ∃ outlook, (s.start x deferred).2 = .task s.tasks.size outlook := by
  unfold start
  simp only []
  split
  · exact ⟨_, rfl⟩
  · split
    · exact ⟨_, rfl⟩
    · exact ⟨_, rfl⟩

/-- The call that a command issued is there however the service goes on. -/
theorem Asks.call_of_grows {command : Command} {p : Nat} {key : String} {message : Message}
    {success : Value} (sound : Sound s) (asks : Asks s command p key message success)
    (later : Grows (s.step command).1 s') :
    ∃ c, s'.tasks[s.tasks.size]? = some (.call c) ∧ c.publisher = p ∧ c.request.routingKey = key ∧
      c.request.message = message ∧ c.value (.ok ()) = success ∧
      (s'.publisher p).exchange = (s.publisher p).exchange := by
  obtain ⟨c, deferred, issue, new, ⟨n, named⟩, rfl, rfl, rfl, rfl⟩ := asks.issues
  have inBounds := sound.bounded.name n _ named
  have pushed : Step s none { s with tasks := s.tasks.push (.call c) } := .issue new inBounds
  have started := turns_start_of_pushed s (.call c) deferred
  have grows : Grows { s with tasks := s.tasks.push (.call c) } s' := by
    rw [issue] at later
    exact ((sound.step pushed).grows_turns started).trans later
  have here : { s with tasks := s.tasks.push (.call c) }.tasks[s.tasks.size]? = some (.call c) := by
    rw [tasks_push, if_pos rfl]
  obtain ⟨c', there, publisher, purpose, key, message⟩ := grows.call here
  have exchange := congrArg Publisher.exchange (grows.founded c.publisher inBounds)
  refine ⟨c', there, publisher, key, message, ?_, exchange⟩
  rw [Call.value, purpose, ← Call.value]

/-- The call that a command issued is there however the run goes on. -/
theorem Asks.call_of_run {command : Command} {p : Nat} {key : String} {message : Message}
    {success : Value} (sound : Sound s) (asks : Asks s command p key message success)
    (rest : List Command) :
    ∃ c, ((s.step command).1.run rest).tasks[s.tasks.size]? = some (.call c) ∧ c.publisher = p ∧
      c.request.routingKey = key ∧ c.request.message = message ∧ c.value (.ok ()) = success ∧
      (((s.step command).1.run rest).publisher p).exchange = (s.publisher p).exchange := by
  have sound' : Sound (s.step command).1 := sound.turns (sound.command command)
  exact asks.call_of_grows sound (sound'.grows_turns (sound'.run rest))

/-- What a run shows for a call that returned a value. A loop `l` on a handle `h` would publish with
`publish l h`; `success` is the value of a call whose publish succeeds. -/
def Accords (s : Service) (t : Nat) (publish : Nat → Nat → Event) (success : Value) : Value → Prop
  | .failed .dead | .failed .notInitialized | .failed (.channel _) => s.publishesFor t = []
  | .failed (.publish e) =>
    ∃ l h, s.publishesFor t = [publish l h] ∧ s.returnsTo t = [.returned l t (.error e)]
  | .failed .interrupted =>
    ∃ l h, s.publishesFor t = [publish l h] ∧ s.returnsTo t = [] ∧ .dropped l ∈ s.journal
  | value =>
    value = success ∧
      ∃ l h, s.publishesFor t = [publish l h] ∧ s.returnsTo t = [.returned l t (.ok ())]

/-- The fate of a finished call is in accord with its value. -/
theorem Fits.accords {v : Value} (fits : Fits s t c f) (here : s.tasks[t]? = some (.call c))
    (value : s.valueOf t = some v) : Accords s t (s.publishEvent t c) (c.value (.ok ())) v := by
  have publishes := fits.publishesFor
  have returns := fits.returns
  obtain ⟨r, finished, rfl⟩ := (valueOf_eq_some here).mp value
  rcases fits.finished r finished with ⟨rfl, e, rfl, refusal⟩ | outcome
  · cases e with
    | dead | notInitialized | channel => exact publishes
    | interrupted | publish => cases refusal
  · rcases fits.outcome_cases outcome with ⟨rfl, rfl⟩ | ⟨l, h, result, rfl, rfl⟩ | ⟨l, h, rfl, rfl⟩
    · exact publishes
    · cases result with
      | ok =>
        simp only [Except.mapError, Call.value]
        cases c.purpose with
        | publish => exact ⟨rfl, l, h, publishes, returns⟩
        | write n => exact ⟨rfl, l, h, publishes, returns⟩
      | error e => exact ⟨l, h, publishes, returns⟩
    · exact ⟨l, h, publishes, returns, (mem_history rfl).mp (fits.gone l h rfl)⟩

/-- For every call, whatever happens before, during and after it: at most one publish is ever begun for
it, by a loop of its publisher, with what the call asked for; and once the call has returned a value,
the run is in accord with this value ever after. -/
theorem outcome_agrees_with_effect (before mid later : List Command) {command : Command} {p : Nat}
    {key : String} {message : Message} {success : Value}
    (asks : Asks (fresh.run before) command p key message success) :
    let issued := fresh.run before
    let t := issued.tasks.size
    let now := fresh.run (before ++ command :: mid)
    let s := fresh.run (before ++ command :: mid ++ later)
    let publish := fun l h => Event.began l h (.publish t (issued.publisher p).exchange key
      { mandatory := false, immediate := false } message)
    (∃ outlook, (issued.step command).2 = .task t outlook) ∧
    (s.publishesFor t).length ≤ 1 ∧
    (∀ e ∈ s.publishesFor t, ∃ (l : Nat) (x : Loop), s.tasks[l]? = some (.loop x) ∧
      x.publisher = p ∧ e = publish l x.handle) ∧
    ∀ v, now.valueOf t = some v → Accords s t publish success v := by
  intro issued t now s publish
  have sound : Sound issued := sound_run before
  have runs : ∀ rest, fresh.run (before ++ command :: rest) = (issued.step command).1.run rest :=
    fun rest => run_append fresh before (command :: rest)
  have whole : s = (issued.step command).1.run (mid ++ later) := by
    rw [← runs]
    simp only [s, List.append_assoc, List.cons_append]
  -- the call that is there in the end is the one that was issued, and asks for the same
  obtain ⟨d, here, -⟩ := asks.call_of_run sound mid
  obtain ⟨c, there, publisher, rfl, rfl, rfl, exchange⟩ := asks.call_of_run sound (mid ++ later)
  rw [← runs] at here
  rw [← whole] at there exchange
  obtain ⟨F, accounted⟩ : ∃ F, Accounted now F := (sound_run _).accounted
  obtain ⟨F', accounted'⟩ : ∃ F, Accounted s F := (sound_run _).accounted
  have fits := accounted'.call t c (call?_eq_some.mpr there)
  have same : s.publishEvent t c = publish := by
    funext l h
    simp only [publishEvent, publisher, exchange, publish, issued]
  have publishes := fits.publishesFor
  rw [same] at publishes
  refine ⟨?_, ?_, fun e mem => ?_, fun v value => ?_⟩
  · obtain ⟨c', deferred, issue, -⟩ := asks.issues
    rw [issue]
    exact answer_start issued (.call c') deferred
  · rw [publishes]
    cases (F' t).opener? <;> simp
  · rw [publishes, Option.mem_toList, Option.map_eq_some_iff] at mem
    obtain ⟨⟨l, h⟩, opened, rfl⟩ := mem
    obtain ⟨x, loop, own, rfl⟩ := fits.opener l h opened
    exact ⟨l, x, loop, own.trans publisher, rfl⟩
  · -- the value that was returned is the value in the end, whose fate accords with it
    have grows : Grows now s := by
      have longer : s = now.run later := run_append fresh (before ++ command :: mid) later
      rw [longer]
      exact (sound_run _).grows_turns ((sound_run _).run later)
    rw [← same]
    exact fits.accords there (valueOf_of_grows accounted accounted' grows here value)

/-- One call is served by one loop, which is dropped afterwards. -/
theorem single_publish_in_accord :
    let s := fresh.run ([.publisher "" "key" {} none, .openChannel 1, .serve 0 0 false] ++
      .publish 0 none {} false false :: [.poll 0, .poll 1] ++ [.dropTask 0])
    Accords s 1 (fun l h => .began l h (.publish 1 "" "key" {} {})) .published .published :=
  (outcome_agrees_with_effect [.publisher "" "key" {} none, .openChannel 1, .serve 0 0 false]
    [.poll 0, .poll 1] [.dropTask 0] (.publish (n := 0) (p := 0) rfl)).2.2.2 .published rfl

end Relay.Service
