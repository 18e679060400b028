import Relay.Proofs.Aftermath

/-!
# Deliveries and the calls they stem from

Every delivery in the log of a broker is a message that the broker handled, and each of these stems from
a direct publish or from a call. `Settled` says of a message what it stems from and how the answer of the
broker stands in the end: a delivery names the channel, and a missing exchange has closed it and has its
loop fail. A call whose caller is told that its message is published has that message in the log exactly
once, unless the exchange was not there; what another outcome says about the log is `Records`.
-/

namespace Relay.Service

open Broker (Exception Delivery PublishOptions)
open Publisher (Failure)

variable {s s' : Service} {t u : Nat} {l : Loop} {c : Call} {a : Act} {acts : List Act} {h : Handling}

/-- A message is what a call asks for, sent to the exchange of its publisher by one of the loops of that. -/
def SentFor (s : Service) (m : Sending) (t u : Nat) : Prop :=
  ∃ l c, s.loop? t = some l ∧ s.call? u = some c ∧ l.publisher = c.publisher ∧
    m = ⟨some (t, u), s.channelOf l.handle, (s.publisher c.publisher).exchange,
      c.request.routingKey, {}, c.request.message⟩

/-- What a message stems from that the broker handled. -/
inductive StemsFrom (acts : List Act) (m : Sending) : Prop
  /-- Somebody published it directly on the channel of a handle. -/
  | direct {first rest : List Act} {handle : Nat} {exchange routingKey : String}
      {options : PublishOptions} {message : Message}
      (split : acts =
        first ++ .command (.publishOn handle exchange routingKey options message) rfl :: rest)
      (held : (fresh.perform first).heldChannel? handle = some m.channel)
      (sent : m = ⟨none, m.channel, exchange, routingKey, options, message⟩)
  /-- A loop published it for a call. -/
  | call {t u : Nat} (sent : (fresh.perform acts).SentFor m t u)

/-- How a message stands that the broker handled. -/
structure Settled (acts : List Act) (h : Handling) : Prop where
  stems : StemsFrom acts h.sending
  accepted : ∀ d, h.value = .ok (some d) → h.known = true ∧
    ∃ ch, (fresh.perform acts).broker.channels[h.sending.channel]? = some ch ∧
      d = ⟨ch.number, h.sending.exchange, h.sending.routingKey, h.sending.options, h.sending.message⟩
  unknown : h.value = .ok none → h.known = false ∧
    (fresh.perform acts).ClosedWith h.sending.channel (.unknownExchange h.sending.exchange)
  fails : h.value = .ok none → ∀ t u, h.sending.origin = some (t, u) →
    (fresh.perform acts).Answers t u ∨ Fails acts t (.unknownExchange h.sending.exchange)

/-! ## Where messages come from -/

/-- What a call asks for, and who serves it on which channel, never changes. -/
theorem SentFor.act {m : Sending} (sent : s.SentFor m t u) (sound : Sound s) (hearing : Hearing s)
    (a : Act) : (s.act a).SentFor m t u := by
  obtain ⟨l, c, here, there, own, rfl⟩ := sent
  have grows := (sound.act a).2
  obtain ⟨l', here', publisher, handle⟩ := grows.loop (loop?_eq_some.mp here)
  obtain ⟨c', there', publisher', -, key, message⟩ := grows.call (call?_eq_some.mp there)
  have inBounds : c.publisher < s.publishers.size :=
    sound.bounded.task u (.call c) (call?_eq_some.mp there)
  have exchange := congrArg Publisher.exchange (grows.founded _ inBounds)
  have kept := (surroundings_act sound a).channelOf _ (hearing.handles t l here)
  refine ⟨l', c', loop?_eq_some.mpr here', call?_eq_some.mpr there',
    by rw [publisher, publisher', own], ?_⟩
  rw [publisher', key, message, handle, kept]
  congr 1
  exact exchange.symm

/-- A loop publishes what the call asks for. -/
theorem sentFor_of_handling (sound : Sound s) (handles : s.handling? a = some h)
    (own : h.caller? = some u) : ∃ t, h.sending.origin = some (t, u) ∧ s.SentFor h.sending t u := by
  obtain ⟨t, l, c, notice, -, here, -, publishing, there, sending⟩ := handling_of_caller handles own
  obtain ⟨F, accounted⟩ := sound.accounted
  obtain ⟨_, underWay⟩ := accounted.underWay_of_publishing (loop?_eq_some.mp here) publishing
  obtain ⟨x, at_t, publisher, -⟩ := (accounted.call u c there).opener t _ (by rw [underWay]; rfl)
  rw [loop?_eq_some.mp here] at at_t
  cases at_t
  refine ⟨t, by rw [sending], l, c, here, there, publisher, ?_⟩
  rw [sending, publisher]

namespace StemsFrom

variable {m : Sending}

/-- A message stems from where it did, whatever happens later. -/
theorem act (stems : StemsFrom acts m) (a : Act) : StemsFrom (acts ++ [a]) m := by
  cases stems with
  | @direct first rest handle exchange key options message split held sent =>
    have longer : acts ++ [a] =
        first ++ .command (.publishOn handle exchange key options message) rfl :: (rest ++ [a]) := by
      rw [split, List.append_assoc, List.cons_append]
    exact .direct longer held sent
  | call sent =>
    have kept := sent.act (sound_perform acts) (hearing_perform acts) a
    rw [← perform_concat] at kept
    exact .call kept

/-- A message that is handled stems from a call or from the outside. -/
theorem of_handling (handles : (fresh.perform acts).handling? a = some h) :
    StemsFrom (acts ++ [a]) h.sending := by
  cases own : h.caller? with
  | some u =>
    obtain ⟨t, -, sent⟩ := sentFor_of_handling (sound_perform acts) handles own
    exact (StemsFrom.call sent).act a
  | none =>
    obtain ⟨publishes, -, -⟩ := handling?_eq_some.mp handles
    rw [Handling.caller?, Option.map_eq_none_iff] at own
    cases a with
    | command c passive =>
      obtain ⟨_, _, _, _, _, rfl, held, sent⟩ := publishOn_of_dealing publishes
      exact .direct rfl held sent
    | move t =>
      obtain ⟨_, _, _, _, -, -, -, -, sent⟩ := publishing_of_dealing publishes
      rw [sent] at own
      cases own

end StemsFrom

/-! ## How messages stand -/

namespace Settled

/-- A message that is settled stays so. -/
theorem act (settled : Settled acts h) (a : Act) : Settled (acts ++ [a]) h where
  stems := settled.stems.act a
  accepted d value := by
    obtain ⟨known, ch, here, rfl⟩ := settled.accepted d value
    obtain ⟨ch', there, number, -⟩ := ((fresh.perform acts).deals a).lasts _ ch here
    rw [← perform_concat] at there
    exact ⟨known, ch', there, by rw [number]⟩
  unknown value := by
    obtain ⟨unknown, closed⟩ := settled.unknown value
    rw [perform_concat]
    exact ⟨unknown, closed.perform [a]⟩
  fails value t u origin := by
    obtain ⟨-, closed⟩ := settled.unknown value
    cases settled.stems with
    | direct _ _ sent =>
      rw [sent] at origin
      cases origin
    | call sent =>
      obtain ⟨l, c, here, -, -, sent⟩ := sent
      obtain ⟨rfl, rfl⟩ := Prod.mk.inj (Option.some.inj ((congrArg Sending.origin sent).symm.trans origin))
      rw [show h.sending.channel = _ from congrArg Sending.channel sent] at closed
      rcases settled.fails value _ _ origin with answers | fails
      · exact Fails.of_answers answers here closed a
      · exact .inr (fails.act here closed a)

/-- How a message stands when the broker has just handled it. -/
theorem of_handling (handles : (fresh.perform acts).handling? a = some h) :
    Settled (acts ++ [a]) h := by
  have publishes := publishes_of_handling handles
  obtain ⟨-, known, -⟩ := handling?_eq_some.mp handles
  have unknown : h.value = .ok none → h.known = false ∧
      (fresh.perform (acts ++ [a])).ClosedWith h.sending.channel
        (.unknownExchange h.sending.exchange) := by
    intro value
    rw [perform_concat, ClosedWith]
    rw [value] at publishes
    generalize ((fresh.perform acts).act a).broker = after at publishes
    cases publishes with
    | unknown live free absent =>
      obtain ⟨ch, here, state⟩ := Broker.isLive_iff.mp live
      exact ⟨known.trans absent, _, Broker.channel_shut here state _, rfl⟩
  refine ⟨.of_handling handles, fun d value => ?_, unknown, fun value t u origin => ?_⟩
  · rw [perform_concat]
    rw [value] at publishes
    generalize ((fresh.perform acts).act a).broker = after at publishes
    cases publishes with
    | accepted live free there =>
      obtain ⟨ch, here, -⟩ := Broker.isLive_iff.mp live
      obtain ⟨ch', here', number, -⟩ := Broker.channels_accept (fresh.perform acts).broker
        h.sending.channel _ here
      exact ⟨known.trans there, ch', here', by rw [number, Broker.numberOf, here]⟩
  · obtain ⟨k, l, notice, rfl, origin', here, publishing, there⟩ :=
      loop_of_handled handles (u := u) (by rw [Handling.caller?, origin]; rfl)
    obtain ⟨rfl, -⟩ := Prod.mk.inj (Option.some.inj (origin.symm.trans origin'))
    obtain ⟨n, rfl⟩ := notice_of_publishing acts here publishing
    rw [perform_concat]
    refine .inl ⟨_, n, there, ?_⟩
    rw [Handling.result, value]
    rfl

end Settled

/-- Over every run each message that was handled is settled. -/
theorem settled_perform (acts : List Act) : ∀ h ∈ handlings acts, Settled acts h := by
  induction acts using List.reverseRecOn with
  | nil => exact fun _ inside => absurd inside List.not_mem_nil
  | append_singleton acts a ih =>
    intro h inside
    rw [handlings_concat, List.mem_append, Option.mem_toList] at inside
    rcases inside with before | now
    · exact (ih h before).act a
    · exact .of_handling now

/-! ## What callers are told -/

/-- The deliveries in the log that stem from a call. -/
def deliveriesOf (acts : List Act) (u : Nat) : List Delivery :=
  (stemming acts u).filterMap Handling.delivery?

/-- What became of the message of a call whose caller was told that it is published: between the acts
`first` and `rest` a loop handed it over just as the call asked for it. If the exchange was there at that
moment, the log holds this message and no other of the call; if not, it holds none, and the channel has
closed and the loop fails for this reason. -/
structure HandsOver (acts first rest : List Act) (t u : Nat) (l : Loop) (exchange key : String)
    (message : Message) : Prop where
  split : acts = first ++ .move t :: rest
  here : (fresh.perform acts).loop? t = some l
  sends : (fresh.perform first).dealing (.move t) = .publish
    ⟨some (t, u), (fresh.perform acts).channelOf l.handle, exchange, key, {}, message⟩
  known : (fresh.perform first).broker.hasExchange exchange = true → deliveriesOf acts u =
    [⟨(fresh.perform acts).broker.numberOf ((fresh.perform acts).channelOf l.handle), exchange, key,
      {}, message⟩]
  unknown : (fresh.perform first).broker.hasExchange exchange = false → deliveriesOf acts u = [] ∧
    (fresh.perform acts).ClosedWith ((fresh.perform acts).channelOf l.handle)
      (.unknownExchange exchange) ∧
    Fails acts t (.unknownExchange exchange)

/-- What a run's log holds of a call to a publisher that returned a value. -/
def Records (acts : List Act) (u p : Nat) (exchange key : String) (message : Message)
    (success : Value) : Value → Prop
  | .failed .dead | .failed .notInitialized | .failed (.channel _) | .failed (.publish _) =>
    deliveriesOf acts u = []
  | .failed .interrupted => (deliveriesOf acts u).length ≤ 1
  | value => value = success ∧ ∃ first rest t l, l.publisher = p ∧
      HandsOver acts first rest t u l exchange key message

/-- A call has at most one delivery. -/
theorem deliveriesOf_length_le (acts : List Act) (u : Nat) : (deliveriesOf acts u).length ≤ 1 :=
  (List.length_filterMap_le _ _).trans ((Stems.perform acts).once u)

/-- A call whose message was rejected has none. -/
theorem deliveriesOf_of_rejected {r : Except Exception Unit} {e : Exception}
    (once : HandledOnce acts u t r) (rejected : r = .error e) : deliveriesOf acts u = [] := by
  obtain ⟨h, one, result, -⟩ := once
  rw [rejected, Handling.result] at result
  rw [deliveriesOf, one]
  cases value : h.value with
  | ok d =>
    rw [value] at result
    cases result
  | error e' =>
    refine List.filterMap_eq_nil_iff.mpr fun x inside => ?_
    rw [List.mem_singleton.mp inside, Handling.delivery?, value]
    rfl

/-- A loop that was told has come back to the caller. -/
theorem not_answers_of_returned (sound : Sound s) (returned : s.returnsTo u ≠ []) :
    ¬ s.Answers t u := by
  rintro ⟨l, n, here, publishing⟩
  obtain ⟨F, accounted⟩ := sound.accounted
  obtain ⟨h, underWay⟩ := accounted.underWay_of_publishing (loop?_eq_some.mp here) publishing
  obtain ⟨c, there⟩ := accounted.call?_of_underWay underWay
  have returns := (accounted.call u c there).returns
  rw [underWay] at returns
  exact returned returns

/-- A message that was handed over without being rejected is in the log, or its exchange was not there. -/
theorem handsOver (once : HandledOnce acts u t (.ok ())) (there : (fresh.perform acts).call? u = some c)
    (returned : (fresh.perform acts).returnsTo u ≠ []) :
    ∃ first rest l, l.publisher = c.publisher ∧
      HandsOver acts first rest t u l ((fresh.perform acts).publisher c.publisher).exchange
        c.request.routingKey c.request.message := by
  obtain ⟨h, one, result, origin⟩ := once
  have inside : h ∈ handlings acts :=
    List.mem_of_mem_filter (show h ∈ stemming acts u by rw [one]; exact List.mem_singleton_self h)
  -- what the message was: the one that the loop sent for the call, read off the call and its publisher
  have settled := settled_perform acts h inside
  obtain ⟨l, own, here, sent⟩ : ∃ l, l.publisher = c.publisher ∧
      (fresh.perform acts).loop? t = some l ∧ h.sending = ⟨some (t, u),
        (fresh.perform acts).channelOf l.handle, ((fresh.perform acts).publisher c.publisher).exchange,
        c.request.routingKey, {}, c.request.message⟩ := by
    cases settled.stems with
    | direct _ _ direct =>
      rw [direct] at origin
      cases origin
    | call sent =>
      obtain ⟨l, c', here, there', own, sent⟩ := sent
      obtain ⟨rfl, rfl⟩ := Prod.mk.inj
        (Option.some.inj (origin.symm.trans (congrArg Sending.origin sent)))
      cases there.symm.trans there'
      exact ⟨l, own, here, sent⟩
  -- when it was sent: the act that handled it splits the run
  obtain ⟨first, a, rest, split, handles⟩ := mem_gather.mp inside
  obtain ⟨k, _, _, _, rfl, -, -, -, -, sending⟩ :=
    handling_of_caller handles (u := u) (by rw [Handling.caller?, origin]; rfl)
  obtain ⟨rfl, -⟩ := Prod.mk.inj
    (Option.some.inj (origin.symm.trans (congrArg Sending.origin sending)))
  obtain ⟨sends, known, -⟩ := handling?_eq_some.mp handles
  rw [show h.sending.exchange = _ from congrArg Sending.exchange sent] at known
  have log : deliveriesOf acts u = h.delivery?.toList := by
    rw [deliveriesOf, one]
    cases given : h.delivery? <;> simp [given]
  refine ⟨first, rest, l, own, split, here, by rw [sends, sent], fun there => ?_, fun absent => ?_⟩
  -- in either case the broker took the message, so it knew the exchange or closed the channel
  all_goals
    obtain ⟨answer, value⟩ : ∃ answer, h.value = .ok answer := by
      rw [Handling.result] at result
      cases value : h.value with
      | ok answer => exact ⟨answer, rfl⟩
      | error e => rw [value] at result; cases result
  · cases answer with
    | none =>
      rw [there, (settled.unknown value).1] at known
      cases known
    | some d =>
      obtain ⟨-, ch, at_channel, rfl⟩ := settled.accepted d value
      rw [log, Handling.delivery?, value, sent]
      rw [sent] at at_channel
      simp only [Broker.accepted?, Option.toList_some, Broker.numberOf, at_channel]
  · cases answer with
    | none =>
      obtain ⟨-, closed⟩ := settled.unknown value
      have fails := settled.fails value t u origin
      rw [sent] at closed fails
      refine ⟨by rw [log, Handling.delivery?, value]; rfl, closed, fails.resolve_left ?_⟩
      exact not_answers_of_returned (sound_perform acts) returned
    | some d =>
      rw [absent, (settled.accepted d value).1] at known
      cases known

/-- What the accord between a value and the history of its call says about the log. -/
theorem records_of_accords {F : Nat → Fate} {v : Value} (accounted : Accounted (fresh.perform acts) F)
    (there : (fresh.perform acts).tasks[u]? = some (.call c))
    (value : (fresh.perform acts).valueOf u = some v) :
    Records acts u c.publisher ((fresh.perform acts).publisher c.publisher).exchange
      c.request.routingKey c.request.message (c.value (.ok ())) v := by
  have stems := Stems.perform acts
  have fits := accounted.call u c (call?_eq_some.mpr there)
  have accords := fits.accords there value
  -- nothing stems from a call for which no publish began
  have unopened : (fresh.perform acts).publishesFor u = [] → deliveriesOf acts u = [] := by
    intro none
    rw [deliveriesOf, stems.unopened u none, List.filterMap_nil]
  have once : ∀ {t : Nat} {r : Except Exception Unit},
      (fresh.perform acts).returnsTo u = [.returned t u r] → HandledOnce acts u t r := by
    intro t r returns
    refine stems.returned t u r (List.mem_of_mem_filter (p := Event.isReturnTo u) ?_)
    rw [show (fresh.perform acts).journal.filter _ = _ from returns]
    exact List.mem_singleton_self _
  have published : ∀ {t : Nat}, (fresh.perform acts).returnsTo u = [.returned t u (.ok ())] →
      ∃ first rest t l, l.publisher = c.publisher ∧
        HandsOver acts first rest t u l ((fresh.perform acts).publisher c.publisher).exchange
          c.request.routingKey c.request.message := by
    intro t returns
    obtain ⟨first, rest, l, own, hands⟩ :=
      handsOver (once returns) (call?_eq_some.mpr there) (by rw [returns]; exact List.cons_ne_nil _ _)
    exact ⟨first, rest, t, l, own, hands⟩
  cases v with
  | failed f =>
    cases f with
    | dead | notInitialized | channel => exact unopened accords
    | publish e =>
      obtain ⟨t, h, -, returns⟩ := accords
      exact deliveriesOf_of_rejected (once returns) rfl
    | interrupted => exact deliveriesOf_length_le acts u
  | published | written | detached =>
    obtain ⟨same, t, h, -, returns⟩ := accords
    exact ⟨same, published returns⟩

/-- For everything that can happen before and after a call is issued, whose polls are moves of their own: the
log of the broker holds what was accepted of the messages that it handled, and each of these was published
directly or for a call. At most one delivery stems from the call, and once the call has returned a value,
the log holds ever after what this value tells. -/
theorem one_delivery_per_success (before after : List Act) {ask : Command} (passive : ask.polls = false)
    {p : Nat} {key : String} {message : Message} {success : Value}
    (asks : Asks (fresh.perform before) ask p key message success) :
    let acts := before ++ .command ask passive :: after
    let u := (fresh.perform before).tasks.size
    (fresh.perform acts).broker.published = (handlings acts).filterMap Handling.delivery? ∧
    (∀ h ∈ handlings acts, StemsFrom acts h.sending) ∧
    (deliveriesOf acts u).length ≤ 1 ∧
    ∀ v, (fresh.perform acts).valueOf u = some v →
      Records acts u p ((fresh.perform before).publisher p).exchange key message success v := by
  intro acts u
  have whole : fresh.perform acts =
      ((fresh.perform before).act (.command ask passive)).perform after := perform_append fresh before _
  have sound : Sound (fresh.perform before) := sound_perform before
  refine ⟨published_perform acts, fun h inside => (settled_perform acts h inside).stems,
    deliveriesOf_length_le acts u, fun v value => ?_⟩
  obtain ⟨c, there, rfl, rfl, rfl, rfl, exchange⟩ :=
    asks.call_of_grows sound ((sound.act (.command ask passive)).1.perform after).2
  obtain ⟨F, accounted⟩ := (sound_perform acts).accounted
  rw [← exchange]
  rw [← whole] at there
  have records := records_of_accords accounted there value
  rw [whole] at records
  exact records

/-- A call succeeds though its exchange is not there: the log holds nothing of it, and the loop fails. -/
theorem success_without_exchange :
    let before : List Act := [.command (.publisher "orders" "key" {} none) rfl,
      .command (.openChannel 1) rfl, .command (.serve 0 0 true) rfl, .move 0]
    let after : List Act := [.move 1, .move 0, .move 0, .move 0, .move 1, .move 0]
    let acts := before ++ .command (.publish 0 none {} false true) rfl :: after
    let s := fresh.perform acts
    s.valueOf 1 = some .published ∧ deliveriesOf acts 1 = [] ∧
      s.valueOf 0 = some (.detached (.closed (some (.unknownExchange "orders")))) ∧
      Records acts 1 0 "orders" "key" {} .published .published := by
  intro before after acts s
  have returned : s.valueOf 1 = some .published := rfl
  exact ⟨returned, rfl, rfl,
    (one_delivery_per_success before after rfl (.publish (n := 0) (p := 0) rfl)).2.2.2 .published
      returned⟩

end Relay.Service
