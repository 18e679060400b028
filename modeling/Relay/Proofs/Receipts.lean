import Relay.Proofs.Confirmations

/-!
# What a sink receives

A sink that has no limit and that nobody drops receives from every channel what is confirmed there from the
moment of its registration on, once for each registration, whatever other sinks do and whatever happens to
other channels. With one registration the tags that it receives are a contiguous run. The main result,
`tags_and_fan_out_exact`, puts this together with what is known of the tags and of a single confirmation.
-/

namespace Relay.Service

open Broker (Confirmation Silent Sink Takes)

variable {acts : List Act} {a : Act} {b : Broker} {c k : Nat}

/-- The tags that came next on a channel when a sink was registered with it, one for each registration. -/
def joinedAt (acts : List Act) (c k : Nat) : List Nat :=
  gather (fun s a =>
    if (s.dealing a).registers c k && s.broker.isLive c then some ((s.broker.tagOn c).getD 1) else none)
    fresh acts

/-- Whether a dealing registers a sink that is not there. -/
def Dealing.isPremature (b : Broker) (k : Nat) : Dealing → Bool
  | .register _ j => j == k && decide (b.sinks.size ≤ k)
  | _ => false

/-- The registrations of a sink before it was there. Only the loop of a publisher that was set up too early
can bring one about. -/
def premature (acts : List Act) (k : Nat) : List Unit :=
  gather (fun s a => if (s.dealing a).isPremature s.broker k then some () else none) fresh acts

/-- What a message adds to the queue of a sink, with the channel of the message. -/
def arriving (k : Nat) (s : Service) (a : Act) : Option (List (Nat × Confirmation)) :=
  (s.handling? a).map fun h =>
    (((s.act a).broker.queueOf k).drop (s.broker.queueOf k).length).map (h.sending.channel, ·)

/-- What messages added to the queue of a sink, in order. -/
def arrivals (acts : List Act) (k : Nat) : List (Nat × Confirmation) :=
  (gather (arriving k) fresh acts).flatten

/-- What the messages of one channel added. -/
def arrivalsOn (acts : List Act) (k c : Nat) : List Confirmation :=
  ((arrivals acts k).filter fun x => x.1 == c).map Prod.snd

/-! ## One act more -/

/-- The next tag of a channel follows those of its confirmations so far. -/
theorem getD_tagOn (acts : List Act) (c : Nat) :
    ((fresh.perform acts).broker.tagOn c).getD 1 = (counted acts c).length + 1 := by
  rw [tagOn_perform]
  cases confirming : isConfirming acts c with
  | true => rfl
  | false =>
    rw [counted_of_not_isConfirming confirming]
    rfl

/-- A registration with a live channel begins at the next tag. -/
theorem joinedAt_concat (acts : List Act) (a : Act) (c k : Nat) :
    joinedAt (acts ++ [a]) c k = joinedAt acts c k ++
      if ((fresh.perform acts).dealing a).registers c k && (fresh.perform acts).broker.isLive c then
        [(counted acts c).length + 1]
      else [] := by
  rw [joinedAt, gather_concat, ← joinedAt, getD_tagOn]
  split <;> rfl

/-- No registration was too early so far, and the last act makes none. -/
theorem premature_concat (provided : premature (acts ++ [a]) k = []) : premature acts k = [] ∧
    ((fresh.perform acts).dealing a).isPremature (fresh.perform acts).broker k = false := by
  rw [premature, gather_concat, List.append_eq_nil_iff, ← premature] at provided
  refine ⟨provided.1, Bool.eq_false_iff.mpr fun early => ?_⟩
  rw [if_pos early] at provided
  cases provided.2

/-- What is sent to a sink for a message is its confirmation, once for each registration. -/
theorem Dealing.confirmations_eq (b : Broker) (m : Sending) (k : Nat) : m.confirmations b k =
    ((Dealing.publish m).confirming? b m.channel).elim []
      (List.replicate (b.registrations m.channel k)) := by
  rw [Sending.confirmations, confirming?, mark?, if_pos rfl]
  cases Broker.accepted? (m.outcome b).value with
  | none => rfl
  | some delivery => cases b.tagOn m.channel <;> rfl

/-- What is sent to a sink on one channel. -/
def sentOn (b : Broker) (c k : Nat) (d : Dealing) : List Confirmation :=
  (d.confirming? b c).elim [] (List.replicate (b.registrations c k))

section Arriving

variable (takes : (fresh.perform (acts ++ [a])).broker.Takes k)
  (there : ∀ c, (fresh.perform acts).broker.registrations c k ≠ 0 →
    ∃ sink, (fresh.perform acts).broker.sinks[k]? = some sink)

include takes there

/-- What arrives is what is sent. -/
theorem arrivals_concat : arrivals (acts ++ [a]) k = arrivals acts k ++
    ((fresh.perform acts).handling? a).elim [] fun h =>
      (h.sending.confirmations (fresh.perform acts).broker k).map (h.sending.channel, ·) := by
  rw [arrivals, gather_concat, List.flatten_append, ← arrivals, arriving]
  cases handles : (fresh.perform acts).handling? a with
  | none => rfl
  | some h =>
    have deals := (fresh.perform acts).deals a
    rw [← perform_concat] at deals
    have queue := deals.queueOf (deals.takes takes) takes there
    rw [(handling?_eq_some.mp handles).1] at queue
    have sent : (fresh.perform (acts ++ [a])).broker.queueOf k = (fresh.perform acts).broker.queueOf k ++
      h.sending.confirmations (fresh.perform acts).broker k := queue
    rw [Option.map_some, Option.toList_some, List.flatten_singleton, Option.elim_some, ← perform_concat,
      sent, List.drop_left]

/-- An act adds to what a sink receives what arrives at it. -/
theorem received_arrivals (before : received acts k = (arrivals acts k).map Prod.snd) :
    received (acts ++ [a]) k = (arrivals (acts ++ [a]) k).map Prod.snd := by
  rw [received_concat_of takes there, arrivals_concat takes there, List.map_append, ← before]
  congr 1
  cases handles : (fresh.perform acts).handling? a with
  | none =>
    have other := ne_publish_of_handling? handles
    cases deals : (fresh.perform acts).dealing a with
    | publish m => exact absurd deals (other m)
    | _ => rfl
  | some h =>
    rw [(handling?_eq_some.mp handles).1, Option.elim_some, List.map_map]
    exact (List.map_id _).symm

/-- The last act adds what one channel sends to the sink. -/
theorem arrivalsOn_concat (c : Nat) : arrivalsOn (acts ++ [a]) k c = arrivalsOn acts k c ++
    sentOn (fresh.perform acts).broker c k ((fresh.perform acts).dealing a) := by
  rw [arrivalsOn, arrivals_concat takes there, List.filter_append, List.map_append, ← arrivalsOn]
  congr 1
  cases handles : (fresh.perform acts).handling? a with
  | none =>
    rw [sentOn, Dealing.confirming?_of_not_publish (ne_publish_of_handling? handles)]
    rfl
  | some h =>
    rw [(handling?_eq_some.mp handles).1, Option.elim_some, Dealing.confirmations_eq, sentOn]
    by_cases own : h.sending.channel = c
    · subst own
      cases (Dealing.publish h.sending).confirming? _ h.sending.channel <;> simp
    · have unconfirmed : (Dealing.publish h.sending).confirming? (fresh.perform acts).broker c = none := by
        rw [Dealing.confirming?, Dealing.mark?, if_neg own]
      simp [unconfirmed, own]

end Arriving

/-! ## The whole run -/

/-- How registrations and arrivals at a sink are linked. -/
structure Fed (acts : List Act) (k : Nat) : Prop where
  there : ∀ c, joinedAt acts c k ≠ [] →
    k < (fresh.perform acts).broker.sinks.size ∧ c < (fresh.perform acts).broker.channels.size
  early : ∀ c, ∀ first ∈ joinedAt acts c k, 0 < first ∧ first ≤ (counted acts c).length + 1
  registered : ∀ c, (fresh.perform acts).broker.isLive c = true →
    (fresh.perform acts).broker.registrations c k = (joinedAt acts c k).length
  received : received acts k = (arrivals acts k).map Prod.snd
  shares : ∀ c, arrivalsOn acts k c = (confirmationsOn acts c).flatMap fun x =>
    List.replicate ((joinedAt acts c k).countP (· ≤ x.tag)) x

namespace Fed

/-- Before anything happens a sink receives nothing. -/
theorem nil : Fed [] k where
  there c joined := absurd rfl joined
  early c first inside := by cases inside
  registered c live := by cases live
  received := rfl
  shares c := rfl

section Act

variable (fed : Fed acts k)

include fed

/-- A sink that is registered is there. -/
theorem exists_sink (c : Nat) (listens : (fresh.perform acts).broker.registrations c k ≠ 0) :
    ∃ sink, (fresh.perform acts).broker.sinks[k]? = some sink := by
  have live : (fresh.perform acts).broker.isLive c = true := by
    by_contra closed
    exact listens (Broker.registrations_of_not_isLive (Bool.eq_false_iff.mpr closed))
  rw [fed.registered c live] at listens
  have joined : joinedAt acts c k ≠ [] := fun none => listens (by rw [none]; rfl)
  exact ⟨_, Array.getElem?_eq_getElem (fed.there c joined).1⟩

/-- A sink that is registered is there, and so is the channel. -/
theorem there_concat (provided : premature (acts ++ [a]) k = []) (c : Nat)
    (joined : joinedAt (acts ++ [a]) c k ≠ []) :
    k < (fresh.perform (acts ++ [a])).broker.sinks.size ∧
      c < (fresh.perform (acts ++ [a])).broker.channels.size := by
  have before : k < (fresh.perform acts).broker.sinks.size ∧
      c < (fresh.perform acts).broker.channels.size := by
    rw [joinedAt_concat] at joined
    split at joined
    · next now =>
      obtain ⟨registers, live⟩ := (Bool.and_eq_true _ _).mp now
      have provided := (premature_concat provided).2
      obtain ⟨ch, here, -⟩ := Broker.isLive_iff.mp live
      rw [Dealing.registers_iff.mp registers, Dealing.isPremature] at provided
      simp only [beq_self_eq_true, Bool.true_and, decide_eq_false_iff_not, Nat.not_le] at provided
      exact ⟨provided, (Array.getElem?_eq_some_iff.mp here).1⟩
    · rw [List.append_nil] at joined
      exact fed.there c joined
  obtain ⟨sink, still, -⟩ :=
    ((fresh.perform acts).deals a).sink (Array.getElem?_eq_getElem before.1)
  have heeds := (surroundings_act (sound_perform acts) a).heeds
  rw [perform_concat]
  exact ⟨(Array.getElem?_eq_some_iff.mp still).1, Nat.lt_of_lt_of_le before.2 heeds.channels⟩

/-- Registrations begin at most at the next tag. -/
theorem early_concat (c first : Nat) (inside : first ∈ joinedAt (acts ++ [a]) c k) :
    0 < first ∧ first ≤ (counted (acts ++ [a]) c).length + 1 := by
  have longer : (counted acts c).length ≤ (counted (acts ++ [a]) c).length := by
    rw [counted_concat, List.length_append]
    exact Nat.le_add_right _ _
  rw [joinedAt_concat, List.mem_append] at inside
  rcases inside with before | now
  · obtain ⟨pos, le⟩ := fed.early c first before
    exact ⟨pos, Nat.le_trans le (Nat.succ_le_succ longer)⟩
  · split at now
    · rw [List.mem_singleton.mp now]
      exact ⟨Nat.succ_pos _, Nat.succ_le_succ longer⟩
    · cases now

/-- On a live channel a sink that is not dropped is registered as often as it joined. -/
theorem registered_concat (takes : (fresh.perform (acts ++ [a])).broker.Takes k) (c : Nat)
    (live : (fresh.perform (acts ++ [a])).broker.isLive c = true) :
    (fresh.perform (acts ++ [a])).broker.registrations c k = (joinedAt (acts ++ [a]) c k).length := by
  have deals := (fresh.perform acts).deals a
  rw [← perform_concat] at deals
  have registrations := registrations_act a (deals.takes takes) fed.exists_sink c
  rw [← perform_concat] at registrations
  rw [registrations, live, if_pos rfl, joinedAt_concat, List.length_append]
  cases before : (fresh.perform acts).broker.isLive c with
  | true =>
    rw [fed.registered c before, Bool.and_true]
    split <;> rfl
  | false =>
    -- the channel is a new one
    have new : (fresh.perform acts).broker.channels.size ≤ c := by
      by_contra old
      have heeds := (surroundings_act (sound_perform acts) a).heeds
      rw [perform_concat, heeds.closed c (Nat.lt_of_not_le old) before] at live
      cases live
    have unjoined : joinedAt acts c k = [] := by
      by_contra joined
      exact Nat.not_lt.mpr new (fed.there c joined).2
    have unregistered : ((fresh.perform acts).dealing a).registers c k = false := by
      refine Bool.eq_false_iff.mpr fun registers => ?_
      rw [Dealing.registers_iff.mp registers] at deals
      rw [show (_ : Broker) = _ from deals, Broker.notifyPublish, before, if_neg Bool.false_ne_true,
        before] at live
      cases live
    rw [Broker.registrations_of_not_isLive before, unjoined, unregistered]
    rfl

/-- A sink gets each confirmation once for every registration that is old enough for it. -/
theorem shares_concat (takes : (fresh.perform (acts ++ [a])).broker.Takes k) (c : Nat) :
    arrivalsOn (acts ++ [a]) k c = (confirmationsOn (acts ++ [a]) c).flatMap fun x =>
      List.replicate ((joinedAt (acts ++ [a]) c k).countP (· ≤ x.tag)) x := by
  -- a registration does not count for what was confirmed before it
  have late : ∀ x ∈ confirmationsOn acts c, (joinedAt (acts ++ [a]) c k).countP (· ≤ x.tag) =
      (joinedAt acts c k).countP (· ≤ x.tag) := by
    intro x inside
    have tag : x.tag ∈ List.range' 1 (counted acts c).length := by
      rw [← tags_confirmationsOn]
      exact List.mem_map_of_mem inside
    have below := List.mem_range'_1.mp tag
    rw [joinedAt_concat, List.countP_append]
    split
    · simp only [List.countP_singleton, decide_eq_true_eq]
      rw [if_neg (by omega), Nat.add_zero]
    · rfl
  rw [arrivalsOn_concat takes fed.exists_sink, fed.shares c, confirmationsOn_concat, List.flatMap_append,
    sentOn, List.flatMap_congr fun x inside => congrArg (List.replicate · x) (late x inside)]
  congr 1
  cases confirms : ((fresh.perform acts).dealing a).confirming? (fresh.perform acts).broker c with
  | none => rfl
  | some x =>
    obtain ⟨m, delivery, publishes, rfl, accepted, next, -⟩ := Dealing.confirming?_eq_some.mp confirms
    have deals := (fresh.perform acts).deals a
    rw [publishes] at deals
    have live := (deals.publishes.of_accepted accepted).1
    have tag : x.tag = (counted acts m.channel).length + 1 := by
      rw [← getD_tagOn, next]
      rfl
    -- every registration was made before this confirmation
    have all : (joinedAt (acts ++ [a]) m.channel k).countP (· ≤ x.tag) =
        (joinedAt acts m.channel k).length := by
      have unregistered : (Dealing.publish m).registers m.channel k = false := rfl
      rw [joinedAt_concat, publishes, unregistered, Bool.false_and, if_neg Bool.false_ne_true,
        List.append_nil, List.countP_eq_length]
      intro first inside
      rw [tag]
      exact decide_eq_true (fed.early m.channel first inside).2
    rw [Option.elim_some, Option.toList_some, List.flatMap_singleton, all, fed.registered m.channel live]

end Act

/-- A sink that takes all it is given is fed over every run. -/
theorem perform (takes : (fresh.perform acts).broker.Takes k) (provided : premature acts k = []) :
    Fed acts k := by
  induction acts using List.reverseRecOn with
  | nil => exact nil
  | append_singleton acts a ih =>
    have deals := (fresh.perform acts).deals a
    rw [← perform_concat] at deals
    have fed := ih (deals.takes takes) (premature_concat provided).1
    exact ⟨fed.there_concat provided, fed.early_concat, fed.registered_concat takes,
      received_arrivals takes fed.exists_sink fed.received, fed.shares_concat takes⟩

end Fed

/-! ## What is received -/

/-- Repeating what is to be kept once and all else never is filtering. -/
theorem flatMap_replicate_ite {α : Type} (p : α → Prop) [DecidablePred p] (xs : List α) :
    (xs.flatMap fun x => List.replicate (if p x then 1 else 0) x) = xs.filter p := by
  induction xs with
  | nil => rfl
  | cons x xs ih => by_cases holds : p x <;> simp [holds, ih]

/-- The tags from a certain one on are the last ones. -/
theorem filter_range' {first n : Nat} (pos : 0 < first) (le : first ≤ n + 1) :
    (List.range' 1 n).filter (first ≤ ·) = List.range' first (n + 1 - first) := by
  obtain ⟨m, rfl⟩ := Nat.exists_eq_add_of_le pos
  have split : List.range' 1 n = List.range' 1 m ++ List.range' (1 + m) (n - m) := by
    rw [List.range'_append_1]
    congr 1
    omega
  have before : (List.range' 1 m).filter (1 + m ≤ ·) = [] := by
    refine List.filter_eq_nil_iff.mpr fun tag inside => ?_
    have below := (List.mem_range'_1.mp inside).2
    simpa using below
  have after : (List.range' (1 + m) (n - m)).filter (1 + m ≤ ·) = List.range' (1 + m) (n - m) :=
    List.filter_eq_self.mpr fun tag inside => decide_eq_true (List.mem_range'_1.mp inside).1
  rw [split, List.filter_append, before, List.nil_append, after]
  congr 1
  omega

namespace Fed

variable (fed : Fed acts k)

include fed

/-- A sink that is registered once with a channel receives what is confirmed from then on. -/
theorem tags_of_once {first : Nat} (once : joinedAt acts c k = [first]) :
    (arrivalsOn acts k c).map Confirmation.tag =
      List.range' first ((counted acts c).length + 1 - first) := by
  obtain ⟨pos, le⟩ := fed.early c first (by rw [once]; exact List.mem_singleton_self first)
  rw [fed.shares c, once]
  simp only [List.countP_singleton, decide_eq_true_eq]
  rw [flatMap_replicate_ite (first ≤ Confirmation.tag ·), ← filter_range' pos le, ← tags_confirmationsOn,
    List.filter_map]
  rfl

/-- A sink that is never registered with a channel receives nothing from it. -/
theorem arrivalsOn_of_never (never : joinedAt acts c k = []) : arrivalsOn acts k c = [] := by
  rw [fed.shares c, never]
  simp

/-- A sink that is registered with one channel only receives nothing but what arrives from there. -/
theorem received_of_alone (alone : ∀ d, d ≠ c → joinedAt acts d k = []) :
    Service.received acts k = arrivalsOn acts k c := by
  have all : ∀ x ∈ arrivals acts k, (x.1 == c) = true := by
    intro x inside
    by_contra other
    have arrives : x.2 ∈ arrivalsOn acts k x.1 :=
      List.mem_map_of_mem (List.mem_filter.mpr ⟨inside, beq_self_eq_true x.1⟩)
    rw [fed.arrivalsOn_of_never (alone x.1 fun same => other (beq_iff_eq.mpr same))] at arrives
    cases arrives
  rw [fed.received, arrivalsOn, List.filter_eq_self.mpr all]

end Fed

/-- What a sink receives that has no limit and that nobody drops. -/
structure Receives (acts : List Act) (k : Nat) : Prop where
  /-- All of it was sent for messages. -/
  received : received acts k = (arrivals acts k).map Prod.snd
  /-- From every channel it gets all confirmations from a registration on. -/
  shares : ∀ c, arrivalsOn acts k c = (confirmationsOn acts c).flatMap fun x =>
    List.replicate ((joinedAt acts c k).countP (· ≤ x.tag)) x
  /-- Registered once, it gets each of them once. -/
  once : ∀ c first, joinedAt acts c k = [first] → (arrivalsOn acts k c).map Confirmation.tag =
    List.range' first ((counted acts c).length + 1 - first)
  /-- Registered with one channel only, it gets nothing else. -/
  alone : ∀ c, (∀ d, d ≠ c → joinedAt acts d k = []) → Service.received acts k = arrivalsOn acts k c

/-- What a sink that is fed receives in all. -/
theorem Fed.receives (fed : Fed acts k) : Receives acts k :=
  ⟨fed.received, fed.shares, fun _ _ => fed.tags_of_once, fun _ => fed.received_of_alone⟩

/-- For everything that can happen, and on every channel: the messages that are accepted after confirm mode
was first granted are confirmed with the tags 1, 2, 3 and so on in order, and no other message is; a tag is
used up by these messages only, and the count never begins again. Every confirmation goes to each sink that is
registered, once for each registration, as far as the sink has room and somebody takes from it, whatever
becomes of other sinks. Sinks that nobody takes from are forgotten with the next confirmation, and the others
stay registered until the channel closes. A sink that has no limit and that nobody drops thus receives, for
each registration with a channel, all confirmations of that channel from then on without a gap. -/
theorem tags_and_fan_out_exact (acts : List Act) :
    let s := fresh.perform acts
    (∀ c, confirmationsOn acts c = ((counted acts c).zipIdx 1).map fun x => ⟨x.2, x.1.2⟩) ∧
    (∀ c, s.broker.tagOn c =
      if isConfirming acts c then some ((counted acts c).length + 1) else none) ∧
    (∀ a c, (s.act a).broker.tagOn c =
      ((s.dealing a).mark? s.broker c).elim (s.broker.tagOn c) (Mark.next (s.broker.tagOn c))) ∧
    (∀ a, FansOut s a) ∧
    (∀ k, s.broker.Takes k → premature acts k = [] → Receives acts k) := by
  intro s
  exact ⟨confirmationsOn_eq acts, tagOn_perform acts, fun a c => (s.deals a).tagOn,
    fansOut_perform acts, fun k takes provided => (Fed.perform takes provided).receives⟩

/-- Four sinks take confirmations of one channel: the first is registered only after the first message that
is confirmed, the second never has room, the third has room for one and is registered twice, and the last is
dropped. -/
def mixedSinks : List Act :=
  let sink (capacity : Option Nat) : Act := .command (.sink capacity) rfl
  let register (k : Nat) : Act := .command (.notifyPublish 0 k) rfl
  let publish (key : String) : Act := .command (.publishOn 0 "" key {} {}) rfl
  let select (h : Nat) : Act := .command (.confirmSelect h) rfl
  [.command (.openChannel 5) rfl] ++ [none, some 0, some 1, none].map sink ++
    [publish "outside", select 0] ++ [1, 2, 3].map register ++ [publish "first"] ++
    [0, 2].map register ++ [.command (.dropSink 3) rfl, publish "second", select 0, publish "third"]

/-- Of three messages that are confirmed the first sink receives the last two, and the others do not matter
for that. -/
theorem mixedSinks_received :
    (fresh.perform mixedSinks).broker.Takes 0 ∧ premature mixedSinks 0 = [] ∧
      (received mixedSinks 0).map Confirmation.tag = [2, 3] ∧
      (fresh.perform mixedSinks).broker.sinks.map (fun sink => sink.queue.map Confirmation.tag) =
        #[[2, 3], [], [1], []] ∧
      (fresh.perform mixedSinks).broker.sinksOn 4 = [1, 2, 0, 2] := by
  have takes : (fresh.perform mixedSinks).broker.Takes 0 := by
    have there : (fresh.perform mixedSinks).broker.sinks[0]? =
        some ⟨none, [⟨2, true⟩, ⟨3, true⟩], true⟩ := by decide +kernel
    intro sink here
    cases there.symm.trans here
    exact ⟨rfl, rfl⟩
  have provided : premature mixedSinks 0 = [] := by decide +kernel
  have receives := (tags_and_fan_out_exact mixedSinks).2.2.2.2 0 takes provided
  have elsewhere : ∀ d, d ≠ 4 → joinedAt mixedSinks d 0 = [] := by
    have few : ∀ d < 5, d ≠ 4 → joinedAt mixedSinks d 0 = [] := by decide +kernel
    have channels : (fresh.perform mixedSinks).broker.channels.size = 5 := by decide +kernel
    intro d other
    by_contra joined
    exact joined (few d (channels ▸ ((Fed.perform takes provided).there d joined).2) other)
  refine ⟨takes, provided, ?_, by decide +kernel, by decide +kernel⟩
  rw [receives.alone 4 elsewhere, receives.once 4 2 (by decide +kernel)]
  decide +kernel

end Relay.Service
