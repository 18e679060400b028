import Relay.Proofs.Closing
import Relay.Proofs.Nacks

/-!
# What listeners learn

A listener of the outside answers that its channel is live until the notice behind it is settled, names the
reason for which the channel was closed first to whoever asks then, and has nothing more to say after that.
Together with what is known of the channels themselves this is the main result, `closing_counts_once`: of all
the ways to close a channel the first one that is taken counts, for everybody and for good.
-/

namespace Relay

open Broker (Notice CloseReason)

/-- Whether a listener has nothing more to say after an answer. -/
def Answer.settles : Answer → Bool
  | .closed _ | .gone => true
  | _ => false

/-- The reason that a listener names. -/
def Answer.reason? : Answer → Option CloseReason
  | .closed reason => some reason
  | _ => none

/-- What a listener answers, as long as its notice was not taken. -/
def Broker.Notice.answer : Notice → Answer
  | .waiting => .live
  | .told reason => .closed reason
  | .lost => .gone

namespace Service

open Broker (Channel Exception)

variable {s s' : Service} {a : Act} {c i j n : Nat}

/-! ## Listeners of the outside -/

/-- The notice and the channel of a listener that the outside adds. -/
def listening? (s : Service) : Act → Option (Nat × Nat)
  | .command (.listen h) _ => (s.heldChannel? h).map (s.broker.notices.size, ·)
  | _ => none

/-- What the outside learns from a listener. -/
def learning? (i : Nat) (s : Service) : Act → Option Answer
  | .command (.check j) _ => if j = i then some (s.check i).2 else none
  | _ => none

/-- The listeners of the outside, each with its notice and its channel, in order. -/
def subscriptions (acts : List Act) : List (Nat × Nat) := gather listening? fresh acts

/-- What the outside learnt from a listener, in order. -/
def learnt (acts : List Act) (i : Nat) : List Answer := gather (learning? i) fresh acts

/-! ### What leaves listeners alone -/

/-- A command on a channel leaves the listeners if it does for the channel found. -/
theorem listeners_withChannel {h : Nat} {f : Nat → Service × Answer}
    (inner : ∀ c, (f c).1.listeners = s.listeners) : (s.withChannel h f).1.listeners = s.listeners := by
  rw [withChannel_eq]
  split
  · exact inner _
  · rfl

/-- A command on a publisher leaves them if it does for the publisher found. -/
theorem listeners_withPublisher {n : Nat} {f : Nat → Service × Answer}
    (inner : ∀ p, (f p).1.listeners = s.listeners) :
    (s.withPublisher n f).1.listeners = s.listeners := by
  unfold withPublisher
  split
  · exact inner _
  · rfl

/-- A command on a sink leaves them if it does for a sink that is there. -/
theorem listeners_withSink {k : Nat} {f : Service × Answer} (inner : f.1.listeners = s.listeners) :
    (s.withSink k f).1.listeners = s.listeners := by
  unfold withSink
  split
  · exact inner
  · rfl

/-- Dropping a task leaves the listeners of the outside. -/
theorem listeners_drop (s : Service) (t : Nat) : (s.drop t).listeners = s.listeners := by
  unfold Service.drop
  split
  · next c here => exact (Rests.dropCall s t c).listeners
  · next l here =>
    by_cases isOver : (Task.loop l).isOver = true
    · rw [dropLoop_of_over isOver]
    · exact (lets_dropLoop (loop?_eq_some.mpr here) (Bool.eq_false_iff.mpr isOver)).listeners
  · rfl

/-- Only a command to listen, or to ask a listener, touches the listeners of the outside. -/
theorem listeners_step {command : Command} (passive : command.polls = false)
    (listens : ∀ h, command ≠ .listen h) (checks : ∀ i, command ≠ .check i) :
    (s.step command).1.listeners = s.listeners := by
  unfold step
  cases command with
  | listen h => exact absurd rfl (listens h)
  | check i => exact absurd rfl (checks i)
  | declare | disconnect | restore | rejectNext | nackNext | failConfirmSelect | sink | published
    | publisher => rfl
  | openChannel count =>
    simp only [openHandle]
    split <;> rfl
  | close | confirmSelect | terminate | dropChannel | hold | release | mute =>
    exact listeners_withChannel fun _ => rfl
  | notifyPublish => exact listeners_withChannel fun _ => listeners_withSink rfl
  | publishOn =>
    refine listeners_withChannel fun c => ?_
    simp only [publishOn]
    split <;> rfl
  | receive | dropSink => exact listeners_withSink rfl
  | clone | profile => exact listeners_withPublisher fun _ => rfl
  | cancel => exact listeners_withPublisher fun p => (Rests.cancel s p).listeners
  | publish n key message overtaken deferred =>
    cases deferred with
    | false => cases passive
    | true => exact listeners_withPublisher fun _ => rfl
  | write n body deferred overtaken =>
    cases deferred with
    | false => cases passive
    | true => exact listeners_withPublisher fun _ => rfl
  | serve n h deferred =>
    cases deferred with
    | false => cases passive
    | true => exact listeners_withPublisher fun _ => listeners_withChannel fun _ => rfl
  | poll | settle => cases passive
  | dropTask t =>
    simp only []
    split
    · exact listeners_drop s t
    · rfl

/-- So does every move. -/
theorem listeners_move {t : Nat} (moves : s.move t = some s') : s'.listeners = s.listeners := by
  cases here : s.tasks[t]? with
  | none =>
    rw [move_of_absent here] at moves
    cases moves
  | some x =>
    cases x with
    | call c => exact (Rests.moveCall ((move_of_call here).symm.trans moves)).listeners
    | loop l =>
      have here := loop?_eq_some.mpr here
      rw [move_of_loop here, moveLoop] at moves
      split at moves
      · cases moves
      · rcases moveFreely_rests_or_lets here moves with rests | lets
        · exact rests.listeners
        · exact lets.listeners

/-- Nobody knows of a listener that is not there. -/
theorem check_of_absent (absent : s.listeners[i]? = none) : s.check i = (s, .unknown) := by
  rw [check, absent]

/-- A listener that has told all it had to has gone. -/
theorem check_of_taken (taken : s.listeners[i]? = some none) : s.check i = (s, .gone) := by
  rw [check, taken]

/-- A listener whose notice was not taken says what it tells, and an answer that settles takes it. -/
theorem check_of_notice (here : s.listeners[i]? = some (some n)) :
    (s.check i).2 = (s.noticeOf (some n)).answer ∧ (s.check i).1.listeners =
      if (s.check i).2.settles then s.listeners.setIfInBounds i none else s.listeners := by
  simp only [check, here]
  split <;> next told => rw [told]; exact ⟨rfl, rfl⟩

/-- Asking one listener leaves the others. -/
theorem listeners_check_of_ne (s : Service) (other : j ≠ i) :
    (s.check j).1.listeners[i]? = s.listeners[i]? := by
  cases here : s.listeners[j]? with
  | none => rw [check_of_absent here]
  | some x =>
    cases x with
    | none => rw [check_of_taken here]
    | some n =>
      rw [(check_of_notice here).2]
      split
      · rw [Array.getElem?_setIfInBounds, if_neg other]
      · rfl

/-- Looking at a listener neither adds nor removes one. -/
theorem size_check (s : Service) (i : Nat) : (s.check i).1.listeners.size = s.listeners.size := by
  cases here : s.listeners[i]? with
  | none => rw [check_of_absent here]
  | some x =>
    cases x with
    | none => rw [check_of_taken here]
    | some n =>
      rw [(check_of_notice here).2]
      split
      · exact Array.size_setIfInBounds
      · rfl

/-! ### Subscriptions -/

/-- The last act adds its listener, if it asks for one. -/
theorem subscriptions_concat (acts : List Act) (a : Act) : subscriptions (acts ++ [a]) =
    subscriptions acts ++ ((fresh.perform acts).listening? a).toList := gather_concat _ fresh acts a

/-- The last act adds what the listener answers, if it looks at it. -/
theorem learnt_concat (acts : List Act) (a : Act) (i : Nat) : learnt (acts ++ [a]) i =
    learnt acts i ++ ((fresh.perform acts).learning? i a).toList := gather_concat _ fresh acts a

/-- Notices keep their channels. -/
theorem audience_of_concat {acts : List Act} (listens : (audience acts)[n]? = some c) :
    (audience (acts ++ [a]))[n]? = some c := by
  have inBounds := (List.getElem?_eq_some_iff.mp listens).1
  rw [audience, gather_concat, ← audience, List.getElem?_append_left inBounds]
  exact listens

/-- What is known of the listeners of the outside after a run. -/
structure Subscribed (acts : List Act) : Prop where
  size : (fresh.perform acts).listeners.size = (subscriptions acts).length
  /-- Who is not there was asked in vain. -/
  unknown : ∀ i, (subscriptions acts).length ≤ i → (learnt acts i).any Answer.settles = false
  /-- The notice of a listener is registered with its channel. -/
  listens : ∀ i n c : Nat, (subscriptions acts)[i]? = some (n, c) → (audience acts)[n]? = some c
  /-- It is there until an answer settles it. -/
  slot : ∀ i n c : Nat, (subscriptions acts)[i]? = some (n, c) → (fresh.perform acts).listeners[i]? =
    some (if (learnt acts i).any Answer.settles then none else some n)

namespace Subscribed

variable {acts : List Act}

/-- An act that has nothing to do with listeners. -/
theorem quiet (subscribed : Subscribed acts) (silent : (fresh.perform acts).listening? a = none)
    (unasked : ∀ i, (fresh.perform acts).learning? i a = none)
    (same : ((fresh.perform acts).act a).listeners = (fresh.perform acts).listeners) :
    Subscribed (acts ++ [a]) := by
  have listed : subscriptions (acts ++ [a]) = subscriptions acts := by
    rw [subscriptions_concat, silent, Option.toList_none, List.append_nil]
  have answered : ∀ i, learnt (acts ++ [a]) i = learnt acts i := fun i => by
    rw [learnt_concat, unasked, Option.toList_none, List.append_nil]
  refine ⟨?_, fun i outside => ?_, fun i n c here => ?_, fun i n c here => ?_⟩
  · rw [perform_concat, same, listed, subscribed.size]
  · rw [answered]
    exact subscribed.unknown i (listed ▸ outside)
  · exact audience_of_concat (subscribed.listens i n c (listed ▸ here))
  · rw [perform_concat, same, answered]
    exact subscribed.slot i n c (listed ▸ here)

/-- The outside begins to listen to a channel. -/
theorem listen (subscribed : Subscribed acts) {h : Nat} {passive : (Command.listen h).polls = false}
    (held : (fresh.perform acts).heldChannel? h = some c) :
    Subscribed (acts ++ [.command (.listen h) passive]) := by
  have listed : subscriptions (acts ++ [.command (.listen h) passive]) =
      subscriptions acts ++ [((fresh.perform acts).broker.notices.size, c)] := by
    rw [subscriptions_concat, listening?, held]
    rfl
  have answered : ∀ i, learnt (acts ++ [.command (.listen h) passive]) i = learnt acts i := fun i => by
    rw [learnt_concat]
    exact List.append_nil _
  have table : (fresh.perform (acts ++ [.command (.listen h) passive])).listeners =
      (fresh.perform acts).listeners.push (some (fresh.perform acts).broker.notices.size) := by
    rw [perform_concat]
    change ((fresh.perform acts).withChannel h _).1.listeners = _
    rw [withChannel_eq, held, ← Broker.notifyClose_fst _ c]
  -- the listener and its notice are both added at the end, under the same number
  have enlarged : audience (acts ++ [.command (.listen h) passive]) = audience acts ++ [c] := by
    rw [audience, gather_concat, ← audience, deed?, commandDeed?, held]
    rfl
  refine ⟨?_, fun i outside => ?_, fun i n d here => ?_, fun i n d here => ?_⟩
  · rw [table, listed, Array.size_push, subscribed.size, List.length_append,
      List.length_singleton]
  · rw [listed, List.length_append] at outside
    rw [answered]
    exact subscribed.unknown i (Nat.le_of_add_right_le outside)
  · rw [listed, Broker.getElem?_concat] at here
    rcases here with before | ⟨-, new⟩
    · exact audience_of_concat (subscribed.listens i n d before)
    · obtain ⟨rfl, rfl⟩ := Prod.mk.inj new
      rw [enlarged, Broker.getElem?_concat]
      exact .inr ⟨(heard_perform acts).size, rfl⟩
  · rw [listed, Broker.getElem?_concat] at here
    rw [table, answered, Array.getElem?_push, subscribed.size]
    rcases here with before | ⟨last, new⟩
    · rw [if_neg (Nat.ne_of_lt (List.getElem?_eq_some_iff.mp before).1)]
      exact subscribed.slot i n d before
    · obtain ⟨rfl, rfl⟩ := Prod.mk.inj new
      rw [if_pos last, subscribed.unknown i (Nat.le_of_eq last.symm)]
      rfl

/-- The outside asks a listener. -/
theorem check (subscribed : Subscribed acts) {passive : (Command.check j).polls = false} :
    Subscribed (acts ++ [.command (.check j) passive]) := by
  have listed : subscriptions (acts ++ [.command (.check j) passive]) = subscriptions acts := by
    rw [subscriptions_concat]
    exact List.append_nil _
  have answered : ∀ i, (learnt (acts ++ [.command (.check j) passive]) i).any Answer.settles =
      ((learnt acts i).any Answer.settles || (j == i && ((fresh.perform acts).check j).2.settles)) :=
    fun i => by
      rw [learnt_concat, learning?, List.any_append]
      -- only the listener that is asked can lose its notice, and it does with the answer that settles it
      by_cases own : j = i <;> simp [own]
  have size := size_check (fresh.perform acts) j
  refine ⟨?_, fun i outside => ?_, fun i n d here => ?_, fun i n d here => ?_⟩
  · rw [perform_concat, listed, ← subscribed.size]
    exact size
  · rw [listed] at outside
    rw [answered, subscribed.unknown i outside, Bool.false_or]
    by_cases own : j = i
    · subst own
      rw [check_of_absent (Array.getElem?_eq_none (by rw [subscribed.size]; exact outside))]
      simp [Answer.settles]
    · simp [own]
  · exact audience_of_concat (subscribed.listens i n d (listed ▸ here))
  · rw [listed] at here
    have slot := subscribed.slot i n d here
    rw [perform_concat, answered]
    change ((fresh.perform acts).check j).1.listeners[i]? = _
    by_cases own : j = i
    · subst own
      cases settled : (learnt acts j).any Answer.settles with
      | true =>
        rw [settled, if_pos rfl] at slot
        rw [check_of_taken slot, slot]
        rfl
      | false =>
        rw [settled, if_neg Bool.false_ne_true] at slot
        have inBounds := (Array.getElem?_eq_some_iff.mp slot).1
        rw [(check_of_notice slot).2]
        cases ((fresh.perform acts).check j).2.settles with
        | true => simp [inBounds]
        | false => simpa using slot
    · rw [listeners_check_of_ne _ own, slot]
      simp [own]

end Subscribed

/-- Over every run the listeners of the outside are those who subscribed. -/
theorem subscribed_perform (acts : List Act) : Subscribed acts := by
  induction acts using List.reverseRecOn with
  | nil =>
    exact ⟨rfl, fun _ _ => rfl, fun i n c here => (by cases here), fun i n c here => (by cases here)⟩
  | append_singleton acts a ih =>
    cases a with
    | move t =>
      refine ih.quiet rfl (fun _ => rfl) ?_
      cases moves : (fresh.perform acts).move t with
      | none => rw [act_move_of_none moves]
      | some s' =>
        rw [act_move_of_some moves]
        exact listeners_move moves
    | command command passive =>
      -- two commands touch the table of listeners, with a case each; all others leave it alone
      by_cases listens : ∃ h, command = .listen h
      · obtain ⟨h, rfl⟩ := listens
        cases held : (fresh.perform acts).heldChannel? h with
        | some c => exact ih.listen held
        | none =>
          refine ih.quiet ?_ (fun _ => rfl) ?_
          · rw [listening?, held]
            rfl
          · change ((fresh.perform acts).withChannel h _).1.listeners = _
            rw [withChannel_eq, held]
      · by_cases checks : ∃ j, command = .check j
        · obtain ⟨j, rfl⟩ := checks
          exact ih.check
        · have other : ∀ h, command ≠ .listen h := fun h same => listens ⟨h, same⟩
          have other' : ∀ j, command ≠ .check j := fun j same => checks ⟨j, same⟩
          refine ih.quiet ?_ (fun i => ?_) (listeners_step passive other other')
          · unfold listening?
            split
            · next h _ same => exact absurd (Act.command.inj same) (other h)
            · rfl
          · unfold learning?
            split
            · next j _ same => exact absurd (Act.command.inj same) (other' j)
            · rfl

/-! ### Answers -/

/-- Over every run a notice tells what became of its channel. -/
theorem noticeOf_perform {acts : List Act} (listens : (audience acts)[n]? = some c) :
    (fresh.perform acts).noticeOf (some n) = verdictOn acts c := by
  rw [noticeOf, notices_perform acts listens, Option.getD_some]

/-- What a listener answers next. -/
theorem check_perform {acts : List Act} (listens : (subscriptions acts)[i]? = some (n, c)) :
    ((fresh.perform acts).check i).2 =
      if (learnt acts i).any Answer.settles then .gone else (verdictOn acts c).answer := by
  have subscribed := subscribed_perform acts
  have slot := subscribed.slot i n c listens
  cases settled : (learnt acts i).any Answer.settles with
  | true =>
    rw [settled, if_pos rfl] at slot
    rw [check_of_taken slot]
    rfl
  | false =>
    rw [settled, if_neg Bool.false_ne_true] at slot
    rw [(check_of_notice slot).1, noticeOf_perform (subscribed.listens i n c listens)]
    rfl

/-- The reasons that a listener named. -/
def reasonsTold (acts : List Act) (i : Nat) : List CloseReason :=
  (learnt acts i).filterMap Answer.reason?

/-- An answer that names a reason settles the listener. -/
theorem settles_of_reason {x : Answer} {reason : CloseReason} (names : x.reason? = some reason) :
    x.settles = true := by
  cases x <;> first | rfl | cases names

/-- A listener that is not settled has named no reason. -/
theorem reasonsTold_of_unsettled {acts : List Act}
    (unsettled : (learnt acts i).any Answer.settles = false) : reasonsTold acts i = [] := by
  refine List.filterMap_eq_nil_iff.mpr fun x inside => ?_
  cases names : x.reason? with
  | none => rfl
  | some reason =>
    have settled := List.any_eq_true.mpr ⟨x, inside, settles_of_reason names⟩
    rw [unsettled] at settled
    cases settled

/-- The last act adds the reason that it is told, if any. -/
theorem reasonsTold_concat (acts : List Act) (a : Act) (i : Nat) : reasonsTold (acts ++ [a]) i =
    reasonsTold acts i ++ (((fresh.perform acts).learning? i a).bind Answer.reason?).toList := by
  rw [reasonsTold, learnt_concat, List.filterMap_append, ← reasonsTold]
  cases (fresh.perform acts).learning? i a with
  | none => rfl
  | some x => cases names : x.reason? <;> simp [names]

/-- Later reasons do not count. -/
theorem head?_closings_concat {acts : List Act} {reason : CloseReason}
    (first : (closings acts c).head? = some reason) (a : Act) :
    (closings (acts ++ [a]) c).head? = some reason := by
  rw [closings_concat, List.head?_append, first, Option.some_or]

/-- An answer to a question is that of the listener that was asked. -/
theorem learning?_cases (s : Service) (a : Act) (i : Nat) :
    s.learning? i a = none ∨ s.learning? i a = some (s.check i).2 := by
  cases a with
  | move t => exact .inl rfl
  | command command passive =>
    cases command with
    | check j =>
      by_cases own : j = i
      · subst own
        exact .inr (if_pos rfl)
      · exact .inl (if_neg own)
    | _ => exact .inl rfl

/-- What is told now is the reason for which the channel was closed first, and nothing was told before. -/
theorem told_now {acts : List Act} {reason : CloseReason}
    (listens : (subscriptions acts)[i]? = some (n, c))
    (names : ((fresh.perform acts).check i).2.reason? = some reason) :
    (closings acts c).head? = some reason ∧ reasonsTold acts i = [] := by
  rw [check_perform listens] at names
  cases settled : (learnt acts i).any Answer.settles with
  | true =>
    rw [settled, if_pos rfl] at names
    cases names
  | false =>
    rw [settled, if_neg Bool.false_ne_true, verdictOn] at names
    refine ⟨?_, reasonsTold_of_unsettled settled⟩
    split at names
    · next first =>
      cases names
      exact first
    · split at names <;> cases names

/-- A listener names a reason once at most, and it is the one for which its channel was closed first. -/
theorem reasonsTold_perform (acts : List Act) (listens : (subscriptions acts)[i]? = some (n, c)) :
    reasonsTold acts i = [] ∨
      ∃ reason, (closings acts c).head? = some reason ∧ reasonsTold acts i = [reason] := by
  induction acts using List.reverseRecOn with
  | nil => cases listens
  | append_singleton acts a ih =>
    rw [reasonsTold_concat]
    cases before : (subscriptions acts)[i]? with
    | none =>
      -- the listener was not there, and asking it was in vain
      have subscribed := subscribed_perform acts
      have outside : (subscriptions acts).length ≤ i := List.getElem?_eq_none_iff.mp before
      have absent : (fresh.perform acts).listeners[i]? = none :=
        Array.getElem?_eq_none (by rw [subscribed.size]; exact outside)
      rw [reasonsTold_of_unsettled (subscribed.unknown i outside)]
      rcases (fresh.perform acts).learning?_cases a i with silent | asked
      · exact .inl (by rw [silent]; rfl)
      · exact .inl (by rw [asked, check_of_absent absent]; rfl)
    | some x =>
      have same : x = (n, c) := by
        rw [subscriptions_concat, List.getElem?_append_left (List.getElem?_eq_some_iff.mp before).1,
          before] at listens
        exact Option.some.inj listens
      subst same
      have settled : reasonsTold acts i ++ [] = [] ∨ ∃ reason,
          (closings (acts ++ [a]) c).head? = some reason ∧ reasonsTold acts i ++ [] = [reason] := by
        rw [List.append_nil]
        rcases ih before with nothing | ⟨reason, first, told⟩
        · exact .inl nothing
        · exact .inr ⟨reason, head?_closings_concat first a, told⟩
      rcases (fresh.perform acts).learning?_cases a i with silent | asked
      · rw [silent]
        exact settled
      · rw [asked, Option.bind_some]
        cases names : ((fresh.perform acts).check i).2.reason? with
        | none => exact settled
        | some reason =>
          obtain ⟨first, nothing⟩ := told_now before names
          rw [nothing]
          exact .inr ⟨reason, head?_closings_concat first a, rfl⟩

/-! ## Closed once and for all -/

/-- What a channel has to do with what closed it. -/
structure ClosesOnce (acts : List Act) (c : Nat) : Prop where
  /-- The first reason counts. -/
  state : ∀ ch, (fresh.perform acts).broker.channels[c]? = some ch → ch.state = stateLeft acts c
  /-- It stays the first, whatever happens later. -/
  final : ∀ later reason, (closings acts c).head? = some reason →
    (closings (acts ++ later) c).head? = some reason
  /-- Who closes the channel succeeds exactly if nothing closed it before. -/
  close : (fresh.perform acts).broker.isHeld c = true →
    ((fresh.perform acts).broker.close c).value =
      if closings acts c = [] then .ok () else .error .channelClosed
  /-- Nothing comes of publishing on a closed channel. -/
  publish : closings acts c ≠ [] → ∀ m : Sending, m.channel = c →
    (m.outcome (fresh.perform acts).broker).value = .error .channelClosed ∧
      (m.outcome (fresh.perform acts).broker).broker = (fresh.perform acts).broker
  /-- Nor of a request for confirm mode. -/
  select : closings acts c ≠ [] →
    (fresh.perform acts).broker.confirmSelect c = (.error .channelClosed, (fresh.perform acts).broker)

/-- What a listener of the outside has to do with what closed its channel. -/
structure Tells (acts : List Act) (i n c : Nat) : Prop where
  registered : (audience acts)[n]? = some c
  /-- What it answers next. -/
  next : ((fresh.perform acts).check i).2 =
    if (learnt acts i).any Answer.settles then .gone else (verdictOn acts c).answer
  /-- It named no reason, or the first one and that once. -/
  told : reasonsTold acts i = [] ∨
    ∃ reason, (closings acts c).head? = some reason ∧ reasonsTold acts i = [reason]

/-- A channel that has a reason to be closed is not live. -/
theorem not_isLive_of_closings {acts : List Act} (closed : closings acts c ≠ []) :
    (fresh.perform acts).broker.isLive c = false := by
  refine Bool.eq_false_iff.mpr fun live => ?_
  obtain ⟨ch, here, -⟩ := Broker.isLive_iff.mp live
  exact closed ((isLive_iff_nil acts here).mp live)

/-- Over every run the first reason is the one that counts. -/
theorem closesOnce_perform (acts : List Act) (c : Nat) : ClosesOnce acts c where
  state := (state_perform acts c).1
  final later reason first := by
    induction later using List.reverseRecOn with
    | nil => rwa [List.append_nil]
    | append_singleton later a ih =>
      rw [← List.append_assoc]
      exact head?_closings_concat ih a
  close held := by
    obtain ⟨ch, here⟩ : ∃ ch, (fresh.perform acts).broker.channels[c]? = some ch := by
      cases here : (fresh.perform acts).broker.channels[c]? with
      | none =>
        rw [Broker.isHeld, here] at held
        cases held
      | some ch => exact ⟨ch, rfl⟩
    unfold Broker.close
    by_cases free : closings acts c = []
    · rw [if_pos ((isLive_iff_nil acts here).mpr free), if_pos free]
    · rw [if_neg (mt (isLive_iff_nil acts here).mp free), if_neg free]
  publish closed m own := by
    have shut : ¬ (fresh.perform acts).broker.isLive m.channel = true :=
      Bool.eq_false_iff.mp (own ▸ not_isLive_of_closings closed)
    rw [Sending.outcome, Broker.publish, if_neg shut]
    exact ⟨rfl, rfl⟩
  select closed := by
    rw [Broker.confirmSelect, if_neg (Bool.eq_false_iff.mp (not_isLive_of_closings closed))]

/-- Over every run a listener tells that reason, once. -/
theorem tells_perform (acts : List Act) (listens : (subscriptions acts)[i]? = some (n, c)) :
    Tells acts i n c :=
  ⟨(subscribed_perform acts).listens i n c listens, check_perform listens,
    reasonsTold_perform acts listens⟩

/-- Whoever gets a confirmation gets it for a message on a channel that nothing has closed. -/
theorem silent_or_open (acts : List Act) (a : Act) :
    Broker.Silent (fresh.perform acts).broker ((fresh.perform acts).act a).broker ∨
      ∃ h, (fresh.perform acts).handling? a = some h ∧ closings acts h.sending.channel = [] := by
  cases accepted : (fresh.perform acts).acceptance? a with
  | none => exact .inl (silent_of_no_acceptance accepted)
  | some delivery =>
    obtain ⟨h, handles, accepted⟩ := Option.bind_eq_some_iff.mp accepted
    have live := ((publishes_of_handling handles).of_accepted accepted).1
    obtain ⟨ch, here, -⟩ := Broker.isLive_iff.mp live
    exact .inr ⟨h, handles, (isLive_iff_nil acts here).mp live⟩

/-- For everything that can happen: a channel is in the state in which the first of all reasons to close it
left it, and no later one changes that. Every notice registered with it, before or after, waits while it is
held and open and tells that reason once it was closed; a listener of the outside names it once to whoever
asks, and names no other. To close a channel succeeds exactly if nothing closed it before, and fails with
reply code 504 otherwise; so do publishing and a request for confirm mode on a closed channel, which change
nothing. Nobody gets a confirmation but for a message on a channel that is open. -/
theorem closing_counts_once (acts : List Act) :
    (∀ c, ClosesOnce acts c) ∧
    (∀ n c : Nat, (audience acts)[n]? = some c →
      (fresh.perform acts).broker.notices[n]? = some (verdictOn acts c)) ∧
    (∀ i n c : Nat, (subscriptions acts)[i]? = some (n, c) → Tells acts i n c) ∧
    (∀ a, Broker.Silent (fresh.perform acts).broker ((fresh.perform acts).act a).broker ∨
      ∃ h, (fresh.perform acts).handling? a = some h ∧ closings acts h.sending.channel = []) ∧
    Exception.channelClosed.code = 504 :=
  ⟨closesOnce_perform acts, fun _ _ => notices_perform acts, fun _ _ _ => tells_perform acts,
    silent_or_open acts, rfl⟩

/-- The outside listens to a channel, which is terminated and then closed; it listens once more and asks the
first listener. -/
def twiceClosed : List Act :=
  twoKept ++ [.command (.listen 1) rfl, .command (.terminate 1 (some ⟨320, "gone"⟩)) rfl,
    .command (.close 1) rfl, .command (.listen 1) rfl, .command (.check 0) rfl]

/-- The reason given first is the one that both listeners name, each once. -/
theorem first_reason_counts :
    (closings twiceClosed 6).head? = some (some ⟨320, "gone"⟩) ∧
      (∀ later, (closings (twiceClosed ++ later) 6).head? = some (some ⟨320, "gone"⟩)) ∧
      (fresh.perform twiceClosed).broker.isHeld 6 = true ∧
      ((fresh.perform twiceClosed).broker.close 6).value = .error .channelClosed ∧
      (fresh.perform twiceClosed).broker.confirmSelect 6 =
        (.error .channelClosed, (fresh.perform twiceClosed).broker) ∧
      ((fresh.perform twiceClosed).broker.publish 6 "" "key" {} {}).value = .error .channelClosed ∧
      (fresh.perform twiceClosed).broker.notices[0]? = some (.told (some ⟨320, "gone"⟩)) ∧
      reasonsTold twiceClosed 0 = [some ⟨320, "gone"⟩] ∧
      ((fresh.perform twiceClosed).check 0).2 = .gone ∧
      ((fresh.perform twiceClosed).check 1).2 = .closed (some ⟨320, "gone"⟩) := by
  have reasons : closings twiceClosed 6 = [some ⟨320, "gone"⟩, none] := by decide +kernel
  have first : (closings twiceClosed 6).head? = some (some ⟨320, "gone"⟩) := by rw [reasons]; rfl
  have closed : closings twiceClosed 6 ≠ [] := by simp [reasons]
  have held : (fresh.perform twiceClosed).broker.isHeld 6 = true := by decide +kernel
  have verdict : verdictOn twiceClosed 6 = .told (some ⟨320, "gone"⟩) := by rw [verdictOn, first]
  have listens : (audience twiceClosed)[0]? = some 6 := by decide +kernel
  have early : (subscriptions twiceClosed)[0]? = some (0, 6) := by decide +kernel
  have late : (subscriptions twiceClosed)[1]? = some (1, 6) := by decide +kernel
  have told : learnt twiceClosed 0 = [.closed (some ⟨320, "gone"⟩)] := by decide +kernel
  have untold : learnt twiceClosed 1 = [] := by decide +kernel
  obtain ⟨once, notices, tells, -⟩ := closing_counts_once twiceClosed
  refine ⟨first, fun later => (once 6).final later _ first, held, ?_, (once 6).select closed,
    ((once 6).publish closed ⟨none, 6, "", "key", {}, {}⟩ rfl).1, ?_, ?_, ?_, ?_⟩
  · rw [(once 6).close held, if_neg closed]
  · rw [notices 0 6 listens, verdict]
  · rw [reasonsTold, told]
    rfl
  · rw [(tells 0 0 6 early).next, told]
    rfl
  · rw [(tells 1 1 6 late).next, untold, verdict]
    rfl

end Service

end Relay
