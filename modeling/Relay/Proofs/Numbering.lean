import Relay.Proofs.Registry

/-!
# The numbers of channels

Channels are numbered by the order in which they are opened: 1, 2, and so on to 65535, and then from 1 again.
`turn n` is the number of the channel that is opened after `n` others, and `Numbered` says that a broker goes
by it, for the channels that it opened and for the one that it opens next. `numbersOpened` reads off a run the
numbers with which channels were opened; only opening takes any, and an opening that fails takes none.
-/

namespace Relay

namespace Broker

/-- The number of the channel that is opened after so many others. -/
def turn (n : Nat) : Nat := n % 65535 + 1

/-- The number after a turn is that of the next turn. -/
theorem numberAfter_turn (n : Nat) : numberAfter (turn n) = turn (n + 1) := by
  unfold numberAfter turn greatestNumber
  split <;> omega

/-- Numbers come again only after a full cycle. -/
theorem turn_ne {i j : Nat} (less : i < j) (near : j - i < 65535) : turn i ≠ turn j := by
  unfold turn
  omega

/-- The numbers of a broker's channels follow the order of opening. -/
structure Numbered (b : Broker) : Prop where
  next : b.nextNumber = turn b.channels.size
  numbers : ∀ c ch, b.channels[c]? = some ch → ch.number = turn c

/-- The number of the channel that a note says was opened. -/
def Note.opened? : Note → Option Nat
  | .opened number => some number
  | _ => none

variable {b b' : Broker} {c : Nat} {ch : Channel}

/-- A new broker has numbered no channel. -/
theorem Numbered.fresh : Numbered Broker.fresh where
  next := rfl
  numbers c ch here := by cases here

namespace Numbered

/-- Channels come and go in no other way than by being opened, and keep their numbers. -/
theorem of_same (numbered : Numbered b) (next : b'.nextNumber = b.nextNumber)
    (size : b'.channels.size = b.channels.size)
    (kept : ∀ (c : Nat) (ch' : Channel), b'.channels[c]? = some ch' →
      ∃ ch : Channel, b.channels[c]? = some ch ∧ ch'.number = ch.number) : Numbered b' where
  next := by rw [next, size, numbered.next]
  numbers c ch' there := by
    obtain ⟨ch, here, same⟩ := kept c ch' there
    rw [same, numbered.numbers c ch here]

/-- A new channel gets the next number. -/
theorem openChannel (numbered : Numbered b) : Numbered b.openChannel.broker := by
  unfold Broker.openChannel
  split
  · refine ⟨?_, fun c ch there => ?_⟩
    · change numberAfter b.nextNumber = turn (b.channels.push _).size
      rw [Array.size_push, numbered.next, numberAfter_turn]
    · rw [channels_push] at there
      split at there
      · next new =>
        cases there
        rw [new, ← numbered.next]
      · exact numbered.numbers c ch there
  · exact numbered

/-- A channel that is let go keeps its number. -/
theorem letGo (numbered : Numbered b) (c : Nat) : Numbered (b.letGo c) := by
  refine numbered.of_same (Service.link_apply (d := .letGo c) rfl).2.2 ?_ fun e ch' there => ?_
  · rw [channels_letGo, Array.size_modify]
  · rw [channels_letGo, Array.getElem?_modify] at there
    split at there
    · obtain ⟨ch, here, rfl⟩ := Option.map_eq_some_iff.mp there
      exact ⟨ch, here, rfl⟩
    · exact ⟨ch', there, rfl⟩

/-- The numbers of all channels, in the order of opening. -/
theorem map_number (numbered : Numbered b) :
    b.channels.toList.map Channel.number = (List.range b.channels.size).map turn := by
  apply List.ext_getElem?
  intro c
  rw [List.getElem?_map, List.getElem?_map, Array.getElem?_toList]
  cases here : b.channels[c]? with
  | none =>
    rw [List.getElem?_eq_none (by simpa using here)]
    rfl
  | some ch =>
    rw [List.getElem?_range (Array.getElem?_eq_some_iff.mp here).1]
    exact congrArg some (numbered.numbers c ch here)

end Numbered

/-! ## Opening -/

/-- A channel that is opened takes the next number. -/
theorem openChannel_of_available (available : b.available = true) (numbered : Numbered b) :
    ∃ b', b.openChannel = ⟨.ok b.channels.size, b', [.opened (turn b.channels.size)]⟩ ∧
      Numbered b' ∧ b'.available = true ∧ b'.channels.size = b.channels.size + 1 := by
  have after := numbered.openChannel
  unfold openChannel at after ⊢
  rw [if_pos available] at after ⊢
  exact ⟨_, by rw [numbered.next], after, available, Array.size_push _⟩

/-- Channels that are opened one in place of the other take the next numbers, one after the other. -/
theorem reopen_of_available (n : Nat) : ∀ {b : Broker} {c : Nat} (notes : List Note),
    b.available = true → Numbered b → b.channels.size = c + 1 →
      ∃ b', reopen n c b notes =
          ⟨.ok (c + n), b', notes.reverse ++ (List.range' (c + 1) n).map fun i => .opened (turn i)⟩ ∧
        Numbered b' ∧ b'.channels.size = c + 1 + n := by
  induction n with
  | zero =>
    intro b c notes _ numbered size
    exact ⟨b, by rw [List.range'_zero, List.map_nil, List.append_nil]; rfl, numbered, size⟩
  | succ n ih =>
    intro b c notes available numbered size
    obtain ⟨b', opened, numbered', available', size'⟩ := openChannel_of_available available numbered
    -- the channel before is let go only now, and its number is not given back
    have left : (b'.letGo c).available = true :=
      (Service.link_apply (d := .letGo c) rfl).2.1.trans available'
    have fewer : (b'.letGo c).channels.size = c + 1 + 1 := by
      rw [channels_letGo, Array.size_modify, size', size]
    obtain ⟨b'', again, numbered'', size''⟩ :=
      ih (.opened (turn b.channels.size) :: notes) left (numbered'.letGo c) fewer
    refine ⟨b'', ?_, numbered'', by omega⟩
    rw [reopen, opened, size]
    rw [size] at again
    refine again.trans ?_
    rw [List.reverse_cons, List.append_assoc, List.range'_succ, Nat.add_right_comm c 1 n]
    rfl

/-- Channels that are opened to keep the last take the next numbers, one after the other. -/
theorem openLast_of_available (available : b.available = true) (numbered : Numbered b) (count : Nat) :
    ∃ b', b.openLast count =
        ⟨.ok (b.channels.size + (count - 1)), b',
          (List.range' b.channels.size (count - 1 + 1)).map fun i => .opened (turn i)⟩ ∧
      Numbered b' ∧ b'.channels.size = b.channels.size + (count - 1 + 1) := by
  obtain ⟨b', opened, numbered', available', size⟩ := openChannel_of_available available numbered
  obtain ⟨b'', again, numbered'', size'⟩ :=
    reopen_of_available (count - 1) [.opened (turn b.channels.size)] available' numbered' size
  refine ⟨b'', ?_, numbered'', by omega⟩
  rw [openLast, opened, List.range'_succ]
  exact again

/-- During an outage nothing is opened. -/
theorem openLast_of_unavailable (out : b.available = false) (count : Nat) :
    b.openLast count = ⟨.error .unavailable, b, []⟩ := by
  simp [openLast, openChannel, out]

end Broker

namespace Service

open Broker (Channel Exception Numbered turn)

variable {s : Service} {b : Broker} {d : Deed} {c : Nat} {ch : Channel}

/-! ## Numbers over a run -/

/-- The numbers of the channels that a deed opens, in order. -/
def Deed.numbers (b : Broker) : Deed → List Nat
  | openLast count => (b.openLast count).notes.filterMap Broker.Note.opened?
  | _ => []

/-- The numbers of the channels that were opened in a run, in order. -/
def numbersOpened (acts : List Act) : List Nat :=
  (gather (fun s a => (s.deed? a).map (Deed.numbers s.broker)) fresh acts).flatten

/-- A channel keeps its number. -/
theorem number_onto : (d.onto b c ch).number = ch.number := by
  have ended : ∀ reason, (ch.ended reason).number = ch.number := fun reason => by
    unfold Channel.ended
    split <;> rfl
  unfold Deed.onto
  split
  · cases d with
    | close | terminate => exact ended _
    | listen =>
      simp only [Deed.change, Channel.heard]
      split <;> rfl
    | select =>
      simp only [Deed.change, Channel.selected]
      split <;> rfl
    | register =>
      simp only [Deed.change, Channel.joined]
      split <;> rfl
    | publish m =>
      simp only [Deed.change]
      split
      · rfl
      · split
        · unfold Channel.confirmed
          split <;> rfl
        · exact ended _
    | _ => rfl
  · split
    · split
      · exact ended _
      · rfl
    · rfl

/-- Only opening uses up a number. -/
theorem nextNumber_apply (closed : ∀ count, d ≠ .openLast count) :
    (d.apply b).nextNumber = b.nextNumber := by
  cases d with
  | openLast count => exact absurd rfl (closed count)
  | disconnect error =>
    exact Broker.shutAll_induct (P := fun b' => b'.nextNumber = b.nextNumber) _ _ rfl
      fun b' c _ same => (Broker.link_shut b' c (some error)).2.2.trans same
  | restore => rfl
  | _ => exact (link_apply rfl).2.2

/-- The channels that a deed opens take the next numbers, and no other deed takes any. -/
theorem numbers_apply (numbered : Numbered b) (d : Deed) : Numbered (d.apply b) ∧
    ∃ more, (d.apply b).channels.size = b.channels.size + more ∧
      d.numbers b = (List.range' b.channels.size more).map turn := by
  by_cases opens : ∃ count, d = .openLast count
  · obtain ⟨count, rfl⟩ := opens
    simp only [Deed.apply, Deed.numbers]
    cases available : b.available with
    | true =>
      obtain ⟨b', opened, numbered', size⟩ := Broker.openLast_of_available available numbered count
      rw [opened]
      refine ⟨numbered', _, size, ?_⟩
      rw [List.filterMap_map]
      exact congrFun List.filterMap_eq_map _
    | false =>
      rw [Broker.openLast_of_unavailable available]
      exact ⟨numbered, 0, rfl, rfl⟩
  · have closed : ∀ count, d ≠ .openLast count := fun count same => opens ⟨count, same⟩
    have size := size_apply (b := b) closed
    refine ⟨numbered.of_same (nextNumber_apply closed) size fun c ch' there => ?_, 0, size, ?_⟩
    · obtain ⟨ch, here, rfl⟩ := exists_of_apply closed there
      exact ⟨ch, here, number_onto⟩
    · cases d with
      | openLast count => exact absurd rfl (closed count)
      | _ => rfl

/-- The last act adds the numbers of the channels that it opened. -/
theorem numbersOpened_concat (acts : List Act) (a : Act) :
    numbersOpened (acts ++ [a]) = numbersOpened acts ++
      (((fresh.perform acts).deed? a).map (Deed.numbers (fresh.perform acts).broker)).getD [] := by
  rw [numbersOpened, gather_concat, List.flatten_append, ← numbersOpened]
  cases (fresh.perform acts).deed? a with
  | none => rfl
  | some d => exact congrArg (numbersOpened acts ++ ·) (List.append_nil _)

/-- In every run the channels that are opened take the numbers in turn. -/
theorem numbers_perform (acts : List Act) : Numbered (fresh.perform acts).broker ∧
    numbersOpened acts = (List.range (fresh.perform acts).broker.channels.size).map turn := by
  induction acts using List.reverseRecOn with
  | nil => exact ⟨.fresh, rfl⟩
  | append_singleton acts a ih =>
    obtain ⟨numbered, numbers⟩ := ih
    rw [perform_concat, broker_act, numbersOpened_concat, numbers]
    cases (fresh.perform acts).deed? a with
    | none => exact ⟨numbered, List.append_nil _⟩
    | some d =>
      obtain ⟨numbered', more, size, taken⟩ := numbers_apply numbered d
      rw [Option.map_some, Option.getD_some, taken, obey, size, List.range_eq_range',
        List.range_eq_range', ← List.map_append]
      have parts := List.range'_append_1 (s := 0) (m := (fresh.perform acts).broker.channels.size) (n := more)
      rw [Nat.zero_add] at parts
      exact ⟨numbered', congrArg (List.map turn) parts⟩

/-- Opening channels during a run answers the number of the last of them. -/
theorem step_openChannel_of_available (numbered : Numbered s.broker)
    (available : s.broker.available = true) (count : Nat) :
    Deed.numbers s.broker (.openLast count) =
        (List.range' s.broker.channels.size (count - 1)).map turn ++
          [turn (s.broker.channels.size + (count - 1))] ∧
      (s.step (.openChannel count)).2 =
        .channel s.handles.size (turn (s.broker.channels.size + (count - 1))) := by
  obtain ⟨b', opened, numbered', size⟩ := Broker.openLast_of_available available numbered count
  have last : s.broker.channels.size + (count - 1) < b'.channels.size := by omega
  have number : b'.numberOf (s.broker.channels.size + (count - 1)) =
      turn (s.broker.channels.size + (count - 1)) := by
    rw [Broker.numberOf, Array.getElem?_eq_getElem last]
    exact numbered'.numbers _ _ (Array.getElem?_eq_getElem last)
  constructor
  · have all : Deed.numbers s.broker (.openLast count) =
        (List.range' s.broker.channels.size (count - 1 + 1)).map turn := by
      rw [Deed.numbers, opened, List.filterMap_map]
      exact congrFun List.filterMap_eq_map _
    rw [all, List.range'_1_concat, List.map_append]
    rfl
  · simp only [step, openHandle, opened]
    exact congrArg (Answer.channel s.handles.size) number

/-- For everything that can happen to a broker: the channel that is opened as the `n`-th gets the number
`(n - 1) % 65535 + 1`. So no channel has the number 0, and channels of one number are at least 65535 openings
apart. The numbers are those that the channels keep, in the order of opening, and the last of them is the
answer to those who open channels. During an outage opening takes no number. -/
theorem channel_numbers_cycle (acts : List Act) :
    let s := fresh.perform acts
    let numbers := numbersOpened acts
    (∀ n, 0 < n → n ≤ numbers.length → numbers[n - 1]? = some ((n - 1) % 65535 + 1)) ∧
    (∀ number ∈ numbers, 0 < number ∧ number ≤ 65535) ∧
    (∀ i j, i < j → j < numbers.length → j - i < 65535 → numbers[i]? ≠ numbers[j]?) ∧
    s.broker.channels.toList.map Channel.number = numbers ∧
    ∀ count,
      (connected acts = true → ∃ others number, others.length = count - 1 ∧
        numbersOpened (acts ++ [.command (.openChannel count) rfl]) = numbers ++ others ++ [number] ∧
        (s.step (.openChannel count)).2 = .channel s.handles.size number) ∧
      (connected acts = false →
        numbersOpened (acts ++ [.command (.openChannel count) rfl]) = numbers ∧
        s.step (.openChannel count) = (s, .refused .unavailable)) := by
  intro s numbers
  obtain ⟨numbered, taken⟩ := numbers_perform acts
  have taken : numbers = (List.range s.broker.channels.size).map turn := taken
  have each : ∀ i, i < numbers.length → numbers[i]? = some (turn i) := fun i inBounds => by
    rw [taken, List.length_map, List.length_range] at inBounds
    rw [taken, List.getElem?_map, List.getElem?_range inBounds]
    rfl
  have more : ∀ count, numbersOpened (acts ++ [.command (.openChannel count) rfl]) =
      numbers ++ Deed.numbers s.broker (.openLast count) := fun count => numbersOpened_concat acts _
  refine ⟨fun n positive within => each (n - 1) (by omega), fun number member => ?_,
    fun i j less inBounds near same => ?_, ?_, fun count => ⟨fun there => ?_, fun out => ?_⟩⟩
  · rw [taken] at member
    obtain ⟨i, -, rfl⟩ := List.mem_map.mp member
    unfold turn
    omega
  · rw [each i (by omega), each j inBounds] at same
    exact Broker.turn_ne less near (Option.some.inj same)
  · rw [taken]
    exact numbered.map_number
  · rw [← available_perform] at there
    obtain ⟨opened, answer⟩ := step_openChannel_of_available numbered there count
    have all := ((more count).trans (congrArg (numbers ++ ·) opened)).trans (List.append_assoc ..).symm
    exact ⟨_, _, by rw [List.length_map, List.length_range'], all, answer⟩
  · rw [← available_perform] at out
    have nothing : Deed.numbers s.broker (.openLast count) = [] := by
      rw [Deed.numbers, Broker.openLast_of_unavailable out]
      rfl
    refine ⟨?_, step_openChannel_of_unavailable out count⟩
    rw [more, nothing, List.append_nil]

/-- After 65535 channels the number 1 comes again, and it is the answer to those who open the next channel. -/
theorem first_number_comes_again :
    let acts : List Act := [.command (.openChannel 65535) rfl]
    let later := acts ++ [.command (.openChannel 1) rfl]
    connected acts = true ∧ (numbersOpened later).length = 65536 ∧ (numbersOpened later)[65535]? = some 1 ∧
      ((fresh.perform acts).step (.openChannel 1)).2 = .channel (fresh.perform acts).handles.size 1 := by
  intro acts later
  have there : connected acts = true := rfl
  obtain ⟨others, last, length, before, -⟩ := ((channel_numbers_cycle []).2.2.2.2 65535).1 rfl
  obtain ⟨others', next, length', after, answer⟩ := ((channel_numbers_cycle acts).2.2.2.2 1).1 there
  obtain ⟨nth, -⟩ := channel_numbers_cycle later
  obtain rfl : others' = [] := List.length_eq_zero_iff.mp length'
  have early : (numbersOpened acts).length = 65535 := by
    refine (congrArg List.length before).trans ?_
    rw [List.length_append, List.length_append, length, List.length_singleton]
    rfl
  have shape : numbersOpened later = numbersOpened acts ++ [next] := by
    rw [← List.append_nil (numbersOpened acts)]
    exact after
  have long : (numbersOpened later).length = 65536 := by
    rw [shape, List.length_append, early, List.length_singleton]
  have again := nth 65536 (by decide) (Nat.le_of_eq long.symm)
  simp only [Nat.reduceSub, Nat.reduceMod, Nat.reduceAdd] at again
  have same : some next = some 1 := by
    rw [← again, shape, ← early, List.getElem?_concat_length]
  cases same
  exact ⟨there, long, again, answer⟩

end Service

end Relay
