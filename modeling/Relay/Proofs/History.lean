import Relay.Service.Command
import Mathlib.Data.List.Infix

/-!
# The history of a service

Most of what a journal holds is of no consequence to calls and publishers: log lines, what the broker
accepted, and operations other than a publish. `history` keeps the rest. The courses of single calls
and the orders of requests and publishes are read off it.

`Alike` says that two services agree in all that calls, publishers and the history consist of. An
operation of the broker changes a service to one that is alike, and so does a log line.
-/

namespace Relay.Service

open Broker (Exception)

/-- Whether an event is of consequence to calls or publishers. -/
def Event.isDecisive : Event → Bool
  | .began _ _ (.publish ..) | .requested _ | .returned .. | .cancelled .. | .ended .. | .dropped _ =>
    true
  | .began .. | .delivered .. | .reported _ | .forgotten _ | .noted _ => false

/-- Whether an event is a step in the course of the call at an index. -/
def Event.isOf (t : Nat) : Event → Bool
  | .began _ _ (.publish caller ..) => caller == t
  | .requested caller => caller == t
  | .ended task _ => task == t
  | .dropped task => task == t
  | _ => false

/-- Whether an event is the return of a publish for the call at an index. -/
def Event.isReturnTo (t : Nat) : Event → Bool
  | .returned _ caller _ => caller == t
  | _ => false

/-- Whether an event is the beginning of a publish for the call at an index. -/
def Event.isPublishFor (t : Nat) : Event → Bool
  | .began _ _ (.publish caller ..) => caller == t
  | _ => false

/-- The decisive events so far, the last first. -/
def history (s : Service) : List Event := s.journal.filter Event.isDecisive

/-- The events in the course of a call, the last first: its request, the publish for it, and its
end. -/
def course (s : Service) (t : Nat) : List Event := s.history.filter (Event.isOf t)

/-- The returns of publishes for a call, the last first. -/
def returnsTo (s : Service) (t : Nat) : List Event := s.journal.filter (Event.isReturnTo t)

/-- The publishes that loops began for a call, the last first. -/
def publishesFor (s : Service) (t : Nat) : List Event := s.journal.filter (Event.isPublishFor t)

/-- A decisive event is in the history just if it is in the journal. -/
theorem mem_history {s : Service} {e : Event} (decisive : e.isDecisive = true) :
    e ∈ s.history ↔ e ∈ s.journal := by
  simp [history, decisive]

/-- The publishes for a call are part of its course. -/
theorem publishesFor_eq_filter_course (s : Service) (t : Nat) :
    s.publishesFor t = (s.course t).filter (Event.isPublishFor t) := by
  rw [publishesFor, course, history, List.filter_filter, List.filter_filter]
  refine List.filter_congr fun e _ => ?_
  cases e with
  | began l h operation => cases operation <;> simp [Event.isPublishFor, Event.isOf, Event.isDecisive]
  | _ => rfl

/-- The returns of publishes are part of the history. -/
theorem returnsTo_eq_filter_history (s : Service) (t : Nat) :
    s.returnsTo t = s.history.filter (Event.isReturnTo t) := by
  rw [returnsTo, history, List.filter_filter]
  refine List.filter_congr fun e _ => ?_
  cases e <;> simp [Event.isReturnTo, Event.isDecisive]

/-- What a function reads off the events so far, the first first. -/
def chronicle {α : Type} (s : Service) (read : Event → Option α) : List α :=
  s.journal.reverse.filterMap read

/-- A function that passes over what is of no consequence can be read off the history. -/
theorem chronicle_eq {α : Type} {s : Service} {read : Event → Option α}
    (decisive : ∀ e, e.isDecisive = false → read e = none) :
    s.chronicle read = (s.history.filterMap read).reverse := by
  rw [chronicle, List.filterMap_reverse, history, List.filterMap_filter]
  refine congrArg List.reverse (List.filterMap_congr fun e _ => ?_)
  split
  · rfl
  · next idle => exact decisive e (Bool.eq_false_iff.mpr idle)

/-! ## Recording -/

/-- A decisive event is added to the history. -/
theorem history_record_of_decisive {s : Service} {e : Event} (decisive : e.isDecisive = true) :
    (s.record e).history = e :: s.history := by
  simp [history, record, decisive]

/-- Any other is not. -/
theorem history_record_of_not_decisive {s : Service} {e : Event} (idle : e.isDecisive = false) :
    (s.record e).history = s.history := by
  simp [history, record, idle]

/-- An operation of the broker adds its notes to the journal. -/
theorem journal_after {α : Type} (s : Service) (o : Broker.Outcome α) :
    ∃ added, (s.after o).journal = added ++ s.journal ∧
      ∀ e ∈ added, ∃ n, e = .noted (.broker n) := by
  have noted : ∀ (notes : List Broker.Note) (j : List Event),
      ∃ added, notes.foldl (fun j n => .noted (.broker n) :: j) j = added ++ j ∧
        ∀ e ∈ added, ∃ n, e = .noted (.broker n) := by
    intro notes
    induction notes with
    | nil => exact fun j => ⟨[], rfl, fun _ inside => absurd inside List.not_mem_nil⟩
    | cons n notes ih =>
      intro j
      obtain ⟨added, longer, all⟩ := ih (.noted (.broker n) :: j)
      refine ⟨added ++ [.noted (.broker n)], ?_, fun e inside => ?_⟩
      · rw [List.foldl_cons, longer, List.append_assoc]
        rfl
      · rcases List.mem_append.mp inside with later | first
        · exact all e later
        · exact ⟨n, List.mem_singleton.mp first⟩
  exact noted o.notes s.journal

/-! ## Services that differ in nothing of consequence -/

/-- The second service has grown out of the first without anything that calls or publishers could
tell. -/
structure Alike (s s' : Service) : Prop where
  tasks : s'.tasks = s.tasks
  publishers : s'.publishers = s.publishers
  names : s'.names = s.names
  history : s'.history = s.history
  journal : s.journal <:+ s'.journal

namespace Alike

/-- Every service is like itself. -/
theorem refl (s : Service) : Alike s s := ⟨rfl, rfl, rfl, rfl, List.suffix_rfl⟩

/-- What is like one that is alike is alike. -/
theorem trans {s s' s'' : Service} (h : Alike s s') (h' : Alike s' s'') : Alike s s'' :=
  ⟨h'.tasks.trans h.tasks, h'.publishers.trans h.publishers, h'.names.trans h.names,
    h'.history.trans h.history, h.journal.trans h'.journal⟩

/-- An event that is not decisive leaves a service that is alike. -/
theorem record {s : Service} {e : Event} (idle : e.isDecisive = false) : Alike s (s.record e) :=
  ⟨rfl, rfl, rfl, history_record_of_not_decisive idle, List.suffix_cons _ _⟩

/-- So does a log line. -/
theorem note (s : Service) (p : Nat) (n : Publisher.Note) : Alike s (s.note p n) := .record rfl

/-- Only the broker, the handles and the listeners differ. -/
theorem of_fields {s s' : Service} (tasks : s'.tasks = s.tasks)
    (publishers : s'.publishers = s.publishers) (names : s'.names = s.names)
    (journal : s'.journal = s.journal) : Alike s s' :=
  ⟨tasks, publishers, names, by rw [Service.history, journal, Service.history],
    by rw [journal]⟩

/-- So does an operation of the broker, which adds log lines. -/
theorem after {α : Type} (s : Service) (o : Broker.Outcome α) : Alike s (s.after o) := by
  obtain ⟨added, longer, noted⟩ := journal_after s o
  have idle : added.filter Event.isDecisive = [] := by
    refine List.filter_eq_nil_iff.mpr fun e inside => ?_
    obtain ⟨n, rfl⟩ := noted e inside
    exact Bool.false_ne_true
  have history : (s.after o).history = s.history := by
    rw [Service.history, longer, List.filter_append, idle, List.nil_append, Service.history]
  exact ⟨rfl, rfl, rfl, history, added, longer.symm⟩

end Alike

end Relay.Service
