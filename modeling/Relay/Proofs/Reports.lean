import Relay.Proofs.Proceedings

/-!
# What loops report

A loop tells others what came of two things that it began: of a publish to the call that it was for, and of
a refused request for confirm mode to the owner. `report?` reads off an act what is told by it, and
`reports_act` says that nothing else is: no command reports anything, nor does a call.
-/

namespace Relay.Service

/-- Whether an event tells what came of an operation that a loop began. -/
def Event.isReport : Event → Bool
  | .returned .. | .reported _ => true
  | _ => false

/-- What loops have reported, the last first. -/
def reports (s : Service) : List Event := s.journal.filter Event.isReport

/-- What a loop reports with its next move, if no wait holds it up. -/
def loopReport? (s : Service) (t : Nat) (l : Loop) : Option Event :=
  match l.stage with
  | .confirming _ (.leaving (.error e)) => some (.reported e)
  | .publishing _ u (.leaving result) => (s.call? u).map fun _ => .returned t u result
  | _ => none

/-- What an act reports. -/
def report? (s : Service) : Act → Option Event
  | .command _ _ => none
  | .move t =>
    match s.loop? t with
    | some l => if s.isHeldUp l then none else s.loopReport? t l
    | none => none

variable {s : Service} {t : Nat} {l : Loop}

/-- Reports are among what loops do. -/
theorem filter_isReport_proceedings (s : Service) :
    s.proceedings.filter Event.isReport = s.reports := by
  rw [proceedings, List.filter_filter, reports]
  congr 1
  funext e
  cases e <;> rfl

/-- Who takes leave reports nothing. -/
theorem filter_isReport_farewells (s : Service) (p : Nat) :
    (s.farewells p).filter Event.isReport = [] := by
  unfold farewells
  split <;> rfl

/-- Who takes up a request reports nothing. -/
theorem filter_isReport_nextPublish? (s : Service) (t : Nat) (l : Loop) :
    (s.nextPublish? t l).toList.filter Event.isReport = [] := by
  refine List.filter_eq_nil_iff.mpr fun e inside => ?_
  simp only [nextPublish?, Option.mem_toList, Option.bind_eq_some_iff, Option.map_eq_some_iff] at inside
  obtain ⟨⟨u, rest⟩, -, c, -, message, -, rfl⟩ := inside
  exact Bool.false_ne_true

/-- Only a loop that was refused confirm mode, or comes back from a publish, reports anything. -/
theorem filter_isReport_loopEntries (s : Service) (t : Nat) (l : Loop) :
    (s.loopEntries t l).filter Event.isReport = (s.loopReport? t l).toList := by
  -- both read the loop's stage in the same way, so they agree stage by stage
  unfold loopEntries loopReport?
  cases l.stage with
  | fresh =>
    simp only []
    split
    · rfl
    · split
      · exact filter_isReport_farewells s _
      · cases (s.publisher l.publisher).sink <;> rfl
  | idle notice =>
    simp only []
    split
    · exact filter_isReport_farewells s _
    · split
      · exact filter_isReport_nextPublish? s t l
      · rfl
  | confirming notice phase =>
    cases phase with
    | entering => rfl
    | leaving result =>
      cases result with
      | ok =>
        simp only []
        cases (s.publisher l.publisher).sink <;> rfl
      | error e => rfl
  | publishing notice u phase =>
    cases phase with
    | entering => rfl
    | leaving result =>
      simp only []
      cases s.call? u <;> rfl
  | closing | finished | dropped => rfl

/-- An act adds its report to the journal, if it has one. -/
theorem filter_isReport_entries (s : Service) (a : Act) :
    (s.entries a).filter Event.isReport = (s.report? a).toList := by
  cases a with
  | command => rfl
  | move t =>
    rw [entries, report?]
    cases s.loop? t with
    | none => rfl
    | some l =>
      simp only []
      split
      · rfl
      · exact filter_isReport_loopEntries s t l

/-- What is reported is what acts report, one after the other. -/
theorem reports_act (sound : Sound s) (a : Act) :
    (s.act a).reports = (s.report? a).toList ++ s.reports := by
  rw [← filter_isReport_proceedings, (proceeds_act sound a).proceedings, List.filter_append,
    filter_isReport_entries, filter_isReport_proceedings]

/-- Reports are the entries of the journal that report. -/
theorem mem_reports {e : Event} (report : e.isReport = true) : e ∈ s.reports ↔ e ∈ s.journal := by
  rw [reports, List.mem_filter]
  exact and_iff_left report

/-- An event that is reported was before, or is what the act reports. -/
theorem mem_journal_act {e : Event} {a : Act} (sound : Sound s) (report : e.isReport = true) :
    e ∈ (s.act a).journal ↔ s.report? a = some e ∨ e ∈ s.journal := by
  rw [← mem_reports report, reports_act sound, List.mem_append, mem_reports report, Option.mem_toList]

end Relay.Service
