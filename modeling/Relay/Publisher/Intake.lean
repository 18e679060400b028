/-!
# The intake

Requests wait in the intake in the order in which they were put in. It has no room of its own: a
request either meets a loop that stands ready, and is handed off to it, or it is offered and stays
with its caller. A loop that takes the next request finds the one handed off before those offered.

The two kinds differ when a caller goes away: an offered request leaves with it, while one handed
off stays behind as a shell that the loop finds claimed.
-/

namespace Relay.Publisher

/-- Waiting requests, each named by the call that made it. -/
structure Intake where
  handedOff : Option Nat := none
  offered : List Nat := []
  deriving DecidableEq, Repr

namespace Intake

/-- The waiting requests in the order in which a loop takes them. -/
def order (i : Intake) : List Nat := i.handedOff.toList ++ i.offered

/-- The number of waiting requests. -/
def size (i : Intake) : Nat := i.order.length

/-- Puts a request in; `ready` tells whether a loop stands ready for one. -/
def put (i : Intake) (request : Nat) (ready : Bool) : Intake :=
  if ready ∧ i.handedOff.isNone then { i with handedOff := some request }
  else { i with offered := i.offered ++ [request] }

/-- Takes the next request out. -/
def take? (i : Intake) : Option (Nat × Intake) :=
  match i.handedOff, i.offered with
  | some r, _ => some (r, { i with handedOff := none })
  | none, r :: rest => some (r, { i with offered := rest })
  | none, [] => none

/-- An offered request leaves; one handed off stays. -/
def leave (i : Intake) (request : Nat) : Intake := { i with offered := i.offered.erase request }

/-- A new request is the last of the order, unless it is handed off past requests that are offered. -/
theorem order_put {i : Intake} {request : Nat} {ready : Bool}
    (rested : ready = true → i.handedOff = none → i.offered = []) :
    (i.put request ready).order = i.order ++ [request] := by
  unfold put
  split
  · next free =>
    have vacant := Option.isNone_iff_eq_none.mp free.2
    simp [order, vacant, rested free.1 vacant]
  · simp [order]

/-- Putting in adds the request and nothing else, wherever it ends up. -/
theorem mem_order_put {i : Intake} {request r : Nat} {ready : Bool} :
    r ∈ (i.put request ready).order ↔ r = request ∨ r ∈ i.order := by
  unfold put order
  split
  · next handed => simp [Option.isNone_iff_eq_none.mp handed.2]
  · simp [or_comm, or_assoc]

theorem nodup_order_put {i : Intake} {request : Nat} {ready : Bool} (nodup : i.order.Nodup)
    (new : request ∉ i.order) : (i.put request ready).order.Nodup := by
  unfold put
  unfold order at nodup new ⊢
  split
  · next handed =>
    rw [Option.isNone_iff_eq_none.mp handed.2] at nodup new
    exact List.nodup_cons.mpr ⟨new, nodup⟩
  · rw [← List.append_assoc]
    refine List.nodup_append.mpr ⟨nodup, by simp, fun r inside r' last => ?_⟩
    rw [List.mem_singleton.mp last]
    rintro rfl
    exact new inside

/-- Taking gives the first request of the order and leaves the others in order. -/
theorem order_of_take? {i j : Intake} {r : Nat} (h : i.take? = some (r, j)) :
    i.order = r :: j.order := by
  obtain ⟨handedOff, offered⟩ := i
  cases handedOff with
  | some x =>
    obtain ⟨rfl, rfl⟩ := Prod.mk.inj (Option.some.inj h)
    rfl
  | none =>
    cases offered with
    | nil => simp [take?] at h
    | cons y ys =>
      obtain ⟨rfl, rfl⟩ := Prod.mk.inj (Option.some.inj h)
      rfl

/-- An intake without requests gives none. -/
theorem take?_eq_none_iff {i : Intake} : i.take? = none ↔ i.order = [] := by
  obtain ⟨handedOff, offered⟩ := i
  cases handedOff <;> cases offered <;> simp [take?, order]

/-- A caller that goes away leaves the order of the others as it is. -/
theorem order_leave_sublist (i : Intake) (request : Nat) :
    (i.leave request).order.Sublist i.order :=
  List.Sublist.append_left List.erase_sublist _

/-- A caller that goes away removes at most its own request. -/
theorem mem_order_leave {i : Intake} {request r : Nat} (other : r ≠ request) :
    r ∈ (i.leave request).order ↔ r ∈ i.order := by
  simp [leave, order, List.mem_erase_of_ne other]

end Intake

end Relay.Publisher
