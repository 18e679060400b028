import Relay.Publisher.Request

/-!
# Who claims a request

A loop and a caller share a request. The loop opens it, answers it or goes away, and the caller takes it back
or goes away; `Use` is any of these, and they may come in any order and any number. A use that is after the
claim wins it if it finds the claim free, so among all uses the first such one wins and no other does. The
reply is another matter: it is settled by the first answer, or by the loop going away before.
-/

namespace Relay.Publisher

/-- What those who share a request do with it. -/
inductive Use where
  /-- The loop opens it. -/
  | opens
  /-- The loop answers it. -/
  | answers (result : Except Failure Unit)
  /-- The loop goes away. -/
  | abandons
  /-- The caller takes it back. -/
  | withdraws
  /-- The caller goes away. -/
  | forsakes

namespace Use

/-- Whether a use is after the claim. -/
def claims : Use → Bool
  | opens | withdraws | forsakes => true
  | answers _ | abandons => false

/-- Whether a use opens the request. -/
def isOpening : Use → Bool
  | opens => true
  | _ => false

/-- What the caller gets by a use that settles the reply. -/
def reply? : Use → Option (Except Failure Unit)
  | answers result => some result
  | abandons => some (.error .interrupted)
  | opens | withdraws | forsakes => none

end Use

namespace Request

/-- The request after a use. -/
def use (r : Request) : Use → Request
  | .opens => r.openBy.2
  | .answers result => r.answer result
  | .abandons => r.abandon
  | .withdraws => r.withdraw.2
  | .forsakes => r.forsake

/-- The request after uses, one after the other. -/
def uses (r : Request) (us : List Use) : Request := us.foldl use r

/-- Whether a use finds the claim free and takes it. -/
def wins (r : Request) (u : Use) : Bool := !r.claimed && (r.use u).claimed

/-- The message that a use hands over to the loop. -/
def handsOver? (r : Request) : Use → Option Message
  | .opens => r.openBy.1
  | _ => none

/-- The uses that win the claim, in order. -/
def winners : Request → List Use → List Use
  | _, [] => []
  | r, u :: us => (if r.wins u then [u] else []) ++ winners (r.use u) us

/-- The messages that uses hand over, in order. -/
def handedOver : Request → List Use → List Message
  | _, [] => []
  | r, u :: us => (r.handsOver? u).toList ++ handedOver (r.use u) us

variable (r : Request) (u : Use) (us : List Use)

/-! ## One use -/

theorem claimed_use : (r.use u).claimed = (r.claimed || u.claims) := by
  cases u with
  | opens | withdraws | forsakes =>
    cases claimed : r.claimed <;> simp [use, openBy, withdraw, forsake, Use.claims, claimed]
  | answers | abandons => cases reply : r.reply <;> simp [use, answer, abandon, Use.claims, reply]

/-- A use leaves what is to be published as it is. -/
theorem content_use : (r.use u).routingKey = r.routingKey ∧ (r.use u).message = r.message := by
  cases u with
  | opens | withdraws | forsakes =>
    cases claimed : r.claimed <;> simp [use, openBy, withdraw, forsake, claimed]
  | answers | abandons => cases reply : r.reply <;> simp [use, answer, abandon, reply]

/-- What the caller has got stays, and what it waits for comes with a use that settles the reply. -/
theorem outcome?_use : (r.use u).outcome? = r.outcome?.or u.reply? := by
  cases u with
  | opens | withdraws | forsakes =>
    cases claimed : r.claimed <;>
      simp [use, openBy, withdraw, forsake, outcome?, Use.reply?, claimed]
  | answers | abandons =>
    cases reply : r.reply <;> simp [use, answer, abandon, outcome?, Use.reply?, reply]

/-- Only a free claim is won. -/
theorem wins_eq : r.wins u = (!r.claimed && u.claims) := by
  rw [wins, claimed_use]
  cases r.claimed <;> rfl

theorem openBy_fst : r.openBy.1 = if r.claimed then none else some r.message := by
  unfold openBy
  split <;> rfl

/-- The message is handed over by an opening that wins the claim. -/
theorem handsOver?_eq :
    r.handsOver? u = if r.wins u && u.isOpening then some r.message else none := by
  rw [wins_eq]
  cases u with
  | opens =>
    rw [handsOver?, openBy_fst]
    cases r.claimed <;> rfl
  | answers | abandons | withdraws | forsakes => cases r.claimed <;> rfl

theorem withdraw_fst : r.withdraw.1 = !r.claimed := by
  unfold withdraw
  cases r.claimed <;> rfl

/-! ## Many uses -/

theorem claimed_uses : (r.uses us).claimed = (r.claimed || us.any Use.claims) := by
  induction us generalizing r with
  | nil => exact (Bool.or_false _).symm
  | cons u us ih =>
    have later : (r.uses (u :: us)).claimed = ((r.use u).claimed || us.any Use.claims) := ih (r.use u)
    rw [later, claimed_use, List.any_cons, Bool.or_assoc]

theorem content_uses : (r.uses us).routingKey = r.routingKey ∧ (r.uses us).message = r.message := by
  induction us generalizing r with
  | nil => exact ⟨rfl, rfl⟩
  | cons u us ih =>
    obtain ⟨routingKey, message⟩ := ih (r.use u)
    exact ⟨routingKey.trans (content_use r u).1, message.trans (content_use r u).2⟩

/-- The first use that settles the reply decides what the caller gets. -/
theorem outcome?_uses : (r.uses us).outcome? = r.outcome?.or (us.findSome? Use.reply?) := by
  induction us generalizing r with
  | nil => exact Option.or_none.symm
  | cons u us ih =>
    have later : (r.uses (u :: us)).outcome? = (r.use u).outcome?.or (us.findSome? Use.reply?) :=
      ih (r.use u)
    rw [later, outcome?_use, Option.or_assoc, List.findSome?_cons]
    cases u.reply? <;> rfl

/-- The message is handed over as often as opening wins the claim. -/
theorem handedOver_eq :
    r.handedOver us = ((r.winners us).filter Use.isOpening).map fun _ => r.message := by
  induction us generalizing r with
  | nil => rfl
  | cons u us ih =>
    rw [handedOver, winners, ih, handsOver?_eq, (content_use r u).2, List.filter_append, List.map_append]
    cases r.wins u <;> cases opening : u.isOpening <;> simp [opening]

variable {r}

/-- Nobody wins a claim that is taken. -/
theorem winners_of_claimed (taken : r.claimed = true) : r.winners us = [] := by
  induction us generalizing r with
  | nil => rfl
  | cons u us ih =>
    have still : (r.use u).claimed = true := by rw [claimed_use, taken, Bool.true_or]
    rw [winners, wins_eq, taken, ih still]
    rfl

/-- The first use that is after a free claim wins it. -/
theorem winners_of_free (free : r.claimed = false) :
    r.winners us = (us.find? Use.claims).toList := by
  induction us generalizing r with
  | nil => rfl
  | cons u us ih =>
    have next := claimed_use r u
    rw [free, Bool.false_or] at next
    rw [winners, wins_eq, free, List.find?_cons]
    -- the claim is taken from here on if the first use is after it, and as free as before if not
    cases after : u.claims with
    | true => rw [winners_of_claimed us (next.trans after)]; rfl
    | false => rw [ih (next.trans after)]; rfl

/-- The loop gets the message if opening is the first use that is after the claim. -/
theorem handedOver_of_free (free : r.claimed = false) :
    r.handedOver us = if (us.find? Use.claims).any Use.isOpening then [r.message] else [] := by
  rw [handedOver_eq, winners_of_free us free]
  cases us.find? Use.claims with
  | none => rfl
  | some u => cases opening : u.isOpening <;> simp [opening]

/-- Whatever is done with a request, in any order: the first use that opens it, takes it back or gives it up
wins the claim, and no other does. The loop is handed the message once if that use opens the request, and never
otherwise; from then on opening hands over nothing, and taking back is refused. What is to be published never
changes. The caller gets exactly what the first answer says, or learns of the interruption if the loop went
away before, and waits as long as neither happened. -/
theorem claim_has_one_winner (routingKey : String) (message : Message) (us : List Use) :
    let r : Request := { routingKey, message }
    r.winners us = (us.find? Use.claims).toList ∧
    (r.handedOver us = if (us.find? Use.claims).any Use.isOpening then [message] else []) ∧
    (∀ before : List Use,
      (∀ u, (r.uses before).wins u = true ↔ u.claims = true ∧ ∀ v ∈ before, v.claims = false) ∧
      (r.uses before).openBy.1 = (if before.any Use.claims then none else some message) ∧
      (r.uses before).withdraw.1 = !before.any Use.claims) ∧
    (r.uses us).routingKey = routingKey ∧ (r.uses us).message = message ∧
    (r.uses us).outcome? = us.findSome? Use.reply? := by
  intro r
  have claimed : ∀ before, (r.uses before).claimed = before.any Use.claims := claimed_uses r
  refine ⟨winners_of_free us rfl, handedOver_of_free us rfl, fun before => ⟨fun u => ?_, ?_, ?_⟩,
    (content_uses r us).1, (content_uses r us).2, outcome?_uses r us⟩
  · rw [wins_eq, claimed, Bool.and_eq_true, Bool.not_eq_true', List.any_eq_false, and_comm]
    simp only [Bool.not_eq_true]
  · rw [openBy_fst, claimed, (content_uses r before).2]
  · rw [withdraw_fst, claimed]

/-- The caller takes its request back before the loop opens it, twice, and goes away. -/
theorem withdrawn_request_stays_closed :
    let r : Request := { routingKey := "key", message := .ofBody [1] }
    let us := [.withdraws, .opens, .withdraws, .opens, .abandons]
    r.winners us = [.withdraws] ∧ r.handedOver us = [] ∧
      (r.uses [.withdraws]).openBy.1 = none ∧ (r.uses [.withdraws, .opens]).withdraw.1 = false ∧
      (r.uses us).outcome? = some (.error .interrupted) := by
  intro r us
  obtain ⟨winners, handed, each, -, -, outcome⟩ := claim_has_one_winner "key" (.ofBody [1]) us
  exact ⟨winners, handed, (each [.withdraws]).2.1, (each [.withdraws, .opens]).2.2, outcome⟩

end Request

end Relay.Publisher
