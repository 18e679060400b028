import Relay.Publisher.Failure
import Relay.Message.Basic

/-!
# Requests

A publish call hands its message to a serving loop in a request. Two parties may end it: the loop by
opening it, the caller by withdrawing it. Whoever claims the request first decides; the claim is
never given back. A request that was opened is answered once, or abandoned with its loop.
-/

namespace Relay.Publisher

/-- What a call learns from the loop. -/
inductive Reply where
  | awaited
  | answered (result : Except Failure Unit)
  /-- The loop went away without an answer. -/
  | abandoned

/-- A message on its way from a caller to a loop. -/
structure Request where
  routingKey : String
  message : Message
  /-- Whether the loop or the caller has decided about the request. -/
  claimed : Bool := false
  reply : Reply := .awaited

namespace Request

/-- The loop opens the request: it has the message if the claim is still free. -/
def openBy (r : Request) : Option Message × Request :=
  if r.claimed then (none, r) else (some r.message, { r with claimed := true })

/-- The caller takes the request back: true if the claim is still free. -/
def withdraw (r : Request) : Bool × Request :=
  if r.claimed then (false, r) else (true, { r with claimed := true })

/-- The caller goes away, which withdraws a request that nobody claimed. -/
def forsake (r : Request) : Request := r.withdraw.2

/-- The loop answers; only the first answer counts. -/
def answer (r : Request) (result : Except Failure Unit) : Request :=
  match r.reply with
  | .awaited => { r with reply := .answered result }
  | _ => r

/-- The loop goes away, which abandons a request that it has not answered. -/
def abandon (r : Request) : Request :=
  match r.reply with
  | .awaited => { r with reply := .abandoned }
  | _ => r

/-- What the waiting caller gets, once there is something. -/
def outcome? (r : Request) : Option (Except Failure Unit) :=
  match r.reply with
  | .awaited => none
  | .answered result => some result
  | .abandoned => some (.error .interrupted)

end Request

end Relay.Publisher
