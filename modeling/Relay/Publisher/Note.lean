import Relay.Broker.Exception

/-!
# What a publisher writes to its log
-/

namespace Relay.Publisher

open Broker (Exception)

/-- An entry of a publisher's log. -/
inductive Note where
  | cancelled (exchange : String)
  /-- So many waiting requests were answered by the cancellation. -/
  | strandedAnswered (count : Nat)
  /-- A cancellation overtook a call that was about to wait. -/
  | overtaken
  | secondLoopRefused
  | refusedDead
  | refusedNotClosed (error : Exception)
  | confirmModeRefused (error : Exception)
  | attached (exchange : String)
  | notClosed (error : Exception)
  | stopped
  | channelFailed (error : Exception)
  | channelClosed
  | requestWithdrawn
  | rejected (routingKey : String) (error : Exception)
  deriving DecidableEq, Repr

end Relay.Publisher
