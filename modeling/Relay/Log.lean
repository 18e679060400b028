import Relay.Broker.Basic
import Relay.Publisher.Note

/-!
# Log lines

What the broker and the publishers note becomes lines with a level, a message and named fields.
-/

namespace Relay

open Broker (Exception)

/-- How much a line matters. -/
inductive Level where
  | debug
  | info
  | warn
  deriving DecidableEq, Repr

/-- The name of a level. -/
def Level.name : Level → String
  | debug => "DEBUG"
  | info => "INFO"
  | warn => "WARN"

/-- A note of the broker or of a publisher. -/
inductive Note where
  | broker (note : Broker.Note)
  | publisher (publisher : Nat) (note : Publisher.Note)
  deriving DecidableEq, Repr

namespace Log

/-- A log line; the fields are in no particular order. -/
structure Line where
  level : Level
  message : String
  fields : List (String × String) := []
  deriving DecidableEq, Repr

/-- The field of an exception. -/
def errorField (e : Exception) : String × String := ("error", e.message)

/-- A field of a number. -/
def numberField (name : String) (n : Nat) : String × String := (name, toString n)

/-- The line of a broker's note. -/
def ofBroker : Broker.Note → Line
  | .opened n => ⟨.debug, "opened channel", [numberField "channel" n]⟩
  | .disconnected n e =>
    ⟨.info, "broker disconnected", [numberField "channels" n, errorField e]⟩
  | .restored => ⟨.info, "broker restored", []⟩
  | .terminated n (some e) =>
    ⟨.warn, "channel terminated", [numberField "channel" n, errorField e]⟩
  | .terminated n none => ⟨.debug, "channel terminated", [numberField "channel" n]⟩
  | .closed n => ⟨.debug, "channel closed", [numberField "channel" n]⟩
  | .closing n e => ⟨.warn, "closing channel", [numberField "channel" n, errorField e]⟩
  | .sinkFull tag =>
    ⟨.warn, "confirmation sink full, dropping confirmation", [numberField "delivery_tag" tag]⟩

/-- The line of a publisher's note, without the publisher. -/
def ofPublisher : Publisher.Note → Line
  | .cancelled exchange => ⟨.info, "publisher cancelled", [("exchange", exchange)]⟩
  | .strandedAnswered count =>
    ⟨.debug, "answered stranded requests", [numberField "drained" count]⟩
  | .overtaken => ⟨.debug, "publisher cancelled while waiting for a channel", []⟩
  | .secondLoopRefused => ⟨.warn, "serving loop already attached, refusing channel", []⟩
  | .refusedDead => ⟨.debug, "publisher is dead, refusing channel", []⟩
  | .refusedNotClosed e => ⟨.debug, "failed to close refused channel", [errorField e]⟩
  | .confirmModeRefused e => ⟨.warn, "channel refused confirm mode", [errorField e]⟩
  | .attached exchange => ⟨.debug, "serving loop attached", [("exchange", exchange)]⟩
  | .notClosed e => ⟨.debug, "failed to close channel", [errorField e]⟩
  | .stopped => ⟨.info, "serving loop stopped", []⟩
  | .channelFailed e => ⟨.warn, "channel closed with error", [errorField e]⟩
  | .channelClosed => ⟨.debug, "channel closed", []⟩
  | .requestWithdrawn => ⟨.debug, "caller withdrew its request", []⟩
  | .rejected key e => ⟨.debug, "publish rejected", [("routing_key", key), errorField e]⟩

/-- The line of a note and the publisher that it is about, if it is about one. -/
def line : Note → Option Nat × Line
  | .broker n => (none, ofBroker n)
  | .publisher p n => (some p, ofPublisher n)

end Log

end Relay
