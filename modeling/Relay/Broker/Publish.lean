import Relay.Broker.Connection
import Relay.Broker.Confirm

/-!
# Publishing on a channel

A publish meets, in this order, a closed channel, a rejection that was ordered, and an exchange that
nobody declared. The last one is noticed only after the call: it succeeds, and the channel closes.
Otherwise the message is recorded and, in confirm mode, confirmed.
-/

namespace Relay.Broker

/-- Records a message and answers it, negatively while a nack is pending. -/
def accept (b : Broker) (c : Nat) (delivery : Delivery) : Outcome Unit :=
  let b := { b with published := b.published ++ [delivery] }
  if b.nacks = 0 then b.confirm c true else { b with nacks := b.nacks - 1 }.confirm c false

/-- Publishes a message. The answer names the delivery if the broker accepted one. -/
def publish (b : Broker) (c : Nat) (exchange routingKey : String) (options : PublishOptions)
    (message : Message) : Outcome (Except Exception (Option Delivery)) :=
  if b.isLive c then
    match b.rejections with
    | error :: later => { value := .error error, broker := { b with rejections := later } }
    | [] =>
      if b.hasExchange exchange then
        let delivery := ⟨b.numberOf c, exchange, routingKey, options, message⟩
        let accepted := b.accept c delivery
        { accepted with value := .ok (some delivery) }
      else
        let error := Exception.unknownExchange exchange
        { value := .ok none
          broker := b.shut c (some error)
          notes := [.closing (b.numberOf c) error] }
  else { value := .error .channelClosed, broker := b }

end Relay.Broker
