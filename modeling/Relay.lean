import Relay.Service.View
import Relay.Message.Encode
import Relay.Message.Decode
import Relay.Proofs.Confirmations
import Relay.Proofs.Deliveries
import Relay.Proofs.Guard
import Relay.Proofs.Influence
import Relay.Proofs.Listening
import Relay.Proofs.Nacks
import Relay.Proofs.RoundTrip
import Relay.Proofs.Retirement
import Relay.Proofs.Announcements
import Relay.Proofs.Receipts
import Relay.Proofs.Rounds
import Relay.Proofs.Objects
import Relay.Proofs.Claiming
import Relay.Proofs.Numbering
import Relay.Proofs.Wording
import Relay.Proofs.Positions
