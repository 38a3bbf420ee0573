import PortalNat.Direct
import PortalNat.Flow.Schedule
import PortalNat.Main
import PortalNat.Proofs.Session.Bijection
import PortalNat.Proofs.Session.Lifecycle
import PortalNat.Proofs.Session.Lease
import PortalNat.Proofs.Session.Handshake
import PortalNat.Proofs.Checksum
import PortalNat.Proofs.Packet.Filling
import PortalNat.Proofs.Packet.Segment
import PortalNat.Proofs.Packet.Shape
import PortalNat.Proofs.Packet.Readdress
import PortalNat.Proofs.Packet.Echo
import PortalNat.Proofs.Packet.InPlace
import PortalNat.Proofs.Packet.Congruence
import PortalNat.Proofs.Packet.Mended
import PortalNat.Proofs.Engine.History
import PortalNat.Proofs.Redirection.Route
import PortalNat.Proofs.Redirection.Judgement
import PortalNat.Proofs.Redirection.Service
import PortalNat.Proofs.Redirection.Traffic
import PortalNat.Proofs.Redirection.InPlace
import PortalNat.Proofs.Redirection.Separation
import PortalNat.Proofs.Redirection.Scope
import PortalNat.Proofs.Datagram.Framed
import PortalNat.Proofs.Datagram.Template
import PortalNat.Proofs.Datagram.Dispatch
import PortalNat.Proofs.Datagram.Reply
import PortalNat.Proofs.Datagram.Built
import PortalNat.Proofs.Datagram.Agreement
import PortalNat.Proofs.Engine.Corruption
import PortalNat.Proofs.Guarded.Basic
import PortalNat.Proofs.Guarded.Views
import PortalNat.Proofs.Guarded.Rewrite
import PortalNat.Proofs.Guarded.Redirection
import PortalNat.Proofs.Guarded.Replies
import PortalNat.Proofs.Guarded.Pump
import PortalNat.Proofs.Flow.SingleFlight
import PortalNat.Proofs.Reads.Law
import PortalNat.Proofs.Reads.Tidiness
import PortalNat.Proofs.Engine.Modes
import PortalNat.Proofs.Acceptance.Recovery
import PortalNat.Proofs.Redirection.Readback
import PortalNat.Proofs.Acceptance.Loss
import PortalNat.Proofs.Engine.Verdicts
import PortalNat.Proofs.Acceptance.Run
import PortalNat.Proofs.Engine.Books
import PortalNat.Proofs.Engine.Balance
import PortalNat.Proofs.Acceptance.Screening
import PortalNat.Proofs.Redirection.Exactness
import PortalNat.Proofs.Engine.Consumption
import PortalNat.Proofs.Engine.Closing
import PortalNat.Proofs.Session.Allocation
import PortalNat.Proofs.Checksum.OnesComplement
import PortalNat.Proofs.Checksum.Piecewise
import PortalNat.Proofs.Packet.Carried
import PortalNat.Proofs.Packet.Altered
import PortalNat.Proofs.Build.Header
import PortalNat.Proofs.Build.RoundTrip
import PortalNat.Proofs.Guarded.Sums
import PortalNat.Proofs.Session.Rotation
import PortalNat.Proofs.Session.Transitions
import PortalNat.Proofs.Session.Numbering
import PortalNat.Proofs.Redirection.Answering
import PortalNat.Proofs.Packet.Padding
import PortalNat.Proofs.Engine.Truncation
import PortalNat.Proofs.Flow.Desertion
import PortalNat.Proofs.Config.Rules
import PortalNat.Proofs.Config.Overriding
import PortalNat.Proofs.Device.Run
import PortalNat.Proofs.Device.Delivery
import PortalNat.Proofs.Device.Shutdown
