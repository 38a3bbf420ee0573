import PortalNat.Packet.Basic
import PortalNat.Session.Table

/-!
# Redirection

TCP is translated by bouncing it off the host's own stack. A segment of a client is readdressed to
come from a port of the portal and to go to the stub listener on the gateway, so that the host
answers it. What the listener sends to that port is readdressed to come from where the client meant
it to go, and goes back to the client.
-/

namespace PortalNat

/-- The addresses that redirected segments travel between. -/
structure Portal where
  portalV4 : V4
  gatewayV4 : V4
  portalV6 : V6
  gatewayV6 : V6
  ipv6Enabled : Bool
deriving DecidableEq, Repr

namespace Portal

/-- The portal of a version of IP. -/
def address (portal : Portal) : Family → Address
  | .v4 => .v4 portal.portalV4
  | .v6 => .v6 portal.portalV6

/-- The gateway of a version of IP. -/
def gateway (portal : Portal) : Family → Address
  | .v4 => .v4 portal.gatewayV4
  | .v6 => .v6 portal.gatewayV6

/-- Whether segments of a version of IP are redirected. -/
def enabled (portal : Portal) : Family → Bool
  | .v4 => true
  | .v6 => portal.ipv6Enabled

end Portal

/-- Which way a readdressed segment travels: from a client to the listener, or from the listener to
a client. -/
inductive Direction where
  | outbound
  | reply
deriving DecidableEq, Repr

/-- The portal with the port of the stub listener on the gateway. -/
structure Redirector where
  portal : Portal
  listenerPort : UInt16
deriving DecidableEq, Repr

namespace Redirector

/-- The endpoint of the stub listener, for a version of IP. -/
def listener (redirector : Redirector) (family : Family) : Endpoint :=
  Endpoint.of (redirector.portal.gateway family) redirector.listenerPort

/-- Readdress a segment to the portal, which has to come from the listener and to name a session by
its port. -/
def restore (redirector : Redirector) (table : SessionTable) (packet : Packet)
    (source : Endpoint) (port : UInt16) (now : Nat) :
    Except NatError (Direction × Packet) × SessionTable :=
  if source ≠ redirector.listener packet.family then (.error (.session (.stray source)), table)
  else
    match table.tupleOf port now with
    | (none, table) => (.error (.session (.unknownPort port)), table)
    | (some tuple, table) =>
      let restored := packet.rewriteEndpoints tuple.destination tuple.source
      ((restored.map fun packet => (.reply, packet)).mapError .packet, table)

/-- The session port of a flow. Only a connection request gets a new one, and none does once the
listener is lost. -/
def portFor (table : SessionTable) (tuple : Tuple) (request stopped : Bool) (now : Nat) :
    Except NatError UInt16 × SessionTable :=
  match table.portOf tuple now with
  | (some port, table) => (.ok port, table)
  | (none, table) =>
    if !request then (.error (.session (.noSession tuple.toText)), table)
    else if stopped then (.error (.listener .stopped), table)
    else
      let (port, table) := table.newSession tuple now
      (port.mapError .session, table)

/-- Readdress a segment of a client to the listener. -/
def forward (redirector : Redirector) (table : SessionTable) (stopped : Bool) (packet : Packet)
    (tuple : Tuple) (now : Nat) : Except NatError (Direction × Packet) × SessionTable :=
  match portFor table tuple (TCP.isConnectionRequest packet.payload) stopped now with
  | (.error error, table) => (.error error, table)
  | (.ok port, table) =>
    let portal := Endpoint.of (redirector.portal.address packet.family) port
    let forwarded := packet.rewriteEndpoints portal (redirector.listener packet.family)
    ((forwarded.map fun packet => (.outbound, packet)).mapError .packet, table)

/-- Readdress a segment, whichever way it travels. -/
def redirect (redirector : Redirector) (table : SessionTable) (stopped : Bool) (packet : Packet)
    (now : Nat) : Except NatError (Direction × Packet) × SessionTable :=
  let segment := packet.payload
  match TCP.check segment with
  | .error error => (.error (.packet error), table)
  | .ok () =>
    let source := Endpoint.of packet.source (TCP.sourcePort segment)
    let destination := Endpoint.of packet.destination (TCP.destinationPort segment)
    if !redirector.portal.enabled packet.family then (.error (.session .ipv6Disabled), table)
    else if destination.address = redirector.portal.address packet.family then
      redirector.restore table packet source destination.port now
    else redirector.forward table stopped packet (Tuple.of source destination) now

end Redirector

end PortalNat
