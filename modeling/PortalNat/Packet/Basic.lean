import PortalNat.Packet.ICMP
import PortalNat.Packet.IPv4
import PortalNat.Packet.IPv6
import PortalNat.Packet.TCP
import PortalNat.Packet.UDP

/-!
# Packets

A packet of either version of IP, read from a buffer that may be longer than the packet. A packet
is its header, its payload and what the buffer holds beyond them, and the payload can be replaced
without touching the rest. `Packet.rewriteEndpoints` is the heart of the translator: it gives a TCP
or UDP packet new endpoints and renews every checksum it carries.
-/

namespace PortalNat

/-- A buffer that holds a packet of the given version. -/
structure Packet where
  family : Family
  octets : Octets
deriving DecidableEq, Repr

namespace Packet

/-- Read a packet by its version number. -/
def parse (bytes : Octets) : Except PacketError Packet :=
  match bytes with
  | [] => .error (.truncated .ip 0)
  | first :: _ =>
    let version := first / 16
    if version = 4 then (IPv4.check bytes).map fun () => ⟨.v4, bytes⟩
    else if version = 6 then (IPv6.check bytes).map fun () => ⟨.v6, bytes⟩
    else .error (.unsupportedVersion version)

/-- The transport protocol. -/
def protocol (packet : Packet) : UInt8 :=
  match packet.family with
  | .v4 => IPv4.protocol packet.octets
  | .v6 => IPv6.nextHeader packet.octets

def source (packet : Packet) : Address :=
  match packet.family with
  | .v4 => .v4 (IPv4.source packet.octets)
  | .v6 => .v6 (IPv6.source packet.octets)

def destination (packet : Packet) : Address :=
  match packet.family with
  | .v4 => .v4 (IPv4.destination packet.octets)
  | .v6 => .v6 (IPv6.destination packet.octets)

/-- Whether the packet is a fragment. The fragments of IPv6 have an extension header instead and
count as packets of an unknown protocol. -/
def isFragment (packet : Packet) : Bool :=
  match packet.family with
  | .v4 => IPv4.isFragment packet.octets
  | .v6 => false

def headerLength (packet : Packet) : Nat :=
  match packet.family with
  | .v4 => IPv4.headerLength packet.octets
  | .v6 => IPv6.headerLength

def header (packet : Packet) : Octets :=
  match packet.family with
  | .v4 => IPv4.header packet.octets
  | .v6 => IPv6.header packet.octets

def payload (packet : Packet) : Octets :=
  match packet.family with
  | .v4 => IPv4.payload packet.octets
  | .v6 => IPv6.payload packet.octets

/-- What the buffer holds beyond the packet. -/
def trailer (packet : Packet) : Octets :=
  match packet.family with
  | .v4 => IPv4.trailer packet.octets
  | .v6 => IPv6.trailer packet.octets

/-- The packet up to its declared length. -/
def declared (packet : Packet) : Octets :=
  match packet.family with
  | .v4 => IPv4.packet packet.octets
  | .v6 => IPv6.packet packet.octets

/-- Replace the payload by one of the same length. -/
def withPayload (packet : Packet) (payload : Octets) : Packet :=
  { packet with octets := packet.header ++ payload ++ packet.trailer }

def setSource (packet : Packet) (address : Address) : Except PacketError Packet :=
  match packet.family, address with
  | .v4, .v4 address => .ok { packet with octets := IPv4.setSource packet.octets address }
  | .v6, .v6 address => .ok { packet with octets := IPv6.setSource packet.octets address }
  | _, other => .error (.familyMismatch other)

def setDestination (packet : Packet) (address : Address) : Except PacketError Packet :=
  match packet.family, address with
  | .v4, .v4 address => .ok { packet with octets := IPv4.setDestination packet.octets address }
  | .v6, .v6 address => .ok { packet with octets := IPv6.setDestination packet.octets address }
  | _, other => .error (.familyMismatch other)

/-- Exchange source and destination. -/
def swapAddresses (packet : Packet) : Packet :=
  match packet.family with
  | .v4 =>
    let moved := IPv4.setSource packet.octets (IPv4.destination packet.octets)
    { packet with octets := IPv4.setDestination moved (IPv4.source packet.octets) }
  | .v6 =>
    let moved := IPv6.setSource packet.octets (IPv6.destination packet.octets)
    { packet with octets := IPv6.setDestination moved (IPv6.source packet.octets) }

/-- Set the number of hops the packet may still take. -/
def setHops (packet : Packet) (hops : UInt8) : Packet :=
  match packet.family with
  | .v4 => { packet with octets := IPv4.setTimeToLive packet.octets hops }
  | .v6 => { packet with octets := IPv6.setHopLimit packet.octets hops }

/-- Renew the checksum of the header; an IPv6 header has none. -/
def fillChecksum (packet : Packet) : Packet :=
  match packet.family with
  | .v4 => { packet with octets := IPv4.fillChecksum packet.octets }
  | .v6 => packet

/-- The first of some addresses that is not of the given version. -/
def mismatch? (family : Family) (addresses : List Address) : Option Address :=
  addresses.find? (·.family != family)

/-- Whether the payload is well formed for a protocol that has ports. -/
def checkPorts (protocol : UInt8) (payload : Octets) : Except PacketError Unit :=
  if protocol = Protocol.tcp then TCP.check payload
  else if protocol = Protocol.udp then UDP.check payload
  else .error (.malformed .ip .noPorts)

/-- Give a TCP segment or a UDP datagram new ports and renew its checksum. -/
def rewritePorts (protocol : UInt8) (source destination : Endpoint) (payload : Octets) : Octets :=
  if protocol = Protocol.tcp then
    TCP.fillChecksum source.address destination.address
      (TCP.setDestinationPort (TCP.setSourcePort payload source.port) destination.port)
  else
    UDP.fillChecksum source.address destination.address
      (UDP.setDestinationPort (UDP.setSourcePort payload source.port) destination.port)

/-- Give a TCP or UDP packet new endpoints and renew every checksum it carries. Everything that
can fail is checked first, so that nothing is ever half rewritten. -/
def rewriteEndpoints (packet : Packet) (source destination : Endpoint) :
    Except PacketError Packet := do
  if let some address := mismatch? packet.family [source.address, destination.address] then
    throw (.familyMismatch address)
  checkPorts packet.protocol packet.payload
  let moved ← packet.setSource source.address
  let moved ← moved.setDestination destination.address
  let payload := rewritePorts packet.protocol source destination moved.payload
  return (moved.withPayload payload).fillChecksum

/-- Whether every checksum that a packet of a known protocol carries is right. -/
def transportIntact (packet : Packet) : Bool :=
  let protocol := packet.protocol
  let payload := packet.payload
  let whole (check : Except PacketError Unit) : Bool := check.toOption.isSome
  if protocol = Protocol.tcp then
    whole (TCP.check payload) && TCP.checksumOk packet.source packet.destination payload
  else if protocol = Protocol.udp then
    whole (UDP.check payload) && UDP.checksumOk packet.source packet.destination payload
  else if protocol = Protocol.icmp then whole (ICMP.check payload) && ICMP.checksumOkV4 payload
  else if protocol = Protocol.icmpV6 then
    whole (ICMP.check payload) && ICMP.checksumOkV6 packet.source packet.destination payload
  else true

/-- Whether the header carries a right checksum or none. -/
def headerIntact (packet : Packet) : Bool :=
  match packet.family with
  | .v4 => IPv4.checksumOk packet.octets
  | .v6 => true

end Packet

/-- Whether a buffer holds a packet all of whose checksums are right. -/
def checksumsValid (bytes : Octets) : Bool :=
  match Packet.parse bytes with
  | .ok packet => packet.headerIntact && packet.transportIntact
  | .error _ => false

end PortalNat
