import PortalNat.Packet.Build
import PortalNat.Udp.ReadQueue

/-!
# Replies to datagrams

Two ways from a payload to a packet for the client. In push mode every datagram comes with a
template, a copy of the headers of the request that each reply fills in. In pull mode a reply is
built from its endpoints alone. Both write the same packets, apart from what a template takes over
from its request.
-/

namespace PortalNat

/-- The headers of a request, to be turned into replies. -/
structure ReplyTemplate where
  header : Octets
  client : Endpoint
  remote : Endpoint
deriving DecidableEq, Repr

namespace ReplyTemplate

/-- The length of an IP header without options. -/
def ipHeaderLength : Family → Nat
  | .v4 => IPv4.minimumLength
  | .v6 => IPv6.headerLength

/-- An IP header that begins a journey of its own, without options. -/
def renewed (family : Family) (header : Octets) : Octets :=
  match family with
  | .v4 => IPv4.setTimeToLive (Octets.setOctet header 0 0x45) Build.defaultHops
  | .v6 => IPv6.setHopLimit header Build.defaultHops

/-- The template for replies to a request. Options of the request are left out. -/
def ofRequest (request : Packet) (client remote : Endpoint) : ReplyTemplate where
  header :=
    renewed request.family <|
      request.header.take (ipHeaderLength request.family)
        ++ request.payload.take UDP.headerLength
  client
  remote

/-- The length that the IP header of a reply states. -/
def statedLength (family : Family) (payloadLength : Nat) : Nat :=
  match family with
  | .v4 => IPv4.minimumLength + UDP.headerLength + payloadLength
  | .v6 => UDP.headerLength + payloadLength

/-- Store the lengths of a reply in its headers. -/
def setLengths (family : Family) (buffer : Octets) (payloadLength : Nat) : Octets :=
  let stated := UInt16.ofNat (statedLength family payloadLength)
  let lengthened := match family with
    | .v4 => IPv4.setTotalLength buffer stated
    | .v6 => IPv6.setPayloadLength buffer stated
  Octets.setWord lengthened (ipHeaderLength family + 4)
    (UInt16.ofNat (UDP.headerLength + payloadLength))

/-- How a reply fails whose endpoints are not of the version of its template. -/
def refused (source client : Endpoint) : PacketError → NatError
  | .familyMismatch _ => .udp (.familyMismatch source client)
  | other => .packet other

/-- The reply with a payload from a source. -/
def build (template : ReplyTemplate) (payload : Octets) (source : Endpoint) :
    Except NatError Octets := do
  let family := template.client.family
  if 65535 < statedLength family payload.length then
    throw (.udp (.payloadTooLarge payload.length))
  let buffer := setLengths family (template.header ++ payload) payload.length
  let packet ← (Packet.parse buffer).mapError NatError.packet
  let reply ← (packet.rewriteEndpoints source template.client).mapError
    (refused source template.client)
  return reply.octets

end ReplyTemplate

/-- How a reply fails that cannot be built. -/
def unbuildable (payloadLength : Nat) : PacketError → NatError
  | .tooLarge _ => .udp (.payloadTooLarge payloadLength)
  | other => .packet other

/-- The reply with a payload from a source to a client, where both are meant in canonical form. -/
def buildReply (payload : Octets) (source client : Endpoint) : Except NatError Octets := do
  let source := source.canonical
  let client := client.canonical
  if source.family != client.family then
    throw (.udp (.familyMismatch source client))
  (Build.udp source client payload).mapError (unbuildable payload.length)

/-- The way back to the client of a datagram: a template, or the queue that the datagram was read
from. -/
inductive WriteBack where
  | template (given : ReplyTemplate)
  | queue (client remote : Endpoint)
deriving DecidableEq, Repr

namespace WriteBack

/-- The client that replies go to. -/
def client : WriteBack → Endpoint
  | .template given => given.client
  | .queue client _ => client

/-- Where the datagram was sent, which is where replies come from if nothing else is said. -/
def remote : WriteBack → Endpoint
  | .template given => given.remote
  | .queue _ remote => remote

/-- The packet for a reply, which may come from another source than the datagram was sent to. -/
def build (back : WriteBack) (queueClosed : Bool) (payload : Octets)
    (source? : Option Endpoint) : Except NatError Octets :=
  let source := (source?.getD back.remote).canonical
  match back with
  | .template given => given.build payload source
  | .queue client _ =>
    if queueClosed then .error (.udp .closed) else buildReply payload source client

/-- The way back as it is shown for diagnosis. -/
protected def toText (back : WriteBack) : String :=
  "UdpWriteBack \x7b client: " ++ back.client.toText ++ ", remote: " ++ back.remote.toText
    ++ " \x7d"

end WriteBack

end PortalNat
