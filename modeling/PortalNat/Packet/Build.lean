import PortalNat.Packet.Basic

/-!
# Built packets

Complete packets made from endpoints and a payload: the counterpart of reading. A packet can be
built when both addresses are of one version and the length fits the sixteen bits its header has
for it.
-/

namespace PortalNat.Build

/-- The hops that a built packet may take. -/
def defaultHops : UInt8 := 64

/-- A number that fits sixteen bits. -/
def sixteenBits (length : Nat) : Except PacketError UInt16 :=
  if length ≤ 65535 then .ok (UInt16.ofNat length) else .error (.tooLarge length)

/-- The IP header for a segment of the given length. -/
def ipHeader (source destination : Address) (protocol : UInt8) (segmentLength : Nat) :
    Except PacketError Octets :=
  match source, destination with
  | .v4 source, .v4 destination => do
    let total ← sixteenBits (IPv4.minimumLength + segmentLength)
    return IPv4.freshHeader source destination protocol total defaultHops
  | .v6 source, .v6 destination => do
    let length ← sixteenBits segmentLength
    return IPv6.freshHeader source destination protocol length defaultHops
  | _, other => .error (.familyMismatch other)

/-- A UDP datagram. -/
def udp (source destination : Endpoint) (payload : Octets) : Except PacketError Octets := do
  let length := UDP.headerLength + payload.length
  let header ← ipHeader source.address destination.address Protocol.udp length
  let stated ← sixteenBits length
  let segment := UDP.freshHeader source.port destination.port stated ++ payload
  return header ++ UDP.fillChecksum source.address destination.address segment

/-- A TCP segment without options that announces the largest window. -/
def tcp (source destination : Endpoint) (flags : UInt8)
    (sequenceNumber acknowledgementNumber : UInt32) (payload : Octets) :
    Except PacketError Octets := do
  let length := TCP.minimumLength + payload.length
  let header ← ipHeader source.address destination.address Protocol.tcp length
  let segment :=
    TCP.freshHeader source.port destination.port sequenceNumber acknowledgementNumber flags 0xffff
      ++ payload
  return header ++ TCP.fillChecksum source.address destination.address segment

/-- An echo request or reply, of the version of IP that its source is of. -/
def echo (source destination : Address) (request : Bool) (identifier sequence : UInt16)
    (data : Octets) : Except PacketError Octets := do
  let family := source.family
  let type := if request then ICMP.echoRequest family else ICMP.echoReply family
  let header ←
    ipHeader source destination (ICMP.protocol family) (ICMP.headerLength + data.length)
  let message := ICMP.freshHeader type identifier sequence ++ data
  return header ++ ICMP.fillChecksum family source destination message

end PortalNat.Build
