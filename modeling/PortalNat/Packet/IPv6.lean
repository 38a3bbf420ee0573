import PortalNat.Checksum
import PortalNat.Error

/-!
# IPv6 headers

The fixed header of an IPv6 packet. The next-header field is taken for the transport protocol, so
a packet with extension headers counts as one of an unknown protocol. As for IPv4, `check` comes
before all else.
-/

namespace PortalNat.IPv6

/-- The length of the fixed header. -/
def headerLength : Nat := 40

def version (bytes : Octets) : UInt8 :=
  Octets.octet bytes 0 / 16

def payloadLength (bytes : Octets) : UInt16 :=
  Octets.word bytes 4

def nextHeader (bytes : Octets) : UInt8 :=
  Octets.octet bytes 6

def hopLimit (bytes : Octets) : UInt8 :=
  Octets.octet bytes 7

def source (bytes : Octets) : V6 :=
  V6.read bytes 8

def destination (bytes : Octets) : V6 :=
  V6.read bytes 24

/-- The length of the packet, header included. -/
def totalLength (bytes : Octets) : Nat :=
  headerLength + (payloadLength bytes).toNat

/-- Whether a buffer holds an IPv6 packet whose payload length agrees with it. -/
def check (bytes : Octets) : Except PacketError Unit :=
  if bytes.length < headerLength then .error (.truncated .ipv6 bytes.length)
  else if version bytes ≠ 6 then .error (.unsupportedVersion (version bytes))
  else if bytes.length < totalLength bytes then .error (.truncated .ipv6 bytes.length)
  else .ok ()

def header (bytes : Octets) : Octets :=
  bytes.take headerLength

def payload (bytes : Octets) : Octets :=
  (bytes.take (totalLength bytes)).drop headerLength

/-- The packet without what the buffer holds beyond its length. -/
def packet (bytes : Octets) : Octets :=
  bytes.take (totalLength bytes)

/-- What the buffer holds beyond the packet. -/
def trailer (bytes : Octets) : Octets :=
  bytes.drop (totalLength bytes)

def setPayloadLength (bytes : Octets) (length : UInt16) : Octets :=
  Octets.setWord bytes 4 length

def setHopLimit (bytes : Octets) (hops : UInt8) : Octets :=
  Octets.setOctet bytes 7 hops

def setSource (bytes : Octets) (address : V6) : Octets :=
  Octets.overwrite bytes 8 address.octets

def setDestination (bytes : Octets) (address : V6) : Octets :=
  Octets.overwrite bytes 24 address.octets

/-- A header without traffic class or flow label. -/
def freshHeader (source destination : V6) (nextHeader : UInt8) (payloadLength : UInt16)
    (hopLimit : UInt8) : Octets :=
  [0x60, 0, 0, 0] ++ Octets.ofWord payloadLength ++ [nextHeader, hopLimit] ++ source.octets
    ++ destination.octets

end PortalNat.IPv6
