import PortalNat.Checksum
import PortalNat.Error
import PortalNat.Packet.Protocol

/-!
# UDP datagrams

The header of a UDP datagram. Its own length field bounds the datagram and may leave octets of the
IP payload over; `check` establishes that it fits.
-/

namespace PortalNat.UDP

def headerLength : Nat := 8

def sourcePort (segment : Octets) : UInt16 :=
  Octets.word segment 0

def destinationPort (segment : Octets) : UInt16 :=
  Octets.word segment 2

/-- The length of the datagram, header included. -/
def length (segment : Octets) : UInt16 :=
  Octets.word segment 4

def storedChecksum (segment : Octets) : UInt16 :=
  Octets.word segment 6

/-- Whether the length field covers the header and fits the IP payload. -/
def check (segment : Octets) : Except PacketError Unit :=
  if segment.length < headerLength then .error (.truncated .udp segment.length)
  else if (length segment).toNat < headerLength ∨ segment.length < (length segment).toNat then
    .error (.malformed .udp .lengthField)
  else .ok ()

/-- The header and payload, without what the IP payload holds beyond them. -/
def datagram (segment : Octets) : Octets :=
  segment.take (length segment).toNat

def payload (segment : Octets) : Octets :=
  (datagram segment).drop headerLength

/-- Whether the datagram is intact. Over IPv4 a stored zero means that no checksum was computed. -/
def checksumOk (source destination : Address) (segment : Octets) : Bool :=
  (source.family == .v4 && storedChecksum segment == 0)
    || Checksum.verifyTransport source destination Protocol.udp (datagram segment)

def setSourcePort (segment : Octets) (port : UInt16) : Octets :=
  Octets.setWord segment 0 port

def setDestinationPort (segment : Octets) (port : UInt16) : Octets :=
  Octets.setWord segment 2 port

def setLength (segment : Octets) (length : UInt16) : Octets :=
  Octets.setWord segment 4 length

/-- Zero says that there is no checksum, so a checksum that comes out as zero is stored as its
other spelling, all ones. -/
def nonzero (checksum : UInt16) : UInt16 :=
  if checksum = 0 then 0xffff else checksum

/-- Store the checksum for the given addresses. -/
def fillChecksum (source destination : Address) (segment : Octets) : Octets :=
  let cleared := Octets.setWord segment 6 0
  Octets.setWord cleared 6 <|
    nonzero (Checksum.transport source destination Protocol.udp (datagram cleared))

/-- A header whose checksum is still to be filled in. -/
def freshHeader (sourcePort destinationPort length : UInt16) : Octets :=
  Octets.ofWord sourcePort ++ Octets.ofWord destinationPort ++ Octets.ofWord length
    ++ Octets.ofWord 0

end PortalNat.UDP
