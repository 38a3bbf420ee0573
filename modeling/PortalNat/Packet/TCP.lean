import PortalNat.Checksum
import PortalNat.Error
import PortalNat.Packet.Protocol

/-!
# TCP segments

The header of a TCP segment. A segment is the whole payload of its IP packet; `check` establishes
that the header, options included, fits it.
-/

namespace PortalNat.TCP

/-- The length of a header without options. -/
def minimumLength : Nat := 20

def finBit : UInt8 := 0x01

def synBit : UInt8 := 0x02

def rstBit : UInt8 := 0x04

def ackBit : UInt8 := 0x10

def sourcePort (segment : Octets) : UInt16 :=
  Octets.word segment 0

def destinationPort (segment : Octets) : UInt16 :=
  Octets.word segment 2

def sequenceNumber (segment : Octets) : UInt32 :=
  Octets.doubleWord segment 4

def acknowledgementNumber (segment : Octets) : UInt32 :=
  Octets.doubleWord segment 8

/-- The length of the header, options included. -/
def headerLength (segment : Octets) : Nat :=
  (Octets.octet segment 12 / 16).toNat * 4

def flags (segment : Octets) : UInt8 :=
  Octets.octet segment 13

def hasFin (segment : Octets) : Bool :=
  flags segment &&& finBit != 0

def hasSyn (segment : Octets) : Bool :=
  flags segment &&& synBit != 0

def hasRst (segment : Octets) : Bool :=
  flags segment &&& rstBit != 0

def hasAck (segment : Octets) : Bool :=
  flags segment &&& ackBit != 0

/-- Whether the segment asks for a new connection: SYN without ACK. -/
def isConnectionRequest (segment : Octets) : Bool :=
  hasSyn segment && !hasAck segment

def window (segment : Octets) : UInt16 :=
  Octets.word segment 14

def storedChecksum (segment : Octets) : UInt16 :=
  Octets.word segment 16

/-- Whether a segment is long enough for its header. -/
def check (segment : Octets) : Except PacketError Unit :=
  if segment.length < minimumLength then .error (.truncated .tcp segment.length)
  else if headerLength segment < minimumLength ∨ segment.length < headerLength segment then
    .error (.malformed .tcp .dataOffset)
  else .ok ()

def payload (segment : Octets) : Octets :=
  segment.drop (headerLength segment)

def checksumOk (source destination : Address) (segment : Octets) : Bool :=
  Checksum.verifyTransport source destination Protocol.tcp segment

def setSourcePort (segment : Octets) (port : UInt16) : Octets :=
  Octets.setWord segment 0 port

def setDestinationPort (segment : Octets) (port : UInt16) : Octets :=
  Octets.setWord segment 2 port

/-- Store the checksum for the given addresses. -/
def fillChecksum (source destination : Address) (segment : Octets) : Octets :=
  let cleared := Octets.setWord segment 16 0
  Octets.setWord cleared 16 (Checksum.transport source destination Protocol.tcp cleared)

/-- A header without options whose checksum is still to be filled in. -/
def freshHeader (sourcePort destinationPort : UInt16)
    (sequenceNumber acknowledgementNumber : UInt32) (flags : UInt8) (window : UInt16) : Octets :=
  Octets.ofWord sourcePort ++ Octets.ofWord destinationPort ++ Octets.ofDoubleWord sequenceNumber
    ++ Octets.ofDoubleWord acknowledgementNumber ++ [0x50, flags] ++ Octets.ofWord window
    ++ Octets.ofWord 0 ++ Octets.ofWord 0

end PortalNat.TCP
