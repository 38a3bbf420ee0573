import PortalNat.Checksum
import PortalNat.Error

/-!
# IPv4 headers

The header of an IPv4 packet: when a buffer holds one, what its fields say, and how they are
changed. `check` establishes that the header, options included, and the total length fit the
buffer; every other function is meant for a buffer that passed it.
-/

namespace PortalNat.IPv4

/-- The length of a header without options. -/
def minimumLength : Nat := 20

def version (bytes : Octets) : UInt8 :=
  Octets.octet bytes 0 / 16

/-- The length of the header, options included. -/
def headerLength (bytes : Octets) : Nat :=
  (Octets.octet bytes 0 % 16).toNat * 4

def typeOfService (bytes : Octets) : UInt8 :=
  Octets.octet bytes 1

/-- The length of the packet, header included. -/
def totalLength (bytes : Octets) : UInt16 :=
  Octets.word bytes 2

def identification (bytes : Octets) : UInt16 :=
  Octets.word bytes 4

def dontFragment (bytes : Octets) : Bool :=
  Octets.word bytes 6 &&& 0x4000 != 0

def moreFragments (bytes : Octets) : Bool :=
  Octets.word bytes 6 &&& 0x2000 != 0

/-- The place of a fragment in its packet, in units of eight octets. -/
def fragmentOffset (bytes : Octets) : UInt16 :=
  Octets.word bytes 6 &&& 0x1fff

/-- Whether the packet is a piece of a fragmented one, the first piece included. -/
def isFragment (bytes : Octets) : Bool :=
  moreFragments bytes || fragmentOffset bytes != 0

def timeToLive (bytes : Octets) : UInt8 :=
  Octets.octet bytes 8

def protocol (bytes : Octets) : UInt8 :=
  Octets.octet bytes 9

def headerChecksum (bytes : Octets) : UInt16 :=
  Octets.word bytes 10

def source (bytes : Octets) : V4 :=
  V4.read bytes 12

def destination (bytes : Octets) : V4 :=
  V4.read bytes 16

/-- Whether a buffer holds an IPv4 packet whose lengths agree with it. -/
def check (bytes : Octets) : Except PacketError Unit :=
  if bytes.length < minimumLength then .error (.truncated .ipv4 bytes.length)
  else if version bytes ≠ 4 then .error (.unsupportedVersion (version bytes))
  else if headerLength bytes < minimumLength then .error (.malformed .ipv4 .headerBelowMinimum)
  else if (totalLength bytes).toNat < headerLength bytes then
    .error (.malformed .ipv4 .totalBelowHeader)
  else if bytes.length < (totalLength bytes).toNat then .error (.truncated .ipv4 bytes.length)
  else .ok ()

def header (bytes : Octets) : Octets :=
  bytes.take (headerLength bytes)

/-- The octets between the header and the total length. -/
def payload (bytes : Octets) : Octets :=
  (bytes.take (totalLength bytes).toNat).drop (headerLength bytes)

/-- The packet without what the buffer holds beyond its total length. -/
def packet (bytes : Octets) : Octets :=
  bytes.take (totalLength bytes).toNat

/-- What the buffer holds beyond the total length. -/
def trailer (bytes : Octets) : Octets :=
  bytes.drop (totalLength bytes).toNat

def checksumOk (bytes : Octets) : Bool :=
  Checksum.verify 0 (header bytes)

def setTotalLength (bytes : Octets) (length : UInt16) : Octets :=
  Octets.setWord bytes 2 length

def setTimeToLive (bytes : Octets) (hops : UInt8) : Octets :=
  Octets.setOctet bytes 8 hops

def setSource (bytes : Octets) (address : V4) : Octets :=
  Octets.overwrite bytes 12 address.octets

def setDestination (bytes : Octets) (address : V4) : Octets :=
  Octets.overwrite bytes 16 address.octets

/-- Store the checksum of the header. -/
def fillChecksum (bytes : Octets) : Octets :=
  let cleared := Octets.setWord bytes 10 0
  Octets.setWord cleared 10 (Checksum.checksum 0 (cleared.take (headerLength bytes)))

/-- A header without options that forbids fragmentation and carries its checksum. -/
def freshHeader (source destination : V4) (protocol : UInt8) (totalLength : UInt16)
    (timeToLive : UInt8) : Octets :=
  fillChecksum <|
    [0x45, 0] ++ Octets.ofWord totalLength ++ Octets.ofWord 0 ++ Octets.ofWord 0x4000
      ++ [timeToLive, protocol] ++ Octets.ofWord 0 ++ source.octets ++ destination.octets

end PortalNat.IPv4
