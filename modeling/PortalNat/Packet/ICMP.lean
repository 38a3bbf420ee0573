import PortalNat.Checksum
import PortalNat.Error
import PortalNat.Packet.Protocol

/-!
# ICMP echo messages

The echo messages of ICMP and ICMPv6 have one layout: type, code, checksum, identifier, sequence
number and data. They differ in the type numbers and in what the checksum covers.
-/

namespace PortalNat.ICMP

def headerLength : Nat := 8

/-- The message type of an echo request. -/
def echoRequest : Family → UInt8
  | .v4 => 8
  | .v6 => 128

/-- The message type of an echo reply. -/
def echoReply : Family → UInt8
  | .v4 => 0
  | .v6 => 129

/-- The protocol that carries the messages of a version of IP. -/
def protocol : Family → UInt8
  | .v4 => Protocol.icmp
  | .v6 => Protocol.icmpV6

def messageType (message : Octets) : UInt8 :=
  Octets.octet message 0

def code (message : Octets) : UInt8 :=
  Octets.octet message 1

def storedChecksum (message : Octets) : UInt16 :=
  Octets.word message 2

def identifier (message : Octets) : UInt16 :=
  Octets.word message 4

def sequence (message : Octets) : UInt16 :=
  Octets.word message 6

def data (message : Octets) : Octets :=
  message.drop headerLength

/-- Whether a message is long enough for an echo header. -/
def check (message : Octets) : Except PacketError Unit :=
  if message.length < headerLength then .error (.truncated .icmp message.length) else .ok ()

/-- The checksum of ICMP covers the message only. -/
def checksumOkV4 (message : Octets) : Bool :=
  Checksum.verify 0 message

/-- The checksum of ICMPv6 covers a pseudo-header too. -/
def checksumOkV6 (source destination : Address) (message : Octets) : Bool :=
  Checksum.verifyTransport source destination Protocol.icmpV6 message

def setMessageType (message : Octets) (type : UInt8) : Octets :=
  Octets.setOctet message 0 type

def fillChecksumV4 (message : Octets) : Octets :=
  let cleared := Octets.setWord message 2 0
  Octets.setWord cleared 2 (Checksum.checksum 0 cleared)

def fillChecksumV6 (source destination : Address) (message : Octets) : Octets :=
  let cleared := Octets.setWord message 2 0
  Octets.setWord cleared 2 (Checksum.transport source destination Protocol.icmpV6 cleared)

/-- Whether a message between two addresses of a version of IP is intact. -/
def checksumOk (family : Family) (source destination : Address) (message : Octets) : Bool :=
  match family with
  | .v4 => checksumOkV4 message
  | .v6 => checksumOkV6 source destination message

/-- Store the checksum of a message between two addresses of a version of IP. -/
def fillChecksum (family : Family) (source destination : Address) (message : Octets) : Octets :=
  match family with
  | .v4 => fillChecksumV4 message
  | .v6 => fillChecksumV6 source destination message

/-- An echo header whose checksum is still to be filled in. -/
def freshHeader (type : UInt8) (identifier sequence : UInt16) : Octets :=
  [type, 0] ++ Octets.ofWord 0 ++ Octets.ofWord identifier ++ Octets.ofWord sequence

end PortalNat.ICMP
