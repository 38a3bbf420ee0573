import PortalNat.Proofs.Packet.Filling

/-!
# Messages of packets

Behind its IP header a packet carries a message of the protocol that the header names. A message has
a header of its own and the data that it conveys, and both are covered by its checksum. Whether the
checksums of a packet are right comes down to this one carrier, unless it is a datagram for which
nobody computed a checksum.
-/

namespace PortalNat

open Octets (AgreeOutside octet)

namespace Carrier

/-- The carrier that stands behind an IP header with a protocol number. -/
def ofProtocol? (protocol : UInt8) : Option Carrier :=
  if protocol = Protocol.tcp then some .tcp
  else if protocol = Protocol.udp then some .udp
  else if protocol = Protocol.icmp then some .icmp
  else if protocol = Protocol.icmpV6 then some .icmpV6
  else none

def headerLength : Carrier → Octets → Nat
  | ipv4Header, bytes => IPv4.headerLength bytes
  | tcp, bytes => TCP.headerLength bytes
  | udp, _ => UDP.headerLength
  | icmp, _ | icmpV6, _ => ICMP.headerLength

/-- What the checksum of a carrier covers behind its header. -/
def data : Carrier → Octets → Octets
  | ipv4Header, _ => []
  | tcp, bytes => TCP.payload bytes
  | udp, bytes => UDP.payload bytes
  | icmp, bytes | icmpV6, bytes => ICMP.data bytes

/-- Whether a carrier counts as intact because nobody computed a checksum for it. -/
def Excused (source : Address) (carrier : Carrier) (bytes : Octets) : Prop :=
  carrier = .udp ∧ source.family = .v4 ∧ UDP.storedChecksum bytes = 0

theorem data_eq (carrier : Carrier) (bytes : Octets) :
    carrier.data bytes = (carrier.covered bytes).drop (carrier.headerLength bytes) := by
  cases carrier with
  | ipv4Header => exact (List.drop_eq_nil_of_le (List.length_take_le _ _)).symm
  | tcp | udp | icmp | icmpV6 => rfl

theorem intact_eq {source : Address} (destination : Address) {carrier : Carrier} {bytes : Octets}
    (hsummed : ¬carrier.Excused source bytes) :
    carrier.intact source destination bytes = carrier.verifies source destination bytes := by
  cases carrier with
  | udp =>
      have hexcused : (source.family == .v4 && UDP.storedChecksum bytes == 0) = false := by
        rw [Bool.eq_false_iff]
        intro hboth
        rw [Bool.and_eq_true, beq_iff_eq, beq_iff_eq] at hboth
        exact hsummed ⟨rfl, hboth⟩
      change UDP.checksumOk source destination bytes = _
      rw [UDP.checksumOk, hexcused, Bool.false_or]
      rfl
  | ipv4Header | tcp | icmp | icmpV6 => rfl

theorem octet_covered {carrier : Carrier} {bytes : Octets} {place : Nat}
    (hplace : place < (carrier.covered bytes).length) :
    octet (carrier.covered bytes) place = octet bytes place := by
  cases carrier with
  | ipv4Header | udp => exact Octets.octet_take (hplace.trans_le (List.length_take_le _ _))
  | tcp | icmp | icmpV6 => rfl

/-- What a message conveys does not depend on its checksum, which stands in its header. -/
theorem data_congr {carrier : Carrier} {bytes other : Octets}
    (hcheck : carrier.check bytes = .ok ()) (hagree : AgreeOutside carrier.field bytes other) :
    carrier.data other = carrier.data bytes := by
  have hfield {count : Nat} (hcount : carrier.place + 2 ≤ count) :
      ∀ place ∈ carrier.field, place < count := fun place hplace => hplace.2.trans_le hcount
  cases carrier with
  | ipv4Header => rfl
  | tcp =>
      have hleast := ((Packet.tcp_check_iff bytes).1 hcheck).2.1
      have hlength : TCP.headerLength other = TCP.headerLength bytes := by
        rw [TCP.headerLength, TCP.headerLength, hagree.octet (by simp [field, place])]
      simp only [data, TCP.payload, hlength]
      exact hagree.drop_eq (hfield (hleast.trans' (by decide)))
  | udp =>
      simp only [data, UDP.payload, UDP.datagram, udp_length_congr hagree]
      exact (hagree.take _).drop_eq (hfield (by decide))
  | icmp | icmpV6 => exact hagree.drop_eq (hfield (by decide))

end Carrier

namespace Packet

theorem isSome_toOption_iff {check : Except PacketError Unit} :
    check.toOption.isSome = true ↔ check = .ok () := by
  cases check <;> simp [Except.toOption]

/-- A packet of a known protocol is judged by the message that it carries. -/
theorem transportIntact_eq {packet : Packet} {carrier : Carrier}
    (hcarrier : Carrier.ofProtocol? packet.protocol = some carrier) :
    packet.transportIntact =
      ((carrier.check packet.payload).toOption.isSome &&
        carrier.intact packet.source packet.destination packet.payload) := by
  simp only [transportIntact]
  unfold Carrier.ofProtocol? at hcarrier
  split_ifs at hcarrier ⊢ <;> cases hcarrier <;> rfl

theorem transportIntact_iff {packet : Packet} {carrier : Carrier}
    (hcarrier : Carrier.ofProtocol? packet.protocol = some carrier) :
    packet.transportIntact = true ↔
      carrier.check packet.payload = .ok () ∧
        carrier.intact packet.source packet.destination packet.payload = true := by
  rw [transportIntact_eq hcarrier, Bool.and_eq_true, isSome_toOption_iff]

end Packet

end PortalNat
