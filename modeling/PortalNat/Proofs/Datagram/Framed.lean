import PortalNat.Proofs.Packet.Echo
import PortalNat.Udp.Reply

/-!
# Packets that carry a datagram

A reply to a datagram is made in two steps. First comes a packet that is right but for its endpoints
and checksums: it has no options, is whole and is exactly as long as its lengths say. Readdressing
it gives the packet that is written. Both ways to make a reply come to this, so what the client gets
is proved here once.
-/

namespace PortalNat

open Octets (AgreeOutside octet word)

/-- What an IP header states is at least what its datagram states. -/
theorem ReplyTemplate.segment_le_statedLength (family : Family) (payloadLength : Nat) :
    UDP.headerLength + payloadLength ≤ statedLength family payloadLength := by
  cases family with
  | v4 => exact Nat.add_le_add_right (Nat.le_add_left _ _) payloadLength
  | v6 => exact le_rfl

namespace Packet

/-- The number of hops the packet may still take. -/
def hops (packet : Packet) : UInt8 :=
  match packet.family with
  | .v4 => IPv4.timeToLive packet.octets
  | .v6 => IPv6.hopLimit packet.octets

theorem hops_eq (packet : Packet) : packet.hops = octet packet.octets packet.family.hopsPlace := by
  rcases packet with ⟨_ | _, octets⟩ <;> rfl

/-- A UDP packet is right but for its endpoints and checksums. -/
structure Framed (packet : Packet) (payload : Octets) : Prop where
  wellFormed : packet.WellFormed
  plain : packet.headerLength = packet.family.leastHeader
  whole : packet.isFragment = false
  hops : packet.hops = Build.defaultHops
  protocol : packet.protocol = Protocol.udp
  exact : packet.totalLength = packet.octets.length
  stated : (UDP.length packet.payload).toNat = packet.payload.length
  long : UDP.headerLength ≤ packet.payload.length
  carried : packet.payload.drop UDP.headerLength = payload

/-- Octets are exactly one packet, intact, whole and without options, that carries a payload from a
source to a destination. -/
structure Conveys (written : Octets) (packet : Packet) (source destination : Endpoint)
    (payload : Octets) : Prop where
  parse : Packet.parse written = .ok packet
  valid : checksumsValid written = true
  plain : packet.headerLength = packet.family.leastHeader
  whole : packet.isFragment = false
  hops : packet.hops = Build.defaultHops
  protocol : packet.protocol = Protocol.udp
  exact : packet.totalLength = written.length
  stated : (UDP.length packet.payload).toNat = packet.payload.length
  source : Endpoint.of packet.source (UDP.sourcePort packet.payload) = source
  destination : Endpoint.of packet.destination (UDP.destinationPort packet.payload) = destination
  payload : UDP.payload packet.payload = payload

/-- A packet is framed if its header is plain, its lengths are those of its buffer and the payload
stands behind both headers. -/
theorem framed_of_lengths {packet : Packet} {payload : Octets}
    (hversion : octet packet.octets 0 / 16 = packet.family.number)
    (hplain : packet.headerLength = packet.family.leastHeader)
    (hwhole : packet.isFragment = false) (hhops : packet.hops = Build.defaultHops)
    (hprotocol : packet.protocol = Protocol.udp)
    (hexact : packet.totalLength = packet.octets.length)
    (hlength : packet.octets.length =
      packet.family.leastHeader + (UDP.headerLength + payload.length))
    (hstated : (word packet.octets (packet.family.leastHeader + 4)).toNat =
      UDP.headerLength + payload.length)
    (hcarried : packet.octets.drop (packet.family.leastHeader + UDP.headerLength) = payload) :
    packet.Framed payload := by
  have hwell : packet.WellFormed := ⟨hversion, hplain.ge, by omega, hexact.le⟩
  have hsegment : packet.payload.length = UDP.headerLength + payload.length := by
    rw [hwell.length_payload, hexact, hlength, hplain, Nat.add_sub_cancel_left]
  have hpayload : packet.payload = packet.octets.drop packet.family.leastHeader := by
    rw [payload_eq, hexact, hplain, List.take_length]
  refine ⟨hwell, hplain, hwhole, hhops, hprotocol, hexact, ?_, by omega, ?_⟩
  · rw [hsegment, UDP.length, hpayload, Octets.word_drop]
    exact hstated
  · rw [hpayload, List.drop_drop]
    exact hcarried

theorem Framed.checkPorts {packet : Packet} {payload : Octets} (hframed : packet.Framed payload) :
    Packet.checkPorts packet.protocol packet.payload = .ok () := by
  rw [checkPorts_iff, udp_check_iff, hframed.stated]
  exact .inr ⟨hframed.protocol, hframed.long, hframed.long, le_rfl⟩

theorem hopsPlace_outside {packet : Packet} (hwell : packet.WellFormed) :
    packet.family.hopsPlace ∉ packet.addressing := by
  rintro (haddress | ⟨offset, -, hoffset⟩)
  · cases hfamily : packet.family <;> rw [hfamily] at haddress <;>
      simp [Family.addressPlaces, Family.hopsPlace] at haddress
  · have hbelow := packet.family.hopsPlace_lt.trans_le hwell.least
    have hsame : packet.headerLength + offset = packet.family.hopsPlace := hoffset
    omega

/-- A framed packet with new endpoints conveys its payload between them. -/
theorem Framed.conveys {packet after : Packet} {payload : Octets} {source destination : Endpoint}
    (hframed : packet.Framed payload) (hreaddressed : Readdressed packet source destination after) :
    Conveys after.octets after (Endpoint.of source.address source.port)
      (Endpoint.of destination.address destination.port) payload := by
  have hwell := hframed.wellFormed
  have hafter := hreaddressed.wellFormed hwell
  have hshape := hreaddressed.sameShape hwell
  have hsegment := hreaddressed.segment.agree
  rw [hframed.protocol, portPlaces_udp] at hsegment
  have hexact : after.totalLength = after.octets.length := by
    rw [hshape.totalLength, hframed.exact, hreaddressed.agree.length]
  have hstated : (UDP.length after.payload).toNat = after.payload.length := by
    rw [hsegment.length, ← hframed.stated]
    exact congrArg UInt16.toNat (hsegment.word (by simp) (by simp))
  exact {
    parse := hafter.parse
    valid := by
      have hdeclared : after.declared = after.octets := by
        rw [declared_eq, hexact, List.take_length]
      rw [← hdeclared]
      exact hreaddressed.checksumsValid hwell hframed.checkPorts
    plain := by rw [hshape.headerLength, hshape.family, hframed.plain]
    whole := hshape.isFragment.trans hframed.whole
    hops := by
      rw [hops_eq, hshape.family, hreaddressed.agree.octet (hopsPlace_outside hwell), ← hops_eq,
        hframed.hops]
    protocol := hshape.protocol.trans hframed.protocol
    exact := hexact
    stated := hstated
    source := by rw [hreaddressed.source, UDP.sourcePort, hreaddressed.segment.sourcePort]
    destination := by
      rw [hreaddressed.destination, UDP.destinationPort, hreaddressed.segment.destinationPort]
    payload := by
      rw [UDP.payload, UDP.datagram, hstated, List.take_length, ← hframed.carried]
      apply (hsegment.drop UDP.headerLength).eq
      intro place _
      simp only [UDP.headerLength, Set.mem_ofPred_eq, Set.mem_union, Set.mem_Ico]
      omega }

theorem rewriteEndpoints_of_mismatch {packet : Packet} {source : Endpoint}
    (hother : source.family ≠ packet.family) (destination : Endpoint) :
    ∃ address, packet.rewriteEndpoints source destination = .error (.familyMismatch address) := by
  cases hmatch : mismatch? packet.family [source.address, destination.address] with
  | none => exact absurd ((mismatch?_eq_none_iff packet.family _ _).1 hmatch).1 hother
  | some address =>
      refine ⟨address, ?_⟩
      simp only [rewriteEndpoints, hmatch, bind, Except.bind]
      rfl

end Packet

/-- What making a reply from a source to a client may come to: a packet for the client, if the reply
fits one and its source is of the version of the client, and otherwise the error that says what is
wrong. -/
inductive MakesReply (source client : Endpoint) (payload : Octets) : Except NatError Octets → Prop
  | made {written : Octets} {packet : Packet}
      (hfits : ReplyTemplate.statedLength client.family payload.length ≤ 65535)
      (hsame : source.family = client.family)
      (hconveys : Packet.Conveys written packet source client payload) :
      MakesReply source client payload (.ok written)
  | tooLarge (hlarge : 65535 < ReplyTemplate.statedLength client.family payload.length) :
      MakesReply source client payload (.error (.udp (.payloadTooLarge payload.length)))
  | mismatch (hother : source.family ≠ client.family) :
      MakesReply source client payload (.error (.udp (.familyMismatch source client)))

end PortalNat
