import PortalNat.Proofs.Build.Header
import PortalNat.Proofs.Datagram.Framed

/-!
# Built datagrams

A datagram that is built from its endpoints is the same packet that readdressing makes of a blank
one, which lies between unspecified endpoints and has no checksums yet. So what is known of
readdressed packets holds of built ones.
-/

namespace PortalNat

open Octets (octet word ofWord)

namespace Build

def plainHeader (family : Family) (source destination : Octets) (payloadLength : Nat) : Octets :=
  let stated := UInt16.ofNat (ReplyTemplate.statedLength family payloadLength)
  match family with
  | .v4 =>
    [0x45, 0] ++ ofWord stated ++ ofWord 0 ++ ofWord 0x4000 ++ [defaultHops, Protocol.udp]
      ++ ofWord 0 ++ source ++ destination
  | .v6 => [0x60, 0, 0, 0] ++ ofWord stated ++ [Protocol.udp, defaultHops] ++ source ++ destination

/-- A datagram between unspecified endpoints, without checksums. -/
def blank (family : Family) (payload : Octets) : Packet where
  family
  octets :=
    plainHeader family (List.replicate family.addressLength 0)
        (List.replicate family.addressLength 0) payload.length
      ++ (UDP.freshHeader 0 0 (UInt16.ofNat (UDP.headerLength + payload.length)) ++ payload)

def plainSegment (source destination : UInt16) (payload : Octets) : Octets :=
  UDP.freshHeader source destination (UInt16.ofNat (UDP.headerLength + payload.length)) ++ payload

theorem length_plainSegment (source destination : UInt16) (payload : Octets) :
    (plainSegment source destination payload).length = UDP.headerLength + payload.length :=
  List.length_append

/-- What a header states for a datagram is what it states for a segment of its length. -/
theorem headerStates_datagram (family : Family) (payloadLength : Nat) :
    headerStates family (UDP.headerLength + payloadLength) =
      ReplyTemplate.statedLength family payloadLength := by
  cases family with
  | v4 => exact (Nat.add_assoc _ _ _).symm
  | v6 => rfl

theorem plainHeader_eq (family : Family) (source destination : Octets) (payloadLength : Nat) :
    plainHeader family source destination payloadLength =
      bareHeader family source destination Protocol.udp (UDP.headerLength + payloadLength) := by
  have hstated := headerStates_datagram family payloadLength
  cases family with
  | v4 => simp only [plainHeader, bareHeader, hstated]
  | v6 => rfl

/-- A blank datagram is a bare packet between unspecified addresses. -/
theorem blank_eq (family : Family) (payload : Octets) :
    blank family payload =
      bare family (List.replicate family.addressLength 0) (List.replicate family.addressLength 0)
        Protocol.udp (plainSegment 0 0 payload) := by
  rw [blank, plainHeader_eq, bare, length_plainSegment]
  rfl

theorem hops_blank (family : Family) (payload : Octets) :
    (blank family payload).hops = defaultHops := by
  cases family <;> rfl

section

variable {family : Family} {payload : Octets}
  (hfits : ReplyTemplate.statedLength family payload.length ≤ 65535)
include hfits

theorem payload_blank : (blank family payload).payload = plainSegment 0 0 payload := by
  rw [blank_eq]
  apply payload_bare List.length_replicate List.length_replicate
  rw [length_plainSegment, headerStates_datagram]
  exact hfits

theorem framed_blank : (blank family payload).Framed payload := by
  have hzeros : (List.replicate family.addressLength (0 : UInt8)).length = family.addressLength :=
    List.length_replicate
  have hstates : headerStates family (plainSegment 0 0 payload).length ≤ 65535 := by
    rw [length_plainSegment, headerStates_datagram]
    exact hfits
  have hsegment := (ReplyTemplate.segment_le_statedLength family payload.length).trans hfits
  obtain ⟨hversion, hplain⟩ := first_bare family (List.replicate family.addressLength 0)
    (List.replicate family.addressLength 0) Protocol.udp (plainSegment 0 0 payload)
  have hexact := totalLength_bare hzeros hzeros Protocol.udp hstates
  have hlength := length_bare hzeros hzeros Protocol.udp (plainSegment 0 0 payload)
  rw [length_plainSegment] at hlength
  rw [← blank_eq] at hversion hplain hexact hlength
  apply Packet.framed_of_lengths hversion hplain _ (hops_blank family payload) _ hexact hlength
  · have hstated : word (blank family payload).octets (family.leastHeader + 4) =
        UInt16.ofNat (UDP.headerLength + payload.length) := by
      cases family <;> exact Octets.joinWord_ofWord _
    change (word (blank family payload).octets (family.leastHeader + 4)).toNat = _
    rw [hstated]
    exact UInt16.toNat_ofNat_of_lt' (hsegment.trans_lt (by decide))
  · cases family <;> rfl
  · rw [blank_eq]
    exact isFragment_bare ..
  · rw [blank_eq]
    exact protocol_bare ..

end

/-! ## Building as readdressing -/

section

variable {source destination : Address} (hsame : source.family = destination.family)
include hsame

theorem moved_blank (payload : Octets) :
    (blank destination.family payload).moved source destination =
      ⟨destination.family,
        plainHeader destination.family source.octets destination.octets payload.length
          ++ plainSegment 0 0 payload⟩ := by
  cases source <;> cases destination <;> first | rfl | cases hsame

theorem length_plainHeader (payloadLength : Nat) :
    (plainHeader destination.family source.octets destination.octets payloadLength).length =
      destination.family.leastHeader := by
  rw [plainHeader_eq, ← hsame]
  exact length_bareHeader source.length_octets (length_octets_destination hsame) _ _

theorem fillChecksum_plain (payloadLength : Nat) (segment : Octets) :
    (Packet.mk destination.family
        (plainHeader destination.family source.octets destination.octets payloadLength
          ++ segment)).fillChecksum.octets =
      (Packet.mk destination.family
        (plainHeader destination.family source.octets destination.octets
          payloadLength)).fillChecksum.octets ++ segment := by
  rw [plainHeader_eq, ← hsame, fillChecksum_bareHeader hsame]

/-- The header of a built datagram is a plain one with its checksum. -/
theorem ipHeader_plain {payloadLength : Nat}
    (hfits : ReplyTemplate.statedLength destination.family payloadLength ≤ 65535) :
    ipHeader source destination Protocol.udp (UDP.headerLength + payloadLength) =
      .ok (Packet.mk destination.family
        (plainHeader destination.family source.octets destination.octets
          payloadLength)).fillChecksum.octets := by
  rw [← headerStates_datagram, ← hsame] at hfits
  rw [ipHeader_eq hsame, sixteenBits_of_le hfits, plainHeader_eq, ← hsame]
  rfl

end

section

variable {source client : Endpoint} {payload : Octets}
  (hsame : source.family = client.family)
  (hfits : ReplyTemplate.statedLength client.family payload.length ≤ 65535)
include hfits

include hsame

theorem withPayload_blank (segment : Octets) :
    ((blank client.family payload).moved source.address client.address).withPayload segment =
      ⟨client.family, plainHeader client.family source.address.octets client.address.octets
        payload.length ++ segment⟩ := by
  have hframed := framed_blank hfits
  have hshape := Packet.sameShape_moved hframed.wellFormed hsame rfl
  have hagree := Packet.agree_moved hframed.wellFormed hsame rfl
  have htotal := hshape.totalLength
  rw [hframed.exact, ← hagree.length] at htotal
  have hheader := hshape.headerLength
  rw [hframed.plain] at hheader
  rw [Packet.withPayload, Packet.header_eq, Packet.trailer_eq, htotal, hheader, List.drop_length,
    List.append_nil]
  have hmoved : (blank client.family payload).moved source.address client.address = _ :=
    moved_blank hsame payload
  rw [hmoved]
  congr 2
  exact List.take_left' (length_plainHeader hsame payload.length)

/-- Building a datagram is readdressing a blank one. -/
theorem udp_eq :
    udp source client payload =
      ((blank client.family payload).rewriteEndpoints source client).map Packet.octets := by
  have hframed := framed_blank hfits
  have hsegment := (ReplyTemplate.segment_le_statedLength client.family payload.length).trans hfits
  have hported : Packet.rewritePorts (blank client.family payload).protocol source client
      (plainSegment 0 0 payload) = UDP.fillChecksum source.address client.address
        (plainSegment source.port client.port payload) := by
    rw [hframed.protocol]
    rfl
  have hfilled := fillChecksum_plain hsame payload.length
    (UDP.fillChecksum source.address client.address
      (plainSegment source.port client.port payload))
  rw [Packet.rewriteEndpoints_eq hframed.wellFormed hsame rfl hframed.checkPorts,
    payload_blank hfits, hported, withPayload_blank hsame hfits]
  simp only [udp, ipHeader_plain hsame hfits, sixteenBits_of_le hsegment, bind, Except.bind,
    Except.map]
  exact congrArg Except.ok hfilled.symm

end

/-- A datagram that does not fit is refused. -/
theorem udp_of_tooLarge {source client : Endpoint} {payload : Octets}
    (hsame : source.family = client.family)
    (hlarge : 65535 < ReplyTemplate.statedLength client.family payload.length) :
    ∃ length, udp source client payload = .error (.tooLarge length) := by
  have hsame' : source.address.family = client.address.family := hsame
  have hlarge' : 65535 < headerStates source.address.family
      (UDP.headerLength + payload.length) := by
    rw [hsame', headerStates_datagram]
    exact hlarge
  refine ⟨headerStates source.address.family (UDP.headerLength + payload.length), ?_⟩
  simp only [udp, ipHeader_eq hsame', sixteenBits_of_lt hlarge', bind, Except.bind, Except.map]

end Build

/-- A reply that is built makes what it should, between endpoints in canonical form. -/
theorem makesReply_buildReply (payload : Octets) (source client : Endpoint) :
    MakesReply source.canonical client.canonical payload (buildReply payload source client) := by
  by_cases hsame : source.canonical.family = client.canonical.family
  · have hbuild : buildReply payload source client =
        (Build.udp source.canonical client.canonical payload).mapError
          (unbuildable payload.length) := by
      simp only [buildReply, hsame, bne_self_eq_false]
      rfl
    rw [hbuild]
    by_cases hfits : ReplyTemplate.statedLength client.canonical.family payload.length ≤ 65535
    · have hframed := Build.framed_blank hfits
      obtain ⟨after, hafter, hreaddressed⟩ :=
        Packet.exists_readdressed hframed.wellFormed hsame rfl hframed.checkPorts
      rw [Build.udp_eq hsame hfits, hafter]
      exact .made hfits hsame (hframed.conveys hreaddressed)
    · obtain ⟨length, hlength⟩ := Build.udp_of_tooLarge hsame (not_le.1 hfits)
      rw [hlength]
      exact .tooLarge (not_le.1 hfits)
  · have hbuild : buildReply payload source client =
        .error (.udp (.familyMismatch source.canonical client.canonical)) := by
      simp only [buildReply, bne_iff_ne.2 hsame]
      rfl
    rw [hbuild]
    exact .mismatch hsame

end PortalNat
