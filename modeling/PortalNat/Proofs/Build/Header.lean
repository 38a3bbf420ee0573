import PortalNat.Packet.Build
import PortalNat.Proofs.Packet.Readdress

/-!
# Headers of built packets

The header of a built packet states its version, its protocol, its addresses and the length of what
follows, and stands in front of a segment of just that length. Whatever the segment is, the two are
one whole packet, which is read back as it was put together. There is such a header exactly when the
addresses are of one version of IP and what it has to state fits sixteen bits.
-/

namespace PortalNat

open Octets (octet word ofWord)

/-- An address is read back from where its octets stand. -/
theorem Family.addressAt_append (address : Address) (left right : Octets) :
    address.family.addressAt (left ++ (address.octets ++ right)) left.length = address := by
  have hread : address.family.addressAt address.octets 0 = address := by
    cases address with
    | v4 address => rfl
    | v6 address => exact congrArg Address.v6 (V6.read_octets address)
  conv_rhs => rw [← hread]
  apply Family.addressAt_congr
  intro place hplace
  rw [Octets.octet_append_add, Octets.octet_append right (by rwa [Address.length_octets]),
    Nat.zero_add]

/-- The checksum of a header without options does not depend on what follows the header. -/
theorem IPv4.fillChecksum_append {header : Octets} (segment : Octets)
    (hplain : headerLength header = minimumLength) (hlength : header.length = minimumLength) :
    fillChecksum (header ++ segment) = fillChecksum header ++ segment := by
  have hlong : 12 ≤ header.length := by rw [hlength]; decide
  have hcleared : (Octets.setWord header 10 0).length = header.length :=
    Octets.length_setWord hlong 0
  have hkept : headerLength (header ++ segment) = headerLength header := by
    rw [headerLength, headerLength, Octets.octet_append segment (by omega)]
  have htake : (Octets.setWord header 10 0 ++ segment).take minimumLength =
      (Octets.setWord header 10 0).take minimumLength :=
    List.take_append_of_le_length (by omega)
  rw [fillChecksum, fillChecksum, hkept, hplain, Octets.setWord_append segment 0 hlong, htake]
  exact Octets.setWord_append segment _ (by omega)

namespace Packet

/-- A packet is whole, has no options and is exactly as long as it says, and is the packet of a
segment of some protocol between two addresses. -/
structure Wraps (packet : Packet) (source destination : Address) (protocol : UInt8)
    (segment : Octets) : Prop where
  wellFormed : packet.WellFormed
  plain : packet.headerLength = packet.family.leastHeader
  exact : packet.totalLength = packet.octets.length
  whole : packet.isFragment = false
  protocol : packet.protocol = protocol
  source : packet.source = source
  destination : packet.destination = destination
  payload : packet.payload = segment

theorem Wraps.length {packet : Packet} {source destination : Address} {protocol : UInt8}
    {segment : Octets} (hwraps : packet.Wraps source destination protocol segment) :
    packet.octets.length = packet.family.leastHeader + packet.payload.length := by
  have hheaded := hwraps.wellFormed.headed
  rw [hwraps.wellFormed.length_payload, ← hwraps.exact, ← hwraps.plain,
    Nat.add_sub_cancel' hheaded]

theorem Wraps.fillChecksum {packet : Packet} {source destination : Address} {protocol : UInt8}
    {segment : Octets} (hwraps : packet.Wraps source destination protocol segment) :
    packet.fillChecksum.Wraps source destination protocol segment := by
  have hwell := hwraps.wellFormed
  have hshape := sameShape_fillChecksum hwell
  have hlength := (agree_fillChecksum hwell).length
  exact {
    wellFormed := hshape.wellFormed hwell (by rw [hlength]; exact hwell.fits)
    plain := by rw [hshape.headerLength, hshape.family, hwraps.plain]
    exact := by rw [hshape.totalLength, hlength, hwraps.exact]
    whole := hshape.isFragment.trans hwraps.whole
    protocol := hshape.protocol.trans hwraps.protocol
    source := (source_fillChecksum hwell).trans hwraps.source
    destination := (destination_fillChecksum hwell).trans hwraps.destination
    payload := (payload_fillChecksum hwell).trans hwraps.payload }

end Packet

namespace Build

theorem sixteenBits_of_le {length : Nat} (hfits : length ≤ 65535) :
    sixteenBits length = .ok (UInt16.ofNat length) :=
  if_pos hfits

theorem sixteenBits_of_lt {length : Nat} (hlarge : 65535 < length) :
    sixteenBits length = .error (.tooLarge length) :=
  if_neg (not_le.2 hlarge)

/-- What is made of a stated length is made of the length itself, if that can be stated. -/
theorem bind_sixteenBits (length : Nat) (made : UInt16 → Octets) :
    (sixteenBits length).bind (fun stated => .ok (made stated)) =
      (sixteenBits length).map fun _ => made (UInt16.ofNat length) := by
  unfold sixteenBits
  split_ifs <;> rfl

/-- What an IP header states about the length of the segment behind it: an IPv4 header counts
itself. -/
def headerStates : Family → Nat → Nat
  | .v4, segmentLength => IPv4.minimumLength + segmentLength
  | .v6, segmentLength => segmentLength

/-- The header for a segment between two addresses, given by their octets, without checksum. -/
def bareHeader (family : Family) (source destination : Octets) (protocol : UInt8)
    (segmentLength : Nat) : Octets :=
  let stated := UInt16.ofNat (headerStates family segmentLength)
  match family with
  | .v4 =>
    [0x45, 0] ++ ofWord stated ++ ofWord 0 ++ ofWord 0x4000 ++ [defaultHops, protocol] ++ ofWord 0
      ++ source ++ destination
  | .v6 => [0x60, 0, 0, 0] ++ ofWord stated ++ [protocol, defaultHops] ++ source ++ destination

/-- A segment behind its header, whose checksum is still to be filled in. -/
def bare (family : Family) (source destination : Octets) (protocol : UInt8) (segment : Octets) :
    Packet where
  family
  octets := bareHeader family source destination protocol segment.length ++ segment

section

variable (family : Family) (source destination : Octets) (protocol : UInt8) (segment : Octets)

theorem first_bare :
    octet (bare family source destination protocol segment).octets 0 / 16 = family.number ∧
      (bare family source destination protocol segment).headerLength = family.leastHeader := by
  cases family with
  | v4 =>
      have hfirst : octet (bare .v4 source destination protocol segment).octets 0 = 0x45 := rfl
      refine ⟨by rw [hfirst]; rfl, ?_⟩
      change (octet (bare .v4 source destination protocol segment).octets 0 % 16).toNat * 4 = 20
      rw [hfirst]
      rfl
  | v6 =>
      have hfirst : octet (bare .v6 source destination protocol segment).octets 0 = 0x60 := rfl
      exact ⟨by rw [hfirst]; rfl, rfl⟩

theorem isFragment_bare : (bare family source destination protocol segment).isFragment = false := by
  cases family with
  | v4 =>
      have hfragment : word (bare .v4 source destination protocol segment).octets 6 = 0x4000 :=
        Octets.joinWord_ofWord 0x4000
      change IPv4.isFragment (bare .v4 source destination protocol segment).octets = false
      simp only [IPv4.isFragment, IPv4.moreFragments, IPv4.fragmentOffset, hfragment]
      decide
  | v6 => rfl

theorem protocol_bare : (bare family source destination protocol segment).protocol = protocol := by
  cases family <;> rfl

end

section

variable {family : Family} {source destination : Octets}
  (hsource : source.length = family.addressLength)
  (hdestination : destination.length = family.addressLength) (protocol : UInt8)
include hsource hdestination

theorem length_bareHeader (segmentLength : Nat) :
    (bareHeader family source destination protocol segmentLength).length = family.leastHeader := by
  cases family <;>
    simp [bareHeader, hsource, hdestination, Family.addressLength, Family.leastHeader,
      IPv4.minimumLength, IPv6.headerLength]

theorem length_bare (segment : Octets) :
    (bare family source destination protocol segment).octets.length =
      family.leastHeader + segment.length := by
  rw [bare, List.length_append, length_bareHeader hsource hdestination]

variable {segment : Octets} (hfits : headerStates family segment.length ≤ 65535)
include hfits

theorem totalLength_bare :
    (bare family source destination protocol segment).totalLength =
      (bare family source destination protocol segment).octets.length := by
  have hstated : (UInt16.ofNat (headerStates family segment.length)).toNat =
      headerStates family segment.length :=
    UInt16.toNat_ofNat_of_lt' (hfits.trans_lt (by decide))
  rw [length_bare hsource hdestination]
  cases family with
  | v4 =>
      have hword : word (bare .v4 source destination protocol segment).octets 2 =
          UInt16.ofNat (headerStates .v4 segment.length) := Octets.joinWord_ofWord _
      change (word (bare .v4 source destination protocol segment).octets 2).toNat = _
      rw [hword]
      exact hstated
  | v6 =>
      have hword : word (bare .v6 source destination protocol segment).octets 4 =
          UInt16.ofNat (headerStates .v6 segment.length) := Octets.joinWord_ofWord _
      change 40 + (word (bare .v6 source destination protocol segment).octets 4).toNat = _
      rw [hword]
      exact congrArg (40 + ·) hstated

theorem payload_bare : (bare family source destination protocol segment).payload = segment := by
  have hplain := (first_bare family source destination protocol segment).2
  rw [Packet.payload_eq, totalLength_bare hsource hdestination protocol hfits, List.take_length,
    hplain]
  exact List.drop_left' (length_bareHeader hsource hdestination protocol segment.length)

end

/-! ## Addresses -/

section

variable {source destination : Address} (hsame : source.family = destination.family)
include hsame

theorem length_octets_destination : destination.octets.length = source.family.addressLength := by
  rw [Address.length_octets, hsame]

theorem source_bare (protocol : UInt8) (segment : Octets) :
    (bare source.family source.octets destination.octets protocol segment).source = source := by
  cases source with
  | v4 source => rfl
  | v6 source =>
      have hsource := Family.addressAt_append (.v6 source)
        ([0x60, 0, 0, 0] ++ ofWord (UInt16.ofNat (headerStates .v6 segment.length)) ++
          [protocol, defaultHops]) (destination.octets ++ segment)
      rw [← List.append_assoc, ← List.append_assoc] at hsource
      exact hsource

theorem destination_bare (protocol : UInt8) (segment : Octets) :
    (bare source.family source.octets destination.octets protocol segment).destination =
      destination := by
  cases source with
  | v4 source =>
      cases destination with
      | v4 destination => rfl
      | v6 destination => cases hsame
  | v6 source =>
      have hdestination := Family.addressAt_append destination
        ([0x60, 0, 0, 0] ++ ofWord (UInt16.ofNat (headerStates .v6 segment.length)) ++
          [protocol, defaultHops] ++ source.octets) segment
      rw [← List.append_assoc, ← hsame] at hdestination
      exact hdestination

/-- A segment whose length can be stated makes one packet with its header. -/
theorem wraps_bare (protocol : UInt8) {segment : Octets}
    (hfits : headerStates source.family segment.length ≤ 65535) :
    (bare source.family source.octets destination.octets protocol segment).Wraps source destination
      protocol segment := by
  have hdestination := length_octets_destination hsame
  obtain ⟨hversion, hplain⟩ :=
    first_bare source.family source.octets destination.octets protocol segment
  have hexact := totalLength_bare source.length_octets hdestination protocol hfits
  have hlength := length_bare source.length_octets hdestination protocol segment
  exact {
    wellFormed := ⟨hversion, hplain.ge, by
      rw [hplain, hexact, hlength]
      exact Nat.le_add_right _ _, hexact.le⟩
    plain := hplain
    exact := hexact
    whole := isFragment_bare ..
    protocol := protocol_bare ..
    source := source_bare hsame protocol segment
    destination := destination_bare hsame protocol segment
    payload := payload_bare source.length_octets hdestination protocol hfits }

end

/-! ## Headers as they are built -/

section

variable {source destination : Address}

theorem ipHeader_of_mismatch (hother : source.family ≠ destination.family) (protocol : UInt8)
    (segmentLength : Nat) :
    ipHeader source destination protocol segmentLength = .error (.familyMismatch destination) := by
  cases source <;> cases destination <;> first | rfl | exact absurd rfl hother

variable (hsame : source.family = destination.family) (protocol : UInt8) {segmentLength : Nat}
include hsame

/-- The header that is built is the bare one with its checksum, if that can state its length. -/
theorem ipHeader_eq :
    ipHeader source destination protocol segmentLength =
      (sixteenBits (headerStates source.family segmentLength)).map fun _ =>
        (Packet.mk source.family (bareHeader source.family source.octets destination.octets protocol
          segmentLength)).fillChecksum.octets := by
  cases source with
  | v4 source =>
      cases destination with
      | v4 destination =>
          exact bind_sixteenBits (headerStates .v4 segmentLength)
            fun total => IPv4.freshHeader source destination protocol total defaultHops
      | v6 destination => cases hsame
  | v6 source =>
      cases destination with
      | v4 destination => cases hsame
      | v6 destination =>
          exact bind_sixteenBits (headerStates .v6 segmentLength)
            fun length => IPv6.freshHeader source destination protocol length defaultHops

/-- The checksum of a header does not depend on the segment behind it. -/
theorem fillChecksum_bareHeader (segment : Octets) :
    (Packet.mk source.family (bareHeader source.family source.octets destination.octets protocol
        segmentLength ++ segment)).fillChecksum =
      ⟨source.family, (Packet.mk source.family (bareHeader source.family source.octets
        destination.octets protocol segmentLength)).fillChecksum.octets ++ segment⟩ := by
  have hlength := length_bareHeader source.length_octets (length_octets_destination hsame)
    protocol segmentLength
  cases source with
  | v4 source =>
      have hfirst : octet (bareHeader .v4 source.octets destination.octets protocol
          segmentLength) 0 = 0x45 := rfl
      have hplain : IPv4.headerLength (bareHeader .v4 source.octets destination.octets protocol
          segmentLength) = 20 := by
        rw [IPv4.headerLength, hfirst]
        rfl
      exact congrArg (Packet.mk .v4) (IPv4.fillChecksum_append segment hplain hlength)
  | v6 source => rfl

/-- A header that is built for the length of a segment makes one packet with it. -/
theorem exists_ipHeader {segment : Octets}
    (hfits : headerStates source.family segment.length ≤ 65535) :
    ∃ header, ipHeader source destination protocol segment.length = .ok header ∧
      (Packet.mk source.family (header ++ segment)).Wraps source destination protocol segment ∧
      (Packet.mk source.family (header ++ segment)).headerIntact = true := by
  have hwraps := wraps_bare hsame protocol hfits
  have hfilled :
      (bare source.family source.octets destination.octets protocol segment).fillChecksum = _ :=
    fillChecksum_bareHeader hsame protocol segment
  refine ⟨_, by rw [ipHeader_eq hsame, sixteenBits_of_le hfits]; rfl, ?_⟩
  rw [← hfilled]
  exact ⟨hwraps.fillChecksum, Packet.headerIntact_fillChecksum hwraps.wellFormed⟩

end

end Build

end PortalNat
