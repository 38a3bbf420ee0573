import PortalNat.Proofs.Packet.Congruence

/-!
# Packets that differ in the checksum of their segment

Every packet with ports has a mended counterpart, which is the same but for the checksum of its
segment, and that is right. Packets that differ in nothing else have the same endpoints and are
readdressed alike.
-/

namespace PortalNat

open Octets (AgreeOutside octet word setWord)

namespace Packet

def checksumField (packet : Packet) : Set Nat :=
  (packet.headerLength + ·) ''
    Set.Ico (checksumPlace packet.protocol) (checksumPlace packet.protocol + 2)

/-- Two packets differ at most in the checksum of their segment. -/
structure SameButChecksum (packet other : Packet) : Prop where
  family : other.family = packet.family
  agree : AgreeOutside packet.checksumField packet.octets other.octets

/-- A packet is another one with a right checksum in its segment. -/
structure Mended (packet mended : Packet) : Prop extends SameButChecksum packet mended where
  intact : mended.transportIntact = true

/-! ## What does not depend on the checksum -/

theorem checksumField_subset (packet : Packet) : packet.checksumField ⊆ packet.addressing := by
  apply (Set.image_mono _).trans Set.subset_union_right
  exact Set.subset_union_right

theorem checksumField_ge {packet : Packet} (hwell : packet.WellFormed) {place : Nat}
    (hplace : place ∈ packet.checksumField) : packet.family.leastHeader ≤ place := by
  obtain ⟨offset, -, rfl⟩ := hplace
  exact hwell.least.trans (Nat.le_add_right _ _)

namespace SameButChecksum

variable {packet other : Packet} (hsame : SameButChecksum packet other)
include hsame

theorem addressing : AgreeOutside packet.addressing packet.octets other.octets :=
  hsame.agree.mono packet.checksumField_subset

variable (hwell : packet.WellFormed)
include hwell

theorem sameShape : SameShape packet other :=
  sameShape_of_addressing hwell hsame.family hsame.addressing

theorem wellFormed : other.WellFormed :=
  wellFormed_of_addressing hwell hsame.family hsame.addressing

theorem source : other.source = packet.source := by
  apply source_congr hsame.agree hsame.family
  intro place hplace hfield
  have hbelow := checksumField_ge hwell hfield
  have hwithin := packet.family.source_within
  omega

theorem destination : other.destination = packet.destination := by
  apply destination_congr hsame.agree hsame.family
  intro place hplace hfield
  have hbelow := checksumField_ge hwell hfield
  have hwithin := packet.family.destination_within
  omega

theorem payload :
    AgreeOutside (Set.Ico (checksumPlace packet.protocol) (checksumPlace packet.protocol + 2))
      packet.payload other.payload :=
  payload_of_addressing hwell hsame.family (hsame.agree.mono Set.subset_union_right)

/-- Whether a packet has ports does not depend on its checksum. -/
theorem checkPorts :
    Packet.checkPorts other.protocol other.payload =
      Packet.checkPorts packet.protocol packet.payload := by
  rw [(hsame.sameShape hwell).protocol]
  exact checkPorts_congr ((hsame.payload hwell).mono Set.subset_union_right)

theorem rewriteEndpoints (source destination : Endpoint) :
    other.rewriteEndpoints source destination = packet.rewriteEndpoints source destination :=
  rewriteEndpoints_congr hwell hsame.family hsame.addressing source destination

/-- A word of the segment before its checksum is that of the other one. -/
theorem word {place : Nat} (hplace : place + 1 < checksumPlace packet.protocol) :
    Octets.word other.payload place = Octets.word packet.payload place :=
  (hsame.payload hwell).word (fun hinside => by simp only [Set.mem_Ico] at hinside; omega)
    (fun hinside => by simp only [Set.mem_Ico] at hinside; omega)

end SameButChecksum

/-! ## Mending -/

/-- Given the ports that it has, a segment changes at most in its checksum. -/
theorem agree_rewritePorts {protocol : UInt8} {source destination : Endpoint} {segment : Octets}
    (hcheck : checkPorts protocol segment = .ok ()) (hsource : source.port = word segment 0)
    (hdestination : destination.port = word segment 2) :
    AgreeOutside (Set.Ico (checksumPlace protocol) (checksumPlace protocol + 2)) segment
      (rewritePorts protocol source destination segment) := by
  have hplace := checksumPlace_ge protocol
  have hwithin : checksumPlace protocol + 2 ≤ segment.length := by
    have hlast : checksumPlace protocol + 1 < segment.length :=
      portPlaces_lt hcheck (.inr (by simp))
    omega
  have hported : setWord (setWord segment 0 source.port) 2 destination.port = segment := by
    rw [hsource, Octets.setWord_word (by omega), hdestination, Octets.setWord_word (by omega)]
  have hcleared := AgreeOutside.setWord segment (checksumPlace protocol) hwithin 0
  have hstored (stored : UInt16) := AgreeOutside.setWord
    (setWord segment (checksumPlace protocol) 0) (checksumPlace protocol)
    (by rw [hcleared.length]; exact hwithin) stored
  rcases (checkPorts_iff protocol segment).1 hcheck with ⟨rfl, -⟩ | ⟨rfl, -⟩
  · change AgreeOutside _ segment (TCP.fillChecksum source.address destination.address
      (setWord (setWord segment 0 source.port) 2 destination.port))
    rw [hported]
    exact hcleared.trans (hstored _)
  · change AgreeOutside _ segment (UDP.fillChecksum source.address destination.address
      (setWord (setWord segment 0 source.port) 2 destination.port))
    rw [hported]
    exact hcleared.trans (hstored _)

/-- Every packet with ports has a mended counterpart. -/
theorem exists_mended {packet : Packet} (hwell : packet.WellFormed)
    (hports : checkPorts packet.protocol packet.payload = .ok ()) :
    ∃ mended, packet.Mended mended := by
  let source := Endpoint.of packet.source (word packet.payload 0)
  let destination := Endpoint.of packet.destination (word packet.payload 2)
  have hreported := reported_rewritePorts source destination hports hwell.length_payload_le
  have hagree : AgreeOutside _ packet.payload (rewritePorts _ source destination packet.payload) :=
    agree_rewritePorts hports rfl rfl
  set payload := rewritePorts packet.protocol source destination packet.payload
  have hlength := hagree.length
  have hshape := sameShape_withPayload hwell hlength
  refine ⟨packet.withPayload payload, ⟨rfl, agree_withPayload hwell hlength hagree⟩, ?_⟩
  apply transportIntact_of_segment <;> rw [hshape.protocol, payload_withPayload hwell hlength]
  · exact hreported.checkPorts hports
  · rw [source_withPayload hwell hlength, destination_withPayload hwell hlength]
    exact hreported.intact

end Packet

end PortalNat
