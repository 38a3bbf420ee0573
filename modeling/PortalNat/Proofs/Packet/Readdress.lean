import PortalNat.Proofs.Packet.Segment
import PortalNat.Proofs.Packet.Shape

/-!
# Packets with new endpoints

Readdressing a packet that has ports always succeeds between endpoints of its own version of IP.
What comes out is the same packet but for addresses, ports and checksums, and every checksum of it
is right. IP options, segment options and what the buffer holds beyond the packet play no part.
-/

namespace PortalNat

open Octets (AgreeOutside octet word setWord overwrite)

/-- The places of the addresses of a header, and of the checksum that stands before those of an IPv4
header. -/
def Family.addressPlaces : Family → Set Nat
  | v4 => Set.Ico 10 20
  | v6 => Set.Ico 8 40

def Family.checksumPlaces : Family → Set Nat
  | v4 => Set.Ico 10 12
  | v6 => ∅

theorem Family.checksumPlaces_subset (family : Family) :
    family.checksumPlaces ⊆ family.addressPlaces := by
  cases family with
  | v4 => exact Set.Ico_subset_Ico_right (by decide)
  | v6 => exact Set.empty_subset _

theorem Family.checksumPlaces_lt (family : Family) {place : Nat}
    (hplace : place ∈ family.checksumPlaces) : place < family.sourcePlace := by
  cases family with
  | v4 => exact hplace.2
  | v6 => exact hplace.elim

theorem Family.addressPlaces_lt (family : Family) {place : Nat}
    (hplace : place ∈ family.addressPlaces) : place < family.leastHeader := by
  cases family <;> exact hplace.2

theorem Family.shapePlaces_outside (family : Family) {place : Nat}
    (hplace : place ∈ family.shapePlaces) : place ∉ family.addressPlaces := by
  cases family <;>
    simp only [shapePlaces, Set.mem_insert_iff, Set.mem_singleton_iff] at hplace <;>
    simp only [addressPlaces, Set.mem_Ico] <;> omega

namespace Packet

def addressing (packet : Packet) : Set Nat :=
  packet.family.addressPlaces ∪ (packet.headerLength + ·) '' portPlaces packet.protocol

/-- A packet is another one with new endpoints and right checksums. -/
structure Readdressed (packet : Packet) (source destination : Endpoint) (after : Packet) :
    Prop where
  family : after.family = packet.family
  agree : AgreeOutside packet.addressing packet.octets after.octets
  segment : Reported packet.protocol source destination packet.payload after.payload
  source : after.source = source.address
  destination : after.destination = destination.address
  headerIntact : after.headerIntact = true

/-! ## Addresses -/

def withSource (packet : Packet) (address : Address) : Packet :=
  { packet with octets := overwrite packet.octets packet.family.sourcePlace address.octets }

def withDestination (packet : Packet) (address : Address) : Packet :=
  { packet with octets := overwrite packet.octets packet.family.destinationPlace address.octets }

section

variable (packet : Packet) {address : Address} (hfamily : address.family = packet.family)
include hfamily

theorem setSource_eq : packet.setSource address = .ok (packet.withSource address) := by
  rcases packet with ⟨_ | _, octets⟩ <;> cases address <;> first | rfl | cases hfamily

theorem setDestination_eq :
    packet.setDestination address = .ok (packet.withDestination address) := by
  rcases packet with ⟨_ | _, octets⟩ <;> cases address <;> first | rfl | cases hfamily

variable (hlong : packet.family.leastHeader ≤ packet.octets.length)
include hlong

theorem agree_withSource :
    AgreeOutside (Set.Ico packet.family.sourcePlace
      (packet.family.sourcePlace + packet.family.addressLength)) packet.octets
      (packet.withSource address).octets := by
  rw [← hfamily, ← Address.length_octets, hfamily]
  apply AgreeOutside.overwrite
  rw [Address.length_octets, hfamily]
  exact packet.family.source_within.trans hlong

theorem agree_withDestination :
    AgreeOutside (Set.Ico packet.family.destinationPlace
      (packet.family.destinationPlace + packet.family.addressLength)) packet.octets
      (packet.withDestination address).octets := by
  rw [← hfamily, ← Address.length_octets, hfamily]
  apply AgreeOutside.overwrite
  rw [Address.length_octets, hfamily]
  exact packet.family.destination_within.trans hlong

theorem source_withSource : (packet.withSource address).source = address := by
  rw [source_eq]
  change packet.family.addressAt _ _ = address
  rw [← hfamily]
  apply Family.addressAt_overwrite
  rw [hfamily]
  exact packet.family.source_within.trans hlong

theorem destination_withDestination :
    (packet.withDestination address).destination = address := by
  rw [destination_eq]
  change packet.family.addressAt _ _ = address
  rw [← hfamily]
  apply Family.addressAt_overwrite
  rw [hfamily]
  exact packet.family.destination_within.trans hlong

end

/-- The packet with other addresses, checksums not renewed. -/
def moved (packet : Packet) (source destination : Address) : Packet :=
  (packet.withSource source).withDestination destination

section

variable {packet : Packet} (hwell : packet.WellFormed) {source destination : Address}
  (hsource : source.family = packet.family) (hdestination : destination.family = packet.family)
include hwell hsource hdestination

theorem agree_moved :
    AgreeOutside packet.family.addressPlaces packet.octets
      (packet.moved source destination).octets := by
  have hlong := hwell.long
  have hfirst := agree_withSource packet hsource hlong
  have hsecond : AgreeOutside (Set.Ico packet.family.destinationPlace
      (packet.family.destinationPlace + packet.family.addressLength))
      (packet.withSource source).octets (packet.moved source destination).octets :=
    agree_withDestination (packet.withSource source) hdestination
      (by rw [hfirst.length]; exact hlong)
  refine (hfirst.mono ?_).trans (hsecond.mono ?_) <;>
    cases packet.family <;> apply Set.Ico_subset_Ico <;> decide

theorem sameShape_moved : SameShape packet (packet.moved source destination) :=
  sameShape_of_agree rfl (agree_moved hwell hsource hdestination)
    fun _ hplace => packet.family.shapePlaces_outside hplace

theorem wellFormed_moved : (packet.moved source destination).WellFormed := by
  apply (sameShape_moved hwell hsource hdestination).wellFormed hwell
  rw [(agree_moved hwell hsource hdestination).length]
  exact hwell.fits

theorem source_moved : (packet.moved source destination).source = source := by
  have hlong := hwell.long
  have hfirst := agree_withSource packet hsource hlong
  have hsecond := agree_withDestination (packet.withSource source) hdestination
    (by rw [hfirst.length]; exact hlong)
  rw [moved, source_congr hsecond rfl, source_withSource packet hsource hlong]
  intro place hplace hinside
  have hbefore := packet.family.source_before_destination
  have hlower : packet.family.destinationPlace ≤ packet.family.sourcePlace + place := hinside.1
  change place < packet.family.addressLength at hplace
  omega

theorem destination_moved : (packet.moved source destination).destination = destination := by
  have hlong := hwell.long
  have hfirst := agree_withSource packet hsource hlong
  exact destination_withDestination (packet.withSource source) hdestination
    (by rw [hfirst.length]; exact hlong)

theorem payload_moved : (packet.moved source destination).payload = packet.payload := by
  apply payload_congr (agree_moved hwell hsource hdestination)
    (sameShape_moved hwell hsource hdestination)
  intro place hplace hinside
  have hless := packet.family.addressPlaces_lt hinside
  exact absurd (hwell.least.trans hplace) (not_le.2 hless)

end

/-! ## Payloads -/

/-- Header, payload and what follows them are all there is. -/
theorem withPayload_payload {packet : Packet} (hwell : packet.WellFormed) :
    packet.withPayload packet.payload = packet := by
  have hheader : packet.header = packet.declared.take packet.headerLength := by
    rw [header_eq, declared_eq, List.take_take, min_eq_left hwell.headed]
  have hpayload : packet.payload = packet.declared.drop packet.headerLength := by
    rw [payload_eq, declared_eq]
  rw [withPayload, hheader, hpayload, List.take_append_drop, declared_eq, trailer_eq,
    List.take_append_drop]

section

variable {packet : Packet} (hwell : packet.WellFormed) {payload : Octets}
  (hlength : payload.length = packet.payload.length)
include hwell hlength

theorem agree_withPayload {inside : Set Nat} (hagree : AgreeOutside inside packet.payload payload) :
    AgreeOutside ((packet.headerLength + ·) '' inside) packet.octets
      (packet.withPayload payload).octets := by
  have hpayload := hwell.length_payload
  have hheaded := hwell.headed
  have hfits := hwell.fits
  have hwithin : packet.headerLength + payload.length ≤ packet.octets.length := by omega
  rw [hwell.withPayload_octets hlength]
  refine ⟨Octets.length_overwrite hwithin, ?_⟩
  intro place hplace
  rw [Octets.getElem?_overwrite hwithin]
  by_cases hinside : packet.headerLength ≤ place ∧ place < packet.headerLength + payload.length
  · have hoffset : place - packet.headerLength ∉ inside := fun hmem =>
      hplace ⟨_, hmem, Nat.add_sub_cancel' hinside.1⟩
    rw [if_pos hinside, hagree.getElem? _ hoffset, payload_eq, List.getElem?_drop,
      Nat.add_sub_cancel' hinside.1, List.getElem?_take_of_lt (by omega)]
  · rw [if_neg hinside]

theorem sameShape_withPayload : SameShape packet (packet.withPayload payload) := by
  apply @sameShape_of_agree packet (packet.withPayload payload) _ rfl
    (agree_withPayload hwell hlength (AgreeOutside.univ hlength))
  rintro place hplace ⟨offset, -, rfl⟩
  have hless := packet.family.shapePlaces_lt hplace
  have hleast := hwell.least
  change packet.headerLength + offset < _ at hless
  omega

theorem wellFormed_withPayload : (packet.withPayload payload).WellFormed := by
  apply (sameShape_withPayload hwell hlength).wellFormed hwell
  rw [(agree_withPayload hwell hlength (AgreeOutside.univ hlength)).length]
  exact hwell.fits

theorem payload_withPayload : (packet.withPayload payload).payload = payload := by
  have hsame := sameShape_withPayload hwell hlength
  have hpayload := hwell.length_payload
  have hheaded := hwell.headed
  rw [payload_eq, hsame.headerLength, hsame.totalLength, hwell.withPayload_octets hlength,
    Octets.take_overwrite (by omega) hwell.fits]
  apply Octets.drop_overwrite
  rw [List.length_take_of_le hwell.fits]
  omega

theorem source_withPayload : (packet.withPayload payload).source = packet.source := by
  apply source_congr (agree_withPayload hwell hlength (AgreeOutside.univ hlength)) rfl
  rintro place hplace ⟨offset, -, heq⟩
  have hwithin := packet.family.source_within
  have hleast := hwell.least
  change packet.headerLength + offset = _ at heq
  omega

theorem destination_withPayload :
    (packet.withPayload payload).destination = packet.destination := by
  apply destination_congr (agree_withPayload hwell hlength (AgreeOutside.univ hlength)) rfl
  rintro place hplace ⟨offset, -, heq⟩
  have hwithin := packet.family.destination_within
  have hleast := hwell.least
  change packet.headerLength + offset = _ at heq
  omega

end

/-! ## Header checksums -/

theorem family_fillChecksum (packet : Packet) : packet.fillChecksum.family = packet.family := by
  rcases packet with ⟨_ | _, octets⟩ <;> rfl

section

variable {packet : Packet} (hwell : packet.WellFormed)
include hwell

theorem agree_fillChecksum :
    AgreeOutside packet.family.checksumPlaces packet.octets packet.fillChecksum.octets := by
  rcases packet with ⟨_ | _, octets⟩
  · have hcheck : Carrier.ipv4Header.check octets = .ok () := (check_v4_iff octets).2 hwell
    -- The addresses do not matter here: the sum of a header has none beside it.
    exact Carrier.agree_fill default default hcheck
  · exact AgreeOutside.refl _ _

theorem sameShape_fillChecksum : SameShape packet packet.fillChecksum := by
  apply sameShape_of_agree _ (agree_fillChecksum hwell)
  · intro place hplace hinside
    exact packet.family.shapePlaces_outside hplace (packet.family.checksumPlaces_subset hinside)
  · rcases packet with ⟨_ | _, octets⟩ <;> rfl

theorem headerIntact_fillChecksum : packet.fillChecksum.headerIntact = true := by
  rcases packet with ⟨_ | _, octets⟩
  · have hcheck : Carrier.ipv4Header.check octets = .ok () := (check_v4_iff octets).2 hwell
    apply Carrier.intact_fill default default hcheck
    have hheader := hwell.length_header
    have hheaded := hwell.headed
    have htotal := (IPv4.totalLength octets).toNat_lt
    change (header ⟨.v4, octets⟩).length ≤ 65535
    simp only [totalLength] at hheaded
    omega
  · rfl

theorem fillChecksum_fillChecksum : packet.fillChecksum.fillChecksum = packet.fillChecksum := by
  rcases packet with ⟨_ | _, octets⟩
  · have hcheck : Carrier.ipv4Header.check octets = .ok () := (check_v4_iff octets).2 hwell
    exact congrArg (Packet.mk .v4) (Carrier.fill_fill default default hcheck)
  · rfl

theorem source_fillChecksum : packet.fillChecksum.source = packet.source := by
  apply source_congr (agree_fillChecksum hwell) (family_fillChecksum packet)
  intro place hplace hinside
  have hless := packet.family.checksumPlaces_lt hinside
  omega

theorem destination_fillChecksum : packet.fillChecksum.destination = packet.destination := by
  apply destination_congr (agree_fillChecksum hwell) (family_fillChecksum packet)
  intro place hplace hinside
  have hless := packet.family.checksumPlaces_lt hinside
  have hafter := packet.family.source_before_destination
  omega

theorem payload_fillChecksum : packet.fillChecksum.payload = packet.payload := by
  apply payload_congr (agree_fillChecksum hwell) (sameShape_fillChecksum hwell)
  intro place hplace hinside
  have hless := packet.family.addressPlaces_lt (packet.family.checksumPlaces_subset hinside)
  exact absurd (hwell.least.trans hplace) (not_le.2 hless)

end

/-! ## Readdressing -/

theorem mismatch?_eq_none_iff (family : Family) (left right : Address) :
    mismatch? family [left, right] = none ↔ left.family = family ∧ right.family = family := by
  simp [mismatch?]

section

variable {packet : Packet} (hwell : packet.WellFormed) {source destination : Endpoint}
  (hsource : source.address.family = packet.family)
  (hdestination : destination.address.family = packet.family)
  (hports : checkPorts packet.protocol packet.payload = .ok ())
include hwell hsource hdestination hports

theorem rewriteEndpoints_eq :
    packet.rewriteEndpoints source destination =
      .ok ((packet.moved source.address destination.address).withPayload
        (rewritePorts packet.protocol source destination packet.payload)).fillChecksum := by
  have hmatch := (mismatch?_eq_none_iff packet.family _ _).2 ⟨hsource, hdestination⟩
  have hpayload := payload_moved hwell hsource hdestination
  have hsecond : (packet.withSource source.address).setDestination destination.address =
      .ok (packet.moved source.address destination.address) :=
    setDestination_eq (packet.withSource source.address) hdestination
  simp only [rewriteEndpoints, hmatch, hports, setSource_eq packet hsource, bind, Except.bind,
    hsecond, hpayload]
  rfl

/-- Readdressing a packet with ports, between endpoints of its own version of IP, succeeds. -/
theorem exists_readdressed : ∃ after,
    packet.rewriteEndpoints source destination = .ok after ∧
      Readdressed packet source destination after := by
  refine ⟨_, rewriteEndpoints_eq hwell hsource hdestination hports, ?_⟩
  have hshape := sameShape_moved hwell hsource hdestination
  have hmoved := wellFormed_moved hwell hsource hdestination
  have hpayload := payload_moved hwell hsource hdestination
  have hreported := reported_rewritePorts source destination hports hwell.length_payload_le
  set moved := packet.moved source.address destination.address
  set payload := rewritePorts packet.protocol source destination packet.payload
  have hlength : payload.length = moved.payload.length := by
    rw [hpayload, hreported.agree.length]
  have hwithPayload := wellFormed_withPayload hmoved hlength
  have hagree : AgreeOutside (portPlaces packet.protocol) moved.payload payload := by
    rw [hpayload]
    exact hreported.agree
  exact {
    family := family_fillChecksum _
    agree := by
      have hfirst := (agree_moved hwell hsource hdestination).mono
        (Set.subset_union_left (t := (packet.headerLength + ·) '' portPlaces packet.protocol))
      have hsecond := (agree_withPayload hmoved hlength hagree).mono
        (Set.subset_union_right (s := packet.family.addressPlaces))
      rw [hshape.headerLength] at hsecond
      have hthird := (agree_fillChecksum hwithPayload).mono
        ((packet.family.checksumPlaces_subset).trans
          (Set.subset_union_left (t := (packet.headerLength + ·) '' portPlaces packet.protocol)))
      exact (hfirst.trans hsecond).trans hthird
    segment := by
      rw [payload_fillChecksum hwithPayload, payload_withPayload hmoved hlength]
      exact hreported
    source := by
      rw [source_fillChecksum hwithPayload, source_withPayload hmoved hlength,
        source_moved hwell hsource hdestination]
    destination := by
      rw [destination_fillChecksum hwithPayload, destination_withPayload hmoved hlength,
        destination_moved hwell hsource hdestination]
    headerIntact := headerIntact_fillChecksum hwithPayload }

end

/-- Readdressing succeeds only for a packet with ports and between endpoints of its own version of
IP, and then does what it should. -/
theorem readdressed_of_rewriteEndpoints {packet after : Packet} {source destination : Endpoint}
    (hwell : packet.WellFormed)
    (hafter : packet.rewriteEndpoints source destination = .ok after) :
    source.address.family = packet.family ∧ destination.address.family = packet.family ∧
      checkPorts packet.protocol packet.payload = .ok () ∧
      Readdressed packet source destination after := by
  cases hmatch : mismatch? packet.family [source.address, destination.address] with
  | some address =>
      simp only [rewriteEndpoints, hmatch, bind, Except.bind] at hafter
      cases hafter
  | none =>
      obtain ⟨hsource, hdestination⟩ := (mismatch?_eq_none_iff packet.family _ _).1 hmatch
      cases hports : checkPorts packet.protocol packet.payload with
      | error error =>
          simp only [rewriteEndpoints, hmatch, hports, bind, Except.bind] at hafter
          cases hafter
      | ok =>
          obtain ⟨found, hfound, hreaddressed⟩ :=
            exists_readdressed hwell hsource hdestination hports
          rw [hafter] at hfound
          cases hfound
          exact ⟨hsource, hdestination, rfl, hreaddressed⟩

section

variable {packet other : Packet} {inside : Set Nat} (hwell : packet.WellFormed)
  (hfamily : other.family = packet.family)
  (hagree : AgreeOutside (packet.family.addressPlaces ∪ (packet.headerLength + ·) '' inside)
    packet.octets other.octets)
include hwell hfamily hagree

/-- Neither the addresses nor what stands behind the header has to do with the shape. -/
theorem sameShape_of_addressing : SameShape packet other := by
  apply sameShape_of_agree hfamily hagree
  rintro place hplace (haddress | ⟨offset, -, rfl⟩)
  · exact packet.family.shapePlaces_outside hplace haddress
  · have hless := packet.family.shapePlaces_lt hplace
    exact absurd (hwell.least.trans (Nat.le_add_right _ _)) (not_le.2 hless)

theorem wellFormed_of_addressing : other.WellFormed := by
  apply (sameShape_of_addressing hwell hfamily hagree).wellFormed hwell
  rw [hagree.length]
  exact hwell.fits

end

/-- A packet with ports is intact if its segment is. -/
theorem transportIntact_of_segment {packet : Packet}
    (hports : checkPorts packet.protocol packet.payload = .ok ())
    (hintact : segmentIntact packet.protocol packet.source packet.destination packet.payload =
      true) : packet.transportIntact = true := by
  rw [checkPorts_iff] at hports
  rw [transportIntact]
  rcases hports with ⟨hprotocol, hcheck⟩ | ⟨hprotocol, hcheck⟩
  · rw [hprotocol] at hintact ⊢
    simp only [if_pos, hcheck]
    exact hintact
  · rw [hprotocol] at hintact ⊢
    simp only [show Protocol.udp ≠ Protocol.tcp by decide, if_pos, if_false, hcheck]
    exact hintact

/-! ## Readdressed packets -/

section

variable {packet after : Packet} {source destination : Endpoint} (hwell : packet.WellFormed)
  (hreaddressed : Readdressed packet source destination after)
include hwell hreaddressed

theorem Readdressed.sameShape : SameShape packet after :=
  sameShape_of_addressing hwell hreaddressed.family hreaddressed.agree

theorem Readdressed.wellFormed : after.WellFormed :=
  wellFormed_of_addressing hwell hreaddressed.family hreaddressed.agree

variable (hports : checkPorts packet.protocol packet.payload = .ok ())
include hports

theorem Readdressed.transportIntact : after.transportIntact = true := by
  have hshape := hreaddressed.sameShape hwell
  apply transportIntact_of_segment
  · rw [hshape.protocol]
    exact hreaddressed.segment.checkPorts hports
  · rw [hshape.protocol, hreaddressed.source, hreaddressed.destination]
    exact hreaddressed.segment.intact

/-- What is written of a readdressed packet has right checksums throughout. -/
theorem Readdressed.checksumsValid : checksumsValid after.declared = true := by
  rw [(hreaddressed.wellFormed hwell).checksumsValid_declared, hreaddressed.headerIntact,
    hreaddressed.transportIntact hwell hports, Bool.and_self]

end

end Packet

end PortalNat
