import PortalNat.Proofs.Packet.Congruence
import PortalNat.Proofs.Packet.InPlace
import PortalNat.Proofs.Redirection.Route

/-!
# Readdressing is exact

A packet gets new endpoints if they are of its version of IP and it has ports. Otherwise its buffer
stays as it is. What it was before leaves no trace in the addresses, ports and checksums: of two
changes of endpoints only the last one counts. So a packet that goes back to its own endpoints comes
out as it went in, provided that its checksums were the ones that are filled in.
-/

namespace PortalNat

open Octets (AgreeOutside octet word setWord overwrite)

namespace Octets

/-- Storing the octets that are there changes nothing. -/
theorem overwrite_range {bytes : Octets} {offset count : Nat}
    (hwithin : offset + count ≤ bytes.length) :
    overwrite bytes offset ((List.range count).map fun place => octet bytes (offset + place)) =
      bytes := by
  apply List.ext_getElem?
  intro place
  rw [getElem?_overwrite (by rw [List.length_map, List.length_range]; exact hwithin),
    List.length_map, List.length_range]
  split_ifs with hinside
  · rw [List.getElem?_map, List.getElem?_range (by omega), Option.map_some,
      Nat.add_sub_cancel' hinside.1, octet, List.getD_eq_getElem?_getD,
      List.getElem?_eq_getElem (by omega), Option.getD_some]
  · rfl

end Octets

/-- The octets of an address are those that it was read from. -/
theorem Family.octets_addressAt (family : Family) (bytes : Octets) (offset : Nat) :
    (family.addressAt bytes offset).octets =
      (List.range family.addressLength).map fun place => octet bytes (offset + place) := by
  cases family with
  | v4 => rfl
  | v6 =>
      simp [addressAt, Address.octets, V6.octets, V6.segments, V6.read, word, addressLength,
        List.range_succ]

namespace Packet

/-! ## A packet between its own endpoints -/

section

variable {packet : Packet} (hwell : packet.WellFormed)
include hwell

theorem withSource_source : packet.withSource packet.source = packet := by
  rw [withSource, source_eq, Family.octets_addressAt,
    Octets.overwrite_range (packet.family.source_within.trans hwell.long)]

theorem withDestination_destination : packet.withDestination packet.destination = packet := by
  rw [withDestination, destination_eq, Family.octets_addressAt,
    Octets.overwrite_range (packet.family.destination_within.trans hwell.long)]

end

theorem ported_self {source destination : Endpoint} {segment : Octets}
    (hlong : 4 ≤ segment.length) (hsource : source.port = word segment 0)
    (hdestination : destination.port = word segment 2) :
    ported source destination segment = segment := by
  rw [ported, hsource, Octets.setWord_word (by omega), hdestination,
    Octets.setWord_word (by omega)]

/-- The checksums of a packet with ports are those that are filled in. -/
structure ChecksumsFilled (packet : Packet) : Prop where
  header : packet.fillChecksum = packet
  segment : (carrier packet.protocol).fill packet.source packet.destination packet.payload =
    packet.payload

section

variable {packet : Packet} (hwell : packet.WellFormed)
  (hports : checkPorts packet.protocol packet.payload = .ok ())
include hwell hports

/-- Given its own endpoints, a packet only has its checksums filled in. -/
theorem rewriteEndpoints_own :
    packet.rewriteEndpoints packet.sender packet.receiver =
      .ok (packet.withPayload ((carrier packet.protocol).fill packet.source packet.destination
        packet.payload)).fillChecksum := by
  have hmoved : packet.moved packet.source packet.destination = packet := by
    rw [moved, withSource_source hwell, withDestination_destination hwell]
  have hlong : 4 ≤ packet.payload.length := by
    have hplace := checksumPlace_ge packet.protocol
    have hwithin := checksumPlace_within hports
    omega
  have hported : ported packet.sender packet.receiver packet.payload = packet.payload :=
    ported_self hlong rfl rfl
  rw [rewriteEndpoints_eq hwell packet.family_source packet.family_destination hports,
    rewritePorts_eq, hported]
  change Except.ok ((packet.moved packet.source packet.destination).withPayload _).fillChecksum = _
  rw [hmoved]
  rfl

end

section

variable {packet after : Packet} {source destination : Endpoint} (hwell : packet.WellFormed)
  (hafter : packet.rewriteEndpoints source destination = .ok after)
include hwell hafter

/-- What has become of the packet apart from its checksum in the header. -/
theorem exists_restated : ∃ restated : Packet, restated.WellFormed ∧
    after = restated.fillChecksum ∧
    restated.payload = rewritePorts packet.protocol source destination packet.payload := by
  obtain ⟨hsource, hdestination, hports, -⟩ := readdressed_of_rewriteEndpoints hwell hafter
  rw [rewriteEndpoints_eq hwell hsource hdestination hports] at hafter
  cases hafter
  have hmoved := wellFormed_moved hwell hsource hdestination
  have hlength : (rewritePorts packet.protocol source destination packet.payload).length =
      (packet.moved source.address destination.address).payload.length := by
    rw [payload_moved hwell hsource hdestination]
    exact (reported_rewritePorts source destination hports hwell.length_payload_le).agree.length
  exact ⟨_, wellFormed_withPayload hmoved hlength, rfl, payload_withPayload hmoved hlength⟩

theorem payload_rewriteEndpoints :
    after.payload = rewritePorts packet.protocol source destination packet.payload := by
  obtain ⟨restated, hrestated, rfl, hpayload⟩ := exists_restated hwell hafter
  rw [payload_fillChecksum hrestated, hpayload]

/-- The checksums of a packet with new endpoints are those that are filled in. -/
theorem checksumsFilled_rewriteEndpoints : after.ChecksumsFilled := by
  obtain ⟨-, -, hports, hreaddressed⟩ := readdressed_of_rewriteEndpoints hwell hafter
  constructor
  · obtain ⟨restated, hrestated, rfl, -⟩ := exists_restated hwell hafter
    exact fillChecksum_fillChecksum hrestated
  · rw [(hreaddressed.sameShape hwell).protocol, hreaddressed.source, hreaddressed.destination,
      payload_rewriteEndpoints hwell hafter, rewritePorts_eq]
    exact Carrier.fill_fill _ _ (check_carrier (checkPorts_ported source destination hports))

/-- A datagram with new endpoints never says that it has no checksum. -/
theorem storedChecksum_rewriteEndpoints (hudp : after.protocol = Protocol.udp) :
    UDP.storedChecksum after.payload ≠ 0 := by
  obtain ⟨-, -, hports, hreaddressed⟩ := readdressed_of_rewriteEndpoints hwell hafter
  rw [(hreaddressed.sameShape hwell).protocol] at hudp
  have hcheck := checkPorts_ported source destination hports
  rw [payload_rewriteEndpoints hwell hafter, rewritePorts_eq]
  rw [hudp] at hcheck ⊢
  exact Carrier.storedChecksum_fill_ne_zero _ _ (check_carrier hcheck)

/-- Of two changes of endpoints only the last one counts. -/
theorem rewriteEndpoints_again (source' destination' : Endpoint) :
    after.rewriteEndpoints source' destination' =
      packet.rewriteEndpoints source' destination' := by
  obtain ⟨-, -, -, hreaddressed⟩ := readdressed_of_rewriteEndpoints hwell hafter
  exact rewriteEndpoints_congr hwell hreaddressed.family hreaddressed.agree source' destination'

/-- A packet that goes back to its own endpoints comes out as it went in exactly if its checksums
were the ones that are filled in. -/
theorem rewriteEndpoints_back_iff :
    after.rewriteEndpoints packet.sender packet.receiver = .ok packet ↔
      packet.ChecksumsFilled := by
  obtain ⟨-, -, hports, -⟩ := readdressed_of_rewriteEndpoints hwell hafter
  rw [rewriteEndpoints_again hwell hafter]
  constructor
  · exact checksumsFilled_rewriteEndpoints hwell
  · rintro ⟨hheader, hsegment⟩
    rw [rewriteEndpoints_own hwell hports, hsegment, withPayload_payload hwell, hheader]

end

/-! ## In the buffer -/

/-- A packet is what has become of another one that was given new endpoints. -/
structure Renewed (packet : Packet) (source destination : Endpoint) (after : Packet) : Prop where
  parses : parse after.octets = .ok after
  sourcePort : word after.payload 0 = source.port
  destinationPort : word after.payload 2 = destination.port
  source : after.source = source.address
  destination : after.destination = destination.address
  valid : checksumsValid after.octets = true
  nonzero : after.protocol = Protocol.udp → UDP.storedChecksum after.payload ≠ 0
  /-- Nothing has changed but the addresses, the ports and the checksums. -/
  agree : AgreeOutside packet.addressing packet.octets after.octets

/-- What it comes to to give a packet new endpoints in its buffer. -/
structure Exact (packet : Packet) (source destination : Endpoint) : Prop where
  /-- It succeeds for endpoints of the version of IP that the packet is of, if its payload is well
  formed for a protocol with ports, and otherwise fails. -/
  succeeds_iff : (∃ after, (editEndpoints source destination).run packet = .ok () after) ↔
    source.address.family = packet.family ∧ destination.address.family = packet.family ∧
      (packet.protocol = Protocol.tcp ∧ TCP.check packet.payload = .ok () ∨
        packet.protocol = Protocol.udp ∧ UDP.check packet.payload = .ok ())
  /-- A failure leaves the buffer as it was. -/
  failed : ∀ error after,
    (editEndpoints source destination).run packet = .error error after → after = packet
  renewed : ∀ after,
    (editEndpoints source destination).run packet = .ok () after →
      Renewed packet source destination after
  /-- Of two changes of endpoints only the last one counts. -/
  last : ∀ after, (editEndpoints source destination).run packet = .ok () after →
    ∀ source' destination' final,
      (editEndpoints source' destination').run after = .ok () final ↔
        (editEndpoints source' destination').run packet = .ok () final
  /-- Back between its own endpoints the packet is the one it was exactly if its checksums were the
  ones that are filled in. -/
  back : ∀ after, (editEndpoints source destination).run packet = .ok () after →
    ((editEndpoints packet.sender packet.receiver).run after = .ok () packet ↔
      packet.ChecksumsFilled)

theorem run_editEndpoints_eq_ok_iff {packet after : Packet} {source destination : Endpoint} :
    (editEndpoints source destination).run packet = .ok () after ↔
      packet.rewriteEndpoints source destination = .ok after := by
  rw [run_editEndpoints]
  cases packet.rewriteEndpoints source destination with
  | ok found => simp
  | error error => simp

theorem renewed_of_rewriteEndpoints {packet after : Packet} {source destination : Endpoint}
    (hwell : packet.WellFormed) (hafter : packet.rewriteEndpoints source destination = .ok after) :
    Renewed packet source destination after := by
  obtain ⟨-, -, hports, hreaddressed⟩ := readdressed_of_rewriteEndpoints hwell hafter
  have hparses := (hreaddressed.wellFormed hwell).parse
  exact {
    parses := hparses
    source := hreaddressed.source
    destination := hreaddressed.destination
    sourcePort := hreaddressed.segment.sourcePort
    destinationPort := hreaddressed.segment.destinationPort
    valid := by
      simp only [checksumsValid, hparses, hreaddressed.headerIntact,
        hreaddressed.transportIntact hwell hports, Bool.and_self]
    nonzero := storedChecksum_rewriteEndpoints hwell hafter
    agree := hreaddressed.agree }

/-- Giving a packet new endpoints in its buffer is exact, whatever the packet is and whatever the
endpoints are. -/
theorem exact_of_parse {bytes : Octets} {packet : Packet} (hparse : parse bytes = .ok packet)
    (source destination : Endpoint) : packet.Exact source destination := by
  have hwell := (wellFormed_of_parse hparse).2
  constructor
  case succeeds_iff =>
    simp only [run_editEndpoints_eq_ok_iff, ← checkPorts_iff]
    constructor
    · rintro ⟨after, hafter⟩
      obtain ⟨hsource, hdestination, hports, -⟩ := readdressed_of_rewriteEndpoints hwell hafter
      exact ⟨hsource, hdestination, hports⟩
    · rintro ⟨hsource, hdestination, hports⟩
      exact ⟨_, rewriteEndpoints_eq hwell hsource hdestination hports⟩
  case failed =>
    intro error after hafter
    rw [run_editEndpoints] at hafter
    split at hafter
    · cases hafter
    · cases hafter
      rfl
  case renewed =>
    intro after hafter
    exact renewed_of_rewriteEndpoints hwell (run_editEndpoints_eq_ok_iff.1 hafter)
  case last =>
    intro after hafter source' destination' final
    rw [run_editEndpoints_eq_ok_iff] at hafter
    rw [run_editEndpoints_eq_ok_iff, run_editEndpoints_eq_ok_iff,
      rewriteEndpoints_again hwell hafter]
  case back =>
    intro after hafter
    rw [run_editEndpoints_eq_ok_iff] at hafter ⊢
    exact rewriteEndpoints_back_iff hwell hafter

/-- A datagram in an IPv4 packet with an option, with octets behind the datagram and behind the
packet. -/
def loosePacket : Octets :=
  [0x46, 0, 0, 34, 0x12, 0x34, 0x40, 0, 7, 17, 0, 0, 10, 0, 0, 2, 1, 1, 1, 1, 1, 1, 1, 0,
    0x14, 0xe9, 0, 53, 0, 9, 0, 0, 113, 0xee, 0xaa]

theorem exact_of_parse_loosePacket :
    parse loosePacket = .ok ⟨.v4, loosePacket⟩ ∧
      Exact ⟨.v4, loosePacket⟩ (Endpoint.of (.v4 ⟨172, 19, 0, 2⟩) 4000)
        (Endpoint.of (.v4 ⟨172, 19, 0, 1⟩) 53) ∧
      ∃ after, (editEndpoints (Endpoint.of (.v4 ⟨172, 19, 0, 2⟩) 4000)
        (Endpoint.of (.v4 ⟨172, 19, 0, 1⟩) 53)).run ⟨.v4, loosePacket⟩ = .ok () after := by
  have hparse : parse loosePacket = .ok ⟨.v4, loosePacket⟩ := by decide
  have hexact := exact_of_parse hparse (Endpoint.of (.v4 ⟨172, 19, 0, 2⟩) 4000)
    (Endpoint.of (.v4 ⟨172, 19, 0, 1⟩) 53)
  exact ⟨hparse, hexact, hexact.succeeds_iff.2 ⟨rfl, rfl, .inr ⟨rfl, by decide⟩⟩⟩

end Packet

end PortalNat
