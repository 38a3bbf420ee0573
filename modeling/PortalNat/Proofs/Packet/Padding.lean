import PortalNat.Proofs.Packet.Echo

/-!
# Packets with padding behind them

A buffer can hold more than the packet in it. No view of the packet goes beyond its declared length,
and no change of it does, so what follows the packet takes no part in anything: a changed packet has
the same octets behind it, and is otherwise what it would be without them. Conversely, whether a
buffer holds a packet is told by the octets of that packet alone.
-/

namespace PortalNat

open Octets (AgreeOutside octet overwrite setWord)

namespace Packet

/-- The packet in a buffer that goes on with more octets. -/
def padded (packet : Packet) (padding : Octets) : Packet :=
  { packet with octets := packet.octets ++ padding }

variable (padding : Octets)

/-! ## Views -/

section

variable {packet : Packet} (hwell : packet.WellFormed)
include hwell

theorem sameShape_padded : SameShape packet (packet.padded padding) where
  family := rfl
  octet _ hplace :=
    Octets.octet_append padding ((packet.family.shapePlaces_lt hplace).trans_le hwell.long)

theorem wellFormed_padded : (packet.padded padding).WellFormed := by
  apply (sameShape_padded padding hwell).wellFormed hwell
  rw [padded, List.length_append]
  exact hwell.fits.trans (Nat.le_add_right _ _)

theorem declared_padded : (packet.padded padding).declared = packet.declared := by
  rw [declared_eq, declared_eq, (sameShape_padded padding hwell).totalLength]
  exact List.take_append_of_le_length hwell.fits

theorem header_padded : (packet.padded padding).header = packet.header := by
  rw [header_eq, header_eq, (sameShape_padded padding hwell).headerLength]
  exact List.take_append_of_le_length (hwell.headed.trans hwell.fits)

theorem payload_padded : (packet.padded padding).payload = packet.payload := by
  have hshape := sameShape_padded padding hwell
  rw [payload_eq, payload_eq, hshape.headerLength, hshape.totalLength, ← declared_eq,
    ← declared_padded padding hwell, declared_eq, hshape.totalLength]

theorem trailer_padded : (packet.padded padding).trailer = packet.trailer ++ padding := by
  rw [trailer_eq, trailer_eq, (sameShape_padded padding hwell).totalLength]
  exact List.drop_append_of_le_length hwell.fits

theorem source_padded : (packet.padded padding).source = packet.source := by
  rw [source_eq, source_eq]
  apply Family.addressAt_congr
  intro place hplace
  apply Octets.octet_append
  exact (Nat.add_lt_add_left hplace _).trans_le (packet.family.source_within.trans hwell.long)

theorem destination_padded : (packet.padded padding).destination = packet.destination := by
  rw [destination_eq, destination_eq]
  apply Family.addressAt_congr
  intro place hplace
  apply Octets.octet_append
  exact (Nat.add_lt_add_left hplace _).trans_le (packet.family.destination_within.trans hwell.long)

end

/-! ## Changes -/

section

variable {packet : Packet} (hlong : packet.family.leastHeader ≤ packet.octets.length)
  {address : Address} (hfamily : address.family = packet.family)
include hlong hfamily

theorem withSource_padded :
    (packet.padded padding).withSource address = (packet.withSource address).padded padding := by
  apply congrArg (Packet.mk packet.family)
  apply Octets.overwrite_append
  rw [Address.length_octets, hfamily]
  exact packet.family.source_within.trans hlong

theorem withDestination_padded :
    (packet.padded padding).withDestination address =
      (packet.withDestination address).padded padding := by
  apply congrArg (Packet.mk packet.family)
  apply Octets.overwrite_append
  rw [Address.length_octets, hfamily]
  exact packet.family.destination_within.trans hlong

end

section

variable {packet : Packet} (hwell : packet.WellFormed)
include hwell

theorem moved_padded {source destination : Address} (hsource : source.family = packet.family)
    (hdestination : destination.family = packet.family) :
    (packet.padded padding).moved source destination =
      (packet.moved source destination).padded padding := by
  have hlong := hwell.long
  have hfirst := agree_withSource packet hsource hlong
  rw [moved, moved, withSource_padded padding hlong hsource]
  exact withDestination_padded padding (by rw [hfirst.length]; exact hlong) hdestination

theorem withPayload_padded (payload : Octets) :
    (packet.padded padding).withPayload payload =
      (packet.withPayload payload).padded padding := by
  rw [withPayload, header_padded padding hwell, trailer_padded padding hwell, ← List.append_assoc]
  rfl

theorem fillChecksum_padded :
    (packet.padded padding).fillChecksum = packet.fillChecksum.padded padding := by
  have hlong := hwell.long
  have hheaded := hwell.headed
  have hfits := hwell.fits
  have hlength := (sameShape_padded padding hwell).headerLength
  rcases packet with ⟨_ | _, octets⟩
  · change 20 ≤ octets.length at hlong
    change IPv4.headerLength (octets ++ padding) = IPv4.headerLength octets at hlength
    have hcleared : (setWord octets 10 0).length = octets.length :=
      Octets.length_setWord (by omega) 0
    have hheader : IPv4.headerLength octets ≤ octets.length := hheaded.trans hfits
    apply congrArg (Packet.mk .v4)
    change IPv4.fillChecksum (octets ++ padding) = IPv4.fillChecksum octets ++ padding
    simp only [IPv4.fillChecksum, hlength]
    rw [Octets.setWord_append padding 0 (by omega),
      List.take_append_of_le_length (by rw [hcleared]; exact hheader),
      Octets.setWord_append padding _ (by rw [hcleared]; omega)]
  · rfl

theorem setHops_padded (hops : UInt8) :
    (packet.padded padding).setHops hops = (packet.setHops hops).padded padding := by
  have hlong := hwell.long
  rcases packet with ⟨_ | _, octets⟩
  · change 20 ≤ octets.length at hlong
    exact congrArg (Packet.mk .v4)
      (Octets.overwrite_append padding (hlong.trans' (show 8 + 1 ≤ 20 by decide)))
  · change 40 ≤ octets.length at hlong
    exact congrArg (Packet.mk .v6)
      (Octets.overwrite_append padding (hlong.trans' (show 7 + 1 ≤ 40 by decide)))

/-- Readdressing leaves what follows a packet where it is, and does not depend on it. -/
theorem rewriteEndpoints_padded (source destination : Endpoint) :
    (packet.padded padding).rewriteEndpoints source destination =
      (packet.rewriteEndpoints source destination).map (·.padded padding) := by
  have hshape := sameShape_padded padding hwell
  have hchecks : checkPorts (packet.padded padding).protocol (packet.padded padding).payload =
      checkPorts packet.protocol packet.payload := by
    rw [hshape.protocol, payload_padded padding hwell]
  cases hmatch : mismatch? packet.family [source.address, destination.address] with
  | some address =>
      simp only [rewriteEndpoints, hshape.family, hmatch]
      rfl
  | none =>
      cases hcheck : checkPorts packet.protocol packet.payload with
      | error error =>
          simp only [rewriteEndpoints, hshape.family, hmatch, hchecks, hcheck]
          rfl
      | ok =>
          obtain ⟨hsource, hdestination⟩ := (mismatch?_eq_none_iff packet.family _ _).1 hmatch
          have hmoved := wellFormed_moved hwell hsource hdestination
          have hlength := (reported_rewritePorts source destination hcheck
            hwell.length_payload_le).agree.length
          have hpatched := wellFormed_withPayload hmoved
            (by rw [hlength, payload_moved hwell hsource hdestination])
          rw [rewriteEndpoints_eq hwell hsource hdestination hcheck,
            rewriteEndpoints_eq (wellFormed_padded padding hwell) hsource hdestination
              (hchecks.trans hcheck),
            hshape.protocol, payload_padded padding hwell,
            moved_padded padding hwell hsource hdestination, withPayload_padded padding hmoved,
            fillChecksum_padded padding hpatched]
          rfl

end

/-! ## Reading a part of a buffer -/

theorem parse_append {bytes : Octets} {packet : Packet} (hparse : parse bytes = .ok packet) :
    parse (bytes ++ padding) = .ok (packet.padded padding) := by
  obtain ⟨rfl, hwell⟩ := wellFormed_of_parse hparse
  exact (wellFormed_padded padding hwell).parse

/-- A buffer that is cut still holds its packet as long as it holds all of that. -/
theorem parse_take {bytes : Octets} {packet : Packet} (hparse : parse bytes = .ok packet)
    {count : Nat} (hcount : packet.totalLength ≤ count) :
    parse (bytes.take count) = .ok ⟨packet.family, bytes.take count⟩ := by
  obtain ⟨rfl, hwell⟩ := wellFormed_of_parse hparse
  have hshape : SameShape packet ⟨packet.family, packet.octets.take count⟩ := by
    refine ⟨rfl, fun place hplace => Octets.octet_take ?_⟩
    exact (packet.family.shapePlaces_lt hplace).trans_le
      (hwell.least.trans (hwell.headed.trans hcount))
  refine (hshape.wellFormed hwell ?_).parse
  rw [List.length_take]
  exact le_min hcount hwell.fits

/-- What is read of a buffer is a packet only if all of a packet is read. -/
theorem parse_of_take {bytes : Octets} {count : Nat} {packet : Packet}
    (hparse : parse (bytes.take count) = .ok packet) :
    parse bytes = .ok (packet.padded (bytes.drop count)) ∧
      (packet.padded (bytes.drop count)).totalLength ≤ count := by
  obtain ⟨hoctets, hwell⟩ := wellFormed_of_parse hparse
  have hwhole := parse_append (bytes.drop count) hparse
  rw [List.take_append_drop] at hwhole
  refine ⟨hwhole, ?_⟩
  rw [(sameShape_padded (bytes.drop count) hwell).totalLength]
  have hfits := hwell.fits
  rw [hoctets] at hfits
  exact hfits.trans (List.length_take_le _ _)

end Packet

namespace EchoResponder

variable (padding : Octets) {request : Packet} (hwell : request.WellFormed)
include hwell

theorem isRequest_padded : isRequest (request.padded padding) = isRequest request := by
  simp only [isRequest, (Packet.sameShape_padded padding hwell).protocol,
    (Packet.sameShape_padded padding hwell).family, Packet.payload_padded padding hwell,
    Packet.source_padded padding hwell, Packet.destination_padded padding hwell]

theorem turned_padded : turned (request.padded padding) = (turned request).padded padding := by
  rw [turned, Packet.swapAddresses_eq, Packet.source_padded padding hwell,
    Packet.destination_padded padding hwell,
    Packet.moved_padded padding hwell request.family_destination request.family_source,
    ← Packet.swapAddresses_eq,
    Packet.setHops_padded padding (Packet.wellFormed_swapAddresses hwell), turned]

theorem reply_padded (hrequest : isRequest request = true) :
    reply (request.padded padding) = (reply request).padded padding := by
  have hturned := wellFormed_turned hwell
  have hpatched := Packet.wellFormed_withPayload hturned (length_filled hwell hrequest)
  have hflipped : flipped (request.padded padding) = flipped request := by
    rw [flipped, turned_padded padding hwell, Packet.payload_padded padding hturned, flipped]
    rfl
  rw [reply_eq, hflipped, turned_padded padding hwell, Packet.source_padded padding hwell,
    Packet.destination_padded padding hwell, (Packet.sameShape_padded padding hwell).family,
    Packet.withPayload_padded padding hturned, Packet.fillChecksum_padded padding hpatched,
    ← reply_eq]

/-- An answer leaves what follows the request where it is, and does not depend on it. -/
theorem answer?_padded (responder : EchoResponder) :
    responder.answer? (request.padded padding) =
      (responder.answer? request).map (·.padded padding) := by
  rw [answer?, answer?, isRequest_padded padding hwell, Packet.destination_padded padding hwell]
  split_ifs with hwanted
  · rw [reply_padded padding hwell (Bool.and_eq_true_iff.1 hwanted).1]
    rfl
  · rfl

end EchoResponder

end PortalNat
