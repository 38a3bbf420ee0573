import PortalNat.Proofs.Packet.Readdress

/-!
# What readdressing does not look at

Readdressing overwrites the addresses, the ports and the checksums of a packet and computes every
checksum anew. So two packets that differ only in these come out the same, and whatever their
checksums said is lost.
-/

namespace PortalNat

open Octets (AgreeOutside octet word setWord overwrite)

namespace Packet

/-! ## Segments -/

section

variable {protocol : UInt8} {segment other : Octets}
  (hagree : AgreeOutside (portPlaces protocol) segment other)
include hagree

/-- Segments that differ only in ports and checksum are the same once these are blanked. -/
theorem blanked_congr (source destination : Endpoint)
    (hwithin : checksumPlace protocol + 2 ≤ segment.length) :
    blanked (checksumPlace protocol) source destination other =
      blanked (checksumPlace protocol) source destination segment := by
  have hports := checksumPlace_ge protocol
  have hfirst := hagree.setWord_both source.port (show 0 + 2 ≤ segment.length by omega)
  have hlength : (setWord segment 0 source.port).length = segment.length :=
    Octets.length_setWord (by omega) source.port
  have hsecond := hfirst.setWord_both destination.port
    (show 2 + 2 ≤ (setWord segment 0 source.port).length by omega)
  have hlength' : (setWord (setWord segment 0 source.port) 2 destination.port).length =
      segment.length := by
    rw [Octets.length_setWord (by omega), hlength]
  have hthird := hsecond.setWord_both 0 (show checksumPlace protocol + 2 ≤
    (setWord (setWord segment 0 source.port) 2 destination.port).length by omega)
  apply (hthird.mono _).eq_of_empty
  rintro place ⟨⟨⟨hplaces, hzero⟩, htwo⟩, hchecksum⟩
  rcases hplaces with hplaces | hplaces
  · simp only [Set.mem_Ico] at hplaces hzero htwo
    omega
  · exact hchecksum hplaces

theorem rewritePorts_congr (source destination : Endpoint)
    (hcheck : checkPorts protocol segment = .ok ()) :
    rewritePorts protocol source destination other =
      rewritePorts protocol source destination segment := by
  rcases (checkPorts_iff protocol segment).1 hcheck with ⟨rfl, htcp⟩ | ⟨rfl, hudp⟩
  · have hlong := ((tcp_check_iff segment).1 htcp).1
    have hblanked := blanked_congr hagree source destination (hlong.trans' (by decide))
    exact congrArg (fun cleared => setWord cleared 16 <|
      Checksum.transport source.address destination.address Protocol.tcp cleared) hblanked
  · have hlong := ((udp_check_iff segment).1 hudp).1
    have hblanked := blanked_congr hagree source destination (hlong.trans' (by decide))
    exact congrArg (fun cleared => setWord cleared 6 <| UDP.nonzero <|
      Checksum.transport source.address destination.address Protocol.udp (UDP.datagram cleared))
      hblanked

end

/-- The ports and the checksum of a checked segment stand inside of it. -/
theorem portPlaces_lt {protocol : UInt8} {segment : Octets}
    (hcheck : checkPorts protocol segment = .ok ()) {place : Nat}
    (hplace : place ∈ portPlaces protocol) : place < segment.length := by
  rcases (checkPorts_iff protocol segment).1 hcheck with ⟨rfl, htcp⟩ | ⟨rfl, hudp⟩
  · have hlong : 20 ≤ segment.length := ((tcp_check_iff segment).1 htcp).1
    rw [portPlaces_tcp] at hplace
    rcases hplace with hplace | hplace <;> exact hplace.2.trans_le (hlong.trans' (by decide))
  · have hlong : 8 ≤ segment.length := ((udp_check_iff segment).1 hudp).1
    rw [portPlaces_udp] at hplace
    rcases hplace with hplace | hplace <;> exact hplace.2.trans_le (hlong.trans' (by decide))

/-! ## Packets -/

section

variable {packet other : Packet} (hwell : packet.WellFormed)
  (hfamily : other.family = packet.family)
include hwell hfamily

/-- What packets differ in behind the header is what their payloads differ in. -/
theorem payload_of_addressing {inside : Set Nat}
    (hagree : AgreeOutside (packet.family.addressPlaces ∪ (packet.headerLength + ·) '' inside)
      packet.octets other.octets) :
    AgreeOutside inside packet.payload other.payload := by
  have hshape := sameShape_of_addressing hwell hfamily hagree
  rw [payload_eq, payload_eq, hshape.headerLength, hshape.totalLength]
  apply ((hagree.take packet.totalLength).drop packet.headerLength).mono
  rintro place (haddress | ⟨offset, hoffset, hsame⟩)
  · have hless := packet.family.addressPlaces_lt haddress
    exact absurd (hwell.least.trans (Nat.le_add_right _ _)) (not_le.2 hless)
  · rwa [Nat.add_left_cancel hsame] at hoffset

variable (hagree : AgreeOutside packet.addressing packet.octets other.octets)
include hagree

/-- With the same addresses, packets differ at most in ports and checksums. -/
theorem moved_congr {source destination : Address} (hsource : source.family = packet.family)
    (hdestination : destination.family = packet.family) :
    AgreeOutside
      (packet.family.checksumPlaces ∪ (packet.headerLength + ·) '' portPlaces packet.protocol)
      (packet.moved source destination).octets (other.moved source destination).octets := by
  have hlong := hwell.long
  have hlength (address : Address) (hsame : address.family = packet.family) :
      address.octets.length = packet.family.addressLength := by
    rw [Address.length_octets, hsame]
  have hsourceEnd := packet.family.source_within.trans hlong
  have hdestinationEnd := packet.family.destination_within.trans hlong
  have hfirst := hagree.overwrite_both source.octets
    (show packet.family.sourcePlace + source.octets.length ≤ packet.octets.length by
      rw [hlength source hsource]; exact hsourceEnd)
  have hsecond := hfirst.overwrite_both destination.octets
    (show packet.family.destinationPlace + destination.octets.length ≤ _ by
      rw [Octets.length_overwrite (by rw [hlength source hsource]; exact hsourceEnd),
        hlength destination hdestination]
      exact hdestinationEnd)
  rw [hlength source hsource, hlength destination hdestination] at hsecond
  have hmoved : other.moved source destination =
      ⟨other.family, overwrite (overwrite other.octets packet.family.sourcePlace source.octets)
        packet.family.destinationPlace destination.octets⟩ := by
    rw [← hfamily]
    rfl
  rw [hmoved]
  apply hsecond.mono
  rintro place ⟨⟨haddress | hport, hnotSource⟩, hnotDestination⟩
  · left
    cases hversion : packet.family <;> rw [hversion] at haddress hnotSource hnotDestination <;>
      simp [Family.addressPlaces, Family.sourcePlace, Family.destinationPlace,
        Family.addressLength, Family.checksumPlaces] at haddress hnotSource hnotDestination ⊢ <;>
      omega
  · exact .inr hport

end

theorem fillChecksum_congr {packet other : Packet} (hwell : packet.WellFormed)
    (hfamily : other.family = packet.family)
    (hagree : AgreeOutside packet.family.checksumPlaces packet.octets other.octets) :
    other.fillChecksum = packet.fillChecksum := by
  have hlong := hwell.long
  rcases packet with ⟨family, octets⟩
  rcases other with ⟨family', octets'⟩
  have hsame : family' = family := hfamily
  subst hsame
  cases family' with
  | v4 =>
      change 20 ≤ octets.length at hlong
      have hcleared := hagree.setWord_both 0 (show 10 + 2 ≤ octets.length by omega)
      have hheader : IPv4.headerLength octets' = IPv4.headerLength octets := by
        rw [IPv4.headerLength, IPv4.headerLength,
          hagree.octet (by simp [Family.checksumPlaces])]
      have heq : setWord octets' 10 0 = setWord octets 10 0 := by
        apply hcleared.eq
        rintro place - ⟨hinside, houtside⟩
        exact houtside hinside
      simp only [fillChecksum, IPv4.fillChecksum, heq, hheader]
  | v6 => exact congrArg (Packet.mk .v6) (hagree.eq fun _ _ hplace => hplace)

/-- What a packet is once its payload is replaced and its checksum filled in does not depend on
either. -/
theorem restated_congr {packet other : Packet} {inside : Set Nat} {payload : Octets}
    (hwell : packet.WellFormed) (hfamily : other.family = packet.family)
    (hagree : AgreeOutside (packet.family.checksumPlaces ∪ (packet.headerLength + ·) '' inside)
      packet.octets other.octets)
    (hlength : payload.length = packet.payload.length)
    (hinside : ∀ place ∈ inside, place < payload.length) :
    (other.withPayload payload).fillChecksum = (packet.withPayload payload).fillChecksum := by
  have hwider := hagree.mono (Set.union_subset_union_left _ packet.family.checksumPlaces_subset)
  have hshape := sameShape_of_addressing hwell hfamily hwider
  have hother := wellFormed_of_addressing hwell hfamily hwider
  have hlength' : payload.length = other.payload.length := by
    rw [hlength, hshape.length_payload hwell hother]
  refine fillChecksum_congr (wellFormed_withPayload hwell hlength) hfamily ?_
  rw [hwell.withPayload_octets hlength, hother.withPayload_octets hlength', hshape.headerLength]
  apply (hagree.overwrite_both payload _).mono
  · rintro place ⟨hchecksum | ⟨offset, hoffset, rfl⟩, houtside⟩
    · exact hchecksum
    · exact absurd ⟨Nat.le_add_right _ _, Nat.add_lt_add_left (hinside offset hoffset) _⟩ houtside
  · rw [hlength, hwell.length_payload, Nat.add_sub_cancel' hwell.headed]
    exact hwell.fits

/-- Two packets that differ only in addresses, ports and checksums are readdressed alike. -/
theorem rewriteEndpoints_congr {packet other : Packet} (hwell : packet.WellFormed)
    (hfamily : other.family = packet.family)
    (hagree : AgreeOutside packet.addressing packet.octets other.octets)
    (source destination : Endpoint) :
    other.rewriteEndpoints source destination = packet.rewriteEndpoints source destination := by
  have hshape := sameShape_of_addressing hwell hfamily hagree
  have hpayload := payload_of_addressing hwell hfamily hagree
  have hports : checkPorts other.protocol other.payload =
      checkPorts packet.protocol packet.payload := by
    rw [hshape.protocol, checkPorts_congr hpayload]
  cases hmatch : mismatch? packet.family [source.address, destination.address] with
  | some address =>
      simp only [rewriteEndpoints, hfamily, hmatch, bind, Except.bind]
      rfl
  | none =>
      obtain ⟨hsource, hdestination⟩ := (mismatch?_eq_none_iff packet.family _ _).1 hmatch
      cases hcheck : checkPorts packet.protocol packet.payload with
      | error error =>
          simp only [rewriteEndpoints, hfamily, hmatch, hports, hcheck, bind, Except.bind]
      | ok =>
          have hother := wellFormed_of_addressing hwell hfamily hagree
          have hsource' : source.address.family = other.family := by rw [hfamily, hsource]
          have hdestination' : destination.address.family = other.family := by
            rw [hfamily, hdestination]
          have hlength := (reported_rewritePorts source destination hcheck
            hwell.length_payload_le).agree.length
          have hmoved := moved_congr hwell hfamily hagree hsource hdestination
          have hsame := sameShape_moved hwell hsource hdestination
          rw [rewriteEndpoints_eq hwell hsource hdestination hcheck,
            rewriteEndpoints_eq hother hsource' hdestination' (by rw [hports, hcheck]),
            hshape.protocol, rewritePorts_congr hpayload source destination hcheck]
          apply congrArg Except.ok
          rw [← hsame.headerLength] at hmoved
          refine restated_congr (wellFormed_moved hwell hsource hdestination) hfamily hmoved ?_ ?_
          · rw [hlength, payload_moved hwell hsource hdestination]
          · intro place hplace
            rw [hlength]
            exact portPlaces_lt hcheck hplace

end Packet

end PortalNat
