import PortalNat.Proofs.Packet.Carried
import PortalNat.Proofs.Packet.Readdress

/-!
# Packets with one octet altered

An octet of a message counts once or 256 times in the sum that its checksum is made of, and neither
can make up a multiple of 65535 unless the octet stays what it is. So a message whose checksum is
right and one of whose octets is altered behind its header, in one bit or in several, is still read
in the same way, but its checksum is not right any more.
-/

namespace PortalNat

open Octets (AgreeOutside octet overwrite setOctet)

/-! ## Octets -/

namespace Octets

/-- Octets one bit of which is inverted, the lowest bit of an octet being the first. -/
def flipBit (bytes : Octets) (place : Nat) (bit : Fin 8) : Octets :=
  setOctet bytes place (octet bytes place ^^^ 1 <<< UInt8.ofNat bit)

theorem flipped_ne (value : UInt8) (bit : Fin 8) : value ^^^ 1 <<< UInt8.ofNat bit ≠ value := by
  have hmask : ∀ bit : Fin 8, (1 : UInt8) <<< UInt8.ofNat bit ≠ 0 := by decide
  intro hsame
  apply hmask bit
  rwa [← UInt8.xor_right_inj value, UInt8.xor_zero]

theorem setOctet_eq_set {bytes : Octets} {place : Nat} (hplace : place < bytes.length)
    (value : UInt8) : setOctet bytes place value = bytes.set place value := by
  rw [List.set_eq_take_append_cons_drop, if_pos hplace, setOctet, overwrite, List.append_assoc]
  rfl

/-- What is changed behind the first octets is changed in the rest. -/
theorem drop_overwrite_add {bytes patch : Octets} {count offset : Nat}
    (hwithin : count + offset + patch.length ≤ bytes.length) :
    (overwrite bytes (count + offset) patch).drop count =
      overwrite (bytes.drop count) offset patch := by
  apply List.ext_getElem?
  intro place
  rw [List.getElem?_drop, getElem?_overwrite hwithin,
    getElem?_overwrite (by rw [List.length_drop]; omega), List.getElem?_drop]
  by_cases hinside : offset ≤ place ∧ place < offset + patch.length
  · rw [if_pos (by omega), if_pos hinside]
    congr 1
    omega
  · rw [if_neg (by omega), if_neg hinside]

/-- A word in front of an octet does not depend on it. -/
theorem word_setOctet {bytes : Octets} {offset place : Nat} (hbefore : offset + 1 < place)
    (hplace : place < bytes.length) (value : UInt8) :
    word (setOctet bytes place value) offset = word bytes offset := by
  apply (AgreeOutside.setOctet bytes place hplace value).word <;>
    rw [Set.mem_singleton_iff] <;> omega

end Octets

/-! ## Sums -/

namespace Checksum

/-- What an octet counts in the sum of a region, by its place. -/
def weight (place : Nat) : Nat :=
  if place % 2 = 0 then 256 else 1

theorem total_set {region : Octets} {place : Nat} (hplace : place < region.length)
    (value : UInt8) :
    total (region.set place value) + weight place * region[place].toNat =
      total region + weight place * value.toNat := by
  have hfirst : weight 0 = 256 := rfl
  have hsecond : weight (0 + 1) = 1 := rfl
  fun_induction total region generalizing place with
  | case1 high low rest ih =>
      rcases place with _ | _ | place
      · simp only [List.set_cons_zero, List.getElem_cons_zero, total, Octets.toNat_joinWord, hfirst]
        omega
      · simp only [List.set_cons_succ, List.set_cons_zero, List.getElem_cons_succ,
          List.getElem_cons_zero, total, Octets.toNat_joinWord, hsecond]
        omega
      · have hrest : place < rest.length := by simpa using hplace
        have hweight : weight (place + 1 + 1) = weight place := by
          rw [weight, weight, Nat.add_assoc, Nat.add_mod_right]
        have hset := ih hrest
        simp only [List.set_cons_succ, List.getElem_cons_succ, total, hweight]
        omega
  | case2 last =>
      rw [List.length_singleton, Nat.lt_one_iff] at hplace
      subst hplace
      simp only [List.set_cons_zero, List.getElem_cons_zero, total, Octets.toNat_joinWord, hfirst]
      omega
  | case3 => cases hplace

/-- Storing an octet exchanges its share of the sum. -/
theorem total_setOctet {region : Octets} {place : Nat} (hplace : place < region.length)
    (value : UInt8) :
    total (setOctet region place value) + weight place * (octet region place).toNat =
      total region + weight place * value.toNat := by
  have hheld : octet region place = region[place] := by
    rw [octet, List.getD_eq_getElem?_getD, List.getElem?_eq_getElem hplace, Option.getD_some]
  rw [Octets.setOctet_eq_set hplace, hheld, total_set hplace]

/-- A region that verifies does so no longer once one of its octets is another. -/
theorem verify_setOctet {accumulator : UInt32} {region : Octets} {place : Nat} {value : UInt8}
    (hfits : accumulator.toNat + total region + 65535 < 0x100000000)
    (hverify : verify accumulator region = true) (hplace : place < region.length)
    (hother : value ≠ octet region place) :
    verify accumulator (setOctet region place value) = false := by
  have htotal := total_setOctet hplace value
  have hheld := (octet region place).toNat_lt
  have hvalue := value.toNat_lt
  have hne : value.toNat ≠ (octet region place).toNat := UInt8.toNat_inj.not.2 hother
  rw [verify_iff (by omega)] at hverify
  rw [Bool.eq_false_iff, Ne, verify_iff]
  · rintro ⟨-, hmultiple⟩
    unfold weight at htotal
    split_ifs at htotal <;> omega
  · unfold weight at htotal
    split_ifs at htotal <;> omega

end Checksum

/-! ## Carriers -/

namespace Carrier

section

variable {carrier : Carrier} {bytes : Octets} {place : Nat}
  (hcheck : carrier.check bytes = .ok ()) (hbehind : carrier.headerLength bytes ≤ place)
  (hplace : place < (carrier.covered bytes).length) (value : UInt8)
include hcheck hbehind hplace

/-- Behind its header a carrier has nothing that tells how long the header is. -/
theorem headerLength_setOctet :
    carrier.headerLength (setOctet bytes place value) = carrier.headerLength bytes := by
  have hagree := AgreeOutside.setOctet bytes place
    (hplace.trans_le (carrier.length_covered_le bytes)) value
  cases carrier with
  | ipv4Header => exact absurd (hplace.trans_le (List.length_take_le _ _)) (not_lt.2 hbehind)
  | tcp =>
      have hleast : 20 ≤ place := ((Packet.tcp_check_iff bytes).1 hcheck).2.1.trans hbehind
      have hoffset : 12 ∉ ({place} : Set Nat) := by rw [Set.mem_singleton_iff]; omega
      change TCP.headerLength _ = TCP.headerLength _
      rw [TCP.headerLength, TCP.headerLength, hagree.octet hoffset]
  | udp | icmp | icmpV6 => rfl

theorem covered_setOctet :
    carrier.covered (setOctet bytes place value) =
      setOctet (carrier.covered bytes) place value := by
  have hwithin := hplace.trans_le (carrier.length_covered_le bytes)
  cases carrier with
  | ipv4Header => exact absurd (hplace.trans_le (List.length_take_le _ _)) (not_lt.2 hbehind)
  | udp =>
      have hleast : 8 ≤ place := hbehind
      have hlength : UDP.length (setOctet bytes place value) = UDP.length bytes :=
        Octets.word_setOctet (by omega) hwithin value
      obtain ⟨-, -, hfits⟩ := (Packet.udp_check_iff bytes).1 hcheck
      change UDP.datagram _ = setOctet (UDP.datagram _) _ _
      rw [UDP.datagram, UDP.datagram, hlength]
      exact Octets.take_overwrite (hplace.trans_le (List.length_take_le _ _)) hfits
  | tcp | icmp | icmpV6 => rfl

theorem excused_setOctet (source : Address) :
    carrier.Excused source (setOctet bytes place value) ↔ carrier.Excused source bytes := by
  cases carrier with
  | udp =>
      have hleast : 8 ≤ place := hbehind
      have hstored : UDP.storedChecksum (setOctet bytes place value) =
          UDP.storedChecksum bytes :=
        Octets.word_setOctet (by omega) (hplace.trans_le (udp.length_covered_le bytes)) value
      rw [Excused, Excused, hstored]
  | ipv4Header | tcp | icmp | icmpV6 => simp [Excused]

/-- A carrier with another octet behind its header is not intact. -/
theorem intact_setOctet {source : Address} (destination : Address)
    (hsummed : ¬carrier.Excused source bytes) (hlength : (carrier.covered bytes).length ≤ 65535)
    (hintact : carrier.intact source destination bytes = true)
    (hother : value ≠ octet bytes place) :
    carrier.intact source destination (setOctet bytes place value) = false := by
  have htotal := Checksum.total_le (carrier.covered bytes)
  have hseed := toNat_seed_lt source destination carrier (carrier.covered bytes).length
  rw [intact_eq destination hsummed] at hintact
  rw [intact_eq destination ((excused_setOctet hcheck hbehind hplace value source).not.2 hsummed),
    verifies, covered_setOctet hcheck hbehind hplace value, Octets.length_setOctet hplace]
  apply Checksum.verify_setOctet (by omega) hintact hplace
  rwa [octet_covered hplace]

end

section

variable {carrier : Carrier} {bytes : Octets} {place : Nat}
  (hplace : place < (carrier.data bytes).length)
include hplace

theorem data_within : carrier.headerLength bytes + place < (carrier.covered bytes).length := by
  rw [data_eq, List.length_drop] at hplace
  omega

theorem octet_data :
    octet (carrier.data bytes) place = octet bytes (carrier.headerLength bytes + place) := by
  rw [data_eq, Octets.octet_drop, octet_covered (data_within hplace)]

/-- A bit inverted behind the header is one inverted in what the carrier conveys. -/
theorem data_flipBit (hcheck : carrier.check bytes = .ok ()) (bit : Fin 8) :
    carrier.data (Octets.flipBit bytes (carrier.headerLength bytes + place) bit) =
      Octets.flipBit (carrier.data bytes) place bit := by
  have hcovered := data_within hplace
  have hbehind := Nat.le_add_right (carrier.headerLength bytes) place
  rw [Octets.flipBit, Octets.flipBit, octet_data hplace, data_eq, data_eq,
    covered_setOctet hcheck hbehind hcovered, headerLength_setOctet hcheck hbehind hcovered]
  exact Octets.drop_overwrite_add hcovered

end

end Carrier

/-! ## Packets -/

namespace Packet

section

variable {packet : Packet} (hwell : packet.WellFormed) {place : Nat}
  (hplace : place < packet.payload.length)
include hwell hplace

/-- A bit inverted in the payload of a packet is one inverted in its buffer. -/
theorem withPayload_flipBit (bit : Fin 8) :
    (packet.withPayload (Octets.flipBit packet.payload place bit)).octets =
      Octets.flipBit packet.octets (packet.headerLength + place) bit := by
  have hheader := hwell.length_header
  have hheld : octet packet.payload place = octet packet.octets (packet.headerLength + place) := by
    rw [hwell.length_payload] at hplace
    rw [payload_eq, Octets.octet_drop, Octets.octet_take (by omega)]
  have hwhole : packet.header ++ packet.payload ++ packet.trailer = packet.octets :=
    congrArg Packet.octets (withPayload_payload hwell)
  rw [Octets.flipBit, Octets.flipBit, hheld]
  change packet.header ++ overwrite packet.payload place [_] ++ packet.trailer = _
  rw [Octets.append_overwrite, hheader, ← Octets.overwrite_append, hwhole]
  · rfl
  · rw [List.length_append, List.length_singleton]
    omega

end

/-- Whatever octet of what it conveys is another one, the message of a packet is not intact any
more. -/
theorem transportIntact_setOctet {packet : Packet} {carrier : Carrier} (hwell : packet.WellFormed)
    (hcarrier : Carrier.ofProtocol? packet.protocol = some carrier)
    (hintact : packet.transportIntact = true)
    (hsummed : ¬carrier.Excused packet.source packet.payload) {place : Nat}
    (hplace : place < (carrier.data packet.payload).length) {value : UInt8}
    (hother : value ≠ octet packet.payload (carrier.headerLength packet.payload + place)) :
    (packet.withPayload (setOctet packet.payload
      (carrier.headerLength packet.payload + place) value)).transportIntact = false := by
  obtain ⟨hcheck, hmessage⟩ := (transportIntact_iff hcarrier).1 hintact
  have hcovered := Carrier.data_within hplace
  have hlength := carrier.length_covered_le packet.payload
  have hsame : (setOctet packet.payload (carrier.headerLength packet.payload + place)
      value).length = packet.payload.length :=
    Octets.length_setOctet (hcovered.trans_le hlength) value
  have haltered := (sameShape_withPayload hwell hsame).protocol
  rw [← haltered] at hcarrier
  rw [transportIntact_eq hcarrier, payload_withPayload hwell hsame, source_withPayload hwell hsame,
    destination_withPayload hwell hsame,
    Carrier.intact_setOctet hcheck (Nat.le_add_right _ _) hcovered value packet.destination hsummed
      (hlength.trans hwell.length_payload_le) hmessage hother, Bool.and_false]

end Packet

/-- Inverting any bit of what a packet with right checksums conveys behind the header of its
message leaves a packet that conveys just that, and whose checksums are not all right: unless the
message is a datagram over IPv4 for which nobody computed a checksum. -/
theorem checksumsValid_flipBit {bytes : Octets} {packet : Packet} {carrier : Carrier}
    (hparse : Packet.parse bytes = .ok packet) (hvalid : checksumsValid bytes = true)
    (hcarrier : Carrier.ofProtocol? packet.protocol = some carrier)
    (hsummed : ¬carrier.Excused packet.source packet.payload) {place : Nat}
    (hplace : place < (carrier.data packet.payload).length) (bit : Fin 8) :
    ∃ altered : Packet,
      altered.octets = Octets.flipBit bytes
        (packet.headerLength + (carrier.headerLength packet.payload + place)) bit ∧
      Packet.parse altered.octets = .ok altered ∧
      carrier.data altered.payload = Octets.flipBit (carrier.data packet.payload) place bit ∧
      checksumsValid altered.octets = false := by
  obtain ⟨rfl, hwell⟩ := Packet.wellFormed_of_parse hparse
  rw [checksumsValid, hparse] at hvalid
  have hintact := (Bool.and_eq_true_iff.1 hvalid).2
  obtain ⟨hcheck, -⟩ := (Packet.transportIntact_iff hcarrier).1 hintact
  have hwithin := (Carrier.data_within hplace).trans_le (carrier.length_covered_le packet.payload)
  set message := Octets.flipBit packet.payload (carrier.headerLength packet.payload + place) bit
  have hlength : message.length = packet.payload.length := Octets.length_setOctet hwithin _
  have haltered := Packet.wellFormed_withPayload hwell hlength
  refine ⟨packet.withPayload message, Packet.withPayload_flipBit hwell hwithin bit, haltered.parse,
    ?_, ?_⟩
  · rw [Packet.payload_withPayload hwell hlength]
    exact Carrier.data_flipBit hplace hcheck bit
  · have hbroken : (packet.withPayload message).transportIntact = false :=
      Packet.transportIntact_setOctet hwell hcarrier hintact hsummed hplace
        (Octets.flipped_ne _ bit)
    rw [checksumsValid, haltered.parse]
    exact Bool.and_eq_false_iff.2 (.inr hbroken)

/-- A packet whose datagram conveys three octets and is followed by one that it does not cover. -/
def threeOctets : Octets :=
  [0x45, 0, 0, 32, 0, 0, 0x40, 0, 64, 17, 0x26, 0xcb, 10, 0, 0, 2, 10, 0, 0, 1,
    0x14, 0xe9, 0, 53, 0, 11, 0x12, 0x55, 0x61, 0x62, 0x63, 0x7a]

theorem checksumsValid_flipBit_threeOctets :
    Packet.parse threeOctets = .ok ⟨.v4, threeOctets⟩ ∧ checksumsValid threeOctets = true ∧
      ∃ altered : Packet,
        altered.octets = [0x45, 0, 0, 32, 0, 0, 0x40, 0, 64, 17, 0x26, 0xcb, 10, 0, 0, 2, 10, 0, 0,
          1, 0x14, 0xe9, 0, 53, 0, 11, 0x12, 0x55, 0x61, 0x62, 0xe3, 0x7a] ∧
        Packet.parse altered.octets = .ok altered ∧
        UDP.payload altered.payload = [0x61, 0x62, 0xe3] ∧
        checksumsValid altered.octets = false := by
  have hparse : Packet.parse threeOctets = .ok ⟨.v4, threeOctets⟩ := by decide
  have hvalid : checksumsValid threeOctets = true := by cbv
  have hsummed : ¬Carrier.Excused (Packet.mk .v4 threeOctets).source .udp
      (Packet.mk .v4 threeOctets).payload := fun hexcused => absurd hexcused.2.2 (by decide)
  exact ⟨hparse, hvalid,
    @checksumsValid_flipBit _ _ .udp hparse hvalid (by decide) hsummed 2 (by decide) 7⟩

end PortalNat
