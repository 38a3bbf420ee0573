import Mathlib.Tactic.Set
import PortalNat.Proofs.Checksum
import PortalNat.Proofs.Packet.Shape

/-!
# Filling in a checksum

Five things carry a checksum: the header of an IPv4 packet and the messages of four protocols. They
differ in where the checksum stands, in what it covers, in what the sum of that starts from and in
how the outcome is spelled. Filling it in is one procedure apart from that: the field is cleared,
what is covered is summed up, and the complement is stored. The result depends on nothing that was
in the field, and it verifies.
-/

namespace PortalNat

open Octets (AgreeOutside word setWord overwrite)

/-! ## Checked messages -/

namespace Packet

theorem tcp_check_iff (segment : Octets) :
    TCP.check segment = .ok () ↔
      TCP.minimumLength ≤ segment.length ∧ TCP.minimumLength ≤ TCP.headerLength segment ∧
        TCP.headerLength segment ≤ segment.length := by
  unfold TCP.check
  split_ifs with hshort hoffset
  · simp [hshort]
  · simp only [false_iff]
    omega
  · simp only [true_iff]
    omega

theorem udp_check_iff (segment : Octets) :
    UDP.check segment = .ok () ↔
      UDP.headerLength ≤ segment.length ∧ UDP.headerLength ≤ (UDP.length segment).toNat ∧
        (UDP.length segment).toNat ≤ segment.length := by
  unfold UDP.check
  split_ifs with hshort hlength
  · simp [hshort]
  · simp only [false_iff]
    omega
  · simp only [true_iff]
    omega

theorem icmp_check_iff (message : Octets) :
    ICMP.check message = .ok () ↔ ICMP.headerLength ≤ message.length := by
  unfold ICMP.check
  split_ifs with hshort
  · simp [hshort]
  · simpa using hshort

end Packet

/-! ## Carriers -/

inductive Carrier where
  | ipv4Header
  | tcp
  | udp
  | icmp
  | icmpV6
deriving DecidableEq, Repr

namespace Carrier

def check : Carrier → Octets → Except PacketError Unit
  | ipv4Header => IPv4.check
  | tcp => TCP.check
  | udp => UDP.check
  | icmp | icmpV6 => ICMP.check

def intact (source destination : Address) : Carrier → Octets → Bool
  | ipv4Header => IPv4.checksumOk
  | tcp => TCP.checksumOk source destination
  | udp => UDP.checksumOk source destination
  | icmp => ICMP.checksumOkV4
  | icmpV6 => ICMP.checksumOkV6 source destination

def fill (source destination : Address) : Carrier → Octets → Octets
  | ipv4Header => IPv4.fillChecksum
  | tcp => TCP.fillChecksum source destination
  | udp => UDP.fillChecksum source destination
  | icmp => ICMP.fillChecksumV4
  | icmpV6 => ICMP.fillChecksumV6 source destination

def place : Carrier → Nat
  | ipv4Header => 10
  | tcp => 16
  | udp => 6
  | icmp | icmpV6 => 2

def field (carrier : Carrier) : Set Nat :=
  Set.Ico carrier.place (carrier.place + 2)

/-- The octets that the checksum covers: not the payload of an IPv4 packet, and nothing behind a UDP
datagram. -/
def covered : Carrier → Octets → Octets
  | ipv4Header, bytes => IPv4.header bytes
  | udp, bytes => UDP.datagram bytes
  | tcp, bytes | icmp, bytes | icmpV6, bytes => bytes

/-- What the sum of the covered octets starts from, given how many these are. -/
def seed (source destination : Address) : Carrier → Nat → UInt32
  | ipv4Header, _ | icmp, _ => 0
  | tcp, length => Checksum.pseudoHeader source destination Protocol.tcp length
  | udp, length => Checksum.pseudoHeader source destination Protocol.udp length
  | icmpV6, length => Checksum.pseudoHeader source destination Protocol.icmpV6 length

def spell : Carrier → UInt16 → UInt16
  | udp, checksum => UDP.nonzero checksum
  | ipv4Header, checksum | tcp, checksum | icmp, checksum | icmpV6, checksum => checksum

/-- Whether the sum of a carrier comes out right, even where it is excused from that. -/
def verifies (source destination : Address) (carrier : Carrier) (bytes : Octets) : Bool :=
  Checksum.verify (carrier.seed source destination (carrier.covered bytes).length)
    (carrier.covered bytes)

/-- The value that goes into the field of a carrier whose checksum is cleared. -/
def value (source destination : Address) (carrier : Carrier) (cleared : Octets) : UInt16 :=
  carrier.spell <| Checksum.checksum
    (carrier.seed source destination (carrier.covered cleared).length) (carrier.covered cleared)

theorem intact_of_verifies {source destination : Address} {carrier : Carrier} {bytes : Octets}
    (hverifies : carrier.verifies source destination bytes = true) :
    carrier.intact source destination bytes = true := by
  cases carrier with
  | udp => exact Bool.or_eq_true_iff.2 (.inr hverifies)
  | ipv4Header | tcp | icmp | icmpV6 => exact hverifies

/-- A checksum of either spelling completes what it is the checksum of. -/
theorem completes_spell (carrier : Carrier) (accumulator : UInt32) (region : Octets) :
    Checksum.Completes accumulator region
      (carrier.spell (Checksum.checksum accumulator region)) := by
  cases carrier with
  | udp =>
      change Checksum.Completes accumulator region (UDP.nonzero _)
      unfold UDP.nonzero
      split_ifs with hzero
      · exact .inr ⟨hzero, rfl⟩
      · exact .inl rfl
  | ipv4Header | tcp | icmp | icmpV6 => exact .inl rfl

theorem toNat_seed_lt (source destination : Address) (carrier : Carrier) (length : Nat) :
    (carrier.seed source destination length).toNat < 0x200000 := by
  cases carrier with
  | ipv4Header | icmp =>
      change (0 : UInt32).toNat < 0x200000
      decide
  | tcp | udp | icmpV6 => exact Checksum.toNat_pseudoHeader_lt ..

section

variable {carrier : Carrier} {bytes : Octets}

/-! ## The field stands apart -/

theorem length_covered_le (carrier : Carrier) (bytes : Octets) :
    (carrier.covered bytes).length ≤ bytes.length := by
  cases carrier with
  | ipv4Header | udp => exact List.length_take_le' _ _
  | tcp | icmp | icmpV6 => exact le_rfl

/-- A checked carrier covers its own field. -/
theorem place_within (hcheck : carrier.check bytes = .ok ()) :
    carrier.place + 2 ≤ (carrier.covered bytes).length := by
  cases carrier with
  | ipv4Header =>
      have hwell := (Packet.check_v4_iff bytes).1 hcheck
      have hheader := hwell.length_header
      have hleast := hwell.least
      change 12 ≤ (Packet.header ⟨.v4, bytes⟩).length
      change 20 ≤ _ at hleast
      omega
  | tcp => exact ((Packet.tcp_check_iff bytes).1 hcheck).1.trans' (by decide)
  | udp =>
      obtain ⟨-, hheader, hfits⟩ := (Packet.udp_check_iff bytes).1 hcheck
      change 8 ≤ (bytes.take (UDP.length bytes).toNat).length
      rw [List.length_take_of_le hfits]
      exact hheader
  | icmp | icmpV6 => exact ((Packet.icmp_check_iff bytes).1 hcheck).trans' (by decide)

theorem headerLength_congr {other : Octets} (hagree : AgreeOutside ipv4Header.field bytes other) :
    IPv4.headerLength other = IPv4.headerLength bytes := by
  rw [IPv4.headerLength, IPv4.headerLength, hagree.octet (by simp [field, place])]

theorem udp_length_congr {other : Octets} (hagree : AgreeOutside udp.field bytes other) :
    UDP.length other = UDP.length bytes :=
  hagree.word (by simp [field, place]) (by simp [field, place])

variable {other : Octets} (hagree : AgreeOutside carrier.field bytes other)
include hagree

theorem check_congr : carrier.check other = carrier.check bytes := by
  cases carrier with
  | ipv4Header =>
      have hversion : IPv4.version other = IPv4.version bytes :=
        congrArg (· / 16) (hagree.octet (by simp [field, place]))
      have htotal : IPv4.totalLength other = IPv4.totalLength bytes :=
        hagree.word (by simp [field, place]) (by simp [field, place])
      change IPv4.check other = IPv4.check bytes
      rw [IPv4.check, IPv4.check, hversion, headerLength_congr hagree, htotal, hagree.length]
  | tcp =>
      have hoffset : TCP.headerLength other = TCP.headerLength bytes := by
        rw [TCP.headerLength, TCP.headerLength, hagree.octet (by simp [field, place])]
      change TCP.check other = TCP.check bytes
      rw [TCP.check, TCP.check, hoffset, hagree.length]
  | udp =>
      change UDP.check other = UDP.check bytes
      rw [UDP.check, UDP.check, udp_length_congr hagree, hagree.length]
  | icmp | icmpV6 =>
      change ICMP.check other = ICMP.check bytes
      rw [ICMP.check, ICMP.check, hagree.length]

/-- Cleared of their checksums, carriers that differ in nothing else are the same. -/
theorem cleared_congr (hwithin : carrier.place + 2 ≤ bytes.length) :
    setWord other carrier.place 0 = setWord bytes carrier.place 0 := by
  apply ((hagree.setWord_both 0 hwithin).mono _).eq_of_empty
  rintro place ⟨hinside, houtside⟩
  exact houtside hinside

end

/-! ## Filling -/

section

variable {carrier : Carrier} {bytes : Octets} (source destination : Address)
  (hcheck : carrier.check bytes = .ok ())
include hcheck

theorem place_within_length : carrier.place + 2 ≤ bytes.length :=
  (place_within hcheck).trans (carrier.length_covered_le bytes)

theorem agree_setWord (stored : UInt16) :
    AgreeOutside carrier.field bytes (setWord bytes carrier.place stored) :=
  .setWord bytes carrier.place (place_within_length hcheck) stored

theorem covered_setWord (stored : UInt16) :
    carrier.covered (setWord bytes carrier.place stored) =
      setWord (carrier.covered bytes) carrier.place stored := by
  have hagree := agree_setWord hcheck stored
  have hwithin := place_within hcheck
  cases carrier with
  | ipv4Header =>
      have hwell := (Packet.check_v4_iff bytes).1 hcheck
      simp only [covered, IPv4.header, headerLength_congr hagree]
      exact Octets.take_overwrite (hwithin.trans (List.length_take_le _ _))
        (hwell.headed.trans hwell.fits)
  | udp =>
      obtain ⟨-, -, hfits⟩ := (Packet.udp_check_iff bytes).1 hcheck
      simp only [covered, UDP.datagram, udp_length_congr hagree]
      exact Octets.take_overwrite (hwithin.trans (List.length_take_le _ _)) hfits
  | tcp | icmp | icmpV6 => rfl

/-- Whatever it is in, a checksum is filled in by the same procedure. -/
theorem fill_eq :
    carrier.fill source destination bytes =
      setWord (setWord bytes carrier.place 0) carrier.place
        (carrier.value source destination (setWord bytes carrier.place 0)) := by
  cases carrier with
  | ipv4Header =>
      have hlength := headerLength_congr (agree_setWord hcheck 0)
      simp only [value, covered, IPv4.header, hlength]
      rfl
  | tcp | udp | icmp | icmpV6 => rfl

/-- What the field held plays no part. -/
theorem fill_congr {other : Octets} (hagree : AgreeOutside carrier.field bytes other) :
    carrier.fill source destination other = carrier.fill source destination bytes := by
  have hother : carrier.check other = .ok () := (check_congr hagree).trans hcheck
  rw [fill_eq source destination hother, fill_eq source destination hcheck,
    cleared_congr hagree (place_within_length hcheck)]

theorem agree_fill : AgreeOutside carrier.field bytes (carrier.fill source destination bytes) := by
  have hcleared := agree_setWord hcheck 0
  rw [fill_eq source destination hcheck]
  exact hcleared.trans (agree_setWord ((check_congr hcleared).trans hcheck) _)

theorem word_fill :
    word (carrier.fill source destination bytes) carrier.place =
      carrier.value source destination (setWord bytes carrier.place 0) := by
  rw [fill_eq source destination hcheck]
  apply Octets.word_setWord
  rw [(agree_setWord hcheck 0).length]
  exact place_within_length hcheck

/-- Once the checksum is filled in the sum comes out right. -/
theorem verifies_fill (hlength : (carrier.covered bytes).length ≤ 65535) :
    carrier.verifies source destination (carrier.fill source destination bytes) = true := by
  have hwithin := place_within hcheck
  have hagree := agree_setWord hcheck 0
  have hcovered := covered_setWord hcheck 0
  have hcleared := (check_congr hagree).trans hcheck
  have hsame : (setWord (carrier.covered bytes) carrier.place 0).length =
      (carrier.covered bytes).length := Octets.length_setWord hwithin 0
  rw [fill_eq source destination hcheck, verifies, covered_setWord hcleared, hcovered,
    Octets.length_setWord (by rw [hsame]; exact hwithin)]
  have hvalue := carrier.completes_spell
    (carrier.seed source destination (setWord (carrier.covered bytes) carrier.place 0).length)
    (setWord (carrier.covered bytes) carrier.place 0)
  rw [value, hcovered]
  apply hvalue.verify_setWord
  · cases carrier <;> rfl
  · rw [hsame]
    exact hwithin
  · exact Octets.word_setWord hwithin 0
  · have htotal := Checksum.total_le (setWord (carrier.covered bytes) carrier.place 0)
    have hseed := toNat_seed_lt source destination carrier
      (setWord (carrier.covered bytes) carrier.place 0).length
    omega

theorem intact_fill (hlength : (carrier.covered bytes).length ≤ 65535) :
    carrier.intact source destination (carrier.fill source destination bytes) = true :=
  intact_of_verifies (verifies_fill source destination hcheck hlength)

theorem fill_fill :
    carrier.fill source destination (carrier.fill source destination bytes) =
      carrier.fill source destination bytes :=
  fill_congr source destination hcheck (agree_fill source destination hcheck)

end

/-- A datagram whose checksum was filled in never says that it has none. -/
theorem storedChecksum_fill_ne_zero (source destination : Address) {bytes : Octets}
    (hcheck : UDP.check bytes = .ok ()) :
    UDP.storedChecksum (UDP.fillChecksum source destination bytes) ≠ 0 := by
  intro hzero
  have hchecked : Carrier.udp.check bytes = .ok () := hcheck
  have hstored := word_fill source destination hchecked
  rw [show word (Carrier.udp.fill source destination bytes) Carrier.udp.place = 0 from hzero,
    value, spell, UDP.nonzero] at hstored
  split_ifs at hstored with hchecksum
  · cases hstored
  · exact hchecksum hstored.symm

/-- A carrier is another one whose checksum was filled in. -/
structure Filled (carrier : Carrier) (source destination : Address) (before after : Octets) :
    Prop where
  /-- Nothing but the field has changed. -/
  agree : AgreeOutside carrier.field before after
  intact : carrier.intact source destination after = true
  /-- It is intact because the sum comes out, not because nobody computed a checksum. -/
  verifies : carrier.verifies source destination after = true
  again : carrier.fill source destination after = after
  nonzero : carrier = .udp → UDP.storedChecksum after ≠ 0

/-- Filling in the checksum of a checked carrier makes it intact, whatever the field held and
whatever addresses the pseudo-header is of, and changes nothing else. -/
theorem filled_fill (carrier : Carrier) (source destination : Address) {bytes : Octets}
    (hcheck : carrier.check bytes = .ok ()) (hlength : (carrier.covered bytes).length ≤ 65535) :
    Filled carrier source destination bytes (carrier.fill source destination bytes) where
  agree := agree_fill source destination hcheck
  intact := intact_fill source destination hcheck hlength
  verifies := verifies_fill source destination hcheck hlength
  again := fill_fill source destination hcheck
  nonzero := by
    rintro rfl
    exact storedChecksum_fill_ne_zero source destination hcheck

/-- A datagram of odd length with an octet behind it, whose checksum comes out as zero between
addresses of both versions of IP. -/
def oddDatagram : Octets :=
  [0x14, 0xe9, 0, 53, 0, 11, 0xaa, 0xbb, 0x39, 0xfe, 0x79, 0xee]

theorem filled_fill_oddDatagram :
    Carrier.udp.check oddDatagram = .ok () ∧
      (Carrier.udp.covered oddDatagram).length ≤ 65535 ∧
      Filled .udp (.v4 ⟨10, 0, 0, 2⟩) (.v6 ⟨0x2001, 0xdb8, 0, 0, 0, 0, 0, 1⟩) oddDatagram
        [0x14, 0xe9, 0, 53, 0, 11, 0xff, 0xff, 0x39, 0xfe, 0x79, 0xee] := by
  have hcheck : Carrier.udp.check oddDatagram = .ok () := by decide
  have hlength : (Carrier.udp.covered oddDatagram).length ≤ 65535 := by decide
  have hfilled := filled_fill .udp (.v4 ⟨10, 0, 0, 2⟩) (.v6 ⟨0x2001, 0xdb8, 0, 0, 0, 0, 0, 1⟩)
    hcheck hlength
  refine ⟨hcheck, hlength, ?_⟩
  convert hfilled
  cbv

end Carrier

end PortalNat
