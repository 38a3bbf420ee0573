import PortalNat.Packet.Basic
import PortalNat.Proofs.Octets

/-!
# The shape of a packet

A buffer is read as a packet exactly when its version, its header length and its total length agree
with each other and with the buffer. These few octets are the shape of the packet: a change that
leaves them alone leaves the places of header, payload and trailer alone, and the octets beyond the
total length are part of no view.
-/

namespace PortalNat

open Octets (AgreeOutside octet word overwrite)

def Family.number : Family → UInt8
  | v4 => 4
  | v6 => 6

def Family.leastHeader : Family → Nat
  | v4 => IPv4.minimumLength
  | v6 => IPv6.headerLength

/-- The places of the version, the lengths, the protocol and the fragment fields of a header. -/
def Family.shapePlaces : Family → Set Nat
  | v4 => {0, 2, 3, 6, 7, 9}
  | v6 => {0, 4, 5, 6}

def Family.sourcePlace : Family → Nat
  | v4 => 12
  | v6 => 8

def Family.destinationPlace : Family → Nat
  | v4 => 16
  | v6 => 24

def Family.addressAt (family : Family) (bytes : Octets) (offset : Nat) : Address :=
  match family with
  | .v4 => .v4 (V4.read bytes offset)
  | .v6 => .v6 (V6.read bytes offset)

theorem Family.addressAt_congr (family : Family) {bytes source : Octets} {offset start : Nat}
    (hsame : ∀ place < family.addressLength,
      octet bytes (offset + place) = octet source (start + place)) :
    family.addressAt bytes offset = family.addressAt source start := by
  cases family with
  | v4 => exact congrArg Address.v4 (V4.read_congr source start hsame)
  | v6 => exact congrArg Address.v6 (V6.read_congr source start hsame)

theorem Family.shapePlaces_lt (family : Family) {place : Nat}
    (hplace : place ∈ family.shapePlaces) : place < family.leastHeader := by
  cases family <;>
    simp only [shapePlaces, Set.mem_insert_iff, Set.mem_singleton_iff] at hplace <;>
    simp only [leastHeader, IPv4.minimumLength, IPv6.headerLength] <;> omega

theorem Family.source_within (family : Family) :
    family.sourcePlace + family.addressLength ≤ family.leastHeader := by
  cases family <;> decide

theorem Family.destination_within (family : Family) :
    family.destinationPlace + family.addressLength ≤ family.leastHeader := by
  cases family <;> decide

theorem Family.source_before_destination (family : Family) :
    family.sourcePlace + family.addressLength ≤ family.destinationPlace := by
  cases family <;> decide

theorem Family.addressAt_overwrite (address : Address) {bytes : Octets} {offset : Nat}
    (hwithin : offset + address.family.addressLength ≤ bytes.length) :
    address.family.addressAt (overwrite bytes offset address.octets) offset = address := by
  cases address with
  | v4 address => exact congrArg Address.v4 (V4.read_overwrite address hwithin)
  | v6 address => exact congrArg Address.v6 (V6.read_overwrite address hwithin)

namespace Packet

def totalLength (packet : Packet) : Nat :=
  match packet.family with
  | .v4 => (IPv4.totalLength packet.octets).toNat
  | .v6 => IPv6.totalLength packet.octets

/-! ## Views as parts of the buffer -/

theorem header_eq (packet : Packet) :
    packet.header = packet.octets.take packet.headerLength := by
  rcases packet with ⟨_ | _, octets⟩ <;> rfl

theorem payload_eq (packet : Packet) :
    packet.payload = (packet.octets.take packet.totalLength).drop packet.headerLength := by
  rcases packet with ⟨_ | _, octets⟩ <;> rfl

theorem trailer_eq (packet : Packet) :
    packet.trailer = packet.octets.drop packet.totalLength := by
  rcases packet with ⟨_ | _, octets⟩ <;> rfl

theorem declared_eq (packet : Packet) :
    packet.declared = packet.octets.take packet.totalLength := by
  rcases packet with ⟨_ | _, octets⟩ <;> rfl

theorem source_eq (packet : Packet) :
    packet.source = packet.family.addressAt packet.octets packet.family.sourcePlace := by
  rcases packet with ⟨_ | _, octets⟩ <;> rfl

theorem destination_eq (packet : Packet) :
    packet.destination =
      packet.family.addressAt packet.octets packet.family.destinationPlace := by
  rcases packet with ⟨_ | _, octets⟩ <;> rfl

theorem family_source (packet : Packet) : packet.source.family = packet.family := by
  rcases packet with ⟨_ | _, octets⟩ <;> rfl

theorem family_destination (packet : Packet) : packet.destination.family = packet.family := by
  rcases packet with ⟨_ | _, octets⟩ <;> rfl

/-! ## Well-formed packets -/

/-- A packet whose version and lengths agree with its buffer. -/
structure WellFormed (packet : Packet) : Prop where
  version : octet packet.octets 0 / 16 = packet.family.number
  least : packet.family.leastHeader ≤ packet.headerLength
  headed : packet.headerLength ≤ packet.totalLength
  fits : packet.totalLength ≤ packet.octets.length

theorem check_v4_iff (bytes : Octets) :
    IPv4.check bytes = .ok () ↔ WellFormed ⟨.v4, bytes⟩ := by
  constructor
  · intro hcheck
    unfold IPv4.check at hcheck
    split_ifs at hcheck with hshort hversion hleast hheaded hfits
    exact ⟨not_not.1 hversion, not_lt.1 hleast, not_lt.1 hheaded, not_lt.1 hfits⟩
  · rintro ⟨hversion, hleast, hheaded, hfits⟩
    have hshort : ¬bytes.length < IPv4.minimumLength :=
      not_lt.2 (hleast.trans (hheaded.trans hfits))
    rw [IPv4.check, if_neg hshort, if_neg (show ¬IPv4.version bytes ≠ 4 from not_not.2 hversion),
      if_neg (show ¬IPv4.headerLength bytes < IPv4.minimumLength from not_lt.2 hleast),
      if_neg (show ¬(IPv4.totalLength bytes).toNat < IPv4.headerLength bytes from
        not_lt.2 hheaded),
      if_neg (show ¬bytes.length < (IPv4.totalLength bytes).toNat from not_lt.2 hfits)]

theorem check_v6_iff (bytes : Octets) :
    IPv6.check bytes = .ok () ↔ WellFormed ⟨.v6, bytes⟩ := by
  constructor
  · intro hcheck
    unfold IPv6.check at hcheck
    split_ifs at hcheck with hshort hversion hfits
    exact ⟨not_not.1 hversion, le_refl _, Nat.le_add_right _ _, not_lt.1 hfits⟩
  · rintro ⟨hversion, -, hheaded, hfits⟩
    have hshort : ¬bytes.length < IPv6.headerLength := not_lt.2 (hheaded.trans hfits)
    rw [IPv6.check, if_neg hshort, if_neg (show ¬IPv6.version bytes ≠ 6 from not_not.2 hversion),
      if_neg (show ¬bytes.length < IPv6.totalLength bytes from not_lt.2 hfits)]

theorem map_ok_iff {check : Except PacketError Unit} {read packet : Packet} :
    (check.map fun () => read) = .ok packet ↔ check = .ok () ∧ read = packet := by
  cases check with
  | error error => simp [Except.map]
  | ok => simp [Except.map]

/-- A packet has the octets of a header without options. -/
theorem WellFormed.long {packet : Packet} (hwell : packet.WellFormed) :
    packet.family.leastHeader ≤ packet.octets.length :=
  hwell.least.trans (hwell.headed.trans hwell.fits)

theorem WellFormed.parse {packet : Packet} (hwell : packet.WellFormed) :
    Packet.parse packet.octets = .ok packet := by
  have hversion := hwell.version
  have hlong := hwell.long
  rcases packet with ⟨family, _ | ⟨first, rest⟩⟩
  · cases family <;> exact absurd hlong (by decide)
  · cases family with
    | v4 =>
        have hfour : first / 16 = 4 := hversion
        rw [Packet.parse, if_pos hfour, map_ok_iff, check_v4_iff]
        exact ⟨hwell, rfl⟩
    | v6 =>
        have hsix : first / 16 = 6 := hversion
        have hnot : first / 16 ≠ 4 := by
          rw [hsix]
          decide
        rw [Packet.parse, if_neg hnot, if_pos hsix, map_ok_iff, check_v6_iff]
        exact ⟨hwell, rfl⟩

theorem wellFormed_of_parse {bytes : Octets} {packet : Packet}
    (hparse : parse bytes = .ok packet) : packet.octets = bytes ∧ packet.WellFormed := by
  cases bytes with
  | nil => cases hparse
  | cons first rest =>
      rw [parse] at hparse
      split_ifs at hparse with hv4 hv6
      · obtain ⟨hcheck, rfl⟩ := map_ok_iff.1 hparse
        exact ⟨rfl, (check_v4_iff _).1 hcheck⟩
      · obtain ⟨hcheck, rfl⟩ := map_ok_iff.1 hparse
        exact ⟨rfl, (check_v6_iff _).1 hcheck⟩

section

variable {packet : Packet} (hwell : packet.WellFormed)
include hwell

theorem WellFormed.length_header : packet.header.length = packet.headerLength := by
  rw [header_eq, List.length_take_of_le (hwell.headed.trans hwell.fits)]

theorem WellFormed.length_payload :
    packet.payload.length = packet.totalLength - packet.headerLength := by
  rw [payload_eq, List.length_drop, List.length_take_of_le hwell.fits]

theorem WellFormed.length_declared : packet.declared.length = packet.totalLength := by
  rw [declared_eq, List.length_take_of_le hwell.fits]

/-- No payload is longer than a field of sixteen bits can say. -/
theorem WellFormed.length_payload_le : packet.payload.length ≤ 65535 := by
  rw [hwell.length_payload]
  rcases packet with ⟨_ | _, octets⟩
  · have hbound := (IPv4.totalLength octets).toNat_lt
    simp only [totalLength]
    omega
  · have hbound := (IPv6.payloadLength octets).toNat_lt
    simp only [totalLength, headerLength, IPv6.totalLength]
    omega

theorem WellFormed.withPayload_octets {payload : Octets}
    (hlength : payload.length = packet.payload.length) :
    (packet.withPayload payload).octets =
      overwrite packet.octets packet.headerLength payload := by
  have hheaded := hwell.headed
  rw [hwell.length_payload] at hlength
  change packet.header ++ payload ++ packet.trailer = _
  rw [header_eq, trailer_eq, overwrite, hlength, Nat.add_sub_cancel' hheaded]

end

/-! ## Packets of the same shape -/

/-- A packet has the shape of another one if it agrees with it on the octets that tell it. -/
structure SameShape (packet after : Packet) : Prop where
  family : after.family = packet.family
  octet : ∀ place ∈ packet.family.shapePlaces,
    Octets.octet after.octets place = Octets.octet packet.octets place

section

variable {packet after : Packet} {inside : Set Nat}

theorem sameShape_of_agree (hfamily : after.family = packet.family)
    (hagree : AgreeOutside inside packet.octets after.octets)
    (hshape : ∀ place ∈ packet.family.shapePlaces, place ∉ inside) : SameShape packet after where
  family := hfamily
  octet place hplace := hagree.octet (hshape place hplace)

variable (hsame : SameShape packet after)
include hsame

theorem SameShape.word (place : Nat) (hhigh : place ∈ packet.family.shapePlaces)
    (hlow : place + 1 ∈ packet.family.shapePlaces) :
    Octets.word after.octets place = Octets.word packet.octets place := by
  rw [Octets.word, Octets.word, hsame.octet _ hhigh, hsame.octet _ hlow]

theorem SameShape.headerLength : after.headerLength = packet.headerLength := by
  rcases packet with ⟨family, octets⟩
  rcases after with ⟨family', octets'⟩
  have hfamily : family' = family := hsame.family
  subst hfamily
  cases family' with
  | v4 =>
      have hfirst := hsame.octet 0 (by simp [Family.shapePlaces])
      change (Octets.octet octets' 0 % 16).toNat * 4 = (Octets.octet octets 0 % 16).toNat * 4
      rw [show Octets.octet octets' 0 = Octets.octet octets 0 from hfirst]
  | v6 => rfl

theorem SameShape.totalLength : after.totalLength = packet.totalLength := by
  rcases packet with ⟨family, octets⟩
  rcases after with ⟨family', octets'⟩
  have hfamily : family' = family := hsame.family
  subst hfamily
  cases family' with
  | v4 =>
      have hlength := hsame.word 2 (by simp [Family.shapePlaces])
        (by simp [Family.shapePlaces])
      change (Octets.word octets' 2).toNat = (Octets.word octets 2).toNat
      rw [show Octets.word octets' 2 = Octets.word octets 2 from hlength]
  | v6 =>
      have hlength := hsame.word 4 (by simp [Family.shapePlaces])
        (by simp [Family.shapePlaces])
      change 40 + (Octets.word octets' 4).toNat = 40 + (Octets.word octets 4).toNat
      rw [show Octets.word octets' 4 = Octets.word octets 4 from hlength]

theorem SameShape.protocol : after.protocol = packet.protocol := by
  rcases packet with ⟨family, octets⟩
  rcases after with ⟨family', octets'⟩
  have hfamily : family' = family := hsame.family
  subst hfamily
  cases family' with
  | v4 => exact hsame.octet 9 (by simp [Family.shapePlaces])
  | v6 => exact hsame.octet 6 (by simp [Family.shapePlaces])

theorem SameShape.isFragment : after.isFragment = packet.isFragment := by
  rcases packet with ⟨family, octets⟩
  rcases after with ⟨family', octets'⟩
  have hfamily : family' = family := hsame.family
  subst hfamily
  cases family' with
  | v4 =>
      have hfragment := hsame.word 6 (by simp [Family.shapePlaces])
        (by simp [Family.shapePlaces])
      simp only [Packet.isFragment, IPv4.isFragment, IPv4.moreFragments, IPv4.fragmentOffset]
      rw [show Octets.word octets' 6 = Octets.word octets 6 from hfragment]
  | v6 => rfl

theorem SameShape.wellFormed (hwell : packet.WellFormed)
    (hfits : packet.totalLength ≤ after.octets.length) : after.WellFormed where
  version := by
    have hfirst : 0 ∈ packet.family.shapePlaces := by
      cases packet.family <;> simp [Family.shapePlaces]
    rw [hsame.octet 0 hfirst, hsame.family]
    exact hwell.version
  least := by
    rw [hsame.family, hsame.headerLength]
    exact hwell.least
  headed := by
    rw [hsame.headerLength, hsame.totalLength]
    exact hwell.headed
  fits := by
    rw [hsame.totalLength]
    exact hfits

theorem SameShape.length_payload (hwell : packet.WellFormed) (hafter : after.WellFormed) :
    after.payload.length = packet.payload.length := by
  rw [hafter.length_payload, hwell.length_payload, hsame.totalLength, hsame.headerLength]

end

/-! ## Views that a change leaves alone -/

section

variable {packet after : Packet} {inside : Set Nat}
  (hagree : AgreeOutside inside packet.octets after.octets)
include hagree

theorem source_congr (hfamily : after.family = packet.family)
    (houtside : ∀ place < packet.family.addressLength,
      packet.family.sourcePlace + place ∉ inside) : after.source = packet.source := by
  rw [source_eq, source_eq, hfamily]
  apply Family.addressAt_congr
  intro place hplace
  exact hagree.octet (houtside place hplace)

theorem destination_congr (hfamily : after.family = packet.family)
    (houtside : ∀ place < packet.family.addressLength,
      packet.family.destinationPlace + place ∉ inside) :
    after.destination = packet.destination := by
  rw [destination_eq, destination_eq, hfamily]
  apply Family.addressAt_congr
  intro place hplace
  exact hagree.octet (houtside place hplace)

theorem payload_congr (hsame : SameShape packet after)
    (houtside : ∀ place ≥ packet.headerLength, place ∉ inside) :
    after.payload = packet.payload := by
  rw [payload_eq, payload_eq, hsame.headerLength, hsame.totalLength]
  apply ((hagree.take packet.totalLength).drop packet.headerLength).eq
  intro place _
  exact houtside _ (Nat.le_add_right _ _)

end

/-! ## Packets without what follows them -/

/-- The packet alone, without what its buffer holds beyond it. -/
def trimmed (packet : Packet) : Packet :=
  { packet with octets := packet.declared }

theorem octet_declared (packet : Packet) {place : Nat} (hplace : place < packet.totalLength) :
    octet packet.declared place = octet packet.octets place := by
  rw [declared_eq, Octets.octet_take hplace]

section

variable {packet : Packet} (hwell : packet.WellFormed)
include hwell

theorem WellFormed.sameShape_trimmed : SameShape packet packet.trimmed where
  family := rfl
  octet place hplace := by
    apply packet.octet_declared
    exact (packet.family.shapePlaces_lt hplace).trans_le (hwell.least.trans hwell.headed)

theorem WellFormed.trimmed : packet.trimmed.WellFormed :=
  hwell.sameShape_trimmed.wellFormed hwell hwell.length_declared.ge

theorem WellFormed.parse_declared : Packet.parse packet.declared = .ok packet.trimmed :=
  hwell.trimmed.parse

theorem WellFormed.header_trimmed : packet.trimmed.header = packet.header := by
  rw [header_eq, header_eq, hwell.sameShape_trimmed.headerLength, Packet.trimmed, declared_eq,
    List.take_take, min_eq_left hwell.headed]

theorem WellFormed.payload_trimmed : packet.trimmed.payload = packet.payload := by
  rw [payload_eq, payload_eq, hwell.sameShape_trimmed.headerLength,
    hwell.sameShape_trimmed.totalLength, Packet.trimmed, declared_eq, List.take_take, min_self]

theorem WellFormed.source_trimmed : packet.trimmed.source = packet.source := by
  rw [source_eq, source_eq]
  apply Family.addressAt_congr
  intro place hplace
  apply packet.octet_declared
  exact lt_of_lt_of_le (Nat.add_lt_add_left hplace _)
    (packet.family.source_within.trans (hwell.least.trans hwell.headed))

theorem WellFormed.destination_trimmed : packet.trimmed.destination = packet.destination := by
  rw [destination_eq, destination_eq]
  apply Family.addressAt_congr
  intro place hplace
  apply packet.octet_declared
  exact lt_of_lt_of_le (Nat.add_lt_add_left hplace _)
    (packet.family.destination_within.trans (hwell.least.trans hwell.headed))

theorem WellFormed.headerIntact_trimmed : packet.trimmed.headerIntact = packet.headerIntact := by
  have hheader := hwell.header_trimmed
  rcases packet with ⟨_ | _, octets⟩
  · exact congrArg (Checksum.verify 0) hheader
  · rfl

theorem WellFormed.transportIntact_trimmed :
    packet.trimmed.transportIntact = packet.transportIntact := by
  simp only [transportIntact, hwell.sameShape_trimmed.protocol, hwell.payload_trimmed,
    hwell.source_trimmed, hwell.destination_trimmed]

/-- The checksums of a packet are right whether or not something follows it in its buffer. -/
theorem WellFormed.checksumsValid_declared :
    checksumsValid packet.declared = (packet.headerIntact && packet.transportIntact) := by
  rw [checksumsValid, hwell.parse_declared]
  simp only [hwell.headerIntact_trimmed, hwell.transportIntact_trimmed]

end

end Packet

end PortalNat
