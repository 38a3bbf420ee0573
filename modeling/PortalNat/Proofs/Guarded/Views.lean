import PortalNat.Proofs.Guarded.Basic
import PortalNat.Proofs.Packet.Segment
import PortalNat.Proofs.Packet.Shape

/-!
# Guarded views

The views of a packet, with every access to the buffer guarded. A check looks only at octets that it
has made sure of, and comes to its verdict on any buffer. After it no view of a header, a payload or
a field faults.
-/

namespace PortalNat.Guarded

/-! ## Checks -/

def checkV4 (bytes : Octets) : Guarded (Except PacketError Unit) := do
  if bytes.length < IPv4.minimumLength then return .error (.truncated .ipv4 bytes.length)
  let first ← octet bytes 0
  if first / 16 ≠ 4 then return .error (.unsupportedVersion (first / 16))
  let header ← fit 64 ((first % 16).toNat * 4)
  if header < IPv4.minimumLength then return .error (.malformed .ipv4 .headerBelowMinimum)
  let total ← word bytes 2
  if total.toNat < header then return .error (.malformed .ipv4 .totalBelowHeader)
  if bytes.length < total.toNat then return .error (.truncated .ipv4 bytes.length)
  return .ok ()

def checkV6 (bytes : Octets) : Guarded (Except PacketError Unit) := do
  if bytes.length < IPv6.headerLength then return .error (.truncated .ipv6 bytes.length)
  let first ← octet bytes 0
  if first / 16 ≠ 6 then return .error (.unsupportedVersion (first / 16))
  let total ← fit 64 (IPv6.headerLength + (← word bytes 4).toNat)
  if bytes.length < total then return .error (.truncated .ipv6 bytes.length)
  return .ok ()

def parse (bytes : Octets) : Guarded (Except PacketError Packet) :=
  match bytes with
  | [] => return .error (.truncated .ip 0)
  | first :: _ => do
    if first / 16 = 4 then return (← checkV4 bytes).map fun () => ⟨.v4, bytes⟩
    else if first / 16 = 6 then return (← checkV6 bytes).map fun () => ⟨.v6, bytes⟩
    else return .error (.unsupportedVersion (first / 16))

def checkTcp (segment : Octets) : Guarded (Except PacketError Unit) := do
  if segment.length < TCP.minimumLength then return .error (.truncated .tcp segment.length)
  let header ← fit 64 (((← octet segment 12) / 16).toNat * 4)
  if header < TCP.minimumLength ∨ segment.length < header then
    return .error (.malformed .tcp .dataOffset)
  return .ok ()

def checkUdp (segment : Octets) : Guarded (Except PacketError Unit) := do
  if segment.length < UDP.headerLength then return .error (.truncated .udp segment.length)
  let length ← word segment 4
  if length.toNat < UDP.headerLength ∨ segment.length < length.toNat then
    return .error (.malformed .udp .lengthField)
  return .ok ()

theorem nibble_fits (nibble : UInt8) : nibble.toNat * 4 < 2 ^ 64 := by
  have hbound := nibble.toNat_lt
  omega

theorem checkV4_eq (bytes : Octets) : checkV4 bytes = pure (IPv4.check bytes) := by
  unfold checkV4 IPv4.check
  by_cases hshort : bytes.length < IPv4.minimumLength
  · rw [if_pos hshort, if_pos hshort]
  · have hlong : 20 ≤ bytes.length := not_lt.1 hshort
    rw [if_neg hshort, if_neg hshort, octet_eq (by omega), word_eq (by omega)]
    simp only [pure_bind, fit_eq (nibble_fits _), apply_ite pure]
    rfl

theorem checkV6_eq (bytes : Octets) : checkV6 bytes = pure (IPv6.check bytes) := by
  unfold checkV6 IPv6.check
  by_cases hshort : bytes.length < IPv6.headerLength
  · rw [if_pos hshort, if_pos hshort]
  · have hlong : 40 ≤ bytes.length := not_lt.1 hshort
    have htotal : IPv6.headerLength + (Octets.word bytes 4).toNat < 2 ^ 64 := by
      have hbound := (Octets.word bytes 4).toNat_lt
      simp only [IPv6.headerLength]
      omega
    rw [if_neg hshort, if_neg hshort, octet_eq (by omega), word_eq (by omega)]
    simp only [pure_bind, fit_eq htotal, apply_ite pure]
    rfl

/-- Any buffer is read or refused, whatever is in it. -/
theorem parse_eq (bytes : Octets) : parse bytes = pure (Packet.parse bytes) := by
  cases bytes with
  | nil => rfl
  | cons first rest =>
      simp only [parse, Packet.parse, checkV4_eq, checkV6_eq, pure_bind, apply_ite pure]

theorem checkTcp_eq (segment : Octets) : checkTcp segment = pure (TCP.check segment) := by
  unfold checkTcp TCP.check
  by_cases hshort : segment.length < TCP.minimumLength
  · rw [if_pos hshort, if_pos hshort]
  · have hlong : 20 ≤ segment.length := not_lt.1 hshort
    rw [if_neg hshort, if_neg hshort, octet_eq (by omega)]
    simp only [pure_bind, fit_eq (nibble_fits _), apply_ite pure]
    rfl

theorem checkUdp_eq (segment : Octets) : checkUdp segment = pure (UDP.check segment) := by
  unfold checkUdp UDP.check
  by_cases hshort : segment.length < UDP.headerLength
  · rw [if_pos hshort, if_pos hshort]
  · have hlong : 8 ≤ segment.length := not_lt.1 hshort
    rw [if_neg hshort, if_neg hshort, word_eq (by omega)]
    simp only [pure_bind, apply_ite pure]
    rfl

/-! ## Packets -/

def headerLength (packet : Packet) : Guarded Nat :=
  match packet.family with
  | .v4 => do fit 64 (((← octet packet.octets 0) % 16).toNat * 4)
  | .v6 => pure IPv6.headerLength

def totalLength (packet : Packet) : Guarded Nat :=
  match packet.family with
  | .v4 => return (← word packet.octets 2).toNat
  | .v6 => do fit 64 (IPv6.headerLength + (← word packet.octets 4).toNat)

def protocol (packet : Packet) : Guarded UInt8 :=
  match packet.family with
  | .v4 => octet packet.octets 9
  | .v6 => octet packet.octets 6

def isFragment (packet : Packet) : Guarded Bool :=
  match packet.family with
  | .v4 => do
    let more ← word packet.octets 6
    if more &&& 0x2000 != 0 then return true
    let offset ← word packet.octets 6
    return offset &&& 0x1fff != 0
  | .v6 => pure false

def addressAt (family : Family) (bytes : Octets) (place : Nat) : Guarded Address :=
  match family with
  | .v4 => do
    let first ← octet bytes place
    let second ← octet bytes (place + 1)
    let third ← octet bytes (place + 2)
    let fourth ← octet bytes (place + 3)
    return .v4 ⟨first, second, third, fourth⟩
  | .v6 => do
    let region ← slice bytes place (place + 16)
    return .v6 (V6.read region 0)

def source (packet : Packet) : Guarded Address :=
  addressAt packet.family packet.octets packet.family.sourcePlace

def destination (packet : Packet) : Guarded Address :=
  addressAt packet.family packet.octets packet.family.destinationPlace

def header (packet : Packet) : Guarded Octets := do
  slice packet.octets 0 (← headerLength packet)

def payload (packet : Packet) : Guarded Octets := do
  let first ← headerLength packet
  let last ← totalLength packet
  slice packet.octets first last

def declared (packet : Packet) : Guarded Octets := do
  slice packet.octets 0 (← totalLength packet)

theorem addressAt_eq {family : Family} {bytes : Octets} {place : Nat}
    (hwithin : place + family.addressLength ≤ bytes.length) :
    addressAt family bytes place = pure (family.addressAt bytes place) := by
  cases family with
  | v4 =>
      change place + 4 ≤ bytes.length at hwithin
      simp only [addressAt, octet_eq (show place < bytes.length by omega),
        octet_eq (show place + 1 < bytes.length by omega),
        octet_eq (show place + 2 < bytes.length by omega),
        octet_eq (show place + 3 < bytes.length by omega), pure_bind]
      rfl
  | v6 =>
      have hregion : V6.read ((bytes.take (place + 16)).drop place) 0 = V6.read bytes place := by
        apply V6.read_congr
        intro offset hoffset
        rw [Nat.zero_add, Octets.octet, Octets.octet, List.getD_eq_getElem?_getD,
          List.getD_eq_getElem?_getD, List.getElem?_drop, List.getElem?_take_of_lt (by omega)]
      rw [addressAt, slice_eq (Nat.le_add_right place 16) hwithin, pure_bind, hregion]
      rfl

section

variable {packet : Packet} (hwell : packet.WellFormed)
include hwell

theorem headerLength_eq : headerLength packet = pure packet.headerLength := by
  have hlong := hwell.long
  rcases packet with ⟨_ | _, octets⟩
  · change 20 ≤ octets.length at hlong
    simp only [headerLength, octet_eq (show 0 < octets.length by omega), pure_bind,
      fit_eq (nibble_fits _)]
    rfl
  · rfl

theorem totalLength_eq : totalLength packet = pure packet.totalLength := by
  have hlong := hwell.long
  rcases packet with ⟨_ | _, octets⟩
  · change 20 ≤ octets.length at hlong
    simp only [totalLength, word_eq (show 2 + 1 < octets.length by omega), pure_bind]
    rfl
  · change 40 ≤ octets.length at hlong
    have hbound := (Octets.word octets 4).toNat_lt
    have htotal : IPv6.headerLength + (Octets.word octets 4).toNat < 2 ^ 64 := by
      simp only [IPv6.headerLength]
      omega
    simp only [totalLength, word_eq (show 4 + 1 < octets.length by omega), pure_bind,
      fit_eq htotal]
    rfl

theorem protocol_eq : protocol packet = pure packet.protocol := by
  have hlong := hwell.long
  rcases packet with ⟨_ | _, octets⟩
  · change 20 ≤ octets.length at hlong
    exact octet_eq (show 9 < octets.length by omega)
  · change 40 ≤ octets.length at hlong
    exact octet_eq (show 6 < octets.length by omega)

theorem isFragment_eq : isFragment packet = pure packet.isFragment := by
  have hlong := hwell.long
  rcases packet with ⟨_ | _, octets⟩
  · change 20 ≤ octets.length at hlong
    simp only [isFragment, word_eq (show 6 + 1 < octets.length by omega), pure_bind]
    change _ = pure (IPv4.moreFragments octets || IPv4.fragmentOffset octets != 0)
    cases hmore : IPv4.moreFragments octets with
    | true => exact if_pos hmore
    | false => exact if_neg (Bool.not_eq_true _ ▸ hmore)
  · rfl

theorem source_eq : source packet = pure packet.source := by
  rw [source, addressAt_eq (packet.family.source_within.trans hwell.long), Packet.source_eq]

theorem destination_eq : destination packet = pure packet.destination := by
  rw [destination, addressAt_eq (packet.family.destination_within.trans hwell.long),
    Packet.destination_eq]

theorem header_eq : header packet = pure packet.header := by
  rw [header, headerLength_eq hwell, pure_bind, slice_zero (hwell.headed.trans hwell.fits),
    Packet.header_eq]

theorem payload_eq : payload packet = pure packet.payload := by
  rw [payload, headerLength_eq hwell, pure_bind, totalLength_eq hwell, pure_bind,
    slice_eq hwell.headed hwell.fits, Packet.payload_eq]

/-- The view of a payload trusts the lengths, and faults where no check has been made of them. -/
example : payload ⟨.v4, [0x45, 0, 0xff, 0xff]⟩ = throw .outOfBounds := by
  rfl

theorem declared_eq : declared packet = pure packet.declared := by
  rw [declared, totalLength_eq hwell, pure_bind, slice_zero hwell.fits, Packet.declared_eq]

end

end PortalNat.Guarded
