import PortalNat.Proofs.Guarded.Views
import PortalNat.Proofs.Packet.Echo

/-!
# Guarded changes

Packets changed in their buffer, with every access guarded. Once a packet and its segment are
checked no change to them faults: each keeps the lengths that the check has made sure of.
-/

namespace PortalNat.Guarded

/-! ## Segments -/

def fillTcp (source destination : Address) (segment : Octets) : Guarded Octets := do
  let cleared ← storeWord segment 16 0
  storeWord cleared 16 (← transport source destination Protocol.tcp cleared)

def fillUdp (source destination : Address) (segment : Octets) : Guarded Octets := do
  let length ← word segment 4
  let cleared ← storeWord segment 6 0
  let datagram ← slice cleared 0 length.toNat
  storeWord cleared 6 (UDP.nonzero (← transport source destination Protocol.udp datagram))

def fillIcmp (family : Family) (source destination : Address) (message : Octets) :
    Guarded Octets := do
  let cleared ← storeWord message 2 0
  match family with
  | .v4 => storeWord cleared 2 (← checksum 0 cleared)
  | .v6 => storeWord cleared 2 (← transport source destination Protocol.icmpV6 cleared)

def checkPorts (protocol : UInt8) (payload : Octets) : Guarded (Except PacketError Unit) :=
  if protocol = Protocol.tcp then checkTcp payload
  else if protocol = Protocol.udp then checkUdp payload
  else return .error (.malformed .ip .noPorts)

def rewritePorts (protocol : UInt8) (source destination : Endpoint) (segment : Octets) :
    Guarded Octets := do
  let sent ← storeWord segment 0 source.port
  let ported ← storeWord sent 2 destination.port
  if protocol = Protocol.tcp then fillTcp source.address destination.address ported
  else fillUdp source.address destination.address ported

section

variable {segment : Octets} (source destination : Address)

theorem fillTcp_eq (hlong : 20 ≤ segment.length) :
    fillTcp source destination segment = pure (TCP.fillChecksum source destination segment) := by
  have hcleared : (Octets.setWord segment 16 0).length = segment.length :=
    Octets.length_setWord (by omega) 0
  rw [fillTcp, storeWord_eq (by omega), pure_bind, transport_eq, pure_bind,
    storeWord_eq (by omega)]
  rfl

theorem fillUdp_eq (hlong : 8 ≤ segment.length)
    (hfits : (UDP.length segment).toNat ≤ segment.length) :
    fillUdp source destination segment = pure (UDP.fillChecksum source destination segment) := by
  have hagree := Octets.AgreeOutside.setWord segment 6 (by omega) 0
  have hcleared := hagree.length
  have hlength : UDP.length (Octets.setWord segment 6 0) = UDP.length segment :=
    hagree.word (by simp) (by simp)
  have hslice : slice (Octets.setWord segment 6 0) 0 (Octets.word segment 4).toNat =
      pure (UDP.datagram (Octets.setWord segment 6 0)) := by
    rw [UDP.datagram, hlength]
    exact slice_zero (hfits.trans hcleared.ge)
  rw [fillUdp, word_eq (by omega), pure_bind, storeWord_eq (by omega), pure_bind, hslice, pure_bind,
    transport_eq, pure_bind, storeWord_eq (by omega)]
  rfl

theorem fillIcmp_eq {message : Octets} (hlong : 8 ≤ message.length) (family : Family) :
    fillIcmp family source destination message =
      pure (ICMP.fillChecksum family source destination message) := by
  have hcleared : (Octets.setWord message 2 0).length = message.length :=
    Octets.length_setWord (by omega) 0
  rw [fillIcmp, storeWord_eq (by omega), pure_bind]
  cases family with
  | v4 =>
      simp only [checksum_eq, pure_bind]
      exact storeWord_eq (by omega) _
  | v6 =>
      simp only [transport_eq, pure_bind]
      exact storeWord_eq (by omega) _

end

theorem checkPorts_eq (protocol : UInt8) (payload : Octets) :
    checkPorts protocol payload = pure (Packet.checkPorts protocol payload) := by
  simp only [checkPorts, Packet.checkPorts, checkTcp_eq, checkUdp_eq, apply_ite pure]

/-- A segment that was checked can be given any ports. -/
theorem rewritePorts_eq {protocol : UInt8} {segment : Octets}
    (hcheck : Packet.checkPorts protocol segment = .ok ()) (source destination : Endpoint) :
    rewritePorts protocol source destination segment =
      pure (Packet.rewritePorts protocol source destination segment) := by
  have hlong : 8 ≤ segment.length := by
    rcases (Packet.checkPorts_iff _ _).1 hcheck with ⟨-, htcp⟩ | ⟨-, hudp⟩
    · exact ((Packet.tcp_check_iff segment).1 htcp).1.trans' (by decide)
    · exact ((Packet.udp_check_iff segment).1 hudp).1
  have hsent : (Octets.setWord segment 0 source.port).length = segment.length :=
    Octets.length_setWord (by omega) source.port
  have hagree := Packet.agree_ported source destination (show 4 ≤ segment.length by omega)
  have hported : (Octets.setWord (Octets.setWord segment 0 source.port) 2
      destination.port).length = segment.length := hagree.length
  simp only [rewritePorts, storeWord_eq (show 0 + 2 ≤ segment.length by omega),
    storeWord_eq (show 2 + 2 ≤ (Octets.setWord segment 0 source.port).length by omega), pure_bind]
  rcases (Packet.checkPorts_iff _ _).1 hcheck with ⟨rfl, htcp⟩ | ⟨rfl, hudp⟩
  · have hheader := ((Packet.tcp_check_iff segment).1 htcp).1
    exact fillTcp_eq source.address destination.address (hheader.trans hported.ge)
  · obtain ⟨-, -, hfits⟩ := (Packet.udp_check_iff segment).1 hudp
    have hlength : UDP.length (Octets.setWord (Octets.setWord segment 0 source.port) 2
        destination.port) = UDP.length segment := hagree.word (by simp) (by simp)
    exact fillUdp_eq source.address destination.address (hlong.trans hported.ge)
      (by rw [hlength, hported]; exact hfits)

/-! ## Packets -/

def setAddress (packet : Packet) (place : Nat) (address : Address) :
    Guarded (Except PacketError Packet) :=
  if address.family = packet.family then
    return .ok { packet with octets := ← store packet.octets place address.octets }
  else return .error (.familyMismatch address)

def setHops (packet : Packet) (hops : UInt8) : Guarded Packet := do
  return { packet with octets := ← storeOctet packet.octets packet.family.hopsPlace hops }

def swapAddresses (packet : Packet) : Guarded Packet := do
  let former ← source packet
  let latter ← destination packet
  let moved ← store packet.octets packet.family.sourcePlace latter.octets
  return { packet with octets := ← store moved packet.family.destinationPlace former.octets }

def fillChecksum (packet : Packet) : Guarded Packet :=
  match packet.family with
  | .v4 => do
    let length ← headerLength packet
    let cleared ← storeWord packet.octets 10 0
    let header ← slice cleared 0 length
    return { packet with octets := ← storeWord cleared 10 (← checksum 0 header) }
  | .v6 => return packet

def rewriteEndpoints (packet : Packet) (source destination : Endpoint) :
    Guarded (Except PacketError Packet) := do
  if let some address := Packet.mismatch? packet.family [source.address, destination.address] then
    return .error (.familyMismatch address)
  let protocol ← protocol packet
  if let .error error ← checkPorts protocol (← payload packet) then return .error error
  match ← setAddress packet packet.family.sourcePlace source.address with
  | .error error => return .error error
  | .ok sent =>
    match ← setAddress sent packet.family.destinationPlace destination.address with
    | .error error => return .error error
    | .ok moved =>
      let segment ← rewritePorts protocol source destination (← payload moved)
      return .ok (← fillChecksum (moved.withPayload segment))

/-- An address of the right version of IP can be stored wherever there is room for it. -/
theorem setAddress_eq {packet : Packet} {place : Nat} {address : Address}
    (hfamily : address.family = packet.family)
    (hwithin : place + packet.family.addressLength ≤ packet.octets.length) :
    setAddress packet place address =
      pure (.ok { packet with octets := Octets.overwrite packet.octets place address.octets }) := by
  rw [setAddress, if_pos hfamily, store_eq (by rwa [Address.length_octets, hfamily])]
  rfl

theorem setHops_eq {packet : Packet} (hlong : packet.family.leastHeader ≤ packet.octets.length)
    (hops : UInt8) : setHops packet hops = pure (packet.setHops hops) := by
  have hplace := packet.family.hopsPlace_lt.trans_le hlong
  rw [setHops, storeOctet_eq hplace]
  rcases packet with ⟨_ | _, octets⟩ <;> rfl

section

variable {packet : Packet} (hwell : packet.WellFormed)
include hwell

theorem swapAddresses_eq : swapAddresses packet = pure packet.swapAddresses := by
  have hlong := hwell.long
  have hfirst := Packet.agree_withSource packet packet.family_destination hlong
  have hsource : packet.family.sourcePlace + packet.destination.octets.length ≤
      packet.octets.length := by
    rw [Address.length_octets, packet.family_destination]
    exact packet.family.source_within.trans hlong
  have hdestination : packet.family.destinationPlace + packet.source.octets.length ≤
      (packet.withSource packet.destination).octets.length := by
    rw [Address.length_octets, packet.family_source, hfirst.length]
    exact packet.family.destination_within.trans hlong
  rw [swapAddresses, source_eq hwell, pure_bind, destination_eq hwell, pure_bind,
    store_eq hsource, pure_bind, Packet.swapAddresses_eq]
  exact congrArg (fun stored => (stored : Guarded Octets) >>= fun octets =>
    pure { packet with octets }) (store_eq hdestination)

theorem fillChecksum_eq : fillChecksum packet = pure packet.fillChecksum := by
  have hlong := hwell.long
  have hheader := headerLength_eq hwell
  have hwithin := hwell.headed.trans hwell.fits
  rcases packet with ⟨_ | _, octets⟩
  · change 20 ≤ octets.length at hlong
    have hcleared : (Octets.setWord octets 10 0).length = octets.length :=
      Octets.length_setWord (by omega) 0
    have hslice : slice (Octets.setWord octets 10 0) 0 (IPv4.headerLength octets) =
        pure ((Octets.setWord octets 10 0).take (IPv4.headerLength octets)) :=
      slice_zero (hwithin.trans hcleared.ge)
    simp only [fillChecksum, hheader, pure_bind,
      storeWord_eq (show 10 + 2 ≤ octets.length by omega)]
    change (slice _ 0 (IPv4.headerLength octets) >>= _) = _
    simp only [hslice, pure_bind, checksum_eq,
      storeWord_eq (show 10 + 2 ≤ (Octets.setWord octets 10 0).length by omega)]
    rfl
  · rfl

/-- Readdressing does not fault, whatever the packet and the endpoints. -/
theorem rewriteEndpoints_eq (source destination : Endpoint) :
    rewriteEndpoints packet source destination =
      pure (packet.rewriteEndpoints source destination) := by
  cases hmatch : Packet.mismatch? packet.family [source.address, destination.address] with
  | some address =>
      simp only [rewriteEndpoints, Packet.rewriteEndpoints, hmatch]
      rfl
  | none =>
      obtain ⟨hsource, hdestination⟩ := (Packet.mismatch?_eq_none_iff packet.family _ _).1 hmatch
      cases hcheck : Packet.checkPorts packet.protocol packet.payload with
      | error error =>
          simp only [rewriteEndpoints, Packet.rewriteEndpoints, hmatch, protocol_eq hwell,
            payload_eq hwell, checkPorts_eq, hcheck, pure_bind]
          rfl
      | ok =>
          have hlong := hwell.long
          have hmoved := Packet.wellFormed_moved hwell hsource hdestination
          have hsent : setAddress packet packet.family.sourcePlace source.address =
              pure (.ok (packet.withSource source.address)) :=
            setAddress_eq hsource (packet.family.source_within.trans hlong)
          have hdestined : setAddress (packet.withSource source.address)
              packet.family.destinationPlace destination.address =
                pure (.ok (packet.moved source.address destination.address)) := by
            have hfamily : destination.address.family =
                (packet.withSource source.address).family := hdestination
            have hkept := (Packet.agree_withSource packet hsource hlong).length
            apply setAddress_eq hfamily
            exact (packet.family.destination_within.trans hlong).trans hkept.ge
          have hlength : (Packet.rewritePorts packet.protocol source destination
              packet.payload).length =
                (packet.moved source.address destination.address).payload.length := by
            rw [Packet.payload_moved hwell hsource hdestination]
            exact (Packet.reported_rewritePorts source destination hcheck
              hwell.length_payload_le).agree.length
          rw [Packet.rewriteEndpoints_eq hwell hsource hdestination hcheck]
          simp only [rewriteEndpoints, hmatch, protocol_eq hwell, payload_eq hwell, checkPorts_eq,
            hcheck, hsent, hdestined, payload_eq hmoved,
            Packet.payload_moved hwell hsource hdestination, rewritePorts_eq hcheck,
            fillChecksum_eq (Packet.wellFormed_withPayload hmoved hlength), pure_bind]

end

end PortalNat.Guarded
