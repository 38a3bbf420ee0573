import PortalNat.Proofs.Datagram.Built
import PortalNat.Proofs.Datagram.Template
import PortalNat.Proofs.Guarded.Rewrite

/-!
# Guarded replies

The answer to an echo request, the template that is taken from a datagram, and the replies that are
made from it, with every access guarded. A template has both headers in full, so that a reply of any
length has room for what is stored in it.
-/

namespace PortalNat.Guarded

/-! ## Echo -/

def checksumOk (family : Family) (source destination : Address) (message : Octets) :
    Guarded Bool :=
  match family with
  | .v4 => verify 0 message
  | .v6 =>
    verify (Checksum.pseudoHeader source destination Protocol.icmpV6 message.length) message

def isRequest (packet : Packet) : Guarded Bool := do
  let sender ← source packet
  let receiver ← destination packet
  if (← protocol packet) ≠ ICMP.protocol packet.family then return false
  let message ← payload packet
  if message.length < ICMP.headerLength then return false
  let intact ← checksumOk packet.family sender receiver message
  if (← octet message 0) ≠ ICMP.echoRequest packet.family then return false
  if (← octet message 1) ≠ 0 then return false
  return intact

def reply (request : Packet) : Guarded Packet := do
  let sender ← source request
  let receiver ← destination request
  let message ← payload request
  let _ ← word message 4
  let _ ← word message 6
  let renewed ← setHops (← swapAddresses request) Build.defaultHops
  let typed ← storeOctet (← payload renewed) 0 (ICMP.echoReply request.family)
  let filled ← fillIcmp request.family receiver sender typed
  fillChecksum (renewed.withPayload filled)

def answer? (responder : EchoResponder) (packet : Packet) : Guarded (Option Packet) := do
  if (← isRequest packet) && responder.wants (← destination packet) then
    return some (← reply packet)
  return none

theorem checksumOk_eq (family : Family) (source destination : Address) (message : Octets) :
    checksumOk family source destination message =
      pure (ICMP.checksumOk family source destination message) := by
  cases family <;> exact verify_eq _ _

section

variable {packet : Packet} (hwell : packet.WellFormed)
include hwell

theorem isRequest_eq : isRequest packet = pure (EchoResponder.isRequest packet) := by
  simp only [isRequest, EchoResponder.isRequest, source_eq hwell, destination_eq hwell,
    protocol_eq hwell, payload_eq hwell, pure_bind]
  by_cases hprotocol : packet.protocol = ICMP.protocol packet.family
  · rw [if_neg (not_not.2 hprotocol)]
    by_cases hshort : packet.payload.length < ICMP.headerLength
    · rw [if_pos hshort]
      simp only [ICMP.check, if_pos hshort, Except.toOption, Option.isSome_none, Bool.and_false,
        Bool.false_and]
    · have hlong : 8 ≤ packet.payload.length := not_lt.1 hshort
      rw [if_neg hshort, octet_eq (by omega), octet_eq (by omega)]
      simp only [checksumOk_eq, pure_bind, ICMP.check, if_neg hshort, Except.toOption,
        Option.isSome_some, beq_iff_eq.2 hprotocol, Bool.true_and, ICMP.messageType, ICMP.code]
      split_ifs with htype hcode
      · rw [beq_eq_false_iff_ne.2 htype, Bool.false_and, Bool.false_and]
      · rw [beq_eq_false_iff_ne.2 hcode, Bool.and_false, Bool.false_and]
      · rw [beq_iff_eq.2 (not_not.1 htype), beq_iff_eq.2 (not_not.1 hcode), Bool.true_and,
          Bool.true_and]
  · rw [if_pos hprotocol]
    simp only [beq_eq_false_iff_ne.2 hprotocol, Bool.false_and]

theorem reply_eq (hrequest : EchoResponder.isRequest packet = true) :
    reply packet = pure (EchoResponder.reply packet) := by
  have hlong := (EchoResponder.request_spec hrequest).2
  have hswapped := (Packet.wellFormed_swapAddresses hwell).long
  have hturned := EchoResponder.wellFormed_turned hwell
  have hlength := EchoResponder.length_turned hwell
  have hflipped := EchoResponder.length_flipped hwell hrequest
  have hpatched := Packet.wellFormed_withPayload hturned
    (EchoResponder.length_filled hwell hrequest)
  have hhops : setHops packet.swapAddresses Build.defaultHops =
      pure (EchoResponder.turned packet) := setHops_eq hswapped Build.defaultHops
  have htype : storeOctet (EchoResponder.turned packet).payload 0
      (ICMP.echoReply packet.family) = pure (EchoResponder.flipped packet) :=
    storeOctet_eq (by omega) (ICMP.echoReply packet.family)
  simp only [reply, source_eq hwell, destination_eq hwell, payload_eq hwell,
    word_eq (show 4 + 1 < packet.payload.length by omega),
    word_eq (show 6 + 1 < packet.payload.length by omega), swapAddresses_eq hwell, hhops,
    payload_eq hturned, htype, fillIcmp_eq packet.destination packet.source
      (show 8 ≤ (EchoResponder.flipped packet).length by omega), fillChecksum_eq hpatched,
    pure_bind]
  rw [EchoResponder.reply_eq]

/-- Answering does not fault, whatever the packet. -/
theorem answer?_eq (responder : EchoResponder) :
    answer? responder packet = pure (responder.answer? packet) := by
  rw [answer?, isRequest_eq hwell, pure_bind, destination_eq hwell, pure_bind,
    EchoResponder.answer?]
  split_ifs with hwanted
  · rw [reply_eq hwell (Bool.and_eq_true_iff.1 hwanted).1]
    rfl
  · rfl

end

/-! ## Templates -/

def renewed (family : Family) (header : Octets) : Guarded Octets :=
  match family with
  | .v4 => do storeOctet (← storeOctet header 0 0x45) 8 Build.defaultHops
  | .v6 => storeOctet header 7 Build.defaultHops

def ofRequest (request : Packet) (client remote : Endpoint) : Guarded ReplyTemplate := do
  let ip ← slice (← header request) 0 (ReplyTemplate.ipHeaderLength request.family)
  let udp ← slice (← payload request) 0 UDP.headerLength
  return ⟨← renewed request.family (ip ++ udp), client, remote⟩

def setLengths (family : Family) (buffer : Octets) (stated udpLength : Nat) : Guarded Octets := do
  let lengthened ← storeWord buffer family.lengthPlace (UInt16.ofNat stated)
  let segment ← sliceFrom lengthened (ReplyTemplate.ipHeaderLength family)
  return lengthened.take (ReplyTemplate.ipHeaderLength family) ++
    (← storeWord segment 4 (UInt16.ofNat udpLength))

def build (template : ReplyTemplate) (payload : Octets) (source : Endpoint) :
    Guarded (Except NatError Octets) := do
  let family := template.client.family
  let udpLength ← fit 64 (UDP.headerLength + payload.length)
  let total ← fit 64 (ReplyTemplate.ipHeaderLength family + udpLength)
  let stated := match family with
    | .v4 => total
    | .v6 => udpLength
  if 65535 < stated then return .error (.udp (.payloadTooLarge payload.length))
  let buffer ← setLengths family (template.header ++ payload) stated udpLength
  match ← parse buffer with
  | .error error => return .error (.packet error)
  | .ok packet =>
    match ← rewriteEndpoints packet source template.client with
    | .error error => return .error (ReplyTemplate.refused source template.client error)
    | .ok reply => return .ok reply.octets

theorem renewed_eq {family : Family} {header : Octets}
    (hlong : family.leastHeader ≤ header.length) :
    renewed family header = pure (ReplyTemplate.renewed family header) := by
  cases family with
  | v4 =>
      change 20 ≤ header.length at hlong
      have hfirst : (Octets.setOctet header 0 0x45).length = header.length :=
        Octets.length_setOctet (by omega) _
      rw [renewed, storeOctet_eq (by omega), pure_bind, storeOctet_eq (by omega)]
      rfl
  | v6 =>
      change 40 ≤ header.length at hlong
      exact storeOctet_eq (show 7 < header.length by omega) _

/-- A template can be taken from every packet that has a datagram. -/
theorem ofRequest_eq {request : Packet} (hwell : request.WellFormed)
    (hlong : UDP.headerLength ≤ request.payload.length) (client remote : Endpoint) :
    ofRequest request client remote = pure (.ofRequest request client remote) := by
  have hheaders := ReplyTemplate.length_headersOf hwell hlong
  have hheader : request.family.leastHeader ≤ request.header.length :=
    hwell.least.trans hwell.length_header.ge
  rw [ofRequest, header_eq hwell, pure_bind, ReplyTemplate.ipHeaderLength_eq, slice_zero hheader,
    pure_bind, payload_eq hwell, pure_bind, slice_zero hlong, pure_bind]
  change (renewed request.family (ReplyTemplate.headersOf request) >>= _) = _
  rw [renewed_eq (by omega), pure_bind, ReplyTemplate.ofRequest, ReplyTemplate.ipHeaderLength_eq]
  rfl

theorem setLengths_eq {family : Family} {buffer : Octets} (payloadLength : Nat)
    (hlong : family.leastHeader + UDP.headerLength ≤ buffer.length) :
    setLengths family buffer (ReplyTemplate.statedLength family payloadLength)
        (UDP.headerLength + payloadLength) =
      pure (ReplyTemplate.setLengths family buffer payloadLength) := by
  have hplace := ReplyTemplate.lengthPlace_lt family
  rw [UDP.headerLength] at hlong
  rw [ReplyTemplate.setLengths_eq, setLengths, storeWord_eq (by omega), pure_bind,
    ReplyTemplate.ipHeaderLength_eq]
  set lengthened := Octets.setWord buffer family.lengthPlace
    (UInt16.ofNat (ReplyTemplate.statedLength family payloadLength)) with hset
  have hlength : lengthened.length = buffer.length := Octets.length_setWord (by omega) _
  have hsegment : 4 + 2 ≤ (lengthened.drop family.leastHeader).length := by
    rw [List.length_drop]
    omega
  rw [sliceFrom_eq (by omega), pure_bind, storeWord_eq hsegment, pure_bind, Octets.append_setWord,
    List.take_append_drop, List.length_take_of_le (by omega)]

/-- A template that has both headers makes any reply without a fault. -/
theorem build_eq {template : ReplyTemplate} {payload : Octets} (source : Endpoint)
    (hheader : template.header.length = template.client.family.leastHeader + UDP.headerLength)
    (hpayload : payload.length < 2 ^ 63) :
    build template payload source = pure (template.build payload source) := by
  have hleast : template.client.family.leastHeader ≤ 40 := by
    cases template.client.family <;> decide
  have hudp : UDP.headerLength + payload.length < 2 ^ 64 := by
    rw [UDP.headerLength]
    omega
  have htotal : template.client.family.leastHeader + (UDP.headerLength + payload.length) <
      2 ^ 64 := by
    rw [UDP.headerLength]
    omega
  have hstated : (match template.client.family with
      | .v4 => template.client.family.leastHeader + (UDP.headerLength + payload.length)
      | .v6 => UDP.headerLength + payload.length) =
        ReplyTemplate.statedLength template.client.family payload.length := by
    cases template.client.family with
    | v4 => exact (Nat.add_assoc _ _ _).symm
    | v6 => rfl
  have hbuffer : template.client.family.leastHeader + UDP.headerLength ≤
      (template.header ++ payload).length := by
    rw [List.length_append, hheader]
    exact Nat.le_add_right _ _
  simp only [build, ReplyTemplate.ipHeaderLength_eq, fit_eq hudp, fit_eq htotal, pure_bind, hstated,
    setLengths_eq payload.length hbuffer, parse_eq]
  by_cases hlarge : 65535 < ReplyTemplate.statedLength template.client.family payload.length
  · rw [ReplyTemplate.build_of_tooLarge hlarge, if_pos hlarge]
  · rw [if_neg hlarge, ReplyTemplate.build]
    simp only [if_neg hlarge]
    cases hparse : Packet.parse (ReplyTemplate.setLengths template.client.family
        (template.header ++ payload) payload.length) with
    | error error => rfl
    | ok packet =>
        have hwell := (Packet.wellFormed_of_parse hparse).2
        simp only [rewriteEndpoints_eq hwell, Except.mapError, pure, Except.pure, bind,
          Except.bind]
        cases packet.rewriteEndpoints source template.client <;> rfl

end PortalNat.Guarded
