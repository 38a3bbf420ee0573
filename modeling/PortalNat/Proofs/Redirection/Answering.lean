import PortalNat.Proofs.Checksum.OnesComplement
import PortalNat.Proofs.Datagram.Framed
import PortalNat.Proofs.Packet.Carried
import PortalNat.Proofs.Redirection.InPlace

/-!
# Answering echo requests

A responder answers the intact echo requests of either version of IP that its policy covers, and
leaves every other packet as it is. The answer is the request in its own buffer, with the addresses
exchanged, new hops, the type of a reply and renewed checksums. The checksum of ICMPv6 covers the
addresses, so it is renewed for the exchanged ones. A reply is no request, so nothing that was
answered is ever answered again.
-/

namespace PortalNat

open Octets (AgreeOutside octet)

/-! ## What a checksum covers -/

namespace Checksum

/-- A sum that starts from an accumulator comes to the one's complement sum of a region with octets
before it that add up to the accumulator. -/
theorem fold_sum_eq_onesSum {accumulator : UInt32} {front region : Octets}
    (heven : front.length % 2 = 0) (hfront : total front = accumulator.toNat)
    (hfits : accumulator.toNat + total region < 0x100000000) :
    fold (sum accumulator region) = onesSum (front ++ padded region) := by
  have hwhole : (front ++ padded region).length % 2 = 0 := by
    rw [List.length_append, Nat.add_mod, heven, length_padded]
  have htotal : total (front ++ padded region) = accumulator.toNat + total region := by
    rw [total_append _ heven, total_padded, hfront]
  apply UInt16.toNat_inj.1
  rw [toNat_fold, toNat_sum hfits, toNat_onesSum hwhole, htotal]

end Checksum

namespace ICMP

/-- The octets that the checksum of a message is about: those of the message alone, or in ICMPv6
those of a pseudo-header too. -/
def summed (family : Family) (source destination : Address) (message : Octets) : Octets :=
  match family with
  | .v4 => Checksum.padded message
  | .v6 =>
    Checksum.pseudoHeaderOctets source destination Protocol.icmpV6 message.length
      ++ Checksum.padded message

theorem checksumOk_iff (family : Family) (source destination : Address) {message : Octets}
    (hlength : message.length ≤ 65535) :
    checksumOk family source destination message = true ↔
      Checksum.onesSum (summed family source destination message) = 0xffff := by
  have htotal := Checksum.total_le message
  cases family with
  | v4 =>
      have hsum : Checksum.fold (Checksum.sum 0 message) =
          Checksum.onesSum ([] ++ Checksum.padded message) :=
        Checksum.fold_sum_eq_onesSum rfl rfl (by rw [UInt32.toNat_zero]; omega)
      rw [checksumOk, checksumOkV4, Checksum.verify, beq_iff_eq, hsum, summed, List.nil_append]
  | v6 =>
      have hseed := Checksum.toNat_pseudoHeader_lt source destination Protocol.icmpV6
        message.length
      have hsum : Checksum.fold (Checksum.sum
          (Checksum.pseudoHeader source destination Protocol.icmpV6 message.length) message) =
          Checksum.onesSum (summed .v6 source destination message) :=
        Checksum.fold_sum_eq_onesSum
          (Checksum.length_pseudoHeaderOctets source destination Protocol.icmpV6 message.length)
          (Checksum.total_pseudoHeaderOctets source destination Protocol.icmpV6 hlength) (by omega)
      rw [checksumOk, checksumOkV6, Checksum.verifyTransport, Checksum.verify, beq_iff_eq, hsum]

theorem echoReply_ne_echoRequest (family : Family) : echoReply family ≠ echoRequest family := by
  cases family <;> decide

end ICMP

namespace Carrier

/-- What carries the checksum of a control message of a version of IP. -/
def control : Family → Carrier
  | .v4 => .icmp
  | .v6 => .icmpV6

theorem ofProtocol?_control (family : Family) :
    ofProtocol? (ICMP.protocol family) = some (control family) := by
  cases family <;> rfl

theorem field_control (family : Family) : (control family).field = Set.Ico 2 4 := by
  cases family <;> rfl

theorem covered_control (family : Family) (message : Octets) :
    (control family).covered message = message := by
  cases family <;> rfl

theorem fill_control (family : Family) (source destination : Address) (message : Octets) :
    (control family).fill source destination message =
      ICMP.fillChecksum family source destination message := by
  cases family <;> rfl

theorem check_control_iff (family : Family) (message : Octets) :
    (control family).check message = .ok () ↔ 8 ≤ message.length := by
  cases family <;> exact Packet.icmp_check_iff message

end Carrier

/-! ## Requests and answers -/

/-- The places of a header that answering changes: those of the addresses, of the checksum and of
the hops. -/
def Family.turnedPlaces (family : Family) : Set Nat :=
  family.addressPlaces ∪ {family.hopsPlace}

theorem Family.turnedPlaces_lt (family : Family) {place : Nat}
    (hplace : place ∈ family.turnedPlaces) : place < family.leastHeader := by
  rcases hplace with haddress | hhops
  · exact family.addressPlaces_lt haddress
  · rw [Set.mem_singleton_iff] at hhops
    rw [hhops]
    exact family.hopsPlace_lt

def ICMP.flippedPlaces : Set Nat :=
  {0} ∪ Set.Ico 2 4

namespace Packet

/-- A packet is an echo request of its own version of IP whose checksum is right. -/
structure RequestsEcho (packet : Packet) : Prop where
  protocol : packet.protocol = ICMP.protocol packet.family
  long : 8 ≤ packet.payload.length
  type : ICMP.messageType packet.payload = ICMP.echoRequest packet.family
  code : ICMP.code packet.payload = 0
  intact : Checksum.onesSum
    (ICMP.summed packet.family packet.source packet.destination packet.payload) = 0xffff

def answering (packet : Packet) : Set Nat :=
  packet.family.turnedPlaces ∪ (packet.headerLength + ·) '' ICMP.flippedPlaces

/-- A packet is the answer to an echo request: the request itself, but with its addresses exchanged,
new hops, the type of a reply and checksums that were renewed. -/
structure Answers (request answer : Packet) : Prop where
  parse : Packet.parse answer.octets = .ok answer
  family : answer.family = request.family
  source : answer.source = request.destination
  destination : answer.destination = request.source
  hops : answer.hops = 64
  type : ICMP.messageType answer.payload = ICMP.echoReply request.family
  /-- Renewing the checksum of the header once more makes no difference. -/
  header : answer.fillChecksum = answer
  /-- Neither does renewing that of the message, for the exchanged addresses. -/
  message : ICMP.fillChecksum request.family request.destination request.source answer.payload =
    answer.payload
  valid : checksumsValid answer.octets = true
  /-- Options, identifier, sequence number, data and what follows the packet are as they were. -/
  agree : AgreeOutside request.answering request.octets answer.octets

end Packet

namespace EchoResponder

/-- The policy of a responder is to answer the requests to an address. -/
def Covers (responder : EchoResponder) (destination : Address) : Prop :=
  responder.policy = .all ∨
    responder.policy = .portal ∧
      (destination = .v4 responder.portalV4 ∨ destination = .v6 responder.portalV6)

theorem wants_iff (responder : EchoResponder) (destination : Address) :
    responder.wants destination = true ↔ responder.Covers destination := by
  rcases responder with ⟨policy, portalV4, portalV6⟩
  cases policy with
  | off | all => simp [wants, Covers]
  | portal => cases destination <;> simp [wants, Covers]

theorem isRequest_iff {packet : Packet} (hwell : packet.WellFormed) :
    isRequest packet = true ↔ packet.RequestsEcho := by
  simp only [isRequest, Bool.and_eq_true, beq_iff_eq, Packet.isSome_toOption_iff,
    Packet.icmp_check_iff, ICMP.checksumOk_iff _ _ _ hwell.length_payload_le]
  constructor
  · intro hrequest
    obtain ⟨⟨⟨⟨hprotocol, hlong⟩, htype⟩, hcode⟩, hintact⟩ := hrequest
    exact ⟨hprotocol, hlong, htype, hcode, hintact⟩
  · intro hrequest
    exact ⟨⟨⟨⟨hrequest.protocol, hrequest.long⟩, hrequest.type⟩, hrequest.code⟩, hrequest.intact⟩

end EchoResponder

/-! ## Hops and payloads -/

theorem Family.hopsPlace_outside (family : Family) :
    family.hopsPlace ∉ family.addressPlaces := by
  cases family <;> simp [addressPlaces, hopsPlace]

theorem Family.hopsPlace_lt_sourcePlace (family : Family) :
    family.hopsPlace < family.sourcePlace := by
  cases family <;> decide

namespace Packet

section

variable {packet : Packet} (hwell : packet.WellFormed) (hops : UInt8)
include hwell

theorem source_setHops : (packet.setHops hops).source = packet.source := by
  apply source_congr (agree_setHops hwell hops) (sameShape_setHops hwell hops).family
  intro place hplace hinside
  have hbefore := packet.family.hopsPlace_lt_sourcePlace
  have hless := hinside.2
  omega

theorem destination_setHops : (packet.setHops hops).destination = packet.destination := by
  apply destination_congr (agree_setHops hwell hops) (sameShape_setHops hwell hops).family
  intro place hplace hinside
  have hbefore := packet.family.hopsPlace_lt_sourcePlace
  have hafter := packet.family.source_before_destination
  have hless := hinside.2
  omega

theorem hops_setHops : (packet.setHops hops).hops = hops := by
  have hlong := hwell.long
  rcases packet with ⟨_ | _, octets⟩
  · change 20 ≤ octets.length at hlong
    exact Octets.octet_setOctet (hlong.trans_lt' (by decide)) hops
  · change 40 ≤ octets.length at hlong
    exact Octets.octet_setOctet (hlong.trans_lt' (by decide)) hops

end

def restated (packet : Packet) (payload : Octets) : Packet :=
  (packet.withPayload payload).fillChecksum

section

variable {packet : Packet} (hwell : packet.WellFormed) {payload : Octets}
include hwell

theorem agree_restated {inside : Set Nat} (hagree : AgreeOutside inside packet.payload payload) :
    AgreeOutside (packet.family.checksumPlaces ∪ (packet.headerLength + ·) '' inside)
      packet.octets (packet.restated payload).octets := by
  have hpatched := wellFormed_withPayload hwell hagree.length
  have hsecond := agree_fillChecksum hpatched
  exact ((agree_withPayload hwell hagree.length hagree).mono Set.subset_union_right).trans
    (hsecond.mono Set.subset_union_left)

variable (hlength : payload.length = packet.payload.length)
include hlength

theorem sameShape_restated : SameShape packet (packet.restated payload) :=
  (sameShape_withPayload hwell hlength).trans
    (sameShape_fillChecksum (wellFormed_withPayload hwell hlength))

theorem wellFormed_restated : (packet.restated payload).WellFormed := by
  apply (sameShape_restated hwell hlength).wellFormed hwell
  rw [(agree_restated hwell (AgreeOutside.univ hlength)).length]
  exact hwell.fits

theorem payload_restated : (packet.restated payload).payload = payload := by
  rw [restated, payload_fillChecksum (wellFormed_withPayload hwell hlength),
    payload_withPayload hwell hlength]

theorem source_restated : (packet.restated payload).source = packet.source := by
  rw [restated, source_fillChecksum (wellFormed_withPayload hwell hlength),
    source_withPayload hwell hlength]

theorem destination_restated : (packet.restated payload).destination = packet.destination := by
  rw [restated, destination_fillChecksum (wellFormed_withPayload hwell hlength),
    destination_withPayload hwell hlength]

theorem headerIntact_restated : (packet.restated payload).headerIntact = true :=
  headerIntact_fillChecksum (wellFormed_withPayload hwell hlength)

theorem fillChecksum_restated :
    (packet.restated payload).fillChecksum = packet.restated payload :=
  fillChecksum_fillChecksum (wellFormed_withPayload hwell hlength)

theorem hops_restated : (packet.restated payload).hops = packet.hops := by
  have hagree := agree_restated hwell (AgreeOutside.univ hlength)
  rw [hops_eq, hops_eq, (sameShape_restated hwell hlength).family]
  apply hagree.octet
  intro hinside
  rcases hinside with hchecksum | ⟨offset, -, hoffset⟩
  · exact packet.family.hopsPlace_outside (packet.family.checksumPlaces_subset hchecksum)
  · have hbelow := packet.family.hopsPlace_lt.trans_le hwell.least
    have hsame : packet.headerLength + offset = packet.family.hopsPlace := hoffset
    omega

end

end Packet

namespace EchoResponder

/-! ## Turning a request round -/

section

variable {request : Packet} (hwell : request.WellFormed)
include hwell

theorem agree_turned :
    AgreeOutside request.family.turnedPlaces request.octets (turned request).octets := by
  have hmoved := Packet.agree_moved hwell request.family_destination request.family_source
  have hhops := Packet.agree_setHops (Packet.wellFormed_swapAddresses hwell) Build.defaultHops
  rw [← Packet.swapAddresses_eq] at hmoved
  rw [(Packet.sameShape_swapAddresses hwell).family] at hhops
  apply hmoved.trans_union (hhops.mono _)
  intro place hplace
  exact Nat.le_antisymm (Nat.le_of_lt_succ hplace.2) hplace.1

theorem payload_turned : (turned request).payload = request.payload := by
  apply Packet.payload_congr (agree_turned hwell) (sameShape_turned hwell)
  intro place hplace hinside
  have hless := request.family.turnedPlaces_lt hinside
  exact absurd (hwell.least.trans hplace) (not_le.2 hless)

theorem source_turned : (turned request).source = request.destination := by
  rw [turned, Packet.source_setHops (Packet.wellFormed_swapAddresses hwell),
    Packet.swapAddresses_eq,
    Packet.source_moved hwell request.family_destination request.family_source]

theorem destination_turned : (turned request).destination = request.source := by
  rw [turned, Packet.destination_setHops (Packet.wellFormed_swapAddresses hwell),
    Packet.swapAddresses_eq,
    Packet.destination_moved hwell request.family_destination request.family_source]

end

/-! ## The message of a reply -/

def filled (request : Packet) : Octets :=
  (Carrier.control request.family).fill request.destination request.source (flipped request)

theorem reply_eq_restated (request : Packet) :
    reply request = (turned request).restated (filled request) := by
  rw [reply_eq, filled, Carrier.fill_control, Packet.restated]

section

variable {request : Packet} (hwell : request.WellFormed) (hrequest : request.RequestsEcho)
include hwell hrequest

theorem agree_flipped : AgreeOutside {0} request.payload (flipped request) := by
  have hlong := hrequest.long
  rw [flipped, payload_turned hwell]
  exact AgreeOutside.setOctet request.payload 0 (by omega) (ICMP.echoReply request.family)

theorem messageType_flipped :
    ICMP.messageType (flipped request) = ICMP.echoReply request.family := by
  have hlong := hrequest.long
  rw [flipped, payload_turned hwell]
  exact Octets.octet_setOctet (by omega) (ICMP.echoReply request.family)

theorem check_flipped : (Carrier.control request.family).check (flipped request) = .ok () := by
  rw [Carrier.check_control_iff, (agree_flipped hwell hrequest).length]
  exact hrequest.long

/-- The message of a reply is that of its request but for type and checksum. -/
theorem agree_filled :
    AgreeOutside ICMP.flippedPlaces request.payload (filled request) := by
  have hfilled := Carrier.agree_fill request.destination request.source
    (check_flipped hwell hrequest)
  rw [Carrier.field_control] at hfilled
  exact (agree_flipped hwell hrequest).trans_union hfilled

theorem messageType_filled : ICMP.messageType (filled request) = ICMP.echoReply request.family := by
  have hfilled := Carrier.agree_fill request.destination request.source
    (check_flipped hwell hrequest)
  rw [Carrier.field_control] at hfilled
  rw [← messageType_flipped hwell hrequest]
  exact hfilled.octet (by simp)

theorem check_filled : (Carrier.control request.family).check (filled request) = .ok () := by
  rw [Carrier.check_control_iff, (agree_filled hwell hrequest).length]
  exact hrequest.long

theorem intact_filled :
    (Carrier.control request.family).intact request.destination request.source (filled request) =
      true := by
  apply Carrier.intact_fill request.destination request.source (check_flipped hwell hrequest)
  rw [Carrier.covered_control, (agree_flipped hwell hrequest).length]
  exact hwell.length_payload_le

theorem fill_filled :
    ICMP.fillChecksum request.family request.destination request.source (filled request) =
      filled request := by
  rw [← Carrier.fill_control]
  exact Carrier.fill_fill request.destination request.source (check_flipped hwell hrequest)

/-! ## Replies -/

/-- The reply to an echo request is the answer to it. -/
theorem answers_reply : request.Answers (reply request) := by
  have hturned := wellFormed_turned hwell
  have hshape := sameShape_turned hwell
  have hmessage : AgreeOutside ICMP.flippedPlaces (turned request).payload (filled request) := by
    rw [payload_turned hwell]
    exact agree_filled hwell hrequest
  have hlength := hmessage.length
  have hwhole := Packet.wellFormed_restated hturned hlength
  have hsame := hshape.trans (Packet.sameShape_restated hturned hlength)
  have hpayload := Packet.payload_restated hturned hlength
  have hagree := Packet.agree_restated hturned hmessage
  have hsource : ((turned request).restated (filled request)).source = request.destination := by
    rw [Packet.source_restated hturned hlength, source_turned hwell]
  have hdestination :
      ((turned request).restated (filled request)).destination = request.source := by
    rw [Packet.destination_restated hturned hlength, destination_turned hwell]
  rw [hshape.family, hshape.headerLength] at hagree
  rw [reply_eq_restated]
  exact {
    parse := hwhole.parse
    family := hsame.family
    source := hsource
    destination := hdestination
    hops := by
      rw [Packet.hops_restated hturned hlength]
      exact Packet.hops_setHops (Packet.wellFormed_swapAddresses hwell) Build.defaultHops
    type := by rw [hpayload, messageType_filled hwell hrequest]
    header := Packet.fillChecksum_restated hturned hlength
    message := by rw [hpayload, fill_filled hwell hrequest]
    valid := by
      -- The protocol is still that of the request, so the message is judged as a control message.
      have hcarrier := Carrier.ofProtocol?_control request.family
      rw [← hrequest.protocol, ← hsame.protocol] at hcarrier
      have hcheck := check_filled hwell hrequest
      have hintact : ((turned request).restated (filled request)).transportIntact = true := by
        rw [Packet.transportIntact_iff hcarrier, hpayload, hsource, hdestination]
        exact ⟨hcheck, intact_filled hwell hrequest⟩
      rw [checksumsValid, hwhole.parse]
      exact Bool.and_eq_true_iff.2 ⟨Packet.headerIntact_restated hturned hlength, hintact⟩
    agree := by
      have hfirst := (agree_turned hwell).mono
        (Set.subset_union_left (t := (request.headerLength + ·) '' ICMP.flippedPlaces))
      apply hfirst.trans (hagree.mono _)
      apply Set.union_subset_union_left
      exact request.family.checksumPlaces_subset.trans Set.subset_union_left }

end

/-! ## Answering in the buffer -/

/-- No responder answers what a request was answered with. -/
theorem run_answerInPlace_of_answers {request answer : Packet} (hanswers : request.Answers answer)
    (responder : EchoResponder) :
    responder.answerInPlace.run answer = (false, answer) := by
  obtain ⟨hkept, hwell⟩ := Packet.wellFormed_of_parse hanswers.parse
  have hother : isRequest answer ≠ true := by
    intro hrequest
    have htype := ((isRequest_iff hwell).1 hrequest).type
    rw [hanswers.type, hanswers.family] at htype
    exact ICMP.echoReply_ne_echoRequest request.family htype
  rw [run_answerInPlace, answer?, Bool.eq_false_iff.2 hother, Bool.false_and]
  rfl

/-- A responder was given a packet in its buffer, told whether it answered it, and left another one
there. -/
structure Responds (responder : EchoResponder) (packet : Packet) (answered : Bool)
    (after : Packet) : Prop where
  run : responder.answerInPlace.run packet = (answered, after)
  answered_iff : answered = true ↔
    packet.RequestsEcho ∧ responder.Covers packet.destination
  answers : answered = true → packet.Answers after
  kept : answered = false → after = packet
  /-- What was answered is not answered again, whatever the policy. -/
  once : answered = true →
    ∀ other : EchoResponder, other.answerInPlace.run after = (false, after)

/-- A responder answers just the echo requests that it covers, and leaves the buffers of all other
packets alone. -/
theorem responds_of_parse {bytes : Octets} {packet : Packet}
    (hparse : Packet.parse bytes = .ok packet) (responder : EchoResponder) :
    ∃ answered after, responder.Responds packet answered after := by
  obtain ⟨-, hwell⟩ := Packet.wellFormed_of_parse hparse
  have hrun := responder.run_answerInPlace packet
  have hwanted : (isRequest packet && responder.wants packet.destination) = true ↔
      packet.RequestsEcho ∧ responder.Covers packet.destination := by
    rw [Bool.and_eq_true, isRequest_iff hwell, wants_iff]
  rw [answer?] at hrun
  by_cases hanswered : packet.RequestsEcho ∧ responder.Covers packet.destination
  · have hanswers := answers_reply hwell hanswered.1
    rw [if_pos (hwanted.2 hanswered)] at hrun
    refine ⟨true, reply packet, hrun, by simp [hanswered], fun _ => hanswers, ?_, ?_⟩
    · intro hdeclined
      cases hdeclined
    · intro _ other
      exact run_answerInPlace_of_answers hanswers other
  · rw [if_neg (hwanted.not.2 hanswered)] at hrun
    refine ⟨false, packet, hrun, by simp [hanswered], ?_, fun _ => rfl, ?_⟩
    · intro hclaimed
      cases hclaimed
    · intro hclaimed
      cases hclaimed

/-- An echo request with an option and data of odd length, followed by an octet that is not part of
it. The checksum of its header is wrong. -/
def sampleEcho : Octets :=
  [0x46, 0, 0, 35, 0x12, 0x34, 0x40, 0, 7, 1, 0xde, 0xad, 10, 0, 0, 2, 172, 19, 0, 2, 1, 1, 1, 0,
    8, 0, 0x21, 0x68, 0x12, 0x34, 0, 1, 0x61, 0x62, 0x63, 0x7a]

def sampleEchoed : Octets :=
  [0x46, 0, 0, 35, 0x12, 0x34, 0x40, 0, 64, 1, 0x6f, 0x8e, 172, 19, 0, 2, 10, 0, 0, 2, 1, 1, 1, 0,
    0, 0, 0x29, 0x68, 0x12, 0x34, 0, 1, 0x61, 0x62, 0x63, 0x7a]

theorem responds_of_parse_sampleEcho :
    Packet.parse sampleEcho = .ok ⟨.v4, sampleEcho⟩ ∧
      Responds ⟨.portal, ⟨172, 19, 0, 2⟩, V6.unspecified⟩ ⟨.v4, sampleEcho⟩ true
        ⟨.v4, sampleEchoed⟩ := by
  have hparse : Packet.parse sampleEcho = .ok ⟨.v4, sampleEcho⟩ := by decide
  obtain ⟨answered, after, hresponds⟩ := responds_of_parse hparse
    ⟨.portal, ⟨172, 19, 0, 2⟩, V6.unspecified⟩
  have hanswer : answer? ⟨.portal, ⟨172, 19, 0, 2⟩, V6.unspecified⟩ ⟨.v4, sampleEcho⟩ =
      some ⟨.v4, sampleEchoed⟩ := by
    cbv
  have hrun := hresponds.run
  rw [run_answerInPlace, hanswer] at hrun
  cases hrun
  exact ⟨hparse, hresponds⟩

end EchoResponder

end PortalNat
