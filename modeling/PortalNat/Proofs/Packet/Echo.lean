import PortalNat.Echo
import PortalNat.Proofs.Packet.Readdress

/-!
# Echo replies as packets

Turning a request into its reply changes addresses, hops, the type of the message and checksums.
None of these tells the shape of a packet, so a reply is a packet of the same lengths and the same
protocol as its request.
-/

namespace PortalNat

open Octets (AgreeOutside)

def Family.hopsPlace : Family → Nat
  | v4 => 8
  | v6 => 7

theorem Family.hopsPlace_lt (family : Family) : family.hopsPlace < family.leastHeader := by
  cases family <;> decide

namespace Packet

theorem swapAddresses_eq (packet : Packet) :
    packet.swapAddresses = packet.moved packet.destination packet.source := by
  rcases packet with ⟨_ | _, octets⟩ <;> rfl

section

variable {packet : Packet} (hwell : packet.WellFormed)
include hwell

theorem sameShape_swapAddresses : SameShape packet packet.swapAddresses := by
  rw [swapAddresses_eq]
  exact sameShape_moved hwell packet.family_destination packet.family_source

theorem wellFormed_swapAddresses : packet.swapAddresses.WellFormed := by
  rw [swapAddresses_eq]
  exact wellFormed_moved hwell packet.family_destination packet.family_source

theorem agree_setHops (hops : UInt8) :
    AgreeOutside (Set.Ico packet.family.hopsPlace (packet.family.hopsPlace + 1)) packet.octets
      (packet.setHops hops).octets := by
  have hlong := hwell.long
  rcases packet with ⟨_ | _, octets⟩
  · change 20 ≤ octets.length at hlong
    exact AgreeOutside.overwrite octets 8 [hops] (hlong.trans' (show 8 + 1 ≤ 20 by decide))
  · change 40 ≤ octets.length at hlong
    exact AgreeOutside.overwrite octets 7 [hops] (hlong.trans' (show 7 + 1 ≤ 40 by decide))

theorem sameShape_setHops (hops : UInt8) : SameShape packet (packet.setHops hops) := by
  apply sameShape_of_agree _ (agree_setHops hwell hops)
  · intro place hplace hinside
    rcases packet with ⟨_ | _, octets⟩ <;>
      simp only [Family.shapePlaces, Set.mem_insert_iff, Set.mem_singleton_iff] at hplace <;>
      simp only [Family.hopsPlace, Set.mem_Ico] at hinside <;> omega
  · rcases packet with ⟨_ | _, octets⟩ <;> rfl

theorem wellFormed_setHops (hops : UInt8) : (packet.setHops hops).WellFormed := by
  apply (sameShape_setHops hwell hops).wellFormed hwell
  rw [(agree_setHops hwell hops).length]
  exact hwell.fits

end

theorem SameShape.trans {packet middle after : Packet} (hfirst : SameShape packet middle)
    (hsecond : SameShape middle after) : SameShape packet after where
  family := hsecond.family.trans hfirst.family
  octet place hplace :=
    (hsecond.octet place (hfirst.family ▸ hplace)).trans (hfirst.octet place hplace)

end Packet

theorem ICMP.length_fillChecksum (family : Family) (source destination : Address)
    {message : Octets} (hlong : 4 ≤ message.length) :
    (ICMP.fillChecksum family source destination message).length = message.length := by
  have hcleared : (Octets.setWord message 2 0).length = message.length :=
    Octets.length_setWord hlong 0
  cases family <;> simp only [fillChecksum, fillChecksumV4, fillChecksumV6] <;>
    rw [Octets.length_setWord (by rw [hcleared]; exact hlong), hcleared]

namespace EchoResponder

/-- A request has at least an echo header, and its protocol is that of its version of IP. -/
theorem request_spec {packet : Packet} (hrequest : isRequest packet = true) :
    packet.protocol = ICMP.protocol packet.family ∧ 8 ≤ packet.payload.length := by
  simp only [isRequest, Bool.and_eq_true, beq_iff_eq] at hrequest
  refine ⟨hrequest.1.1.1.1, ?_⟩
  have hcheck := hrequest.1.1.1.2
  by_contra hshort
  have hlength : packet.payload.length < ICMP.headerLength := not_le.1 hshort
  rw [ICMP.check, if_pos hlength] at hcheck
  cases hcheck

/-- A request that was turned round, with the message it came with. -/
def turned (request : Packet) : Packet :=
  request.swapAddresses.setHops Build.defaultHops

/-- The message of a request as a reply, with the checksum of the request. -/
def flipped (request : Packet) : Octets :=
  ICMP.setMessageType (turned request).payload (ICMP.echoReply request.family)

theorem reply_eq (request : Packet) :
    reply request = ((turned request).withPayload (ICMP.fillChecksum request.family
      request.destination request.source (flipped request))).fillChecksum :=
  rfl

section

variable {request : Packet} (hwell : request.WellFormed)
include hwell

theorem wellFormed_turned : (turned request).WellFormed :=
  Packet.wellFormed_setHops (Packet.wellFormed_swapAddresses hwell) Build.defaultHops

theorem sameShape_turned : Packet.SameShape request (turned request) :=
  (Packet.sameShape_swapAddresses hwell).trans
    (Packet.sameShape_setHops (Packet.wellFormed_swapAddresses hwell) Build.defaultHops)

theorem length_turned : (turned request).payload.length = request.payload.length :=
  (sameShape_turned hwell).length_payload hwell (wellFormed_turned hwell)

variable (hrequest : isRequest request = true)
include hrequest

theorem length_flipped : (flipped request).length = request.payload.length := by
  have hlong := (request_spec hrequest).2
  have hturned := length_turned hwell
  rw [flipped, ICMP.setMessageType, Octets.length_setOctet (by omega), hturned]

/-- The message of a reply stands where that of the request stood. -/
theorem length_filled :
    (ICMP.fillChecksum request.family request.destination request.source (flipped request)).length =
      (turned request).payload.length := by
  have hlong := (request_spec hrequest).2
  have hflipped := length_flipped hwell hrequest
  rw [ICMP.length_fillChecksum _ _ _ (by omega), hflipped, length_turned hwell]

/-- The reply to a request has its lengths and its protocol. -/
theorem reply_spec : Packet.SameShape request (reply request) ∧ (reply request).WellFormed := by
  have hfilled := length_filled hwell hrequest
  have hpatched := Packet.sameShape_withPayload (wellFormed_turned hwell) hfilled
  have hpatchedWell := Packet.wellFormed_withPayload (wellFormed_turned hwell) hfilled
  have hlast := Packet.sameShape_fillChecksum hpatchedWell
  rw [reply_eq]
  refine ⟨((sameShape_turned hwell).trans hpatched).trans hlast, hlast.wellFormed hpatchedWell ?_⟩
  rw [(Packet.agree_fillChecksum hpatchedWell).length]
  exact hpatchedWell.fits

end

theorem answer?_eq_some_iff {responder : EchoResponder} {packet answer : Packet} :
    responder.answer? packet = some answer ↔
      isRequest packet = true ∧ responder.wants packet.destination = true ∧
        reply packet = answer := by
  rw [answer?, Option.ite_none_right_eq_some, Bool.and_eq_true, Option.some.injEq, and_assoc]

theorem wellFormed_answer {responder : EchoResponder} {packet answer : Packet}
    (hwell : packet.WellFormed) (hanswer : responder.answer? packet = some answer) :
    answer.WellFormed := by
  obtain ⟨hrequest, -, rfl⟩ := answer?_eq_some_iff.1 hanswer
  exact (reply_spec hwell hrequest).2

/-- What is written to answer a request is a packet of the protocol of the request. -/
theorem protocol_answer {responder : EchoResponder} {packet answer : Packet}
    (hwell : packet.WellFormed) (hanswer : responder.answer? packet = some answer) :
    Packet.parse answer.declared = .ok answer.trimmed ∧
      answer.trimmed.protocol = ICMP.protocol packet.family := by
  obtain ⟨hrequest, -, rfl⟩ := answer?_eq_some_iff.1 hanswer
  obtain ⟨hshape, hreplyWell⟩ := reply_spec hwell hrequest
  refine ⟨hreplyWell.parse_declared, ?_⟩
  rw [hreplyWell.sameShape_trimmed.protocol, hshape.protocol, (request_spec hrequest).1]

end EchoResponder

end PortalNat
