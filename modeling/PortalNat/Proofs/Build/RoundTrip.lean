import PortalNat.Proofs.Build.Header
import PortalNat.Proofs.Packet.Carried

/-!
# Built packets read back

What a packet is built from is a plan: a UDP datagram, a TCP segment or an echo message between two
addresses. A plan is carried out if its addresses are of one version of IP and its length can be
stated, and refused otherwise. The packet that comes out is a header and a message and nothing else.
Reading it by the views of its protocol gives the plan again, since filling in a checksum changes
nothing that these views look at.
-/

namespace PortalNat

open Octets (AgreeOutside octet word doubleWord)

namespace Octets

/-- A thirty-two-bit number is the join of its two words. -/
theorem doubleWord_of_words {bytes : Octets} {offset : Nat} {value : UInt32}
    (hhigh : word bytes offset = (value / 65536).toUInt16)
    (hlow : word bytes (offset + 2) = value.toUInt16) : doubleWord bytes offset = value := by
  have hbound := value.toNat_lt
  rw [doubleWord, hhigh, hlow]
  apply UInt32.toNat_inj.1
  simp only [UInt32.toNat_add, UInt32.toNat_mul, UInt16.toNat_toUInt32, UInt32.toNat_toUInt16,
    UInt32.toNat_div, UInt32.reduceToNat]
  omega

end Octets

namespace Build

/-! ## Plans -/

/-- What a packet is built from. -/
inductive Plan where
  | udp (source destination : Endpoint) (payload : Octets)
  | tcp (source destination : Endpoint) (flags : UInt8)
      (sequenceNumber acknowledgementNumber : UInt32) (payload : Octets)
  | echo (source destination : Address) (request : Bool) (identifier sequence : UInt16)
      (data : Octets)
deriving DecidableEq, Repr

namespace Plan

def build : Plan → Except PacketError Octets
  | udp source destination payload => Build.udp source destination payload
  | tcp source destination flags sequenceNumber acknowledgementNumber payload =>
    Build.tcp source destination flags sequenceNumber acknowledgementNumber payload
  | echo source destination request identifier sequence data =>
    Build.echo source destination request identifier sequence data

def source : Plan → Address
  | udp source .. | tcp source .. => source.address
  | echo source .. => source

def destination : Plan → Address
  | udp _ destination _ | tcp _ destination .. => destination.address
  | echo _ destination .. => destination

def data : Plan → Octets
  | udp _ _ payload => payload
  | tcp _ _ _ _ _ payload => payload
  | echo _ _ _ _ _ data => data

def headerLength : Plan → Nat
  | udp .. => UDP.headerLength
  | tcp .. => TCP.minimumLength
  | echo .. => ICMP.headerLength

/-- The plan without the zones of its endpoints, for which a packet has no room. -/
def unzoned : Plan → Plan
  | udp source destination payload =>
    udp (.of source.address source.port) (.of destination.address destination.port) payload
  | tcp source destination flags sequenceNumber acknowledgementNumber payload =>
    tcp (.of source.address source.port) (.of destination.address destination.port) flags
      sequenceNumber acknowledgementNumber payload
  | echo source destination request identifier sequence data =>
    echo source destination request identifier sequence data

/-! ## Plans read from packets -/

def ofEcho? (family : Family) (source destination : Address) (message : Octets) : Option Plan :=
  let read (request : Bool) :=
    echo source destination request (ICMP.identifier message) (ICMP.sequence message)
      (ICMP.data message)
  if ICMP.messageType message = ICMP.echoRequest family then some (read true)
  else if ICMP.messageType message = ICMP.echoReply family then some (read false)
  else none

def ofMessage? (source destination : Address) : Carrier → Octets → Option Plan
  | .udp, segment =>
    some <| udp (.of source (UDP.sourcePort segment))
      (.of destination (UDP.destinationPort segment)) (UDP.payload segment)
  | .tcp, segment =>
    some <| tcp (.of source (TCP.sourcePort segment))
      (.of destination (TCP.destinationPort segment)) (TCP.flags segment)
      (TCP.sequenceNumber segment) (TCP.acknowledgementNumber segment) (TCP.payload segment)
  | .icmp, message => ofEcho? .v4 source destination message
  | .icmpV6, message => ofEcho? .v6 source destination message
  | .ipv4Header, _ => none

def ofPacket? (packet : Packet) : Option Plan := do
  let carrier ← Carrier.ofProtocol? packet.protocol
  match carrier.check packet.payload with
  | .ok () => ofMessage? packet.source packet.destination carrier packet.payload
  | .error _ => none

/-- A packet is what a plan asks for: its octets are an IP header, the header of its message and the
data, its checksums are right, it is no fragment, and its views give the plan again. -/
structure ReadsBack (plan : Plan) (built : Octets) : Prop where
  length : built.length =
    plan.source.family.leastHeader + (plan.headerLength + plan.data.length)
  parse : Packet.parse built = .ok ⟨plan.source.family, built⟩
  exact : (Packet.mk plan.source.family built).totalLength = built.length
  valid : checksumsValid built = true
  whole : (Packet.mk plan.source.family built).isFragment = false
  read : ofPacket? ⟨plan.source.family, built⟩ = some plan.unzoned

/-- What the header of the packet is to state. -/
def stated (plan : Plan) : Nat :=
  headerStates plan.source.family (plan.headerLength + plan.data.length)

/-- A plan is carried out exactly if its addresses are of one version of IP and its length can be
stated, the first of these that fails is reported, and what is built reads back as the plan. -/
structure RoundTrips (plan : Plan) : Prop where
  built_iff : (∃ built, plan.build = .ok built) ↔
    plan.source.family = plan.destination.family ∧ plan.stated ≤ 65535
  mismatch : plan.source.family ≠ plan.destination.family →
    plan.build = .error (.familyMismatch plan.destination)
  tooLarge : plan.source.family = plan.destination.family → 65535 < plan.stated →
    plan.build = .error (.tooLarge plan.stated)
  readsBack {built : Octets} : plan.build = .ok built → plan.ReadsBack built

/-! ## Messages -/

def carrier : Plan → Carrier
  | udp .. => .udp
  | tcp .. => .tcp
  | echo source .. =>
    match source.family with
    | .v4 => .icmp
    | .v6 => .icmpV6

def protocol : Plan → UInt8
  | udp .. => Protocol.udp
  | tcp .. => Protocol.tcp
  | echo source .. => ICMP.protocol source.family

def header : Plan → Octets
  | udp source destination payload =>
    UDP.freshHeader source.port destination.port
      (UInt16.ofNat (UDP.headerLength + payload.length))
  | tcp source destination flags sequenceNumber acknowledgementNumber _ =>
    TCP.freshHeader source.port destination.port sequenceNumber acknowledgementNumber flags 0xffff
  | echo source _ request identifier sequence _ =>
    ICMP.freshHeader
      (if request then ICMP.echoRequest source.family else ICMP.echoReply source.family) identifier
      sequence

def message (plan : Plan) : Octets :=
  plan.header ++ plan.data

theorem length_message (plan : Plan) :
    plan.message.length = plan.headerLength + plan.data.length := by
  rw [message, List.length_append]
  cases plan <;> rfl

theorem ofProtocol?_protocol (plan : Plan) :
    Carrier.ofProtocol? plan.protocol = some plan.carrier := by
  cases plan with
  | udp | tcp => rfl
  | echo source =>
      simp only [protocol, carrier]
      cases source.family <;> rfl

/-- A UDP datagram states its own length. -/
theorem length_udp_message {source destination : Endpoint} {payload : Octets}
    (hfits : (udp source destination payload).message.length ≤ 65535) :
    (UDP.length (udp source destination payload).message).toNat =
      (udp source destination payload).message.length := by
  have hstated : UDP.length (udp source destination payload).message =
      UInt16.ofNat (UDP.headerLength + payload.length) := Octets.joinWord_ofWord _
  rw [length_message] at hfits ⊢
  rw [hstated]
  exact UInt16.toNat_ofNat_of_lt' (hfits.trans_lt (by decide))

/-- The header of a TCP segment has no options. -/
theorem headerLength_tcp_message (source destination : Endpoint) (flags : UInt8)
    (sequenceNumber acknowledgementNumber : UInt32) (payload : Octets) :
    TCP.headerLength
        (tcp source destination flags sequenceNumber acknowledgementNumber payload).message =
      TCP.minimumLength := by
  have hoffset : octet (tcp source destination flags sequenceNumber acknowledgementNumber
      payload).message 12 = 0x50 := rfl
  rw [TCP.headerLength, hoffset]
  rfl

section

variable (plan : Plan) (hfits : plan.message.length ≤ 65535)
include hfits

theorem check_message : plan.carrier.check plan.message = .ok () := by
  have hlong : plan.headerLength ≤ plan.message.length := by
    rw [length_message]
    exact Nat.le_add_right _ _
  cases plan with
  | udp source destination payload =>
      apply (Packet.udp_check_iff _).2
      rw [length_udp_message hfits]
      exact ⟨hlong, hlong, le_rfl⟩
  | tcp source destination flags sequenceNumber acknowledgementNumber payload =>
      apply (Packet.tcp_check_iff _).2
      rw [headerLength_tcp_message]
      exact ⟨hlong, le_rfl, hlong⟩
  | echo source destination request identifier sequence data =>
      cases source <;> exact (Packet.icmp_check_iff _).2 hlong

/-- The views of the message say what the plan says. -/
theorem ofMessage?_message :
    ofMessage? plan.source plan.destination plan.carrier plan.message = some plan.unzoned := by
  cases plan with
  | udp source destination payload =>
      have hsource : UDP.sourcePort (udp source destination payload).message = source.port :=
        Octets.joinWord_ofWord _
      have hdestination : UDP.destinationPort (udp source destination payload).message =
          destination.port := Octets.joinWord_ofWord _
      have hpayload : UDP.payload (udp source destination payload).message = payload := by
        rw [UDP.payload, UDP.datagram, length_udp_message hfits, List.take_length]
        rfl
      simp only [ofMessage?, carrier, hsource, hdestination, hpayload]
      rfl
  | tcp source destination flags sequenceNumber acknowledgementNumber payload =>
      set segment :=
        (tcp source destination flags sequenceNumber acknowledgementNumber payload).message
        with hsegment
      have hsource : TCP.sourcePort segment = source.port := Octets.joinWord_ofWord _
      have hdestination : TCP.destinationPort segment = destination.port :=
        Octets.joinWord_ofWord _
      have hsequence : TCP.sequenceNumber segment = sequenceNumber :=
        Octets.doubleWord_of_words (Octets.joinWord_ofWord _) (Octets.joinWord_ofWord _)
      have hacknowledgement : TCP.acknowledgementNumber segment = acknowledgementNumber :=
        Octets.doubleWord_of_words (Octets.joinWord_ofWord _) (Octets.joinWord_ofWord _)
      have hflags : TCP.flags segment = flags := rfl
      have hpayload : TCP.payload segment = payload := by
        rw [TCP.payload, hsegment, headerLength_tcp_message]
        rfl
      simp only [ofMessage?, carrier, hsource, hdestination, hsequence, hacknowledgement, hflags,
        hpayload]
      rfl
  | echo source destination request identifier sequence data =>
      set message := (echo source destination request identifier sequence data).message
      have hidentifier : ICMP.identifier message = identifier := Octets.joinWord_ofWord _
      have hsequence : ICMP.sequence message = sequence := Octets.joinWord_ofWord _
      have htype : ICMP.messageType message =
          if request then ICMP.echoRequest source.family else ICMP.echoReply source.family := rfl
      have hdata : ICMP.data message = data := rfl
      have hread : ofEcho? source.family source destination message =
          some (echo source destination request identifier sequence data) := by
        simp only [ofEcho?, hidentifier, hsequence, htype, hdata]
        cases source <;> cases request <;> rfl
      cases source <;> exact hread

end

/-- The views of a message do not look at its checksum. -/
theorem ofMessage?_congr {carrier : Carrier} {bytes other : Octets} (source destination : Address)
    (hcheck : carrier.check bytes = .ok ()) (hagree : AgreeOutside carrier.field bytes other) :
    ofMessage? source destination carrier other = ofMessage? source destination carrier bytes := by
  have hdata := Carrier.data_congr hcheck hagree
  have hword {offset : Nat} (hapart : offset + 2 ≤ carrier.place ∨ carrier.place + 2 ≤ offset) :
      word other offset = word bytes offset := by
    apply hagree.word <;> simp only [Carrier.field, Set.mem_Ico] <;> omega
  have hdouble {offset : Nat} (hapart : offset + 4 ≤ carrier.place) :
      doubleWord other offset = doubleWord bytes offset := by
    rw [doubleWord, doubleWord, hword (.inl (by omega)), hword (.inl (by omega))]
  cases carrier with
  | ipv4Header => rfl
  | tcp =>
      have hsource : TCP.sourcePort other = TCP.sourcePort bytes := hword (.inl (by decide))
      have hdestination : TCP.destinationPort other = TCP.destinationPort bytes :=
        hword (.inl (by decide))
      have hsequence : TCP.sequenceNumber other = TCP.sequenceNumber bytes := hdouble (by decide)
      have hacknowledgement : TCP.acknowledgementNumber other = TCP.acknowledgementNumber bytes :=
        hdouble (by decide)
      have hflags : TCP.flags other = TCP.flags bytes :=
        hagree.octet (by simp [Carrier.field, Carrier.place])
      have hpayload : TCP.payload other = TCP.payload bytes := hdata
      simp only [ofMessage?, hsource, hdestination, hsequence, hacknowledgement, hflags, hpayload]
  | udp =>
      have hsource : UDP.sourcePort other = UDP.sourcePort bytes := hword (.inl (by decide))
      have hdestination : UDP.destinationPort other = UDP.destinationPort bytes :=
        hword (.inl (by decide))
      have hpayload : UDP.payload other = UDP.payload bytes := hdata
      simp only [ofMessage?, hsource, hdestination, hpayload]
  | icmp | icmpV6 =>
      have htype : ICMP.messageType other = ICMP.messageType bytes :=
        hagree.octet (by simp [Carrier.field, Carrier.place])
      have hidentifier : ICMP.identifier other = ICMP.identifier bytes := hword (.inr (by decide))
      have hsequence : ICMP.sequence other = ICMP.sequence bytes := hword (.inr (by decide))
      have hpayload : ICMP.data other = ICMP.data bytes := hdata
      simp only [ofMessage?, ofEcho?, htype, hidentifier, hsequence, hpayload]

/-! ## Carrying out a plan -/

def filled (plan : Plan) : Octets :=
  plan.carrier.fill plan.source plan.destination plan.message

section

variable {plan : Plan}

theorem build_of_error {error : PacketError}
    (hheader : ipHeader plan.source plan.destination plan.protocol plan.message.length =
      .error error) : plan.build = .error error := by
  rw [length_message] at hheader
  cases plan <;>
    simp only [source, destination, protocol, headerLength, data] at hheader <;>
    simp only [build, Build.udp, Build.tcp, Build.echo, hheader, bind, Except.bind]

theorem build_of_ok {ipHeader : Octets} (hfits : plan.message.length ≤ 65535)
    (hheader : Build.ipHeader plan.source plan.destination plan.protocol plan.message.length =
      .ok ipHeader) : plan.build = .ok (ipHeader ++ plan.filled) := by
  rw [length_message] at hheader hfits
  cases plan with
  | udp sender receiver payload =>
      have hstated : sixteenBits (UDP.headerLength + payload.length) = .ok _ :=
        sixteenBits_of_le hfits
      simp only [source, destination, protocol, headerLength, data] at hheader
      simp only [build, Build.udp, hheader, hstated, bind, Except.bind]
      rfl
  | tcp sender receiver flags sequenceNumber acknowledgementNumber payload =>
      simp only [source, destination, protocol, headerLength, data] at hheader
      simp only [build, Build.tcp, hheader, bind, Except.bind]
      rfl
  | echo sender receiver request identifier sequence payload =>
      simp only [source, destination, protocol, headerLength, data] at hheader
      simp only [build, Build.echo, hheader, bind, Except.bind]
      cases sender <;> rfl

/-- A message that a header can be built for is no longer than a segment can be. -/
theorem length_message_le (hstated : plan.stated ≤ 65535) : plan.message.length ≤ 65535 := by
  rw [length_message]
  rw [stated] at hstated
  cases hfamily : plan.source.family with
  | v4 =>
      rw [hfamily] at hstated
      exact (Nat.le_add_left _ _).trans hstated
  | v6 =>
      rw [hfamily] at hstated
      exact hstated

section

variable (hfits : plan.message.length ≤ 65535)
include hfits

theorem agree_filled : AgreeOutside plan.carrier.field plan.message plan.filled :=
  Carrier.agree_fill plan.source plan.destination (check_message plan hfits)

theorem check_filled : plan.carrier.check plan.filled = .ok () :=
  (Carrier.check_congr (agree_filled hfits)).trans (check_message plan hfits)

theorem intact_filled :
    plan.carrier.intact plan.source plan.destination plan.filled = true :=
  Carrier.intact_fill plan.source plan.destination (check_message plan hfits)
    ((plan.carrier.length_covered_le plan.message).trans hfits)

theorem ofMessage?_filled :
    ofMessage? plan.source plan.destination plan.carrier plan.filled = some plan.unzoned := by
  rw [ofMessage?_congr plan.source plan.destination (check_message plan hfits) (agree_filled hfits),
    ofMessage?_message plan hfits]

theorem length_filled : plan.filled.length = plan.headerLength + plan.data.length := by
  rw [(agree_filled hfits).length, length_message]

/-- A packet of the message of a plan, with both checksums, is what the plan asks for. -/
theorem readsBack_of_wraps {built : Octets}
    (hwraps : (Packet.mk plan.source.family built).Wraps plan.source plan.destination plan.protocol
      plan.filled)
    (hintact : (Packet.mk plan.source.family built).headerIntact = true) :
    plan.ReadsBack built := by
  have hwell := hwraps.wellFormed
  have hcarrier : Carrier.ofProtocol? (Packet.mk plan.source.family built).protocol =
      some plan.carrier := by
    rw [hwraps.protocol, ofProtocol?_protocol]
  have htransport : (Packet.mk plan.source.family built).transportIntact = true := by
    rw [Packet.transportIntact_iff hcarrier, hwraps.payload, hwraps.source, hwraps.destination]
    exact ⟨check_filled hfits, intact_filled hfits⟩
  exact {
    length := by
      rw [← length_filled hfits, ← hwraps.payload]
      exact hwraps.length
    parse := hwell.parse
    exact := hwraps.exact
    valid := by
      rw [checksumsValid, hwell.parse]
      exact Bool.and_eq_true_iff.2 ⟨hintact, htransport⟩
    whole := hwraps.whole
    read := by
      simp only [ofPacket?, hcarrier, hwraps.payload, hwraps.source, hwraps.destination,
        check_filled hfits, ofMessage?_filled hfits, Option.bind_eq_bind, Option.bind_some] }

end

variable (hsame : plan.source.family = plan.destination.family)
include hsame

/-- A plan whose length can be stated is carried out. -/
theorem exists_built (hstated : plan.stated ≤ 65535) :
    ∃ built, plan.build = .ok built ∧ plan.ReadsBack built := by
  have hfits := length_message_le hstated
  rw [stated, ← length_filled hfits] at hstated
  obtain ⟨header, hheader, hwraps, hintact⟩ := exists_ipHeader hsame plan.protocol hstated
  rw [length_filled hfits, ← length_message] at hheader
  exact ⟨_, build_of_ok hfits hheader, readsBack_of_wraps hfits hwraps hintact⟩

theorem build_of_tooLarge (hlarge : 65535 < plan.stated) :
    plan.build = .error (.tooLarge plan.stated) := by
  apply build_of_error
  rw [stated, ← length_message] at hlarge ⊢
  rw [ipHeader_eq hsame, sixteenBits_of_lt hlarge]
  rfl

end

theorem build_of_mismatch {plan : Plan} (hother : plan.source.family ≠ plan.destination.family) :
    plan.build = .error (.familyMismatch plan.destination) :=
  build_of_error (ipHeader_of_mismatch hother plan.protocol plan.message.length)

/-- Building and reading are inverse: whatever datagram, segment or echo message is asked for, it is
built exactly if a packet has room for it, and is read back as it was asked for. -/
theorem roundTrips (plan : Plan) : plan.RoundTrips := by
  by_cases hsame : plan.source.family = plan.destination.family
  · by_cases hstated : plan.stated ≤ 65535
    · obtain ⟨built, hbuilt, hreads⟩ := exists_built hsame hstated
      exact {
        built_iff := ⟨fun _ => ⟨hsame, hstated⟩, fun _ => ⟨built, hbuilt⟩⟩
        mismatch := fun hother => absurd hsame hother
        tooLarge := fun _ hlarge => absurd hstated (not_le.2 hlarge)
        readsBack := fun hother => by
          rw [hbuilt] at hother
          cases hother
          exact hreads }
    · have hrefused := build_of_tooLarge hsame (not_le.1 hstated)
      exact {
        built_iff := by simp [hrefused, hstated]
        mismatch := fun hother => absurd hsame hother
        tooLarge := fun _ _ => hrefused
        readsBack := fun hbuilt => by
          rw [hrefused] at hbuilt
          cases hbuilt }
  · have hrefused := build_of_mismatch hsame
    exact {
      built_iff := by simp [hrefused, hsame]
      mismatch := fun _ => hrefused
      tooLarge := fun hother => absurd hother hsame
      readsBack := fun hbuilt => by
        rw [hrefused] at hbuilt
        cases hbuilt }

end Plan

end Build

end PortalNat
