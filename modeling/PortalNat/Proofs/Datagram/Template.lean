import PortalNat.Proofs.Datagram.Framed
import PortalNat.Udp.Reply

/-!
# Replies from a template

A template holds the headers of a request, whatever that request was: with options or without, with
octets behind the packet or the datagram, and with lengths and checksums of its own. Of all that
only the type of service, the identification and the flow label are left in a reply.
-/

namespace PortalNat

open Octets (AgreeOutside octet word setWord)

def Family.lengthPlace : Family → Nat
  | v4 => 2
  | v6 => 4

/-- The places of a header that are set anew for every template. -/
def Family.renewedPlaces : Family → Set Nat
  | v4 => {0} ∪ {8}
  | v6 => {7}

/-- The places of a header that every reply takes over from its request. -/
def Family.keptPlaces : Family → Set Nat
  | v4 => {1} ∪ Set.Ico 4 8 ∪ Set.Ico 9 20
  | v6 => Set.Ico 0 4 ∪ {6} ∪ Set.Ico 8 40

theorem Family.keptPlaces_outside (family : Family) {place : Nat}
    (hkept : place ∈ family.keptPlaces) : place < family.leastHeader ∧
      place ∉ family.renewedPlaces ∧
      place ∉ Set.Ico family.lengthPlace (family.lengthPlace + 2) := by
  cases family <;>
    simp only [keptPlaces, Set.mem_union, Set.mem_Ico, Set.mem_singleton_iff] at hkept <;>
    simp only [leastHeader, IPv4.minimumLength, IPv6.headerLength, renewedPlaces, lengthPlace,
      Set.mem_union, Set.mem_Ico, Set.mem_singleton_iff] <;> omega

namespace ReplyTemplate

theorem ipHeaderLength_eq (family : Family) : ipHeaderLength family = family.leastHeader := by
  cases family <;> rfl

/-! ## Renewed headers -/

section

variable {header : Octets}

theorem agree_renewed {family : Family} (hlong : family.leastHeader ≤ header.length) :
    AgreeOutside family.renewedPlaces header (renewed family header) := by
  cases family with
  | v4 =>
      change 20 ≤ header.length at hlong
      have hfirst := AgreeOutside.setOctet header 0 (by omega) 0x45
      have hsecond := AgreeOutside.setOctet (Octets.setOctet header 0 0x45) 8
        (by rw [hfirst.length]; omega) Build.defaultHops
      exact hfirst.trans_union hsecond
  | v6 => exact AgreeOutside.setOctet header 7 (hlong.trans' (by decide)) Build.defaultHops

theorem hops_renewed {family : Family} (hlong : family.leastHeader ≤ header.length) :
    octet (renewed family header) family.hopsPlace = Build.defaultHops := by
  cases family with
  | v4 =>
      apply Octets.octet_setOctet
      rw [Octets.length_setOctet (hlong.trans' (by decide))]
      exact hlong.trans' (by decide)
  | v6 => exact Octets.octet_setOctet (hlong.trans' (by decide)) Build.defaultHops

/-- A renewed header of IPv4 says that it has no options. -/
theorem first_renewed (hlong : 20 ≤ header.length) : octet (renewed .v4 header) 0 = 0x45 := by
  have hfirst : (Octets.setOctet header 0 0x45).length = header.length :=
    Octets.length_setOctet (by omega) 0x45
  have hhops := AgreeOutside.setOctet (Octets.setOctet header 0 0x45) 8 (by omega)
    Build.defaultHops
  exact (hhops.octet (by decide)).trans (Octets.octet_setOctet (by omega) 0x45)

end

/-! ## Lengths -/

theorem setLengths_eq (family : Family) (buffer : Octets) (payloadLength : Nat) :
    setLengths family buffer payloadLength =
      setWord (setWord buffer family.lengthPlace (UInt16.ofNat (statedLength family payloadLength)))
        (family.leastHeader + 4) (UInt16.ofNat (UDP.headerLength + payloadLength)) := by
  cases family <;> rfl

theorem lengthPlace_lt (family : Family) : family.lengthPlace + 2 ≤ family.leastHeader := by
  cases family <;> decide

section

variable {family : Family} {buffer : Octets} (payloadLength : Nat)
  (hlong : family.leastHeader + UDP.headerLength ≤ buffer.length)
include hlong

theorem agree_setLengths :
    AgreeOutside (Set.Ico family.lengthPlace (family.lengthPlace + 2) ∪
        Set.Ico (family.leastHeader + 4) (family.leastHeader + 6)) buffer
      (setLengths family buffer payloadLength) := by
  have hplace := lengthPlace_lt family
  rw [UDP.headerLength] at hlong
  have hfirst := AgreeOutside.setWord buffer family.lengthPlace (by omega)
    (UInt16.ofNat (statedLength family payloadLength))
  have hsecond := AgreeOutside.setWord
    (setWord buffer family.lengthPlace (UInt16.ofNat (statedLength family payloadLength)))
    (family.leastHeader + 4) (by rw [hfirst.length]; omega)
    (UInt16.ofNat (UDP.headerLength + payloadLength))
  rw [setLengths_eq]
  exact hfirst.trans_union hsecond

theorem word_setLengths :
    word (setLengths family buffer payloadLength) family.lengthPlace =
      UInt16.ofNat (statedLength family payloadLength) := by
  have hplace := lengthPlace_lt family
  rw [UDP.headerLength] at hlong
  have hfirst := AgreeOutside.setWord buffer family.lengthPlace (by omega)
    (UInt16.ofNat (statedLength family payloadLength))
  rw [setLengths_eq, (AgreeOutside.setWord _ _ (by rw [hfirst.length]; omega) _).word,
    Octets.word_setWord (by omega)] <;>
    simp only [Set.mem_Ico] <;> omega

theorem segment_setLengths :
    word (setLengths family buffer payloadLength) (family.leastHeader + 4) =
      UInt16.ofNat (UDP.headerLength + payloadLength) := by
  have hplace := lengthPlace_lt family
  rw [UDP.headerLength] at hlong
  have hfirst := AgreeOutside.setWord buffer family.lengthPlace (by omega)
    (UInt16.ofNat (statedLength family payloadLength))
  rw [setLengths_eq, Octets.word_setWord (by rw [hfirst.length]; omega)]

end

/-! ## Drafts -/

/-- The reply with a payload before it gets its endpoints and checksums. -/
def draft (template : ReplyTemplate) (payload : Octets) : Packet where
  family := template.client.family
  octets := setLengths template.client.family (template.header ++ payload) payload.length

def headersOf (request : Packet) : Octets :=
  request.header.take request.family.leastHeader ++ request.payload.take UDP.headerLength

def draftFor (request : Packet) (payload : Octets) : Packet where
  family := request.family
  octets :=
    setLengths request.family (renewed request.family (headersOf request) ++ payload)
      payload.length

theorem draft_ofRequest {request : Packet} {client : Endpoint}
    (hclient : client.family = request.family) (remote : Endpoint) (payload : Octets) :
    (ofRequest request client remote).draft payload = draftFor request payload := by
  change Packet.mk client.family (setLengths client.family _ _) = _
  rw [hclient, ofRequest, ipHeaderLength_eq]
  rfl

section

variable {request : Packet} (hwell : request.WellFormed)
  (hlong : UDP.headerLength ≤ request.payload.length)
include hwell hlong

theorem length_headersOf :
    (headersOf request).length = request.family.leastHeader + UDP.headerLength := by
  rw [headersOf, List.length_append, List.length_take_of_le hlong,
    List.length_take_of_le (hwell.least.trans hwell.length_header.ge)]

omit hlong in
theorem octet_headersOf {place : Nat} (hplace : place < request.family.leastHeader) :
    octet (headersOf request) place = octet request.octets place := by
  rw [headersOf, Octets.octet_append, Octets.octet_take hplace, Packet.header_eq,
    Octets.octet_take (hplace.trans_le hwell.least)]
  rw [List.length_take_of_le (hwell.least.trans hwell.length_header.ge)]
  exact hplace

theorem length_renewed :
    (renewed request.family (headersOf request)).length =
      request.family.leastHeader + UDP.headerLength := by
  have hlength := length_headersOf hwell hlong
  rw [(agree_renewed (by omega)).length, hlength]

variable (payload : Octets)

theorem agree_draftFor :
    AgreeOutside (Set.Ico request.family.lengthPlace (request.family.lengthPlace + 2) ∪
        Set.Ico (request.family.leastHeader + 4) (request.family.leastHeader + 6))
      (renewed request.family (headersOf request) ++ payload)
      (draftFor request payload).octets := by
  have hrenewed := length_renewed hwell hlong
  exact agree_setLengths payload.length (by rw [List.length_append]; omega)

theorem length_draftFor :
    (draftFor request payload).octets.length =
      request.family.leastHeader + (UDP.headerLength + payload.length) := by
  rw [(agree_draftFor hwell hlong payload).length, List.length_append,
    length_renewed hwell hlong, Nat.add_assoc]

/-- Apart from its length, the header of a draft is that of the template. -/
theorem header_draftFor {place : Nat} (hplace : place < request.family.leastHeader)
    (hlength : place ∉ Set.Ico request.family.lengthPlace (request.family.lengthPlace + 2)) :
    octet (draftFor request payload).octets place =
      octet (renewed request.family (headersOf request)) place := by
  have hrenewed := length_renewed hwell hlong
  rw [(agree_draftFor hwell hlong payload).octet, Octets.octet_append payload (by omega)]
  rintro (hstated | hsegment)
  · exact hlength hstated
  · have hbehind := hsegment.1
    omega

/-- A draft keeps of its request what is set neither for the template nor for the reply. -/
theorem octet_draftFor {place : Nat} (hkept : place ∈ request.family.keptPlaces) :
    octet (draftFor request payload).octets place = octet request.octets place := by
  have hheaders := length_headersOf hwell hlong
  obtain ⟨hplace, hrenewed, hlength⟩ := request.family.keptPlaces_outside hkept
  rw [header_draftFor hwell hlong payload hplace hlength,
    (agree_renewed (by omega)).octet hrenewed, octet_headersOf hwell hplace]

theorem hops_draftFor : (draftFor request payload).hops = Build.defaultHops := by
  have hheaders := length_headersOf hwell hlong
  have hplace := request.family.hopsPlace_lt
  rw [Packet.hops_eq]
  change octet _ request.family.hopsPlace = _
  rw [header_draftFor hwell hlong payload hplace, hops_renewed (by omega)]
  cases request.family <;> simp [Family.hopsPlace, Family.lengthPlace]

theorem payload_draftFor :
    (draftFor request payload).octets.drop (request.family.leastHeader + UDP.headerLength) =
      payload := by
  have hrenewed := length_renewed hwell hlong
  have hagree := (agree_draftFor hwell hlong payload).drop
    (request.family.leastHeader + UDP.headerLength)
  rw [List.drop_left' hrenewed] at hagree
  apply hagree.eq
  intro place _
  have hplace := lengthPlace_lt request.family
  simp only [UDP.headerLength, Set.mem_ofPred_eq, Set.mem_union, Set.mem_Ico]
  omega

theorem isFragment_draftFor : (draftFor request payload).isFragment = request.isFragment := by
  have hkept {place : Nat} : place ∈ request.family.keptPlaces →
      octet (draftFor request payload).octets place = octet request.octets place :=
    octet_draftFor hwell hlong payload
  rcases request with ⟨_ | _, octets⟩
  · have hhigh : octet (draftFor ⟨.v4, octets⟩ payload).octets 6 = octet octets 6 :=
      hkept (by simp [Family.keptPlaces])
    have hlow : octet (draftFor ⟨.v4, octets⟩ payload).octets 7 = octet octets 7 :=
      hkept (by simp [Family.keptPlaces])
    have hfragment : word (draftFor ⟨.v4, octets⟩ payload).octets 6 = word octets 6 := by
      rw [word, word, hhigh, hlow]
    change IPv4.isFragment (draftFor ⟨.v4, octets⟩ payload).octets = IPv4.isFragment octets
    simp only [IPv4.isFragment, IPv4.moreFragments, IPv4.fragmentOffset, hfragment]
  · rfl

theorem protocol_draftFor : (draftFor request payload).protocol = request.protocol := by
  have hkept {place : Nat} : place ∈ request.family.keptPlaces →
      octet (draftFor request payload).octets place = octet request.octets place :=
    octet_draftFor hwell hlong payload
  rcases request with ⟨_ | _, octets⟩
  · change octet (draftFor ⟨.v4, octets⟩ payload).octets 9 = octet octets 9
    exact hkept (by simp [Family.keptPlaces])
  · change octet (draftFor ⟨.v6, octets⟩ payload).octets 6 = octet octets 6
    exact hkept (by simp [Family.keptPlaces])

/-- A draft is of the version of its request and has no options. -/
theorem plain_draftFor :
    octet (draftFor request payload).octets 0 / 16 = request.family.number ∧
      (draftFor request payload).headerLength = request.family.leastHeader := by
  have hheaders := length_headersOf hwell hlong
  have hheader : 0 ∉ Set.Ico request.family.lengthPlace (request.family.lengthPlace + 2) →
      octet (draftFor request payload).octets 0 =
        octet (renewed request.family (headersOf request)) 0 :=
    header_draftFor hwell hlong payload (Nat.zero_lt_of_lt request.family.hopsPlace_lt)
  have hkept : 0 ∈ request.family.keptPlaces →
      octet (draftFor request payload).octets 0 = octet request.octets 0 :=
    octet_draftFor hwell hlong payload
  have hversion := hwell.version
  rcases request with ⟨_ | _, octets⟩
  · have hfirst : octet (draftFor ⟨.v4, octets⟩ payload).octets 0 = 0x45 :=
      (hheader (by simp [Family.lengthPlace])).trans
        (first_renewed (by rw [hheaders]; exact Nat.le_add_right 20 8))
    constructor
    · rw [hfirst]
      rfl
    · change (octet (draftFor ⟨.v4, octets⟩ payload).octets 0 % 16).toNat * 4 = 20
      rw [hfirst]
      rfl
  · refine ⟨?_, rfl⟩
    rw [hkept (by simp [Family.keptPlaces])]
    exact hversion

variable (hfits : statedLength request.family payload.length ≤ 65535)
include hfits

theorem totalLength_draftFor :
    (draftFor request payload).totalLength = (draftFor request payload).octets.length := by
  have hrenewed := length_renewed hwell hlong
  have hstated : (word (draftFor request payload).octets request.family.lengthPlace).toNat =
      statedLength request.family payload.length := by
    rw [draftFor, word_setLengths payload.length (by rw [List.length_append]; omega)]
    exact UInt16.toNat_ofNat_of_lt' (hfits.trans_lt (by decide))
  rw [length_draftFor hwell hlong payload]
  rcases request with ⟨_ | _, octets⟩
  · change (word (draftFor ⟨.v4, octets⟩ payload).octets 2).toNat = _
    exact hstated.trans (Nat.add_assoc _ _ _)
  · change 40 + (word (draftFor ⟨.v6, octets⟩ payload).octets 4).toNat = _
    exact congrArg (40 + ·) hstated

theorem framed_draftFor (hwhole : request.isFragment = false)
    (hprotocol : request.protocol = Protocol.udp) : (draftFor request payload).Framed payload := by
  have hrenewed := length_renewed hwell hlong
  obtain ⟨hversion, hplain⟩ := plain_draftFor hwell hlong payload
  apply Packet.framed_of_lengths hversion hplain
  · rw [isFragment_draftFor hwell hlong payload, hwhole]
  · exact hops_draftFor hwell hlong payload
  · rw [protocol_draftFor hwell hlong payload, hprotocol]
  · exact totalLength_draftFor hwell hlong payload hfits
  · exact length_draftFor hwell hlong payload
  · have hstated := segment_le_statedLength request.family payload.length
    change (word (draftFor request payload).octets (request.family.leastHeader + 4)).toNat = _
    rw [draftFor, segment_setLengths payload.length (by rw [List.length_append]; omega)]
    exact UInt16.toNat_ofNat_of_lt' ((hstated.trans hfits).trans_lt (by decide))
  · exact payload_draftFor hwell hlong payload

end

/-! ## Replies -/

section

variable {template : ReplyTemplate} {payload : Octets} {source : Endpoint}

/-- A reply that fits is its draft with new endpoints. -/
theorem build_of_framed
    (hfits : statedLength template.client.family payload.length ≤ 65535)
    (hframed : (template.draft payload).Framed payload) :
    template.build payload source =
      (((template.draft payload).rewriteEndpoints source template.client).mapError
        (refused source template.client)).map Packet.octets := by
  have hparse : Packet.parse (setLengths template.client.family (template.header ++ payload)
      payload.length) = .ok (template.draft payload) := hframed.wellFormed.parse
  simp only [build, if_neg (not_lt.2 hfits), hparse, pure, Except.pure, bind, Except.bind,
    Except.mapError]
  cases (template.draft payload).rewriteEndpoints source template.client <;> rfl

theorem build_of_tooLarge (hlarge : 65535 < statedLength template.client.family payload.length) :
    template.build payload source = .error (.udp (.payloadTooLarge payload.length)) := by
  rw [build]
  exact if_pos hlarge

/-- A template whose drafts are framed makes what a reply should be. -/
theorem makesReply_build
    (hsource : Endpoint.of source.address source.port = source)
    (hclient : Endpoint.of template.client.address template.client.port = template.client)
    (hframed : statedLength template.client.family payload.length ≤ 65535 →
      (template.draft payload).Framed payload) :
    MakesReply source template.client payload (template.build payload source) := by
  by_cases hfits : statedLength template.client.family payload.length ≤ 65535
  · rw [build_of_framed hfits (hframed hfits)]
    by_cases hsame : source.family = template.client.family
    · obtain ⟨after, hafter, hreaddressed⟩ := Packet.exists_readdressed
        (hframed hfits).wellFormed hsame rfl (hframed hfits).checkPorts
      have hconveys := (hframed hfits).conveys hreaddressed
      rw [hsource, hclient] at hconveys
      rw [hafter]
      exact .made hfits hsame hconveys
    · have hother : source.family ≠ (template.draft payload).family := hsame
      obtain ⟨wrong, hwrong⟩ := Packet.rewriteEndpoints_of_mismatch hother template.client
      rw [hwrong]
      exact .mismatch hsame
  · rw [build_of_tooLarge (not_le.1 hfits)]
    exact .tooLarge (not_le.1 hfits)

end

end ReplyTemplate

end PortalNat
