import PortalNat.Proofs.Datagram.Dispatch
import PortalNat.Proofs.Packet.Mended
import PortalNat.Proofs.Redirection.Traffic

/-!
# Corrupt segments and datagrams

Nothing that is done with a segment or a datagram depends on its checksum. A corrupt one is treated
as the packet with a right checksum in the same place would be: it is redirected or handed on, and
what is written of it is readdressed, so that its checksums are right.
-/

namespace PortalNat

open Octets (AgreeOutside octet word setWord)

theorem Octets.AgreeOutside.append_left {inside : Set Nat} {before after : Octets}
    (hagree : AgreeOutside inside before after) (left : Octets) :
    AgreeOutside ((left.length + ·) '' inside) (left ++ before) (left ++ after) where
  length := by rw [List.length_append, List.length_append, hagree.length]
  getElem? place hplace := by
    rw [List.getElem?_append, List.getElem?_append]
    split
    · rfl
    · next hbehind =>
        apply hagree.getElem?
        intro hinside
        exact hplace ⟨_, hinside, Nat.add_sub_cancel' (not_lt.1 hbehind)⟩

/-! ## Templates -/

namespace ReplyTemplate

section

variable {family : Family} {inside : Set Nat} {before after : Octets}
  (hagree : AgreeOutside inside before after)
include hagree

theorem renewed_both (hlong : family.leastHeader ≤ before.length) :
    AgreeOutside inside (renewed family before) (renewed family after) := by
  cases family with
  | v4 =>
      change 20 ≤ before.length at hlong
      have hfirst := hagree.overwrite_both [0x45] (show 0 + 1 ≤ before.length by omega)
      have hlength : (Octets.setOctet before 0 0x45).length = before.length :=
        Octets.length_setOctet (by omega) 0x45
      have hsecond := hfirst.overwrite_both [Build.defaultHops]
        (show 8 + 1 ≤ (Octets.setOctet before 0 0x45).length by omega)
      exact hsecond.mono (Set.sdiff_subset.trans Set.sdiff_subset)
  | v6 =>
      change 40 ≤ before.length at hlong
      exact (hagree.overwrite_both [Build.defaultHops]
        (show 7 + 1 ≤ before.length by omega)).mono Set.sdiff_subset

theorem setLengths_both (payloadLength : Nat)
    (hlong : family.leastHeader + UDP.headerLength ≤ before.length) :
    AgreeOutside inside (setLengths family before payloadLength)
      (setLengths family after payloadLength) := by
  have hplace := lengthPlace_lt family
  rw [UDP.headerLength] at hlong
  have hfirst := hagree.setWord_both (UInt16.ofNat (statedLength family payloadLength))
    (show family.lengthPlace + 2 ≤ before.length by omega)
  have hlength : (setWord before family.lengthPlace
      (UInt16.ofNat (statedLength family payloadLength))).length = before.length :=
    Octets.length_setWord (by omega) _
  have hsecond := hfirst.setWord_both (UInt16.ofNat (UDP.headerLength + payloadLength))
    (show family.leastHeader + 4 + 2 ≤ (setWord before family.lengthPlace
      (UInt16.ofNat (statedLength family payloadLength))).length by omega)
  rw [setLengths_eq, setLengths_eq]
  exact hsecond.mono (Set.sdiff_subset.trans Set.sdiff_subset)

end

variable {request other : Packet} (hsame : request.SameButChecksum other)
  (hwell : request.WellFormed) (hprotocol : request.protocol = Protocol.udp)
  (hlong : UDP.headerLength ≤ request.payload.length)
include hsame hwell hprotocol

/-- Requests that differ in their checksum have headers that differ there at most. -/
theorem agree_headersOf :
    AgreeOutside ((request.family.leastHeader + ·) '' Set.Ico 6 8) (headersOf request)
      (headersOf other) := by
  have hshape := hsame.sameShape hwell
  have hheader : other.header = request.header := by
    rw [Packet.header_eq, Packet.header_eq, hshape.headerLength]
    apply (hsame.agree.take request.headerLength).eq
    rintro place hplace ⟨offset, -, rfl⟩
    have hwithin : request.headerLength + offset < request.headerLength :=
      hplace.trans_le (List.length_take_le _ _)
    exact absurd hwithin (not_lt.2 (Nat.le_add_right _ _))
  have hpayload := hsame.payload hwell
  rw [hprotocol] at hpayload
  have hlength : (request.header.take request.family.leastHeader).length =
      request.family.leastHeader :=
    List.length_take_of_le (hwell.least.trans hwell.length_header.ge)
  have hheaders := (hpayload.take UDP.headerLength).append_left
    (request.header.take request.family.leastHeader)
  rw [hlength] at hheaders
  rw [headersOf, headersOf, hheader, hsame.family]
  exact hheaders

include hlong

/-- Drafts for requests that differ in their checksum can be given the same endpoints. -/
theorem agree_draftFor_both (payload : Octets) :
    AgreeOutside ((request.family.leastHeader + ·) '' Set.Ico 6 8)
      (draftFor request payload).octets (draftFor other payload).octets := by
  have hheaders := length_headersOf hwell hlong
  have hrenewed := length_renewed hwell hlong
  have hagree := renewed_both (agree_headersOf hsame hwell hprotocol)
    (show request.family.leastHeader ≤ _ by omega)
  change AgreeOutside _ _ (setLengths other.family
    (renewed other.family (headersOf other) ++ payload) payload.length)
  rw [hsame.family]
  exact setLengths_both (hagree.append_both payload) payload.length
    (by rw [List.length_append]; omega)

/-- Templates of requests that differ in their checksum make the same replies. -/
theorem build_congr (hwhole : request.isFragment = false) {client : Endpoint}
    (hclient : client.family = request.family) (remote : Endpoint) (payload : Octets)
    (source : Endpoint) :
    (ofRequest other client remote).build payload source =
      (ofRequest request client remote).build payload source := by
  have hshape := hsame.sameShape hwell
  have hother := hsame.wellFormed hwell
  have hclient' : client.family = other.family := by rw [hclient, hsame.family]
  by_cases hfits : statedLength client.family payload.length ≤ 65535
  · have hframed := framed_draftFor hwell hlong payload (hclient ▸ hfits) hwhole hprotocol
    have hframed' : (draftFor other payload).Framed payload := by
      apply framed_draftFor hother _ payload (hclient' ▸ hfits) (hshape.isFragment.trans hwhole)
        (hshape.protocol.trans hprotocol)
      rw [(hsame.payload hwell).length]
      exact hlong
    have hdraft := draft_ofRequest hclient remote payload
    have hdraft' := draft_ofRequest hclient' remote payload
    have hagree := agree_draftFor_both hsame hwell hprotocol hlong payload
    have hwithin : AgreeOutside (draftFor request payload).addressing
        (draftFor request payload).octets (draftFor other payload).octets := by
      apply hagree.mono
      rw [Packet.addressing, hframed.plain, hframed.protocol]
      exact (Set.image_mono Set.subset_union_right).trans Set.subset_union_right
    have hreaddressed : (draftFor other payload).rewriteEndpoints source client =
        (draftFor request payload).rewriteEndpoints source client := by
      have hfamily : (draftFor other payload).family = (draftFor request payload).family :=
        hsame.family
      exact Packet.rewriteEndpoints_congr hframed.wellFormed hfamily hwithin source client
    have hbuild := @build_of_framed (ofRequest request client remote) payload source hfits
      (by rw [hdraft]; exact hframed)
    have hbuild' := @build_of_framed (ofRequest other client remote) payload source hfits
      (by rw [hdraft']; exact hframed')
    rw [hbuild, hbuild', hdraft, hdraft']
    exact congrArg (fun made => (made.mapError (refused source client)).map Packet.octets)
      hreaddressed
  · rw [build_of_tooLarge (not_le.1 hfits), build_of_tooLarge (not_le.1 hfits)]

end ReplyTemplate

/-! ## Verdicts -/

section

variable {packet other : Packet} (hsame : packet.SameButChecksum other) (hwell : packet.WellFormed)
include hsame hwell

/-- The route of a segment does not depend on its checksum. -/
theorem Redirector.route_congr (redirector : Redirector) (table : SessionTable) (stopped : Bool)
    (now : Nat) (hprotocol : packet.protocol = Protocol.tcp) :
    redirector.route table stopped other now = redirector.route table stopped packet now := by
  have hcheck := hsame.checkPorts hwell
  rw [(hsame.sameShape hwell).protocol, hprotocol] at hcheck
  have hsegment : TCP.check other.payload = TCP.check packet.payload := hcheck
  have hword {place : Nat} (hplace : place + 1 < 16) :
      word other.payload place = word packet.payload place :=
    hsame.word hwell (by rw [hprotocol]; exact hplace)
  have hsender : other.sender = packet.sender := by
    rw [Packet.sender, Packet.sender, hsame.source hwell, TCP.sourcePort, hword (by decide)]
    rfl
  have hreceiver : other.receiver = packet.receiver := by
    rw [Packet.receiver, Packet.receiver, hsame.destination hwell, TCP.destinationPort,
      hword (by decide)]
    rfl
  have hflags : TCP.flags other.payload = TCP.flags packet.payload := by
    apply (hsame.payload hwell).octet
    rw [hprotocol]
    simp [Packet.checksumPlace]
  have hrequest :
      TCP.isConnectionRequest other.payload = TCP.isConnectionRequest packet.payload := by
    simp only [TCP.isConnectionRequest, TCP.hasSyn, TCP.hasAck, hflags]
  simp only [route, hsegment, hsame.family, hsender, hreceiver, Packet.flow, hrequest]

theorem Redirector.redirect_congr (redirector : Redirector) (table : SessionTable) (stopped : Bool)
    (now : Nat) (hprotocol : packet.protocol = Protocol.tcp) :
    redirector.redirect table stopped other now = redirector.redirect table stopped packet now := by
  have hfollow : other.follow = packet.follow := by
    funext route
    rw [Packet.follow, Packet.follow, hsame.rewriteEndpoints hwell]
  rw [redirect_eq_route, redirect_eq_route,
    redirector.route_congr hsame hwell table stopped now hprotocol, hfollow]

end

section

variable {rules : Rules} {bytes : Octets} {packet other : Packet}
  (hadmitted : rules.Admitted bytes packet) (hsame : packet.SameButChecksum other)
include hadmitted hsame

/-- Rules let in a packet whatever the checksum of its segment is. -/
theorem Rules.Admitted.congr : rules.Admitted other.octets other := by
  have hwell := (Packet.wellFormed_of_parse hadmitted.parse).2
  refine ⟨(hsame.wellFormed hwell).parse, ?_, ?_⟩
  · rw [(hsame.sameShape hwell).isFragment, hadmitted.whole]
  · rw [Rules.admits, hsame.family, hsame.destination hwell]
    exact hadmitted.admits

/-- The verdict on a segment does not depend on its checksum. -/
theorem Rules.judge_congr (table : SessionTable) (stopped : Bool) (now : Nat)
    (hprotocol : packet.protocol = Protocol.tcp) :
    rules.judge table stopped other.octets now = rules.judge table stopped bytes now := by
  have hwell := (Packet.wellFormed_of_parse hadmitted.parse).2
  have hother := hadmitted.congr hsame
  have hprotocol' : other.protocol = Protocol.tcp :=
    ((hsame.sameShape hwell).protocol).trans hprotocol
  simp only [judge, hother.parse, hother.whole, hother.admits, hadmitted.parse, hadmitted.whole,
    hadmitted.admits, judgeAdmitted, hprotocol, hprotocol', if_true,
    rules.redirector.redirect_congr hsame hwell table stopped now hprotocol]

/-- The datagram of a packet does not depend on its checksum. -/
theorem Rules.Dispatches.congr {datagram : Datagram}
    (hdispatches : rules.Dispatches bytes packet datagram) :
    rules.Dispatches other.octets other datagram := by
  have hwell := hdispatches.wellFormed
  have hprotocol := hdispatches.protocol
  have hshape := hsame.sameShape hwell
  have hpayload := hsame.payload hwell
  have hcheck := hsame.checkPorts hwell
  have hword {place : Nat} (hplace : place + 1 < 6) :
      word other.payload place = word packet.payload place :=
    hsame.word hwell (by rw [hprotocol]; exact hplace)
  rw [hshape.protocol, hprotocol] at hcheck
  constructor
  case admitted => exact hadmitted.congr hsame
  case protocol => rw [hshape.protocol, hprotocol]
  case checked => exact hcheck.trans hdispatches.checked
  case source =>
    rw [hdispatches.source, hsame.source hwell, UDP.sourcePort, UDP.sourcePort, hword (by decide)]
  case destination =>
    rw [hdispatches.destination, hsame.destination hwell, UDP.destinationPort, UDP.destinationPort,
      hword (by decide)]
  case payload =>
    have hlength : UDP.length other.payload = UDP.length packet.payload := hword (by decide)
    rw [hdispatches.payload, UDP.payload, UDP.payload, UDP.datagram, UDP.datagram, hlength]
    rw [hprotocol] at hpayload
    refine (((hpayload.take _).drop UDP.headerLength).eq ?_).symm
    rintro place - ⟨-, hbelow⟩
    change 8 + place < 8 at hbelow
    omega

end

/-! ## Treatment -/

/-- A handler cannot tell two messages apart by using them. -/
structure Message.Alike (message other : Message) : Prop where
  datagram : other.datagram = message.datagram
  client : other.back.client = message.back.client
  remote : other.back.remote = message.back.remote
  build : ∀ (closed : Bool) (payload : Octets) (source? : Option Endpoint),
    other.back.build closed payload source? = message.back.build closed payload source?

namespace Translator

/-- A translator treats octets like others: it writes the same, its sessions and its counters come
to be the same, and a handler cannot tell by what it is given which of them were read. -/
structure TreatsAlike (translator : Translator) (bytes other : Octets) (now : Nat) : Prop where
  rest : { translator.process other now with messages := [] } =
    { translator.process bytes now with messages := [] }
  messages : ∃ given others,
    (translator.process bytes now).messages = translator.messages ++ given ∧
    (translator.process other now).messages = translator.messages ++ others ∧
    List.Forall₂ Message.Alike given others

/-- A translator writes nothing for some octets, makes no session and hands nothing on, neither to
the handler nor to a read. -/
structure Ignores (translator : Translator) (bytes : Octets) (now : Nat) : Prop where
  device : (translator.process bytes now).device = translator.device
  sessions : ∀ (port : UInt16) (entry : SessionEntry), ¬translator.Gains bytes now port entry
  messages : (translator.process bytes now).messages = translator.messages
  reads : (translator.process bytes now).reads?.map (·.served) = translator.reads?.map (·.served)

variable {translator : Translator} {bytes other : Octets} {now : Nat}

theorem TreatsAlike.symm (halike : translator.TreatsAlike bytes other now) :
    translator.TreatsAlike other bytes now where
  rest := halike.rest.symm
  messages := by
    obtain ⟨given, others, hgiven, hothers, hmessages⟩ := halike.messages
    refine ⟨others, given, hothers, hgiven, (hmessages.imp ?_).flip⟩
    intro message alike hsame
    exact ⟨hsame.datagram.symm, hsame.client.symm, hsame.remote.symm,
      fun closed payload source? => (hsame.build closed payload source?).symm⟩

theorem TreatsAlike.ignores (halike : translator.TreatsAlike bytes other now)
    (hignores : translator.Ignores bytes now) : translator.Ignores other now where
  device := (congrArg Translator.device halike.rest).trans hignores.device
  sessions port entry hgains := by
    have hsessions := congrArg Translator.sessions halike.rest
    refine hignores.sessions port entry ⟨?_, hgains.made⟩
    have hstands := hgains.stands
    rwa [show (translator.process other now).sessions = (translator.process bytes now).sessions from
      hsessions] at hstands
  messages := by
    obtain ⟨given, others, hgiven, hothers, hmessages⟩ := halike.messages
    have hnone : given = [] := by
      have hunhanded := hignores.messages
      rwa [hgiven, List.append_right_eq_self] at hunhanded
    rw [hnone, List.forall₂_nil_left_iff] at hmessages
    rw [hothers, hmessages, List.append_nil]
  reads := (congrArg (·.reads?.map (·.served)) halike.rest).trans hignores.reads

theorem TreatsAlike.ignores_iff (halike : translator.TreatsAlike bytes other now) :
    translator.Ignores bytes now ↔ translator.Ignores other now :=
  ⟨halike.ignores, halike.symm.ignores⟩

/-- Nothing that a handler was given is ever taken from it. -/
theorem exists_given (translator : Translator) (verdict : Verdict) :
    ∃ given, (translator.carryOut verdict).messages = translator.messages ++ given := by
  cases verdict with
  | write event packet => exact ⟨[], by rw [carryOut, messages_write, List.append_nil]; rfl⟩
  | ignore => exact ⟨[], (List.append_nil _).symm⟩
  | drop reason report? => cases report? <;> exact ⟨[], (List.append_nil _).symm⟩
  | deliver datagram template =>
      simp only [carryOut, deliver]
      split
      · exact ⟨_, rfl⟩
      · split <;> exact ⟨[], (List.append_nil _).symm⟩

theorem treatsAlike_of_eq (hprocess : translator.process other now = translator.process bytes now) :
    translator.TreatsAlike bytes other now := by
  obtain ⟨given, hgiven⟩ := exists_given
    { translator with
      sessions := (translator.rules.judge translator.sessions translator.stopped bytes now).2 }
    (translator.rules.judge translator.sessions translator.stopped bytes now).1
  refine ⟨by rw [hprocess], given, given, hgiven, by rw [hprocess]; exact hgiven, ?_⟩
  exact List.forall₂_same.2 fun message _ => ⟨rfl, rfl, rfl, fun _ _ _ => rfl⟩

/-- In push mode the handler is given the datagram at once. -/
theorem process_push {datagram : Datagram} {template : ReplyTemplate}
    (hpush : translator.reads? = none)
    (hjudge : translator.rules.judge translator.sessions translator.stopped bytes now =
      (.deliver datagram template, translator.sessions)) :
    translator.process bytes now =
      (translator.record .datagram).hand datagram (.template template) := by
  simp only [process, hjudge, carryOut, deliver, record, hpush]

section

variable {packet mended : Packet} (hadmitted : translator.rules.Admitted bytes packet)
  (hsame : packet.SameButChecksum mended)
include hadmitted hsame

/-- A datagram is handed on whatever its checksum is, with a way back that makes the same replies.
-/
theorem treatsAlike_of_dispatches {datagram : Datagram}
    (hdispatches : translator.rules.Dispatches bytes packet datagram) :
    translator.TreatsAlike bytes mended.octets now := by
  have hwell := hdispatches.wellFormed
  have hlong := ((Packet.udp_check_iff packet.payload).1 hdispatches.checked).1
  have hbuild := ReplyTemplate.build_congr hsame hwell hdispatches.protocol hlong hadmitted.whole
    hdispatches.client_family datagram.destination
  have hjudge := hdispatches.judge translator.sessions translator.stopped now
  have hjudge' :=
    (hdispatches.congr hadmitted hsame).judge translator.sessions translator.stopped now
  cases hreads : translator.reads? with
  | some reads =>
      apply treatsAlike_of_eq
      simp only [process, hjudge, hjudge', carryOut, deliver, record, hreads]
  | none =>
      have hprocess := process_push hreads hjudge
      have hprocess' := process_push hreads hjudge'
      constructor
      · rw [hprocess, hprocess']
        rfl
      · refine ⟨_, _, congrArg Translator.messages hprocess,
          congrArg Translator.messages hprocess', .cons ⟨rfl, rfl, rfl, ?_⟩ .nil⟩
        intro closed payload source?
        exact hbuild payload (source?.getD datagram.destination).canonical

/-- Whether a packet is corrupt makes no difference to what is done with it. -/
theorem treatsAlike_of_checksum
    (hports : Packet.checkPorts packet.protocol packet.payload = .ok ()) :
    translator.TreatsAlike bytes mended.octets now := by
  rcases (Packet.checkPorts_iff _ _).1 hports with ⟨htcp, -⟩ | ⟨hudp, hcheck⟩
  · apply treatsAlike_of_eq
    rw [process, process, Rules.judge_congr hadmitted hsame _ _ now htcp]
  · let datagram : Datagram :=
      ⟨Endpoint.of packet.source (UDP.sourcePort packet.payload),
        Endpoint.of packet.destination (UDP.destinationPort packet.payload),
        UDP.payload packet.payload⟩
    have hdispatches : translator.rules.Dispatches bytes packet datagram :=
      ⟨hadmitted, hudp, hcheck, rfl, rfl, rfl⟩
    exact treatsAlike_of_dispatches hadmitted hsame hdispatches

end

/-- What is written of a segment or a datagram that was let in has right checksums, whatever those
were that it had itself. -/
theorem Writes.valid_of_ports {event : Event} {written : Octets} {packet : Packet}
    (hparse : Packet.parse bytes = .ok packet)
    (hports : Packet.checkPorts packet.protocol packet.payload = .ok ())
    (hwrites : translator.Writes bytes now event written) : checksumsValid written = true := by
  rcases hwrites.cases with ⟨_, _, hredirects⟩ | ⟨_, _, _, hrestores⟩ |
    ⟨-, request, answer, hrequest, hanswer, -⟩
  · exact hredirects.written.intact
  · exact hrestores.written.intact
  · rw [hparse] at hrequest
    cases hrequest
    have hecho := (EchoResponder.answer?_eq_some_iff.1 hanswer).1
    have hprotocol := (EchoResponder.request_spec hecho).1
    rcases (Packet.checkPorts_iff _ _).1 hports with ⟨htcp, -⟩ | ⟨hudp, -⟩
    · rw [htcp] at hprotocol
      cases hfamily : packet.family <;> rw [hfamily] at hprotocol <;> cases hprotocol
    · rw [hudp] at hprotocol
      cases hfamily : packet.family <;> rw [hfamily] at hprotocol <;> cases hprotocol

/-- A segment or datagram that is let in is treated like every packet that differs from it in the
checksum, and one of these has the right one. So it is ignored exactly if that one is, and what is
written of it has right checksums. -/
theorem corrupt_treated_as_mended (translator : Translator) {bytes : Octets} {packet : Packet}
    (now : Nat) (hadmitted : translator.rules.Admitted bytes packet)
    (hports : Packet.checkPorts packet.protocol packet.payload = .ok ()) :
    (∃ mended, packet.Mended mended) ∧
      (∀ other, packet.SameButChecksum other →
        translator.rules.Admitted other.octets other ∧
          translator.TreatsAlike bytes other.octets now ∧
          (translator.Ignores bytes now ↔ translator.Ignores other.octets now)) ∧
      ∀ (event : Event) (written : Octets),
        translator.Writes bytes now event written → checksumsValid written = true := by
  have hwell := (Packet.wellFormed_of_parse hadmitted.parse).2
  refine ⟨Packet.exists_mended hwell hports, ?_, ?_⟩
  · intro other hsame
    have halike : translator.TreatsAlike bytes other.octets now :=
      treatsAlike_of_checksum hadmitted hsame hports
    exact ⟨hadmitted.congr hsame, halike, halike.ignores_iff⟩
  · intro event written hwrites
    exact hwrites.valid_of_ports hadmitted.parse hports

/-- The request of the client with a checksum that is off by one, and the IP header intact. -/
def corruptRequest : Octets :=
  [0x45, 0, 0, 40, 0, 0, 0x40, 0, 64, 6, 0x2c, 0xc9, 10, 0, 0, 2, 1, 2, 3, 4,
    0xc7, 0x38, 1, 0xbb, 0, 0, 0, 1, 0, 0, 0, 0, 0x50, 2, 0xff, 0xff, 0xd8, 0xe7, 0, 0]

theorem admitted_corruptRequest :
    sampleEngine.translator.rules.Admitted corruptRequest ⟨.v4, corruptRequest⟩ :=
  ⟨rfl, rfl, rfl⟩

set_option maxRecDepth 20000 in
theorem writes_corruptRequest :
    sampleEngine.translator.Writes corruptRequest 1 .redirected sampleRedirected := by
  rw [writes_iff]
  cbv

theorem corrupt_treated_as_mended_corruptRequest :
    let translator := sampleEngine.translator
    let packet : Packet := ⟨.v4, corruptRequest⟩
    translator.rules.Admitted corruptRequest packet ∧
      Packet.checkPorts packet.protocol packet.payload = .ok () ∧
      packet.transportIntact = false ∧
      ∃ mended, packet.Mended mended ∧
        (translator.Ignores corruptRequest 1 ↔ translator.Ignores mended.octets 1) := by
  have hports : Packet.checkPorts (Packet.protocol ⟨.v4, corruptRequest⟩)
      (Packet.payload ⟨.v4, corruptRequest⟩) = .ok () := rfl
  obtain ⟨⟨mended, hmended⟩, halike, -⟩ :=
    corrupt_treated_as_mended sampleEngine.translator 1 admitted_corruptRequest hports
  exact ⟨admitted_corruptRequest, hports, by cbv, mended, hmended,
    (halike mended hmended.toSameButChecksum).2.2⟩

set_option maxRecDepth 20000 in
/-- The corrupt request is not ignored: it is written with right checksums to the listener, and gets
a session. -/
theorem corrupt_request_redirected :
    let translator := sampleEngine.translator
    let packet : Packet := ⟨.v4, corruptRequest⟩
    Engine.start {} {} 5000 9000 = .ok sampleEngine ∧
      translator.rules.Admitted corruptRequest packet ∧
      packet.protocol = Protocol.tcp ∧ TCP.check packet.payload = .ok () ∧
      packet.headerIntact = true ∧ packet.transportIntact = false ∧
      (translator.process corruptRequest 1).device.outbound = [sampleRedirected] ∧
      checksumsValid sampleRedirected = true ∧
      (translator.process corruptRequest 1).sessions.byTuple[packet.flow]? = some 5000 ∧
      ¬translator.Ignores corruptRequest 1 := by
  have houtbound : (sampleEngine.translator.process corruptRequest 1).device.outbound =
      [sampleRedirected] := writes_corruptRequest.outbound
  obtain ⟨after, hlookup⟩ : ∃ after, Redirector.portFor sampleEngine.translator.sessions
      (Packet.flow ⟨.v4, corruptRequest⟩) true false 1 = (.ok 5000, after) :=
    ⟨_, Prod.ext (by cbv) rfl⟩
  obtain ⟨written, hredirects⟩ :=
    exists_redirects admitted_corruptRequest rfl ⟨rfl, rfl⟩ (by decide) hlookup
  refine ⟨rfl, admitted_corruptRequest, rfl, rfl, by cbv, by cbv, houtbound, by cbv, ?_, ?_⟩
  · exact hredirects.held
  · intro hignores
    have hdevice := hignores.device
    rw [hdevice] at houtbound
    cases houtbound

end Translator

end PortalNat
