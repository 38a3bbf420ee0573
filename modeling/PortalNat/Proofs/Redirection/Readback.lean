import PortalNat.Proofs.Config.Rules
import PortalNat.Proofs.Packet.Congruence
import PortalNat.Proofs.Redirection.Traffic

/-!
# Reading back what was redirected

A redirected segment goes from the portal to the listener, and only the host is meant to receive it.
Nothing in it tells the translator that it was redirected before: where a segment comes from plays
no part in judging it, and the listener is a destination like any other. So if it comes back from
the device it is redirected again, and a connection request makes another session, unless the scope
leaves the gateway out.
-/

namespace PortalNat

/-! ## Portal and gateway -/

/-- A section that is valid has a portal and a gateway that differ, in each version of IP that it
enables. -/
theorem NatSection.gateway_ne_portal {settings : NatSection} (hvalid : settings.validate = .ok ())
    {family : Family} (henabled : settings.portal.enabled family = true) :
    settings.portal.gateway family ≠ settings.portal.address family := by
  have hsound := sound_of_validate hvalid
  intro hsame
  cases family with
  | v4 => exact hsound.portalV4 (Address.v4.inj hsame).symm
  | v6 => exact hsound.portalV6 henabled (Address.v6.inj hsame).symm

theorem Engine.validate_of_start {settings : NatSection} {device : Device} {first free : UInt16}
    {bindFault? : Endpoint → Option String} {engine : Engine}
    (hstart : Engine.start settings device first free bindFault? = .ok engine) :
    settings.validate = .ok () := by
  simp only [start, bind, Except.bind] at hstart
  cases hvalid : settings.validate with
  | error reason =>
      rw [hvalid] at hstart
      cases hstart
  | ok => rfl

/-! ## Reading back -/

/-- A segment as it is written asks for a connection exactly when the segment that was read does. -/
theorem Carries.isConnectionRequest_written {bytes written : Octets} {packet sent : Packet}
    {source destination client server : Endpoint}
    (hcarries : Carries bytes packet source destination)
    (hwritten : packet.WrittenAs client server written) (hsent : Carries written sent client server)
    (hfamily : sent.family = packet.family) :
    TCP.isConnectionRequest sent.payload = TCP.isConnectionRequest packet.payload := by
  have hwell := hcarries.wellFormed
  obtain ⟨rfl, -⟩ := Packet.wellFormed_of_parse hsent.parse
  have hagree : Octets.AgreeOutside
      (packet.trimmed.family.addressPlaces ∪
        (packet.trimmed.headerLength + ·) '' Packet.portPlaces packet.protocol)
      packet.trimmed.octets sent.octets := by
    rw [hwell.sameShape_trimmed.headerLength]
    exact hwritten.agree
  have hpayload := Packet.payload_of_addressing hwell.trimmed hfamily hagree
  rw [hwell.payload_trimmed, hcarries.protocol, Packet.portPlaces_tcp] at hpayload
  have hflags : TCP.flags sent.payload = TCP.flags packet.payload := hpayload.octet (by simp)
  rw [TCP.isConnectionRequest, TCP.isConnectionRequest, TCP.hasSyn, TCP.hasSyn, TCP.hasAck,
    TCP.hasAck, hflags]

/-- What a translator makes of a segment that was redirected through a port, if it reads back what
was written for it. -/
structure Translator.ReadsBack (translator : Translator) (packet : Packet) (port : UInt16)
    (written : Octets) (now : Nat) (sent : Packet) : Prop where
  /-- It reads a segment from that port of the portal to the listener. -/
  carries : Carries written sent (translator.rules.redirector.portal.endpoint packet.family port)
    (translator.rules.redirector.listener packet.family)
  /-- The segment asks for a connection if the one that was redirected does. -/
  request : TCP.isConnectionRequest sent.payload = TCP.isConnectionRequest packet.payload
  /-- It is redirected again exactly when the scope has the gateway in it and the flow from the
  portal to the listener has a session or can get one. -/
  redirected : (∃ again rewritten, translator.Redirects written now sent again rewritten) ↔
    translator.rules.scope.allows (translator.rules.redirector.portal.gateway packet.family) =
        true ∧
      ((∃ held, translator.sessions.byTuple[sent.flow]? = some held) ∨ translator.CanOpen sent)
  /-- It makes a session of its own exactly when the scope has the gateway in it and the flow has no
  session and can get one. -/
  gained : (∃ again entry, translator.Gains written now again entry) ↔
    translator.rules.scope.allows (translator.rules.redirector.portal.gateway packet.family) =
        true ∧
      translator.sessions.byTuple[sent.flow]? = none ∧ translator.CanOpen sent

section

variable {settings : NatSection} {device : Device} {first free : UInt16}
  {bindFault? : Endpoint → Option String} {engine : Engine}
  (hstart : Engine.start settings device first free bindFault? = .ok engine)
include hstart

/-- For any history of a started engine and any segment that it redirects: read back just then or
whenever later, what was written for it is redirected again exactly when the scope has the gateway
in it and its flow has a session or can get one, and in the second case it makes another session.
-/
theorem readsBack_after (history later : List Engine.Action) {bytes written : Octets}
    {packet : Packet} {port : UInt16} {now : Nat}
    (hredirects : (engine.after history).translator.Redirects bytes now packet port written)
    (again : Nat) :
    ∃ sent, (engine.after (history ++ later)).translator.ReadsBack packet port written again
      sent := by
  have hrules := Engine.rules_after hstart history
  have hlater := Engine.rules_after hstart (history ++ later)
  have hwell := Engine.sessions_wellFormed hstart (history ++ later)
  obtain ⟨sent, hsent⟩ := hredirects.written.carries
  have hfamily : sent.family = packet.family := by
    rw [← hsent.source_family]
    exact Portal.family_address _ _
  have hrequest := hredirects.carries.isConnectionRequest_written hredirects.written hsent hfamily
  have hadmits := (outbound_of_redirected hredirects.carries hredirects.writes.verdict).1
  rw [hrules] at hsent hadmits
  have henabled := (Bool.and_eq_true_iff.1 hadmits).1
  -- The gateway is not the portal, so the segment that comes back goes the outbound way.
  have hdestination : sent.destination = settings.portal.gateway packet.family :=
    congrArg Endpoint.address hsent.destination
  have hforeign : sent.destination ≠ settings.portal.address sent.family := by
    rw [hdestination, hfamily]
    exact NatSection.gateway_ne_portal (Engine.validate_of_start hstart) henabled
  have hown : Carries written sent sent.sender sent.receiver := by
    rw [Packet.sender, Packet.receiver, hsent.source, hsent.destination]
    exact hsent
  have hscope : (settings.rules engine.listener.port).admits sent = true ↔
      settings.scope.allows (settings.portal.gateway packet.family) = true := by
    rw [Rules.admits, hfamily, hdestination, Bool.and_eq_true_iff]
    exact and_iff_right henabled
  have hredirected := Translator.exists_redirects_iff hwell hown again
  have hgained := Translator.exists_gains_iff hwell hown again
  rw [hlater, hscope] at hredirected hgained
  refine ⟨sent, ?_⟩
  constructor
  case carries => rwa [hlater]
  case request => exact hrequest
  case redirected =>
    rw [hredirected, hlater]
    exact and_congr_right fun _ => and_iff_right hforeign
  case gained =>
    rw [hgained, hlater]
    exact and_congr_right fun _ => and_iff_right hforeign

end

set_option maxRecDepth 20000 in
/-- The request of a client is redirected through the first port. -/
theorem redirects_sampleRequest :
    (sampleEngine.after []).translator.Redirects sampleRequest 1 ⟨.v4, sampleRequest⟩ 5000
      sampleRedirected := by
  have hadmitted : (sampleEngine.after []).translator.rules.Admitted sampleRequest
      ⟨.v4, sampleRequest⟩ := ⟨rfl, rfl, rfl⟩
  have hlookup : (Redirector.portFor (sampleEngine.after []).translator.sessions
      (Packet.flow ⟨.v4, sampleRequest⟩) true false 1).1 = .ok 5000 := by cbv
  obtain ⟨written, hredirects⟩ := Translator.exists_redirects hadmitted rfl ⟨rfl, rfl⟩ (by decide)
    (Prod.ext hlookup rfl)
  obtain ⟨-, rfl⟩ := hredirects.writes.unique writes_sampleRequest
  exact hredirects

/-- What is written for the request is read back just after it. -/
theorem readsBack_after_sampleRequest :
    Engine.start {} {} 5000 9000 = .ok sampleEngine ∧
      (sampleEngine.after []).translator.Redirects sampleRequest 1 ⟨.v4, sampleRequest⟩ 5000
        sampleRedirected ∧
      ∃ sent, (sampleEngine.after ([] ++ [.process sampleRequest 1])).translator.ReadsBack
        ⟨.v4, sampleRequest⟩ 5000 sampleRedirected 2 sent := by
  have hstart : Engine.start {} {} 5000 9000 = .ok sampleEngine := rfl
  exact ⟨hstart, redirects_sampleRequest,
    readsBack_after hstart [] [.process sampleRequest 1] redirects_sampleRequest 2⟩

set_option maxRecDepth 20000 in
/-- The request of a client is redirected through one port. What is written for it is read back just
after that. It is redirected again, through another port, and makes another session. -/
theorem redirected_request_opens_session :
    let translator := (sampleEngine.after [.process sampleRequest 1]).translator
    let sent : Packet := ⟨.v4, sampleRedirected⟩
    Engine.start {} {} 5000 9000 = .ok sampleEngine ∧
      (sampleEngine.after []).translator.Redirects sampleRequest 1 ⟨.v4, sampleRequest⟩ 5000
        sampleRedirected ∧
      (∃ rewritten, translator.Redirects sampleRedirected 2 sent 5001 rewritten) ∧
      ∃ port entry, translator.Gains sampleRedirected 2 port entry := by
  have hstart : Engine.start {} {} 5000 9000 = .ok sampleEngine := rfl
  have hrules := Engine.rules_after hstart [.process sampleRequest 1]
  have hwell := Engine.sessions_wellFormed hstart [.process sampleRequest 1]
  have hadmits : (({} : NatSection).rules 9000).admits ⟨.v4, sampleRedirected⟩ = true := rfl
  have hadmitted : (sampleEngine.after [.process sampleRequest 1]).translator.rules.Admitted
      sampleRedirected ⟨.v4, sampleRedirected⟩ := ⟨rfl, rfl, hrules ▸ hadmits⟩
  have hcarries := hadmitted.carries rfl ⟨rfl, rfl⟩
  have hforeign : (Packet.destination ⟨.v4, sampleRedirected⟩) ≠
      (({} : NatSection).rules 9000).redirector.portal.address .v4 := by decide
  have hfresh : (sampleEngine.after [.process sampleRequest 1]).translator.sessions.byTuple[
      Packet.flow ⟨.v4, sampleRedirected⟩]? = none := by cbv
  have hroom := (SessionTable.newSession_ok_iff hwell hfresh 2).1 ⟨5001, by cbv⟩
  refine ⟨hstart, redirects_sampleRequest, ?_, ?_⟩
  · exact Translator.exists_redirects hadmitted rfl ⟨rfl, rfl⟩ (hrules ▸ hforeign)
      (Prod.ext (by cbv) rfl)
  · exact (Translator.exists_gains_iff hwell hcarries 2).2
      ⟨hadmitted.admits, hrules ▸ hforeign, hfresh, rfl, by cbv, hroom⟩

end PortalNat
