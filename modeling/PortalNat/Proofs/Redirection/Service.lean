import PortalNat.Proofs.Acceptance.Recovery
import PortalNat.Proofs.Engine.History
import PortalNat.Proofs.Redirection.Judgement
import PortalNat.Proofs.Session.Spelling

/-!
# The life of a redirected connection

A segment of a client goes to the stub listener through a port of the portal. As long as the
session of that port lives, three parts of the translator have to agree on whose it is: the
acceptor, which tells the handler the ends of the connection; the pump on what the listener sends,
which goes back to the client; and the pump on what the client sends next, which has to arrive at
the same connection.
-/

namespace PortalNat

open Octets (AgreeOutside)

/-! ## The service of a session -/

/-- On reading some octets a translator counts an event and writes a packet to its device. -/
structure Translator.Writes (translator : Translator) (bytes : Octets) (now : Nat) (event : Event)
    (written : Octets) : Prop where
  verdict : (translator.rules.judge translator.sessions translator.stopped bytes now).1 =
    .write event written
  device : (translator.process bytes now).device = (translator.device.write written).2

theorem Translator.writes_iff (translator : Translator) (bytes : Octets) (now : Nat)
    (event : Event) (written : Octets) :
    translator.Writes bytes now event written ↔
      (translator.rules.judge translator.sessions translator.stopped bytes now).1 =
        .write event written := by
  refine ⟨Writes.verdict, fun hverdict => ⟨hverdict, ?_⟩⟩
  have hprocess : translator.process bytes now =
      { translator with
        sessions := (translator.rules.judge translator.sessions translator.stopped bytes now).2
        }.carryOut
        (translator.rules.judge translator.sessions translator.stopped bytes now).1 := rfl
  rw [hprocess, hverdict]
  simp only [carryOut, record, write_eq, Device.write_eq]
  cases translator.device.refusal? <;> rfl

/-- A translator serves the session behind a port of the portal: it opened at one endpoint and is
meant for another. -/
structure Translator.Serves (translator : Translator)
    (portal listener source destination : Endpoint) (session : Nat) : Prop where
  /-- A connection from the port, also with the address of the portal in its IPv6 spelling, goes to
  the handler with its true ends. -/
  accepted : ∀ (peer : Endpoint) (now : Nat), translator.accepting = true →
    peer.port = portal.port →
    (peer.address = portal.address ∨ peer.address = .v6 (Tuple.widen portal.address)) →
    (translator.accept (.connected peer) now).connections =
      translator.connections ++ [⟨source, destination, portal.port, session⟩]
  /-- What the listener sends to the port goes to the client, and differs from what was sent only in
  addresses, ports and checksums. -/
  restored : ∀ (bytes : Octets) (packet : Packet) (now : Nat),
    Carries bytes packet listener portal → ∃ restored sent,
      translator.Writes bytes now .restored restored ∧ Carries restored sent destination source ∧
        checksumsValid restored = true ∧ AgreeOutside packet.addressing packet.declared restored
  /-- What the client sends next goes to the listener through the same port. -/
  redirected : ∀ (bytes : Octets) (packet : Packet) (now : Nat),
    Carries bytes packet source destination → ∃ redirected sent,
      translator.Writes bytes now .redirected redirected ∧ Carries redirected sent portal listener

/-- Rules redirect segments to an address, and restore what is sent to the portal. -/
structure Rules.Covers (rules : Rules) (family : Family) (destination : Address) : Prop where
  enabled : rules.redirector.portal.enabled family = true
  allowed : rules.scope.allows destination = true
  foreign : destination ≠ rules.redirector.portal.address family
  portal : rules.scope.allows (rules.redirector.portal.address family) = true

theorem Rules.admits_iff (rules : Rules) {bytes : Octets} {packet : Packet}
    {source destination : Endpoint} (hcarries : Carries bytes packet source destination) :
    rules.admits packet = true ↔ rules.redirector.portal.enabled packet.family = true ∧
      rules.scope.allows destination.address = true := by
  rw [admits, Bool.and_eq_true_iff, ← hcarries.destination]
  rfl

/-- The rules of a section cover every segment that they redirect. -/
theorem Carries.covers {settings : NatSection} {listenerPort : UInt16} {bytes : Octets}
    {packet : Packet} {source destination : Endpoint}
    (hcarries : Carries bytes packet source destination)
    (hadmits : (settings.rules listenerPort).admits packet = true)
    (hforeign : destination.address ≠ settings.portal.address packet.family) :
    (settings.rules listenerPort).Covers packet.family destination.address where
  enabled := ((Rules.admits_iff _ hcarries).1 hadmits).1
  allowed := ((Rules.admits_iff _ hcarries).1 hadmits).2
  foreign := hforeign
  portal := by
    cases packet.family <;>
      simp [NatSection.rules, NatSection.scope, NatSection.portal, Portal.address, Scope.allows,
        Scope.isPortal]

/-- The flow of a segment tells its ends, unless an address of them is spelled in the other way. -/
theorem Carries.tuple_ends {bytes : Octets} {packet : Packet} {source destination : Endpoint}
    (hcarries : Carries bytes packet source destination) (hsource : ¬source.address.IsMapped)
    (hdestination : ¬destination.address.IsMapped) :
    (Tuple.of source destination).source = source ∧
      (Tuple.of source destination).destination = destination := by
  have hclient := hcarries.source
  have hserver := hcarries.destination
  subst hclient hserver
  exact ⟨congrArg (Endpoint.of · _) (Tuple.narrow_widen hsource),
    congrArg (Endpoint.of · _) (Tuple.narrow_widen hdestination)⟩

section

variable {translator : Translator} {family : Family} {source destination : Endpoint}
  {port : UInt16} {entry : SessionEntry}
  (hentry : translator.sessions.byPort[port]? = some entry)
include hentry

theorem connections_accept
    (hportal : ¬(translator.rules.redirector.portal.address family).IsMapped)
    {peer : Endpoint} (hport : peer.port = port)
    (haddress : peer.address = translator.rules.redirector.portal.address family ∨
      peer.address = .v6 (Tuple.widen (translator.rules.redirector.portal.address family)))
    (haccepting : translator.accepting = true) (now : Nat) :
    (translator.accept (.connected peer) now).connections =
      translator.connections ++
        [⟨entry.tuple.source, entry.tuple.destination, port, entry.id⟩] := by
  have hnames : translator.rules.redirector.portal.Names family peer := by
    change peer.address.canonical = _
    rcases haddress with hplain | hspelled
    · rw [hplain, Address.canonical_of_not_isMapped hportal]
    · rw [hspelled]
      exact Tuple.narrow_widen hportal
  rw [← hport] at hentry
  have hrecover := Portal.recover_held hnames hentry now
  simp only [Translator.accept, haccepting, hrecover, Bool.not_true, Bool.false_eq_true, if_false]
  rw [hport]
  rfl

theorem exists_restored (hcovers : translator.rules.Covers family destination.address)
    (hclient : entry.tuple.source = source) (hserver : entry.tuple.destination = destination)
    (hsource : source.address.family = family) (hdestination : destination.address.family = family)
    {bytes : Octets} {packet : Packet} {now : Nat}
    (hcarries : Carries bytes packet (translator.rules.redirector.listener family)
      (Endpoint.of (translator.rules.redirector.portal.address family) port)) :
    ∃ restored sent, translator.Writes bytes now .restored restored ∧
      Carries restored sent destination source ∧ checksumsValid restored = true ∧
      AgreeOutside packet.addressing packet.declared restored := by
  obtain rfl : packet.family = family := by
    rw [← hcarries.destination_family]
    exact Portal.family_address _ family
  have hadmits := (translator.rules.admits_iff hcarries).2 ⟨hcovers.enabled, hcovers.portal⟩
  have hheld : translator.sessions.tupleOf port now =
      (some entry.tuple, translator.sessions.touch port now) := by
    rw [SessionTable.tupleOf, hentry]
  obtain ⟨restored, hjudge, ⟨sent, hsent⟩, hvalid, hagree⟩ :=
    judge_reply hcarries hadmits hheld (by rw [hclient, hsource]) (by rw [hserver, hdestination])
  rw [hclient, hserver] at hsent
  refine ⟨restored, sent, ?_, hsent, hvalid, hagree⟩
  rw [Translator.writes_iff, hjudge]

theorem exists_redirected (hwell : translator.sessions.WellFormed)
    (htuple : entry.tuple = Tuple.of source destination)
    (hcovers : translator.rules.Covers family destination.address)
    (hsource : source.address.family = family) {bytes : Octets} {packet : Packet} {now : Nat}
    (hcarries : Carries bytes packet source destination) :
    ∃ redirected sent, translator.Writes bytes now .redirected redirected ∧
      Carries redirected sent
        (Endpoint.of (translator.rules.redirector.portal.address family) port)
        (translator.rules.redirector.listener family) := by
  obtain rfl : packet.family = family := hcarries.source_family.symm.trans hsource
  have hadmits := (translator.rules.admits_iff hcarries).2 ⟨hcovers.enabled, hcovers.allowed⟩
  have hheld : translator.sessions.byTuple[Tuple.of source destination]? = some port := by
    rw [← htuple]
    exact (hwell.inverse entry.tuple port).2
      ((SessionTable.tupleAt_eq_some_iff _ _ _).2 ⟨entry, hentry, rfl⟩)
  have hport : Redirector.portFor translator.sessions (Tuple.of source destination)
      (TCP.isConnectionRequest packet.payload) translator.stopped now =
        (.ok port, translator.sessions.touch port now) := by
    simp only [Redirector.portFor, SessionTable.portOf, hheld]
  obtain ⟨redirected, hjudge, ⟨sent, hsent⟩, -⟩ :=
    judge_outbound hcarries hadmits hcovers.foreign hport
  refine ⟨redirected, sent, ?_, hsent⟩
  rw [Translator.writes_iff, hjudge]

end

section

variable {settings : NatSection} {device : Device} {first free : UInt16}
  {bindFault? : Endpoint → Option String} {engine : Engine}
  (hstart : Engine.start settings device first free bindFault? = .ok engine)
include hstart

/-- A translator serves a session that stands at its port. -/
theorem serves_of_entry {family : Family} {source destination : Endpoint} {port : UInt16}
    {entry : SessionEntry} (history : List Engine.Action)
    (hentry : (engine.after history).translator.sessions.byPort[port]? = some entry)
    (htuple : entry.tuple = Tuple.of source destination)
    (hclient : entry.tuple.source = source) (hserver : entry.tuple.destination = destination)
    (hsource : source.address.family = family) (hdestination : destination.address.family = family)
    (hportal : ¬(settings.portal.address family).IsMapped)
    (hcovers : (settings.rules engine.listener.port).Covers family destination.address) :
    (engine.after history).translator.Serves (Endpoint.of (settings.portal.address family) port)
      (Endpoint.of (settings.portal.gateway family) engine.listener.port) source destination
      entry.id := by
  have hrules := Engine.rules_after hstart history
  have hwell := Engine.sessions_wellFormed hstart history
  set translator := (engine.after history).translator
  have haccepted := @connections_accept translator family port entry hentry
  have hrestored := @exists_restored translator family source destination port entry hentry
  have hredirected := @exists_redirected translator family source destination port entry hentry
  rw [hrules] at haccepted hrestored hredirected
  rw [hclient, hserver] at haccepted
  exact {
    accepted := fun peer now haccepting hport haddress =>
      haccepted hportal hport haddress haccepting now
    restored := fun bytes packet now => hrestored hcovers hclient hserver hsource hdestination
    redirected := fun bytes packet now => hredirected hwell htuple hcovers hsource }

/-- For any history of a started engine and any segment that it redirects, the segment goes from a
port of the portal to the listener, and whatever happens afterwards: as long as the session that was
found or made for it stands at that port, the translator serves it between the ends of the segment.
-/
theorem redirected_session_served (history : List Engine.Action) {bytes written : Octets}
    {packet : Packet} {source destination : Endpoint} {now : Nat}
    (hcarries : Carries bytes packet source destination)
    (hwrites : (engine.after history).translator.Writes bytes now .redirected written)
    (hsource : ¬source.address.IsMapped) (hdestination : ¬destination.address.IsMapped)
    (hportal : ¬(Address.v6 settings.portalV6).IsMapped) :
    ∃ (port : UInt16) (session : Nat) (sent : Packet),
      let portal := Endpoint.of (settings.portal.address packet.family) port
      let listener := Endpoint.of (settings.portal.gateway packet.family) engine.listener.port
      let redirected := engine.after (history ++ [.process bytes now])
      Carries written sent portal listener ∧
        (redirected.translator.sessions.session? port).map (·.id) = some session ∧
        ∀ later : List Engine.Action,
          ((redirected.after later).translator.sessions.session? port).map (·.id) =
            some session →
          (redirected.after later).translator.Serves portal listener source destination
            session := by
  have hwell := Engine.sessions_wellFormed hstart history
  obtain ⟨hadmits, hforeign, port, after, hport⟩ :=
    outbound_of_redirected hcarries hwrites.verdict
  obtain ⟨redirected, hjudge, ⟨sent, hsent⟩, -⟩ := judge_outbound hcarries hadmits hforeign hport
  have hverdict := hwrites.verdict
  rw [hjudge] at hverdict
  cases hverdict
  obtain ⟨entry, hentry, htuple, -⟩ := Redirector.portFor_entry hwell hport
  have hafter : (engine.after (history ++ [.process bytes now])).translator.sessions = after := by
    rw [Engine.after_append]
    exact (Translator.sessions_process _ bytes now).trans (congrArg Prod.snd hjudge)
  rw [← hafter] at hentry
  rw [Engine.rules_after hstart] at hadmits hforeign hsent
  refine ⟨port, entry.id, sent, hsent, ?_, ?_⟩
  · rw [SessionTable.session?, hentry]
    rfl
  · intro later hstands
    rw [SessionTable.session?, Option.map_map, Option.map_eq_some_iff] at hstands
    obtain ⟨found, hfound, hid⟩ := hstands
    -- The number at the port is still that of the segment's session, hence so is its flow.
    have hsame := Engine.sameSession_after hstart hentry hfound hid
    have hflow : found.tuple = Tuple.of source destination := hsame.tuple.trans htuple
    obtain ⟨hclient, hserver⟩ := hcarries.tuple_ends hsource hdestination
    have hplain : ¬(settings.portal.address packet.family).IsMapped := by
      cases packet.family with
      | v4 => exact not_false
      | v6 => exact hportal
    rw [← Engine.after_append] at hfound ⊢
    rw [← hsame.id]
    exact serves_of_entry hstart _ hfound hflow (hflow ▸ hclient) (hflow ▸ hserver)
      hcarries.source_family hcarries.destination_family hplain
      (hcarries.covers hadmits hforeign)

end

/-- An engine of the default settings, whose listener got the port 9000 and whose first session gets
the port 5000. -/
def sampleEngine : Engine where
  translator := (({} : NatSection).translator {} 9000 5000).postReads 4
  listener := Endpoint.of (.v6 V6.unspecified) 9000
  sweepInterval := ({} : NatSection).sweepInterval

def sampleRequest : Octets :=
  [0x45, 0, 0, 40, 0, 0, 0x40, 0, 64, 6, 0, 0, 10, 0, 0, 2, 1, 2, 3, 4,
    0xc7, 0x38, 1, 0xbb, 0, 0, 0, 1, 0, 0, 0, 0, 0x50, 2, 0xff, 0xff, 0, 0, 0, 0]

/-- The request as it goes to the listener. -/
def sampleRedirected : Octets :=
  [0x45, 0, 0, 40, 0, 0, 0x40, 0, 64, 6, 0xe2, 0xa6, 172, 19, 0, 2, 172, 19, 0, 1,
    0x13, 0x88, 0x23, 0x28, 0, 0, 0, 1, 0, 0, 0, 0, 0x50, 2, 0xff, 0xff, 0x21, 8, 0, 0]

def otherRequest : Octets :=
  [0x45, 0, 0, 40, 0, 0, 0x40, 0, 64, 6, 0, 0, 10, 0, 0, 3, 1, 2, 3, 4,
    0xc7, 0x38, 1, 0xbb, 0, 0, 0, 1, 0, 0, 0, 0, 0x50, 2, 0xff, 0xff, 0, 0, 0, 0]

theorem carries_sampleRequest :
    Carries sampleRequest ⟨.v4, sampleRequest⟩ (Endpoint.of (.v4 ⟨10, 0, 0, 2⟩) 51000)
      (Endpoint.of (.v4 ⟨1, 2, 3, 4⟩) 443) := by
  constructor <;> rfl

set_option maxRecDepth 20000 in
theorem writes_sampleRequest :
    (sampleEngine.after []).translator.Writes sampleRequest 1 .redirected sampleRedirected := by
  rw [Translator.writes_iff]
  cbv

theorem redirected_session_served_sampleRequest :
    Engine.start {} {} 5000 9000 = .ok sampleEngine ∧
      ∃ (port : UInt16) (session : Nat),
        (sampleEngine.after [.process sampleRequest 1]).translator.Serves
          (Endpoint.of (.v4 ⟨172, 19, 0, 2⟩) port) (Endpoint.of (.v4 ⟨172, 19, 0, 1⟩) 9000)
          (Endpoint.of (.v4 ⟨10, 0, 0, 2⟩) 51000) (Endpoint.of (.v4 ⟨1, 2, 3, 4⟩) 443) session := by
  have hstart : Engine.start {} {} 5000 9000 = .ok sampleEngine := rfl
  obtain ⟨port, session, -, -, hstands, hserved⟩ :=
    redirected_session_served hstart [] carries_sampleRequest writes_sampleRequest not_false
      not_false (by decide)
  exact ⟨hstart, port, session, hserved [] hstands⟩

end PortalNat
