import PortalNat.Proofs.Redirection.Traffic

/-!
# Flows and their sessions

Two segments that were redirected share a session exactly when their ends are the same in canonical
form: the key of a session does not tell the two spellings of an IPv4 address apart. A segment of
the listener gets the ends of the session in canonical form, so nothing comes back to a client that
spelled one of them in the other way.
-/

namespace PortalNat

/-- In a history a segment was redirected through a port, and the session that it was redirected
through still stands there. -/
def Engine.Redirected (engine : Engine) (history : List Engine.Action) (packet : Packet)
    (port : UInt16) : Prop :=
  ∃ (earlier later : List Engine.Action) (bytes : Octets) (now : Nat) (written : Octets)
      (session : Nat),
    history = earlier ++ [.process bytes now] ++ later ∧
      (engine.after earlier).translator.Redirects bytes now packet port written ∧
      ((engine.after (earlier ++ [.process bytes now])).translator.sessions.session? port).map
        (·.id) = some session ∧
      ((engine.after history).translator.sessions.session? port).map (·.id) = some session

/-- What the listener sends to a port, in the version of IP of a segment, goes to where the segment
came from as if it came from where the segment went, exactly when neither end of the segment is an
IPv4 address in its IPv6 spelling. -/
def Translator.AnswersPlain (translator : Translator) (packet : Packet) (port : UInt16) : Prop :=
  ∀ (bytes : Octets) (answer : Packet) (now : Nat),
    Carries bytes answer (translator.rules.redirector.listener packet.family)
      (translator.rules.redirector.portal.endpoint packet.family port) →
    ((∃ written, translator.Writes bytes now .restored written ∧
        answer.WrittenAs packet.receiver packet.sender written) ↔
      ¬packet.source.IsMapped ∧ ¬packet.destination.IsMapped)

section

variable {settings : NatSection} {device : Device} {first free : UInt16}
  {bindFault? : Endpoint → Option String} {engine : Engine}
  (hstart : Engine.start settings device first free bindFault? = .ok engine)
  {history : List Engine.Action} {packet : Packet} {port : UInt16}
include hstart

/-- The session that a segment was redirected through is that of its flow as long as it stands. -/
theorem Engine.Redirected.entry (hredirected : engine.Redirected history packet port) :
    ∃ entry : SessionEntry,
      (engine.after history).translator.sessions.byPort[port]? = some entry ∧
        entry.tuple = packet.flow := by
  obtain ⟨earlier, later, bytes, now, written, session, rfl, hredirects, hmade, hstands⟩ :=
    hredirected
  have hheld : (engine.after (earlier ++ [.process bytes now])).translator.sessions.byTuple[
      packet.flow]? = some port := by
    rw [Engine.after_append]
    exact hredirects.held
  have hwell := Engine.sessions_wellFormed hstart (earlier ++ [.process bytes now])
  obtain ⟨entry, hentry, htuple⟩ :=
    (SessionTable.tupleAt_eq_some_iff _ _ _).1 ((hwell.inverse _ _).1 hheld)
  rw [SessionTable.session?, hentry] at hmade
  rw [SessionTable.session?, Option.map_map, Option.map_eq_some_iff] at hstands
  obtain ⟨found, hfound, hid⟩ := hstands
  refine ⟨found, hfound, ?_⟩
  rw [Engine.after_append] at hfound
  have hsame := Engine.sameSession_after hstart hentry hfound
    (hid.trans (Option.some.inj hmade).symm)
  exact hsame.tuple.trans htuple

/-- A segment of a client whose flow gets a port is redirected, and just afterwards its session
stands. -/
theorem Engine.redirected_last {bytes : Octets} {now : Nat}
    (hcarries : Carries bytes packet packet.sender packet.receiver)
    (hadmits : (settings.rules engine.listener.port).admits packet = true)
    (hforeign : packet.receiver.address ≠ settings.portal.address packet.family)
    (hlookup : (Redirector.portFor (engine.after history).translator.sessions packet.flow
      (TCP.isConnectionRequest packet.payload) (engine.after history).translator.stopped now).1 =
        .ok port) :
    engine.Redirected (history ++ [.process bytes now]) packet port := by
  have hrules := Engine.rules_after hstart history
  obtain ⟨written, hredirects⟩ :
      ∃ written, (engine.after history).translator.Redirects bytes now packet port written := by
    apply Translator.exists_redirects _ hcarries.protocol _ _ (Prod.ext hlookup rfl) <;>
      rw [hrules]
    · exact ⟨hcarries.parse, hcarries.whole, hadmits⟩
    · exact ⟨hcarries.segment, (Bool.and_eq_true_iff.1 hadmits).1⟩
    · exact hforeign
  have hwell := Engine.sessions_wellFormed hstart (history ++ [.process bytes now])
  rw [Engine.after_append] at hwell
  obtain ⟨entry, hentry, -⟩ :=
    (SessionTable.tupleAt_eq_some_iff _ _ _).1 ((hwell.inverse _ _).1 hredirects.held)
  have hstands : ((engine.after (history ++ [.process bytes now])).translator.sessions.session?
      port).map (·.id) = some entry.id := by
    rw [Engine.after_append, SessionTable.session?, hentry]
    rfl
  exact ⟨history, [], bytes, now, written, entry.id, (List.append_nil _).symm, hredirects, hstands,
    hstands⟩

omit hstart in
/-- What was redirected stays so as long as the session at its port is the same. -/
theorem Engine.Redirected.append (hredirected : engine.Redirected history packet port)
    {later : List Engine.Action}
    (hsame : ((engine.after (history ++ later)).translator.sessions.session? port).map (·.id) =
      ((engine.after history).translator.sessions.session? port).map (·.id)) :
    engine.Redirected (history ++ later) packet port := by
  obtain ⟨earlier, next, bytes, now, written, session, rfl, hredirects, hmade, hstands⟩ :=
    hredirected
  exact ⟨earlier, next ++ later, bytes, now, written, session, List.append_assoc _ _ _, hredirects,
    hmade, hsame.trans hstands⟩

/-- Segments that were redirected share a port exactly when their ends are the same in canonical
form. -/
theorem port_eq_iff {other : Packet} {otherPort : UInt16}
    (hredirected : engine.Redirected history packet port)
    (hother : engine.Redirected history other otherPort) :
    port = otherPort ↔ packet.sender.canonical = other.sender.canonical ∧
      packet.receiver.canonical = other.receiver.canonical := by
  have hwell := Engine.sessions_wellFormed hstart history
  obtain ⟨entry, hentry, htuple⟩ := hredirected.entry hstart
  obtain ⟨rival, hrival, hflow⟩ := hother.entry hstart
  rw [← Tuple.of_eq_of_iff]
  change _ ↔ packet.flow = other.flow
  constructor
  · rintro rfl
    rw [hentry] at hrival
    cases hrival
    exact htuple.symm.trans hflow
  · intro hsame
    have hheld := (hwell.inverse packet.flow port).2
      ((SessionTable.tupleAt_eq_some_iff _ _ _).2 ⟨entry, hentry, htuple⟩)
    have hagain := (hwell.inverse other.flow otherPort).2
      ((SessionTable.tupleAt_eq_some_iff _ _ _).2 ⟨rival, hrival, hflow⟩)
    rw [hsame, hagain] at hheld
    exact (Option.some.inj hheld).symm

/-- As long as its session stands, a redirected segment is answered with its own ends exactly when
both are in canonical form. -/
theorem answersPlain_of_redirected (hredirected : engine.Redirected history packet port) :
    (engine.after history).translator.AnswersPlain packet port := by
  obtain ⟨entry, hentry, htuple⟩ := hredirected.entry hstart
  have hwell := Engine.sessions_wellFormed hstart history
  have hrules := Engine.rules_after hstart history
  obtain ⟨earlier, _, _, _, _, _, -, hredirects, -, -⟩ := hredirected
  have hcarries := hredirects.carries
  obtain ⟨hadmits, hforeign, -⟩ := outbound_of_redirected hcarries hredirects.writes.verdict
  rw [Engine.rules_after hstart earlier] at hadmits hforeign
  have hcovers := hcarries.covers hadmits hforeign
  rw [← hrules] at hcovers
  intro bytes answer now hanswer
  constructor
  · rintro ⟨written, hwrites, ⟨sent, hsent⟩, -, -⟩
    rcases hwrites.cases with
      ⟨_, _, houtbound⟩ | ⟨same, held, found, hrestores⟩ | ⟨hecho, -⟩
    · cases (houtbound.writes.unique hwrites).1
    · obtain ⟨rfl, -, hportal⟩ := hanswer.unique hrestores.carries
      obtain rfl : port = held := congrArg Endpoint.port hportal
      have hfound := hrestores.held
      rw [hentry] at hfound
      cases hfound
      obtain ⟨restored, hrestored⟩ := hrestores.written.carries
      obtain ⟨-, hserver, hclient⟩ := hsent.unique hrestored
      rw [htuple] at hserver hclient
      -- The flow tells its ends in canonical form, and these are the ends of the segment here.
      constructor <;> rw [← Address.canonical_eq_self_iff, ← Tuple.narrow_widen_eq]
      · exact (congrArg Endpoint.address hclient).symm
      · exact (congrArg Endpoint.address hserver).symm
    · cases hecho
  · rintro ⟨hsource, hdestination⟩
    obtain ⟨hclient, hserver⟩ := hcarries.tuple_ends hsource hdestination
    obtain ⟨written, sent, hwrites, hsent, hvalid, hagree⟩ :=
      exists_restored hentry hcovers ((congrArg Tuple.source htuple).trans hclient)
        ((congrArg Tuple.destination htuple).trans hserver) hcarries.source_family
        hcarries.destination_family hanswer
    exact ⟨written, hwrites, ⟨sent, hsent⟩, hvalid, hagree⟩

/-- Of any two segments that were redirected in a history and whose sessions still stand: they share
a port exactly when their ends are the same in canonical form, and each is answered exactly when it
has its own ends in canonical form. -/
theorem redirected_separate {other : Packet} {otherPort : UInt16}
    (hredirected : engine.Redirected history packet port)
    (hother : engine.Redirected history other otherPort) :
    (port = otherPort ↔ packet.sender.canonical = other.sender.canonical ∧
        packet.receiver.canonical = other.receiver.canonical) ∧
      (engine.after history).translator.AnswersPlain packet port ∧
      (engine.after history).translator.AnswersPlain other otherPort :=
  ⟨port_eq_iff hstart hredirected hother, answersPlain_of_redirected hstart hredirected,
    answersPlain_of_redirected hstart hother⟩

end

set_option maxRecDepth 20000 in
theorem redirected_sampleRequest :
    sampleEngine.Redirected [.process sampleRequest 1] ⟨.v4, sampleRequest⟩ 5000 := by
  have hstart : Engine.start {} {} 5000 9000 = .ok sampleEngine := rfl
  exact @Engine.redirected_last {} {} 5000 9000 _ sampleEngine hstart [] ⟨.v4, sampleRequest⟩ 5000
    sampleRequest 1 (by constructor <;> rfl) rfl (by decide) (by cbv)

/-- A segment that is redirected after the first request leaves that one redirected. -/
theorem redirected_second {bytes : Octets} {packet : Packet} {port : UInt16}
    (hcarries : Carries bytes packet packet.sender packet.receiver)
    (hadmits : (({} : NatSection).rules 9000).admits packet = true)
    (hforeign : packet.receiver.address ≠ ({} : NatSection).portal.address packet.family)
    (hlookup : (Redirector.portFor
      (sampleEngine.after [.process sampleRequest 1]).translator.sessions packet.flow
      (TCP.isConnectionRequest packet.payload)
      (sampleEngine.after [.process sampleRequest 1]).translator.stopped 2).1 = .ok port)
    (hsame : ((sampleEngine.after ([.process sampleRequest 1] ++ [.process bytes 2])
      ).translator.sessions.session? 5000).map (·.id) =
        ((sampleEngine.after [.process sampleRequest 1]).translator.sessions.session? 5000).map
          (·.id)) :
    sampleEngine.Redirected [.process sampleRequest 1, .process bytes 2] ⟨.v4, sampleRequest⟩
        5000 ∧
      sampleEngine.Redirected [.process sampleRequest 1, .process bytes 2] packet port :=
  ⟨redirected_sampleRequest.append hsame,
    Engine.redirected_last (rfl : Engine.start {} {} 5000 9000 = .ok sampleEngine) hcarries hadmits
      hforeign hlookup⟩

set_option maxRecDepth 20000 in
/-- Two clients get ports of their own, and both are answered. -/
theorem redirected_separate_otherRequest :
    let history : List Engine.Action := [.process sampleRequest 1, .process otherRequest 2]
    Engine.start {} {} 5000 9000 = .ok sampleEngine ∧
      sampleEngine.Redirected history ⟨.v4, sampleRequest⟩ 5000 ∧
      sampleEngine.Redirected history ⟨.v4, otherRequest⟩ 5001 ∧
      (sampleEngine.after history).translator.AnswersPlain ⟨.v4, sampleRequest⟩ 5000 ∧
      (sampleEngine.after history).translator.AnswersPlain ⟨.v4, otherRequest⟩ 5001 := by
  have hstart : Engine.start {} {} 5000 9000 = .ok sampleEngine := rfl
  obtain ⟨hfirst, hsecond⟩ := @redirected_second otherRequest ⟨.v4, otherRequest⟩ 5001
    (by constructor <;> rfl) rfl (by decide) (by cbv) (by cbv)
  exact ⟨hstart, hfirst, hsecond, (redirected_separate hstart hfirst hsecond).2⟩

def mappedRequest : Octets :=
  [0x60, 0, 0, 0, 0, 20, 6, 64, 0, 0, 0, 0, 0, 0, 0, 0, 0, 0, 0xff, 0xff, 10, 0, 0, 2,
    0, 0, 0, 0, 0, 0, 0, 0, 0, 0, 0xff, 0xff, 1, 2, 3, 4,
    0xc7, 0x38, 1, 0xbb, 0, 0, 0, 1, 0, 0, 0, 0, 0x50, 2, 0xff, 0xff, 0xd8, 0xe6, 0, 0]

def mappedAnswer : Octets :=
  [0x60, 0, 0, 0, 0, 20, 6, 64, 0xfd, 0xfe, 0xdc, 0xba, 0x98, 0x76, 0, 0, 0, 0, 0, 0, 0, 0, 0, 1,
    0xfd, 0xfe, 0xdc, 0xba, 0x98, 0x76, 0, 0, 0, 0, 0, 0, 0, 0, 0, 2,
    0x23, 0x28, 0x13, 0x88, 0, 0, 0, 7, 0, 0, 0, 2, 0x50, 0x12, 0xff, 0xff, 0x92, 0xb6, 0, 0]

set_option maxRecDepth 20000 in
/-- Two flows that differ in their version of IP and in both ends get one session, and what the
listener answers to the second of them does not come back to it. -/
theorem spellings_share_session :
    let history : List Engine.Action := [.process sampleRequest 1, .process mappedRequest 2]
    let plain : Packet := ⟨.v4, sampleRequest⟩
    let mapped : Packet := ⟨.v6, mappedRequest⟩
    let translator := (sampleEngine.after history).translator
    Engine.start {} {} 5000 9000 = .ok sampleEngine ∧
      plain.family ≠ mapped.family ∧ plain.sender ≠ mapped.sender ∧
      plain.receiver ≠ mapped.receiver ∧
      sampleEngine.Redirected history plain 5000 ∧ sampleEngine.Redirected history mapped 5000 ∧
      Carries mappedAnswer ⟨.v6, mappedAnswer⟩ (translator.rules.redirector.listener .v6)
        (translator.rules.redirector.portal.endpoint .v6 5000) ∧
      ¬∃ written, translator.Writes mappedAnswer 3 .restored written ∧
        Packet.WrittenAs ⟨.v6, mappedAnswer⟩ mapped.receiver mapped.sender written := by
  have hstart : Engine.start {} {} 5000 9000 = .ok sampleEngine := rfl
  obtain ⟨hfirst, hsecond⟩ := @redirected_second mappedRequest ⟨.v6, mappedRequest⟩ 5000
    (by constructor <;> rfl) rfl (by decide) (by cbv) (by cbv)
  have hanswer : Carries mappedAnswer ⟨.v6, mappedAnswer⟩
      ((({} : NatSection).rules 9000).redirector.listener .v6)
      ((({} : NatSection).rules 9000).redirector.portal.endpoint .v6 5000) := by
    constructor <;> rfl
  have hplain := answersPlain_of_redirected hstart hsecond
  have hrules := Engine.rules_after hstart [.process sampleRequest 1, .process mappedRequest 2]
  rw [Translator.AnswersPlain, hrules] at hplain
  refine ⟨hstart, by decide, by decide, by decide, hfirst, hsecond, hrules ▸ hanswer, ?_⟩
  intro hanswered
  exact ((hplain _ _ 3 hanswer).1 hanswered).1 (by decide)

end PortalNat
