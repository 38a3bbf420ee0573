import PortalNat.Proofs.Packet.Echo
import PortalNat.Proofs.Redirection.Service

/-!
# What is written and what is allocated

A segment leaves the translator in one of two ways only: from a port of the portal to the listener,
and then the port is that of its flow, or from the listener back to the client of a session. A
session is made only on the first way, for a connection request, and not once the listener is lost.
-/

namespace PortalNat

/-- What a device takes of a packet that is written to it: all of it, or nothing. -/
def Device.taken (device : Device) (packet : Octets) : List Octets :=
  match (device.write packet).1 with
  | .ok _ => [packet]
  | .error _ => []

theorem Device.outbound_write (device : Device) (packet : Octets) :
    (device.write packet).2.outbound = device.outbound ++ device.taken packet := by
  rw [taken, write_eq]
  cases device.refusal? with
  | some error => exact (List.append_nil _).symm
  | none => rfl

namespace Translator

/-- Octets hold a segment of a client, and a translator writes it to its listener through a port of
the portal, which is that of its flow from then on. -/
structure Redirects (translator : Translator) (bytes : Octets) (now : Nat) (packet : Packet)
    (port : UInt16) (written : Octets) : Prop where
  carries : Carries bytes packet packet.sender packet.receiver
  foreign : packet.destination ≠ translator.rules.redirector.portal.address packet.family
  writes : translator.Writes bytes now .redirected written
  written : packet.WrittenAs (translator.rules.redirector.portal.endpoint packet.family port)
    (translator.rules.redirector.listener packet.family) written
  held : (translator.process bytes now).sessions.byTuple[packet.flow]? = some port

/-- Octets hold a segment of the listener to the port of a session, and a translator writes it to
the client of the session. -/
structure Restores (translator : Translator) (bytes : Octets) (now : Nat) (packet : Packet)
    (port : UInt16) (entry : SessionEntry) (written : Octets) : Prop where
  carries : Carries bytes packet (translator.rules.redirector.listener packet.family)
    (translator.rules.redirector.portal.endpoint packet.family port)
  held : translator.sessions.byPort[port]? = some entry
  writes : translator.Writes bytes now .restored written
  written : packet.WrittenAs entry.tuple.destination entry.tuple.source written

/-- After some octets were read a session stands at a port that did not stand there before. -/
structure Gains (translator : Translator) (bytes : Octets) (now : Nat) (port : UInt16)
    (entry : SessionEntry) : Prop where
  stands : (translator.process bytes now).sessions.byPort[port]? = some entry
  made : ∀ former : SessionEntry,
    translator.sessions.byPort[port]? = some former → ¬former.SameSession entry

variable {translator : Translator} {bytes written : Octets} {now : Nat} {event : Event}
  {packet : Packet} {port : UInt16}

/-- The packet is written once, and only if the device takes it. -/
theorem Writes.outbound (hwrites : translator.Writes bytes now event written) :
    (translator.process bytes now).device.outbound =
      translator.device.outbound ++ translator.device.taken written := by
  rw [hwrites.device, Device.outbound_write]

theorem Writes.unique {other : Event} {rewritten : Octets}
    (hwrites : translator.Writes bytes now event written)
    (hother : translator.Writes bytes now other rewritten) :
    event = other ∧ written = rewritten := by
  have hverdict := hwrites.verdict
  rw [hother.verdict] at hverdict
  cases hverdict
  exact ⟨rfl, rfl⟩

theorem device_deliver (translator : Translator) (datagram : Datagram) (template : ReplyTemplate) :
    (translator.deliver datagram template).device = translator.device := by
  unfold deliver
  split
  · rfl
  · split <;> rfl

/-- The device is left as it was unless a packet is written to it. -/
theorem exists_writes_of_device
    (hdevice : (translator.process bytes now).device ≠ translator.device) :
    ∃ event written, translator.Writes bytes now event written := by
  simp only [writes_iff]
  contrapose! hdevice
  rw [process]
  cases hverdict : (translator.rules.judge translator.sessions translator.stopped bytes now).1 with
  | write event written => exact absurd hverdict (hdevice event written)
  | deliver datagram template =>
      simp only [hverdict, carryOut, device_deliver]
      rfl
  | ignore => simp only [hverdict, carryOut]
  | drop reason report? => cases report? <;> simp only [hverdict, carryOut] <;> rfl

/-- A segment of a client whose flow gets a port is redirected through that port. -/
theorem exists_redirects {after : SessionTable}
    (hadmitted : translator.rules.Admitted bytes packet)
    (hprotocol : packet.protocol = Protocol.tcp)
    (htakes : translator.rules.redirector.Takes packet)
    (hforeign : packet.receiver.address ≠
      translator.rules.redirector.portal.address packet.family)
    (hlookup : Redirector.portFor translator.sessions packet.flow
      (TCP.isConnectionRequest packet.payload) translator.stopped now = (.ok port, after)) :
    ∃ written, translator.Redirects bytes now packet port written := by
  have hcarries := hadmitted.carries hprotocol htakes
  obtain ⟨written, hjudge, hwritten⟩ :=
    judge_outbound hcarries hadmitted.admits hforeign hlookup
  refine ⟨written, hcarries, hforeign, ?_, hwritten, ?_⟩
  · rw [writes_iff, hjudge]
  · rw [sessions_process, hjudge]
    exact Redirector.byTuple_portFor hlookup

/-- All that a translator writes: a segment on one of its two ways, or the answer to an echo
request. -/
theorem Writes.cases (hwrites : translator.Writes bytes now event written) :
    (∃ packet port, translator.Redirects bytes now packet port written) ∨
      (∃ packet port entry, translator.Restores bytes now packet port entry written) ∨
      (event = .echo ∧ ∃ packet answer, Packet.parse bytes = .ok packet ∧
        translator.rules.echo.answer? packet = some answer ∧ written = answer.declared) := by
  obtain ⟨verdict, after, hjudge, hjudged⟩ :=
    translator.rules.judged translator.sessions translator.stopped bytes now
  obtain rfl : verdict = .write event written := by rw [← hwrites.verdict, hjudge]
  rcases hjudged.write_cases with
    ⟨packet, route, readdressed, hadmitted, hprotocol, hrouted, hreaddressed, rfl, rfl⟩ |
      ⟨hecho, packet, answer, hadmitted, hanswer, hwritten⟩
  · cases hrouted with
    | outbound htakes hforeign hlookup =>
        left
        obtain ⟨redirected, hredirects⟩ :=
          exists_redirects hadmitted hprotocol htakes hforeign hlookup
        obtain ⟨-, rfl⟩ := hwrites.unique hredirects.writes
        exact ⟨packet, _, hredirects⟩
    | @reply entry htakes hportal hlistener hheld =>
        right
        left
        have hcarries := hadmitted.carries hprotocol htakes
        have hwritten := hcarries.writtenAs hreaddressed
        rw [hlistener, Packet.receiver_of_address hportal] at hcarries
        exact ⟨packet, packet.receiver.port, entry, hcarries, hheld, hwrites, hwritten⟩
  · exact .inr (.inr ⟨hecho, packet, answer, hadmitted.parse, hanswer, hwritten⟩)

/-- What a translator writes that is a segment is not the answer to an echo request. -/
theorem Writes.tcp_cases (hwrites : translator.Writes bytes now event written) {sent : Packet}
    (hsent : Packet.parse written = .ok sent) (hprotocol : sent.protocol = Protocol.tcp) :
    (∃ packet port, translator.Redirects bytes now packet port written) ∨
      ∃ packet port entry, translator.Restores bytes now packet port entry written := by
  rcases hwrites.cases with hredirects | hrestores | ⟨-, packet, answer, hparse, hanswer, rfl⟩
  · exact .inl hredirects
  · exact .inr hrestores
  · obtain ⟨hanswered, hicmp⟩ :=
      EchoResponder.protocol_answer (Packet.wellFormed_of_parse hparse).2 hanswer
    rw [hsent] at hanswered
    cases hanswered
    rw [hprotocol] at hicmp
    cases hfamily : packet.family <;> rw [hfamily] at hicmp <;> cases hicmp

/-- A session is made for the flow of a segment that is redirected, which has to be a connection
request, and not once the listener is lost. -/
theorem Gains.redirects {entry : SessionEntry} (hwell : translator.sessions.WellFormed)
    (hgains : translator.Gains bytes now port entry) :
    ∃ packet written, translator.Redirects bytes now packet port written ∧
      entry.tuple = packet.flow ∧ TCP.isConnectionRequest packet.payload = true ∧
      translator.stopped = false := by
  obtain ⟨verdict, after, hjudge, hjudged⟩ :=
    translator.rules.judged translator.sessions translator.stopped bytes now
  have hstands : after.byPort[port]? = some entry := by
    rw [← hgains.stands, sessions_process, hjudge]
  have hchanged : after ≠ translator.sessions := by
    rintro rfl
    exact hgains.made entry hstands (.refl entry)
  cases hjudged with
  | unread | fragment | excluded | datagram | control | unsupported => exact absurd rfl hchanged
  | @segment packet result after hadmitted hprotocol hrouted =>
      cases hrouted with
      | malformed | disabled | stray | unknownPort => exact absurd rfl hchanged
      | refused htakes hforeign hlookup =>
          exact absurd (Redirector.portFor_error hwell.cursor_inRange hlookup) hchanged
      | reply htakes hportal hlistener hheld =>
          obtain ⟨former, hformer, hsame⟩ := SessionTable.former_of_touch hstands
          exact absurd hsame (hgains.made former hformer)
      | @outbound given after htakes hforeign hlookup =>
          rcases Redirector.portFor_origin hlookup hstands with
            ⟨former, hformer, hsame⟩ | ⟨rfl, htuple, hrequest, hrunning⟩
          · exact absurd hsame (hgains.made former hformer)
          · obtain ⟨redirected, hredirects⟩ :=
              exists_redirects hadmitted hprotocol htakes hforeign hlookup
            exact ⟨packet, redirected, hredirects, htuple, hrequest, hrunning⟩

/-- The port that a segment is redirected through is what looking up its flow comes to, and so is
the session table afterwards. -/
theorem Redirects.lookup (hredirects : translator.Redirects bytes now packet port written) :
    Redirector.portFor translator.sessions packet.flow (TCP.isConnectionRequest packet.payload)
      translator.stopped now = (.ok port, (translator.process bytes now).sessions) := by
  obtain ⟨hadmits, hforeign, given, after, hlookup⟩ :=
    outbound_of_redirected hredirects.carries hredirects.writes.verdict
  obtain ⟨_, hjudge, -⟩ := judge_outbound hredirects.carries hadmits hforeign hlookup
  have hafter : (translator.process bytes now).sessions = after := by
    rw [sessions_process, hjudge]
  have hgiven : (translator.process bytes now).sessions.byTuple[packet.flow]? = some given := by
    rw [hafter]
    exact Redirector.byTuple_portFor hlookup
  rw [hredirects.held] at hgiven
  cases hgiven
  exact hafter ▸ hlookup

/-- A translator can make a session for a segment: the segment asks for a connection, the listener
is there, and a port is left. -/
def CanOpen (translator : Translator) (packet : Packet) : Prop :=
  TCP.isConnectionRequest packet.payload = true ∧ translator.stopped = false ∧
    translator.sessions.HasRoom

/-- A segment is redirected exactly when the rules let it in, it does not go to the portal, and its
flow has a session or can get one. -/
theorem exists_redirects_iff (hwell : translator.sessions.WellFormed)
    (hcarries : Carries bytes packet packet.sender packet.receiver) (now : Nat) :
    (∃ port written, translator.Redirects bytes now packet port written) ↔
      translator.rules.admits packet = true ∧
        packet.destination ≠ translator.rules.redirector.portal.address packet.family ∧
        ((∃ port, translator.sessions.byTuple[packet.flow]? = some port) ∨
          translator.CanOpen packet) := by
  constructor
  · rintro ⟨port, written, hredirects⟩
    have hadmits := (outbound_of_redirected hcarries hredirects.writes.verdict).1
    exact ⟨hadmits, hredirects.foreign,
      (Redirector.portFor_ok_iff hwell now).1 ⟨port, congrArg Prod.fst hredirects.lookup⟩⟩
  · rintro ⟨hadmits, hforeign, hport⟩
    obtain ⟨port, hlookup⟩ := (Redirector.portFor_ok_iff hwell now).2 hport
    exact ⟨port, exists_redirects ⟨hcarries.parse, hcarries.whole, hadmits⟩ hcarries.protocol
      (hcarries.takes hadmits) hforeign (Prod.ext hlookup rfl)⟩

/-- A segment makes a session exactly when the rules let it in, it does not go to the portal, and
its flow has no session and can get one. -/
theorem exists_gains_iff (hwell : translator.sessions.WellFormed)
    (hcarries : Carries bytes packet packet.sender packet.receiver) (now : Nat) :
    (∃ port entry, translator.Gains bytes now port entry) ↔
      translator.rules.admits packet = true ∧
        packet.destination ≠ translator.rules.redirector.portal.address packet.family ∧
        translator.sessions.byTuple[packet.flow]? = none ∧ translator.CanOpen packet := by
  constructor
  · rintro ⟨port, entry, hgains⟩
    obtain ⟨same, written, hredirects, -, hrequest, hrunning⟩ := hgains.redirects hwell
    obtain ⟨rfl, -, -⟩ := hcarries.unique hredirects.carries
    have hadmits := (outbound_of_redirected hcarries hredirects.writes.verdict).1
    rcases Redirector.portFor_cases hredirects.lookup with ⟨-, htouched⟩ | ⟨hnew, hfresh, -⟩
    · have hstands := hgains.stands
      rw [htouched] at hstands
      obtain ⟨former, hformer, hsame⟩ := SessionTable.former_of_touch hstands
      exact absurd hsame (hgains.made former hformer)
    · have hroom := (SessionTable.newSession_ok_iff hwell hfresh now).1
        ⟨_, congrArg Prod.fst hnew⟩
      exact ⟨hadmits, hredirects.foreign, hfresh, hrequest, hrunning, hroom⟩
  · rintro ⟨hadmits, hforeign, hfresh, hopen⟩
    obtain ⟨port, written, hredirects⟩ :=
      (exists_redirects_iff hwell hcarries now).2 ⟨hadmits, hforeign, .inr hopen⟩
    obtain ⟨entry, hentry, -⟩ := Redirector.portFor_entry hwell hredirects.lookup
    refine ⟨port, entry, hentry, ?_⟩
    rcases Redirector.portFor_cases hredirects.lookup with ⟨hheld, -⟩ | ⟨hnew, -⟩
    · rw [hfresh] at hheld
      cases hheld
    · intro former hformer
      rw [SessionTable.byPort_of_newSession hwell hfresh hnew] at hformer
      cases hformer

/-- What a translator may write and allocate for TCP on reading some octets. -/
structure HandlesTcp (translator : Translator) (bytes : Octets) (now : Nat) : Prop where
  /-- The device is left as it was unless a packet is written. -/
  device : (translator.process bytes now).device ≠ translator.device →
    ∃ event written, translator.Writes bytes now event written
  /-- A segment is written once, if the device takes it. It is one that was read, from the port of
  its flow to the listener or from the listener to the client of a session. -/
  written : ∀ (event : Event) (written : Octets) (sent : Packet),
    translator.Writes bytes now event written → Packet.parse written = .ok sent →
    sent.protocol = Protocol.tcp →
      ((∃ packet port, translator.Redirects bytes now packet port written) ∨
        ∃ packet port entry, translator.Restores bytes now packet port entry written) ∧
      (translator.process bytes now).device.outbound =
        translator.device.outbound ++ translator.device.taken written
  /-- A session is made only for a segment that is redirected, with SYN set and ACK clear, while
  the listener is there. -/
  gained : ∀ (port : UInt16) (entry : SessionEntry), translator.Gains bytes now port entry →
    ∃ packet written, translator.Redirects bytes now packet port written ∧
      entry.tuple = packet.flow ∧ TCP.hasSyn packet.payload = true ∧
      TCP.hasAck packet.payload = false ∧ translator.stopped = false
  /-- At most one session is made. -/
  gained_once : ∀ (port other : UInt16) (entry rival : SessionEntry),
    translator.Gains bytes now port entry → translator.Gains bytes now other rival → port = other
  /-- A packet to the portal makes no session. -/
  portal : ∀ packet : Packet, Packet.parse bytes = .ok packet →
    packet.destination = translator.rules.redirector.portal.address packet.family →
    ∀ (port : UInt16) (entry : SessionEntry), ¬translator.Gains bytes now port entry
  /-- A packet to anywhere else is not sent back to a client. -/
  foreign : ∀ packet : Packet, Packet.parse bytes = .ok packet →
    packet.destination ≠ translator.rules.redirector.portal.address packet.family →
    ∀ written : Octets, ¬translator.Writes bytes now .restored written

end Translator

/-- Whatever has happened to a started engine and whatever octets are read: TCP is written only by
redirecting a segment or by restoring one to the client of a session, and sessions are made only by
redirecting. -/
theorem handlesTcp_after {settings : NatSection} {device : Device} {first free : UInt16}
    {bindFault? : Endpoint → Option String} {engine : Engine}
    (hstart : Engine.start settings device first free bindFault? = .ok engine)
    (history : List Engine.Action) (bytes : Octets) (now : Nat) :
    (engine.after history).translator.HandlesTcp bytes now := by
  have hwell := Engine.sessions_wellFormed hstart history
  constructor
  case device => exact Translator.exists_writes_of_device
  case written =>
    intro event written sent hwrites hsent hprotocol
    exact ⟨hwrites.tcp_cases hsent hprotocol, hwrites.outbound⟩
  case gained =>
    intro port entry hgains
    obtain ⟨packet, written, hredirects, htuple, hrequest, hrunning⟩ := hgains.redirects hwell
    rw [TCP.isConnectionRequest, Bool.and_eq_true, Bool.not_eq_true'] at hrequest
    exact ⟨packet, written, hredirects, htuple, hrequest.1, hrequest.2, hrunning⟩
  case gained_once =>
    intro port other entry rival hgains hrival
    obtain ⟨packet, _, hredirects, -⟩ := hgains.redirects hwell
    obtain ⟨same, _, hagain, -⟩ := hrival.redirects hwell
    have hpacket := hredirects.carries.parse
    rw [hagain.carries.parse] at hpacket
    cases hpacket
    have hheld := hredirects.held
    rw [hagain.held] at hheld
    exact (Option.some.inj hheld).symm
  case portal =>
    intro packet hparse hportal port entry hgains
    obtain ⟨same, _, hredirects, -⟩ := hgains.redirects hwell
    have hsame := hredirects.carries.parse
    rw [hparse] at hsame
    cases hsame
    exact hredirects.foreign hportal
  case foreign =>
    intro packet hparse hforeign written hwrites
    rcases hwrites.cases with
      ⟨_, _, hredirects⟩ | ⟨same, port, entry, hrestores⟩ | ⟨hecho, -⟩
    · cases (hredirects.writes.unique hwrites).1
    · have hsame := hrestores.carries.parse
      rw [hparse] at hsame
      cases hsame
      exact hforeign (congrArg Endpoint.address hrestores.carries.destination)
    · cases hecho

/-- The request of a client is redirected by an engine that has not handled anything yet, through
the first port, which its flow then has. -/
theorem handlesTcp_after_sampleRequest :
    Engine.start {} {} 5000 9000 = .ok sampleEngine ∧
      ∃ packet port,
        (sampleEngine.after []).translator.Redirects sampleRequest 1 packet port
          sampleRedirected := by
  have hstart : Engine.start {} {} 5000 9000 = .ok sampleEngine := rfl
  refine ⟨hstart, ?_⟩
  obtain ⟨hways, -⟩ := (handlesTcp_after hstart [] sampleRequest 1).written .redirected
    sampleRedirected ⟨.v4, sampleRedirected⟩ writes_sampleRequest rfl rfl
  rcases hways with hredirects | ⟨_, _, _, hrestores⟩
  · exact hredirects
  · cases (hrestores.writes.unique writes_sampleRequest).1

end PortalNat
