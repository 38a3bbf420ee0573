import PortalNat.Proofs.Packet.Readdress
import PortalNat.Proofs.Redirection.Route
import PortalNat.Verdict

/-!
# Judging a packet

A packet is refused by the parser, as a fragment or by the scope, or it is let in and judged by its
protocol. `Judged` says for each of these ways what the verdict is and what becomes of the session
table. A segment that is let in is written if it has a route. It then carries the ends of the route
and right checksums, and is otherwise the segment that was read.
-/

namespace PortalNat

open Octets (AgreeOutside)

/-! ## Segments -/

/-- A buffer holds a packet with a whole TCP segment from one endpoint to another. -/
structure Carries (bytes : Octets) (packet : Packet) (source destination : Endpoint) : Prop where
  parse : Packet.parse bytes = .ok packet
  whole : packet.isFragment = false
  protocol : packet.protocol = Protocol.tcp
  segment : TCP.check packet.payload = .ok ()
  source : Endpoint.of packet.source (TCP.sourcePort packet.payload) = source
  destination : Endpoint.of packet.destination (TCP.destinationPort packet.payload) = destination

/-- Octets are a segment as it is written between two endpoints: it travels between these, has
right checksums, and is otherwise the segment that was read. -/
structure Packet.WrittenAs (packet : Packet) (source destination : Endpoint) (written : Octets) :
    Prop where
  carries : ∃ sent, Carries written sent source destination
  intact : checksumsValid written = true
  agree : AgreeOutside packet.addressing packet.declared written

section

variable {bytes : Octets} {packet : Packet} {source destination : Endpoint}
  (hcarries : Carries bytes packet source destination)
include hcarries

theorem Carries.wellFormed : packet.WellFormed :=
  (Packet.wellFormed_of_parse hcarries.parse).2

theorem Carries.source_family : source.address.family = packet.family := by
  rw [← hcarries.source]
  exact packet.family_source

theorem Carries.destination_family : destination.address.family = packet.family := by
  rw [← hcarries.destination]
  exact packet.family_destination

/-- A buffer holds at most one segment. -/
theorem Carries.unique {same : Packet} {sender receiver : Endpoint}
    (hother : Carries bytes same sender receiver) :
    packet = same ∧ source = sender ∧ destination = receiver := by
  have hparse := hcarries.parse
  rw [hother.parse] at hparse
  cases hparse
  exact ⟨rfl, hcarries.source.symm.trans hother.source,
    hcarries.destination.symm.trans hother.destination⟩

theorem Carries.checkPorts : Packet.checkPorts packet.protocol packet.payload = .ok () := by
  rw [Packet.checkPorts_iff]
  exact .inl ⟨hcarries.protocol, hcarries.segment⟩

/-- Readdressed between other endpoints the segment is one between those, with right checksums, and
the same in all else. -/
theorem Carries.readdressed {address other : Address} {port otherPort : UInt16} {after : Packet}
    (hreaddressed : packet.Readdressed (Endpoint.of address port) (Endpoint.of other otherPort)
      after) :
    packet.WrittenAs (Endpoint.of address port) (Endpoint.of other otherPort) after.declared := by
  have hwell := hcarries.wellFormed
  have hports := hcarries.checkPorts
  have hshape := hreaddressed.sameShape hwell
  have hafterWell := hreaddressed.wellFormed hwell
  refine ⟨⟨after.trimmed, ?_⟩, hreaddressed.checksumsValid hwell hports, ?_⟩
  · have htrimmed := hafterWell.sameShape_trimmed
    have hsegment := (Packet.checkPorts_iff _ _).1 (hreaddressed.segment.checkPorts hports)
    have hprotocol : packet.protocol = Protocol.tcp := hcarries.protocol
    exact {
      parse := hafterWell.parse_declared
      whole := by rw [htrimmed.isFragment, hshape.isFragment, hcarries.whole]
      protocol := by rw [htrimmed.protocol, hshape.protocol, hprotocol]
      segment := by
        rw [hafterWell.payload_trimmed]
        rcases hsegment with ⟨-, hcheck⟩ | ⟨hudp, -⟩
        · exact hcheck
        · rw [hprotocol] at hudp
          cases hudp
      source := by
        rw [hafterWell.payload_trimmed, hafterWell.source_trimmed, hreaddressed.source]
        exact congrArg (Endpoint.of address) hreaddressed.segment.sourcePort
      destination := by
        rw [hafterWell.payload_trimmed, hafterWell.destination_trimmed, hreaddressed.destination]
        exact congrArg (Endpoint.of other) hreaddressed.segment.destinationPort }
  · rw [Packet.declared_eq, Packet.declared_eq, hshape.totalLength]
    exact hreaddressed.agree.take packet.totalLength

/-- What is written for a segment is the segment between the endpoints of its route. -/
theorem Carries.writtenAs {after : Packet} {address other : Address} {port otherPort : UInt16}
    (hafter : packet.rewriteEndpoints (Endpoint.of address port) (Endpoint.of other otherPort) =
      .ok after) :
    packet.WrittenAs (Endpoint.of address port) (Endpoint.of other otherPort) after.declared := by
  obtain ⟨-, -, -, hreaddressed⟩ :=
    Packet.readdressed_of_rewriteEndpoints hcarries.wellFormed hafter
  exact hcarries.readdressed hreaddressed

/-- A segment can be readdressed between any endpoints of its own version of IP. -/
theorem Carries.readdress {address other : Address} (port otherPort : UInt16)
    (haddress : address.family = packet.family) (hother : other.family = packet.family) :
    ∃ after, packet.rewriteEndpoints (Endpoint.of address port) (Endpoint.of other otherPort) =
        .ok after ∧
      packet.WrittenAs (Endpoint.of address port) (Endpoint.of other otherPort)
        after.declared := by
  obtain ⟨after, hafter, hreaddressed⟩ : ∃ after, packet.rewriteEndpoints
      (Endpoint.of address port) (Endpoint.of other otherPort) = .ok after ∧
      packet.Readdressed (Endpoint.of address port) (Endpoint.of other otherPort) after :=
    Packet.exists_readdressed hcarries.wellFormed haddress hother hcarries.checkPorts
  exact ⟨after, hafter, hcarries.readdressed hreaddressed⟩

end

/-! ## Ways of judging -/

/-- Rules let in a packet that some octets hold: it is whole and in scope. -/
structure Rules.Admitted (rules : Rules) (bytes : Octets) (packet : Packet) : Prop where
  parse : Packet.parse bytes = .ok packet
  whole : packet.isFragment = false
  admits : rules.admits packet = true

/-- The verdict on some octets, and the session table after it. -/
inductive Rules.Judged (rules : Rules) (table : SessionTable) (stopped : Bool) (bytes : Octets)
    (now : Nat) : Verdict → SessionTable → Prop where
  | unread {error : PacketError} (parse : Packet.parse bytes = .error error) :
    Judged rules table stopped bytes now (.drop .malformed none) table
  | fragment {packet : Packet} (parse : Packet.parse bytes = .ok packet)
    (fragment : packet.isFragment = true) :
    Judged rules table stopped bytes now (.drop .fragmented none) table
  | excluded {packet : Packet} (parse : Packet.parse bytes = .ok packet)
    (whole : packet.isFragment = false) (excluded : rules.admits packet = false) :
    Judged rules table stopped bytes now (.drop .filtered none) table
  | segment {packet : Packet} {result : Except NatError Route} {after : SessionTable}
    (admitted : rules.Admitted bytes packet) (protocol : packet.protocol = Protocol.tcp)
    (routed : rules.redirector.Routed table stopped packet now result after) :
    Judged rules table stopped bytes now (.ofRedirection (result.bind packet.follow)) after
  | datagram {packet : Packet} (admitted : rules.Admitted bytes packet)
    (protocol : packet.protocol = Protocol.udp) :
    Judged rules table stopped bytes now (.ofDatagram packet) table
  | control {packet : Packet} (admitted : rules.Admitted bytes packet)
    (protocol : packet.protocol = Protocol.icmp ∨ packet.protocol = Protocol.icmpV6) :
    Judged rules table stopped bytes now (.ofControl rules.echo packet) table
  | unsupported {packet : Packet} (admitted : rules.Admitted bytes packet) :
    Judged rules table stopped bytes now (.drop .malformed none) table

theorem Rules.judged (rules : Rules) (table : SessionTable) (stopped : Bool) (bytes : Octets)
    (now : Nat) :
    ∃ verdict after, rules.judge table stopped bytes now = (verdict, after) ∧
      rules.Judged table stopped bytes now verdict after := by
  refine ⟨(rules.judge table stopped bytes now).1, (rules.judge table stopped bytes now).2, rfl, ?_⟩
  rw [judge]
  cases hparse : Packet.parse bytes with
  | error error => exact .unread hparse
  | ok packet =>
      simp only []
      split_ifs with hfragment hrefused
      · exact .fragment hparse hfragment
      · exact .excluded hparse (Bool.eq_false_of_not_eq_true hfragment) (by simpa using hrefused)
      · have hadmitted : rules.Admitted bytes packet :=
          ⟨hparse, Bool.eq_false_of_not_eq_true hfragment, by simpa using hrefused⟩
        rw [judgeAdmitted]
        simp only []
        split_ifs with htcp hudp hcontrol
        · rw [Redirector.redirect_eq_route]
          exact .segment hadmitted htcp Redirector.routed
        · exact .datagram hadmitted hudp
        · exact .control hadmitted hcontrol
        · exact .unsupported hadmitted

/-! ## Verdicts to write -/

section

variable {rules : Rules} {table after : SessionTable} {stopped : Bool} {bytes written : Octets}
  {packet : Packet} {now : Nat} {event : Event}

theorem ofError_ne_write (error : NatError) (event : Event) (packet : Octets) :
    Verdict.ofError error ≠ .write event packet := by
  intro hwrite
  unfold Verdict.ofError at hwrite
  split at hwrite <;> cases hwrite

/-- A segment is written only if it has a route and can be given the endpoints of that. -/
theorem ofRedirection_eq_write_iff {result : Except NatError Route} :
    Verdict.ofRedirection (result.bind packet.follow) = .write event written ↔
      ∃ route after, result = .ok route ∧
        packet.rewriteEndpoints route.source route.destination = .ok after ∧
        event = Verdict.eventOf route.direction ∧ written = after.declared := by
  constructor
  · intro hwrite
    cases result with
    | error error => exact absurd hwrite (ofError_ne_write error _ _)
    | ok route =>
        refine ⟨route, ?_⟩
        cases hafter : packet.rewriteEndpoints route.source route.destination with
        | error error =>
            rw [Except.bind, Packet.follow, hafter] at hwrite
            exact absurd hwrite (ofError_ne_write (.packet error) _ _)
        | ok after =>
            rw [Except.bind, Packet.follow, hafter] at hwrite
            cases hwrite
            exact ⟨after, rfl, rfl, rfl, rfl⟩
  · rintro ⟨route, after, rfl, hafter, rfl, rfl⟩
    rw [Except.bind, Packet.follow, hafter]
    rfl

/-- A segment that has a route is written, or dropped as malformed. -/
theorem ofRedirection_follow_ne_drop (packet : Packet) (route : Route) {reason : DropReason}
    (hreason : reason ≠ .malformed) (report? : Option NatError) :
    Verdict.ofRedirection ((Except.ok route).bind packet.follow) ≠ .drop reason report? := by
  intro hdropped
  rw [Except.bind, Packet.follow] at hdropped
  cases hafter : packet.rewriteEndpoints route.source route.destination <;>
    rw [hafter] at hdropped <;> cases hdropped
  exact hreason rfl

/-- Only a segment that has a route and an echo request that is answered make a verdict to write. -/
theorem Rules.Judged.write_cases
    (hjudged : rules.Judged table stopped bytes now (.write event written) after) :
    (∃ packet route readdressed, rules.Admitted bytes packet ∧ packet.protocol = Protocol.tcp ∧
        rules.redirector.Routed table stopped packet now (.ok route) after ∧
        packet.rewriteEndpoints route.source route.destination = .ok readdressed ∧
        event = Verdict.eventOf route.direction ∧ written = readdressed.declared) ∨
      (event = .echo ∧ ∃ packet answer, rules.Admitted bytes packet ∧
        rules.echo.answer? packet = some answer ∧ written = answer.declared) := by
  generalize hverdict : Verdict.write event written = verdict at hjudged
  cases hjudged with
  | unread | fragment | excluded | unsupported => cases hverdict
  | datagram =>
      rw [Verdict.ofDatagram] at hverdict
      split at hverdict <;> cases hverdict
  | @segment packet result after hadmitted hprotocol hrouted =>
      obtain ⟨route, readdressed, rfl, hreaddressed, hevent, hwritten⟩ :=
        ofRedirection_eq_write_iff.1 hverdict.symm
      exact .inl ⟨packet, route, readdressed, hadmitted, hprotocol, hrouted, hreaddressed, hevent,
        hwritten⟩
  | @control packet hadmitted =>
      rw [Verdict.ofControl] at hverdict
      cases hanswer : rules.echo.answer? packet with
      | none =>
          rw [hanswer] at hverdict
          cases hverdict
      | some answer =>
          rw [hanswer] at hverdict
          cases hverdict
          exact .inr ⟨rfl, packet, answer, hadmitted, hanswer, rfl⟩

end

/-! ## Written segments -/

theorem Portal.family_address (portal : Portal) (family : Family) :
    (portal.address family).family = family := by
  cases family <;> rfl

theorem Portal.family_gateway (portal : Portal) (family : Family) :
    (portal.gateway family).family = family := by
  cases family <;> rfl

section

variable {rules : Rules} {table after : SessionTable} {stopped : Bool} {bytes : Octets}
  {packet : Packet} {source destination : Endpoint} {now : Nat} {port : UInt16}

theorem Rules.Admitted.carries (hadmitted : rules.Admitted bytes packet)
    (hprotocol : packet.protocol = Protocol.tcp) (htakes : rules.redirector.Takes packet) :
    Carries bytes packet packet.sender packet.receiver :=
  ⟨hadmitted.parse, hadmitted.whole, hprotocol, htakes.segment, rfl, rfl⟩

variable (hcarries : Carries bytes packet source destination)
include hcarries

theorem judge_eq_redirect (hadmits : rules.admits packet = true) :
    rules.judge table stopped bytes now =
      (.ofRedirection (rules.redirector.redirect table stopped packet now).1,
        (rules.redirector.redirect table stopped packet now).2) := by
  simp only [Rules.judge, hcarries.parse, hcarries.whole, hadmits, Rules.judgeAdmitted,
    hcarries.protocol, Bool.not_true, Bool.false_eq_true, if_false, if_true]

/-- A segment that has a route is written between the endpoints of the route, if these are of its
version of IP. -/
theorem judge_route {direction : Direction} {address other : Address} {otherPort : UInt16}
    (hadmits : rules.admits packet = true)
    (hroute : rules.redirector.route table stopped packet now =
      (.ok ⟨direction, Endpoint.of address port, Endpoint.of other otherPort⟩, after))
    (haddress : address.family = packet.family) (hother : other.family = packet.family) :
    ∃ written, rules.judge table stopped bytes now =
        (.write (Verdict.eventOf direction) written, after) ∧
      packet.WrittenAs (Endpoint.of address port) (Endpoint.of other otherPort) written := by
  obtain ⟨readdressed, hreaddressed, hwritten⟩ :=
    hcarries.readdress port otherPort haddress hother
  refine ⟨readdressed.declared, ?_, hwritten⟩
  rw [judge_eq_redirect hcarries hadmits, Redirector.redirect_eq_route, hroute]
  simp only [Except.bind, Packet.follow, hreaddressed]
  rfl

theorem Carries.takes (hadmits : rules.admits packet = true) : rules.redirector.Takes packet :=
  ⟨hcarries.segment, (Bool.and_eq_true_iff.1 hadmits).1⟩

/-- A segment of a client that gets a port is written to the listener from that port. -/
theorem judge_outbound (hadmits : rules.admits packet = true)
    (hforeign : destination.address ≠ rules.redirector.portal.address packet.family)
    (hport : Redirector.portFor table (Tuple.of source destination)
      (TCP.isConnectionRequest packet.payload) stopped now = (.ok port, after)) :
    ∃ redirected, rules.judge table stopped bytes now = (.write .redirected redirected, after) ∧
      packet.WrittenAs (rules.redirector.portal.endpoint packet.family port)
        (rules.redirector.listener packet.family) redirected := by
  obtain rfl := hcarries.source
  obtain rfl := hcarries.destination
  exact judge_route hcarries hadmits
    (Redirector.route_outbound (hcarries.takes hadmits) hforeign hport)
    (rules.redirector.portal.family_address packet.family)
    (rules.redirector.portal.family_gateway packet.family)

/-- Only a segment of a client that gets a port is counted as redirected. -/
theorem outbound_of_redirected {redirected : Octets}
    (hverdict : (rules.judge table stopped bytes now).1 = .write .redirected redirected) :
    rules.admits packet = true ∧
      destination.address ≠ rules.redirector.portal.address packet.family ∧
      ∃ port after, Redirector.portFor table (Tuple.of source destination)
        (TCP.isConnectionRequest packet.payload) stopped now = (.ok port, after) := by
  obtain ⟨verdict, after, hjudge, hjudged⟩ := rules.judged table stopped bytes now
  obtain rfl : verdict = .write .redirected redirected := by rw [← hverdict, hjudge]
  obtain ⟨same, route, _, hadmitted, hprotocol, hrouted, -, hevent, -⟩ | ⟨hecho, -⟩ :=
    hjudged.write_cases
  · cases hrouted with
    | reply => cases hevent
    | outbound htakes hforeign hlookup =>
        obtain ⟨rfl, rfl, rfl⟩ := hcarries.unique (hadmitted.carries hprotocol htakes)
        exact ⟨hadmitted.admits, hforeign, _, _, hlookup⟩
  · cases hecho

end

/-- What the listener sends to the port of a session is written to the client as if it came from
where the client meant it to go. -/
theorem judge_reply {rules : Rules} {table after : SessionTable} {stopped : Bool} {bytes : Octets}
    {packet : Packet} {now : Nat} {port : UInt16} {tuple : Tuple}
    (hcarries : Carries bytes packet (rules.redirector.listener packet.family)
      (rules.redirector.portal.endpoint packet.family port))
    (hadmits : rules.admits packet = true)
    (htuple : table.tupleOf port now = (some tuple, after))
    (hclient : tuple.source.address.family = packet.family)
    (hserver : tuple.destination.address.family = packet.family) :
    ∃ restored, rules.judge table stopped bytes now = (.write .restored restored, after) ∧
      packet.WrittenAs tuple.destination tuple.source restored := by
  obtain rfl : packet.receiver.port = port := congrArg Endpoint.port hcarries.destination
  exact judge_route hcarries hadmits
    (Redirector.route_reply (hcarries.takes hadmits)
      (congrArg Endpoint.address hcarries.destination) hcarries.source htuple) hserver hclient

end PortalNat
