import PortalNat.Proofs.Session.Lookup

/-!
# The route of a segment

A segment is readdressed in two steps. The session table tells which way it travels and between
which endpoints, and then the segment is given these. The first step is the only one that touches
the table, and the second is the only one that touches the segment. `Routed` says all that the first
step can come to.
-/

namespace PortalNat

namespace Packet

def sender (packet : Packet) : Endpoint :=
  Endpoint.of packet.source (TCP.sourcePort packet.payload)

def receiver (packet : Packet) : Endpoint :=
  Endpoint.of packet.destination (TCP.destinationPort packet.payload)

def flow (packet : Packet) : Tuple :=
  Tuple.of packet.sender packet.receiver

end Packet

/-- Which way a segment travels, and the endpoints it is given for that. -/
structure Route where
  direction : Direction
  source : Endpoint
  destination : Endpoint
deriving DecidableEq, Repr

def Packet.follow (packet : Packet) (route : Route) : Except NatError (Direction × Packet) :=
  ((packet.rewriteEndpoints route.source route.destination).map
    fun packet => (route.direction, packet)).mapError .packet

/-- The endpoint that the segments of a session are redirected from. -/
def Portal.endpoint (portal : Portal) (family : Family) (port : UInt16) : Endpoint :=
  Endpoint.of (portal.address family) port

theorem Packet.receiver_of_address {packet : Packet} {portal : Portal}
    (hportal : packet.receiver.address = portal.address packet.family) :
    packet.receiver = portal.endpoint packet.family packet.receiver.port :=
  congrArg (Endpoint.of · packet.receiver.port) hportal

namespace Redirector

variable (redirector : Redirector)

def route (table : SessionTable) (stopped : Bool) (packet : Packet) (now : Nat) :
    Except NatError Route × SessionTable :=
  match TCP.check packet.payload with
  | .error error => (.error (.packet error), table)
  | .ok () =>
    if !redirector.portal.enabled packet.family then (.error (.session .ipv6Disabled), table)
    else if packet.receiver.address = redirector.portal.address packet.family then
      if packet.sender ≠ redirector.listener packet.family then
        (.error (.session (.stray packet.sender)), table)
      else
        match table.tupleOf packet.receiver.port now with
        | (none, table) => (.error (.session (.unknownPort packet.receiver.port)), table)
        | (some tuple, table) => (.ok ⟨.reply, tuple.destination, tuple.source⟩, table)
    else
      match portFor table packet.flow (TCP.isConnectionRequest packet.payload) stopped now with
      | (.error error, table) => (.error error, table)
      | (.ok port, table) =>
        (.ok ⟨.outbound, redirector.portal.endpoint packet.family port,
            redirector.listener packet.family⟩, table)

/-- Redirecting a segment is finding its route and giving it the endpoints of that. -/
theorem redirect_eq_route (table : SessionTable) (stopped : Bool) (packet : Packet) (now : Nat) :
    redirector.redirect table stopped packet now =
      ((redirector.route table stopped packet now).1.bind packet.follow,
        (redirector.route table stopped packet now).2) := by
  cases hcheck : TCP.check packet.payload with
  | error error =>
      simp only [redirect, route, hcheck]
      rfl
  | ok =>
      simp only [redirect, route, hcheck]
      by_cases henabled : (!redirector.portal.enabled packet.family) = true
      · rw [if_pos henabled, if_pos henabled]
        rfl
      rw [if_neg henabled, if_neg henabled]
      by_cases hportal : packet.receiver.address = redirector.portal.address packet.family
      · rw [if_pos hportal]
        refine (if_pos hportal).trans ?_
        change redirector.restore table packet packet.sender packet.receiver.port now = _
        rw [restore]
        by_cases hstray : packet.sender ≠ redirector.listener packet.family
        · rw [if_pos hstray, if_pos hstray]
          rfl
        · rw [if_neg hstray, if_neg hstray]
          rcases table.tupleOf packet.receiver.port now with ⟨_ | tuple, after⟩ <;> rfl
      · rw [if_neg hportal]
        refine (if_neg hportal).trans ?_
        change redirector.forward table stopped packet packet.flow now = _
        rw [forward]
        rcases portFor table packet.flow (TCP.isConnectionRequest packet.payload) stopped now
          with ⟨_ | port, after⟩ <;> rfl

/-! ## What the route can be -/

/-- A redirector works on a packet: its payload is a segment and its version of IP is enabled. -/
structure Takes (packet : Packet) : Prop where
  segment : TCP.check packet.payload = .ok ()
  enabled : redirector.portal.enabled packet.family = true

/-- What finding the route of a segment comes to, and the session table after it. -/
inductive Routed (table : SessionTable) (stopped : Bool) (packet : Packet) (now : Nat) :
    Except NatError Route → SessionTable → Prop where
  | malformed {error : PacketError} (segment : TCP.check packet.payload = .error error) :
    Routed table stopped packet now (.error (.packet error)) table
  | disabled (enabled : redirector.portal.enabled packet.family = false) :
    Routed table stopped packet now (.error (.session .ipv6Disabled)) table
  | stray (takes : redirector.Takes packet)
    (portal : packet.receiver.address = redirector.portal.address packet.family)
    (stray : packet.sender ≠ redirector.listener packet.family) :
    Routed table stopped packet now (.error (.session (.stray packet.sender))) table
  | unknownPort (takes : redirector.Takes packet)
    (portal : packet.receiver.address = redirector.portal.address packet.family)
    (listener : packet.sender = redirector.listener packet.family)
    (free : table.byPort[packet.receiver.port]? = none) :
    Routed table stopped packet now (.error (.session (.unknownPort packet.receiver.port))) table
  | reply {entry : SessionEntry} (takes : redirector.Takes packet)
    (portal : packet.receiver.address = redirector.portal.address packet.family)
    (listener : packet.sender = redirector.listener packet.family)
    (held : table.byPort[packet.receiver.port]? = some entry) :
    Routed table stopped packet now
      (.ok ⟨.reply, entry.tuple.destination, entry.tuple.source⟩)
      (table.touch packet.receiver.port now)
  | refused {error : NatError} {after : SessionTable} (takes : redirector.Takes packet)
    (foreign : packet.receiver.address ≠ redirector.portal.address packet.family)
    (lookup : portFor table packet.flow (TCP.isConnectionRequest packet.payload) stopped now =
      (.error error, after)) :
    Routed table stopped packet now (.error error) after
  | outbound {port : UInt16} {after : SessionTable} (takes : redirector.Takes packet)
    (foreign : packet.receiver.address ≠ redirector.portal.address packet.family)
    (lookup : portFor table packet.flow (TCP.isConnectionRequest packet.payload) stopped now =
      (.ok port, after)) :
    Routed table stopped packet now
      (.ok ⟨.outbound, redirector.portal.endpoint packet.family port,
        redirector.listener packet.family⟩) after

variable {redirector} {table : SessionTable} {stopped : Bool} {packet : Packet} {now : Nat}

theorem routed :
    redirector.Routed table stopped packet now (redirector.route table stopped packet now).1
      (redirector.route table stopped packet now).2 := by
  rw [route]
  cases hcheck : TCP.check packet.payload with
  | error error => exact .malformed hcheck
  | ok =>
      simp only []
      split_ifs with hdisabled hportal hstray
      · exact .disabled (by simpa using hdisabled)
      all_goals
        have htakes : redirector.Takes packet := ⟨hcheck, by simpa using hdisabled⟩
      · exact .stray htakes hportal hstray
      · cases hheld : table.byPort[packet.receiver.port]? with
        | none =>
            simp only [SessionTable.tupleOf, hheld]
            exact .unknownPort htakes hportal (not_not.1 hstray) hheld
        | some entry =>
            simp only [SessionTable.tupleOf, hheld]
            exact .reply htakes hportal (not_not.1 hstray) hheld
      · rcases hport : portFor table packet.flow (TCP.isConnectionRequest packet.payload) stopped
          now with ⟨error | port, after⟩
        · exact .refused htakes hportal hport
        · exact .outbound htakes hportal hport

/-- A segment of a client whose flow gets a port travels through that. -/
theorem route_outbound {port : UInt16} {after : SessionTable} (htakes : redirector.Takes packet)
    (hforeign : packet.receiver.address ≠ redirector.portal.address packet.family)
    (hlookup : portFor table packet.flow (TCP.isConnectionRequest packet.payload) stopped now =
      (.ok port, after)) :
    redirector.route table stopped packet now =
      (.ok ⟨.outbound, redirector.portal.endpoint packet.family port,
        redirector.listener packet.family⟩, after) := by
  rw [route, htakes.segment]
  simp only [htakes.enabled, Bool.not_true, Bool.false_eq_true, if_false, hforeign, hlookup]

/-- A segment of the listener to the port of a session travels between the ends of the session. -/
theorem route_reply {tuple : Tuple} {after : SessionTable} (htakes : redirector.Takes packet)
    (hportal : packet.receiver.address = redirector.portal.address packet.family)
    (hlistener : packet.sender = redirector.listener packet.family)
    (htuple : table.tupleOf packet.receiver.port now = (some tuple, after)) :
    redirector.route table stopped packet now =
      (.ok ⟨.reply, tuple.destination, tuple.source⟩, after) := by
  rw [route, htakes.segment]
  simp only [htakes.enabled, Bool.not_true, Bool.false_eq_true, if_false, if_pos hportal,
    hlistener, ne_eq, not_true_eq_false, htuple]

end Redirector

end PortalNat
