import PortalNat.Echo
import PortalNat.Redirector
import PortalNat.Scope
import PortalNat.Statistics
import PortalNat.Udp.Reply

/-!
# Verdicts

What is to be done with a packet that was read from the device: write a packet back, hand a datagram
on, or drop it. A verdict depends on the packet, the rules and the session table, and reaching it
changes nothing but that table.
-/

namespace PortalNat

/-- The rules that packets are judged by. -/
structure Rules where
  redirector : Redirector
  scope : Scope
  echo : EchoResponder

/-- What is to be done with a packet. -/
inductive Verdict where
  /-- Write a packet, and count it under an event. -/
  | write (event : Event) (packet : Octets)
  /-- Hand a datagram on, with a template for replies to it. -/
  | deliver (datagram : Datagram) (template : ReplyTemplate)
  /-- Do nothing: a control message that is no business of the translator. -/
  | ignore
  /-- Count the packet as dropped, and report an error if there is one to report. -/
  | drop (reason : DropReason) (report? : Option NatError)
deriving DecidableEq, Repr

namespace Verdict

/-- The event that a readdressed segment is counted under. -/
def eventOf : Direction → Event
  | .outbound => .redirected
  | .reply => .restored

/-- What happens to a segment that cannot be readdressed. Only the lack of ports is reported. -/
def ofError : NatError → Verdict
  | .session (.exhausted inUse) => drop .exhausted (some (.session (.exhausted inUse)))
  | .listener .stopped => drop .redirectorStopped none
  | .session .ipv6Disabled => drop .filtered none
  | .session _ => drop .unknownSession none
  | _ => drop .malformed none

/-- What happens to a segment. -/
def ofRedirection : Except NatError (Direction × Packet) → Verdict
  | .ok (direction, packet) => write (eventOf direction) packet.declared
  | .error error => ofError error

/-- What happens to a datagram. -/
def ofDatagram (packet : Packet) : Verdict :=
  let segment := packet.payload
  match UDP.check segment with
  | .error _ => drop .malformed none
  | .ok () =>
    let source := Endpoint.of packet.source (UDP.sourcePort segment)
    let destination := Endpoint.of packet.destination (UDP.destinationPort segment)
    deliver ⟨source, destination, UDP.payload segment⟩
      (ReplyTemplate.ofRequest packet source destination)

/-- What happens to a control message. -/
def ofControl (echo : EchoResponder) (packet : Packet) : Verdict :=
  match echo.answer? packet with
  | some reply => write .echo reply.declared
  | none => ignore

end Verdict

namespace Rules

/-- Whether packets to an address of a version of IP are handled at all. -/
def admits (rules : Rules) (packet : Packet) : Bool :=
  rules.redirector.portal.enabled packet.family && rules.scope.allows packet.destination

/-- Judge a packet that is well formed, whole and in scope, by its protocol. -/
def judgeAdmitted (rules : Rules) (table : SessionTable) (stopped : Bool) (packet : Packet)
    (now : Nat) : Verdict × SessionTable :=
  let protocol := packet.protocol
  if protocol = Protocol.tcp then
    let (result, table) := rules.redirector.redirect table stopped packet now
    (Verdict.ofRedirection result, table)
  else if protocol = Protocol.udp then (Verdict.ofDatagram packet, table)
  else if protocol = Protocol.icmp ∨ protocol = Protocol.icmpV6 then
    (Verdict.ofControl rules.echo packet, table)
  else (.drop .malformed none, table)

/-- Judge what was read from the device. -/
def judge (rules : Rules) (table : SessionTable) (stopped : Bool) (bytes : Octets) (now : Nat) :
    Verdict × SessionTable :=
  match Packet.parse bytes with
  | .error _ => (.drop .malformed none, table)
  | .ok packet =>
    if packet.isFragment then (.drop .fragmented none, table)
    else if !rules.admits packet then (.drop .filtered none, table)
    else rules.judgeAdmitted table stopped packet now

end Rules

end PortalNat
