import PortalNat.Packet.Build

/-!
# Echo replies

Echo requests are answered by turning the request into its reply: the addresses are exchanged, the
type is flipped, the hops start anew and the checksums are renewed. Options, identifier, sequence
number and data stay as they are.
-/

namespace PortalNat

/-- Which echo requests are answered: those to the portal, all, or none. -/
inductive EchoPolicy where
  | portal
  | all
  | off
deriving DecidableEq, Repr, Inhabited

/-- An echo policy with the portal it may refer to. -/
structure EchoResponder where
  policy : EchoPolicy
  portalV4 : V4
  portalV6 : V6
deriving Repr

namespace EchoResponder

/-- Whether requests to an address are answered. -/
def wants (responder : EchoResponder) (destination : Address) : Bool :=
  match responder.policy with
  | .off => false
  | .all => true
  | .portal =>
    match destination with
    | .v4 address => address == responder.portalV4
    | .v6 address => address == responder.portalV6

/-- Whether a packet is an intact echo request of its own version of IP. -/
def isRequest (packet : Packet) : Bool :=
  let message := packet.payload
  packet.protocol == ICMP.protocol packet.family
    && (ICMP.check message).toOption.isSome
    && ICMP.messageType message == ICMP.echoRequest packet.family
    && ICMP.code message == 0
    && ICMP.checksumOk packet.family packet.source packet.destination message

/-- The reply to an echo request. -/
def reply (request : Packet) : Packet :=
  let swapped := request.swapAddresses.setHops Build.defaultHops
  let message := ICMP.setMessageType swapped.payload (ICMP.echoReply request.family)
  let filled := ICMP.fillChecksum request.family request.destination request.source message
  (swapped.withPayload filled).fillChecksum

/-- The answer to a packet, if it is a request that the policy wants answered. -/
def answer? (responder : EchoResponder) (packet : Packet) : Option Packet :=
  if isRequest packet && responder.wants packet.destination then some (reply packet) else none

end EchoResponder

end PortalNat
